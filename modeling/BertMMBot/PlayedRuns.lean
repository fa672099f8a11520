import BertMMBot.RuntimeRefinement

/-! # Runs that can be played

A deterministic host with a clock, a price feed, a chain that pays what it is told to pay,
and a list of statements that throw. Concrete runs of the bot are evaluated on it. -/
namespace PlayedRuns

open AsyncProgram AsyncContract AsyncFibers VaultTypes VaultProgram Encryption VaultDiscipline
open ShareMath VaultRuntime RuntimeRefinement

/-- The key pair of the address "FVen3X669xLzsi6N2V91DoiyzHzg1uAgqiT8jZ9nS96Z". -/
def depositKey : Bytes := [
  157, 97, 177, 157, 239, 253, 90, 96, 186, 132, 74, 244, 146, 236, 44, 196,
  68, 73, 197, 105, 123, 50, 105, 25, 112, 59, 172, 3, 28, 174, 127, 96,
  215, 90, 152, 1, 130, 177, 10, 183, 213, 75, 254, 211, 201, 100, 7, 58,
  14, 225, 114, 243, 218, 166, 35, 37, 175, 2, 26, 104, 247, 7, 81, 26]

def codeSecret : Bytes := [74, 66, 83, 87, 89, 51, 68, 80, 69, 72, 80, 75, 51, 80, 88, 80]

def playedMasterKey : Bytes := List.replicate 32 7

/-- What AES-256-GCM yields for a key, an iv and a plaintext. -/
structure CipherText where
  key : Bytes
  iv : Bytes
  plaintext : Bytes
  enc : Bytes
  tag : Bytes

/-- A deposit key and the secret of a user's codes under the master key. -/
def cipherTexts : List CipherText := [
  { key := playedMasterKey, iv := List.replicate 12 0, plaintext := depositKey,
    enc := [
      252, 185, 21, 47, 20, 111, 81, 136, 91, 131, 197, 144, 86, 151, 103, 106,
      249, 166, 108, 144, 8, 238, 194, 66, 102, 46, 44, 203, 83, 71, 101, 6,
      58, 147, 209, 85, 1, 67, 97, 73, 17, 241, 6, 172, 81, 195, 79, 144,
      72, 97, 218, 188, 83, 90, 23, 205, 102, 44, 157, 116, 241, 44, 168, 96],
    tag := [6, 229, 235, 252, 132, 34, 118, 211, 64, 146, 3, 103, 60, 222, 162, 124] },
  { key := playedMasterKey, iv := List.replicate 12 1, plaintext := codeSecret,
    enc := [60, 163, 218, 224, 201, 140, 168, 94, 148, 156, 140, 106, 67, 103, 40, 97],
    tag := [247, 78, 111, 253, 151, 69, 90, 208, 20, 32, 49, 219, 198, 41, 78, 92] }]

/-- Of everything else the bits are turned over, under a tag that none of these has. -/
def playedCipher (key iv plaintext : Bytes) : Bytes × Bytes :=
  match cipherTexts.find? fun t => t.key = key ∧ t.iv = iv ∧ t.plaintext = plaintext with
  | some t => (t.enc, t.tag)
  | none => (plaintext.map (255 - ·), List.replicate tagBytes 0)

def playedDecipher (key iv enc tag : Bytes) : Except Thrown Bytes :=
  match cipherTexts.find? fun t => t.key = key ∧ t.iv = iv ∧ t.enc = enc ∧ t.tag = tag with
  | some t => .ok t.plaintext
  | none =>
    if tag = List.replicate tagBytes 0 then .ok (enc.map (255 - ·))
    else .error (.error "Unsupported state or unable to authenticate data")

/-- The secret of the codes as it is stored. -/
def playedSecret : EncryptedBlob where
  ciphertext := [60, 163, 218, 224, 201, 140, 168, 94, 148, 156, 140, 106, 67, 103, 40, 97,
    247, 78, 111, 253, 151, 69, 90, 208, 20, 32, 49, 219, 198, 41, 78, 92]
  iv := List.replicate ivBytes 1

structure Scene where
  clock : ℤ
  keypair : Keypair := ⟨"deposit", depositKey⟩
  faults : Stmt → World → Option Thrown := fun _ _ => none
  samples : List PriceSample := []
  mid : Option Mid := none
  signatures : Address → List SignatureInfo := fun _ => []
  transactions : String → Option ParsedTransaction := fun _ => none

def txSig (text : String) (h : text ≠ "") : Signature := ⟨text, h⟩

theorem transfer_ne : "transfer" ≠ "" := by decide

theorem sweep_ne : "sweep" ≠ "" := by decide

def sent (sol bert : ℤ) (chain : Chain) : Option Chain :=
  if 0 ≤ sol ∧ sol ≤ chain.wallet.solLamports ∧ 0 ≤ bert ∧ bert ≤ chain.wallet.bertRaw then
    some { chain with
      wallet := ⟨chain.wallet.solLamports - sol.toNat, chain.wallet.bertRaw - bert.toNat⟩ }
  else none

theorem sent_wallet {sol bert : ℤ} {chain chain' : Chain} (h : sent sol bert chain = some chain') :
    (chain'.wallet.solLamports : ℤ) = chain.wallet.solLamports - sol ∧
      (chain'.wallet.bertRaw : ℤ) = chain.wallet.bertRaw - bert := by
  unfold sent at h
  split at h
  · cases h
    dsimp only
    omega
  · cases h

def swept (ixs : List SweepInstruction) (chain : Chain) : Chain :=
  ixs.foldl (fun c ix =>
    match ix with
    | .transfer lamports => { c with wallet.solLamports := c.wallet.solLamports + lamports }
    | .transferChecked bertRaw => { c with wallet.bertRaw := c.wallet.bertRaw + bertRaw }) chain

def withChain (w : World) (chain : Chain) : World := { w with chain }

def Scene.choose (sc : Scene) : (c : Choice) → World → c.Outcome
  | .statement st, w => sc.faults st w
  | .clock, _ => sc.clock
  | .generateKeypair, _ => sc.keypair
  | .generateSecret, _ => "JBSWY3DPEHPK3PXP"
  | .fromSecretKey secretKey, _ => .ok ⟨sc.keypair.publicKey, secretKey⟩
  | .masterKey, _ => playedMasterKey
  | .randomBytes size, w => List.replicate size (UInt8.ofNat w.db.users.length)
  | .cipher key iv plaintext, _ => playedCipher key iv plaintext
  | .decipher key iv enc tag, _ => playedDecipher key iv enc tag
  | .totpValidate _ _, _ => some 0
  | .publicKey _, _ => true
  | .killSwitch, _ => false
  | .consult, _ => ()

def Scene.respond (sc : Scene) : (q : Query) → World → Except Thrown q.Reply × World
  | .getMid, w => (.ok sc.mid, w)
  | .getWalletBalances, w => (.ok (some w.chain.wallet), w)
  | .getPositionSnapshot, w => (.ok (some ⟨0, 0, 0⟩), w)
  | .partialClose _ _, w => (.ok (), w)
  | .executeTransfer _ sol bert, w =>
    match sent sol bert w.chain with
    | some chain => (.ok (some (txSig "transfer" (by decide))), withChain w chain)
    | none => (.error (.error "insufficient funds"), w)
  | .getPositionsByUserAndLbPair, w => (.ok w.chain.positions, w)
  | .getNav, w => (.ok none, w)
  | .getNavPerShare, w => (.ok (1 : ℚ), w)
  | .reply _ _, w => (.ok (), w)
  | .ensureAta _, w => (.ok (), w)
  | .getLatestBlockhash, w => (.ok (), w)
  | .submitTx ixs, w => (.ok (txSig "sweep" (by decide)), withChain w (swept ixs w.chain))
  | .getSignaturesForAddress address bertAta _, w =>
    (.ok (if bertAta then [] else sc.signatures address), w)
  | .getParsedTransaction signature, w => (.ok (sc.transactions signature), w)
  | .fetchAllSources, w => (.ok sc.samples, w)
  | .rebalanceStage, w => (.ok true, w)

def Scene.script (sc : Scene) : Script vaultInterface World Thrown := ⟨sc.choose, sc.respond⟩

theorem Scene.quiet (sc : Scene) (q : Query) (w : World) : Quiet w (sc.respond q w).2 := by
  cases q with
  | executeTransfer destination sol bert =>
    simp only [Scene.respond]
    rcases sent sol bert w.chain with _ | chain <;>
      exact ⟨rfl, rfl, rfl, rfl, rfl, rfl, rfl, rfl, rfl, rfl⟩
  | _ => exact ⟨rfl, rfl, rfl, rfl, rfl, rfl, rfl, rfl, rfl, rfl⟩

/-- The host that answers as a scene says. -/
def Scene.host (sc : Scene) : VaultHost where
  choose c w o := o = sc.choose c w
  respond q w a w' := (a, w') = sc.respond q w

theorem Scene.follows (sc : Scene) : sc.script.Follows sc.host fun _ _ => true :=
  ⟨fun _ _ _ => rfl, fun _ _ => rfl⟩

theorem Scene.transfers {sc : Scene} {destination : Address} {sol bert : ℤ}
    {a : Except Thrown (Option Signature)} {w w' : World}
    (h : sc.host.respond (.executeTransfer destination sol bert) w a w') :
    (∃ chain txSig, sent sol bert w.chain = some chain ∧ a = .ok (some txSig) ∧
      w' = withChain w chain) ∨ (∃ e, a = .error e) ∧ w' = w := by
  have hresp : (a, w') = match sent sol bert w.chain with
    | some chain => (.ok (some (txSig "transfer" (by decide))), withChain w chain)
    | none => (.error (.error "insufficient funds"), w) := h
  rcases hs : sent sol bert w.chain with _ | chain
  · rw [hs] at hresp
    cases hresp
    exact .inr ⟨⟨_, rfl⟩, rfl⟩
  · rw [hs] at hresp
    cases hresp
    exact .inl ⟨chain, _, rfl, rfl, rfl⟩

/-- The host that may do anything quiet. -/
def anyEnvironment : Environment where
  host := ⟨fun _ _ _ => True, fun _ w _ w' => Quiet w w'⟩
  quiet := id

abbrev PlayedRun := List (Scene × Vault Unit)

def episode (p : Scene × Vault Unit) : Episode vaultInterface World Thrown := ⟨p.2, p.1.script⟩

def PlayedRun.world (r : PlayedRun) (chain : Chain) : World :=
  playAll (r.map episode) (World.initial chain)

variable {venue : MeteoraPosition.Venue} {cfg : BotConfig} {P : LedgerMachine.Policy}

structure Staged (venue : MeteoraPosition.Venue) (cfg : BotConfig) (p : Scene × Vault Unit) :
    Prop where
  job : ∃ f, VaultJob venue cfg f p.2
  samples : ∀ s ∈ p.1.samples, 0 < s.bertUsd
  mid : p.1.mid = none

/-- A policy that admits positive prices, and the oracle where `m` lets it be consulted. -/
structure Lenient (P : LedgerMachine.Policy) (m : Choice → World → Bool) : Prop where
  consult : ∀ w, m .consult w = true → P.ready w.memory ∨ lastMid w.memory = none
  price : ∀ mid, PositivePrice mid → P.price mid

def anywhere : Choice → World → Bool := fun _ _ => true

theorem staged_allowed {m : Choice → World → Bool} (hP : Lenient P m) {p : Scene × Vault Unit}
    (hs : Staged venue cfg p) (hallow : ∀ st w, p.1.faults st w = none → P.allow st w) :
    (episode p).Allowed (vault venue cfg (anyEnvironment.within P)) m := by
  obtain ⟨sc, job⟩ := p
  refine ⟨hs.job, fun c w hm => ⟨trivial, ?_⟩, fun q w => ⟨sc.quiet q w, ?_⟩⟩
  · cases c with
    | statement st =>
      have hc : (episode (sc, job)).script.choose (.statement st) w = sc.faults st w := rfl
      rw [hc]
      rcases hf : sc.faults st w with _ | e
      · exact hallow st w hf
      · trivial
    | consult => exact hP.consult w hm
    | _ => trivial
  · cases q with
    | getMid =>
      have hr : (episode (sc, job)).script.respond .getMid w = (.ok sc.mid, w) := rfl
      rw [hr, hs.mid]
      trivial
    | fetchAllSources =>
      intro ts bps p hp
      exact hP.price p.mid (computeTrustedMid_pos (quotedSolUsd_pos _) hs.samples hp)
    | _ => trivial

theorem staged_allowed_any {p : Scene × Vault Unit} (hs : Staged venue cfg p) :
    (episode p).Allowed (vault venue cfg anyEnvironment.host) anywhere :=
  ⟨hs.job, fun _ _ _ => trivial, fun q w => p.1.quiet q w⟩

theorem played_execution {H : VaultHost} {m : Choice → World → Bool} {r : PlayedRun}
    (h : ∀ p ∈ r, (episode p).Allowed (vault venue cfg H) m) (chain : Chain)
    (hm : meetsAll m (r.map episode) (World.initial chain) = true) :
    Execution (vault venue cfg H) (idle (World.initial chain)) (idle (r.world chain)) := by
  refine playAll_reaches (fun e he => ?_) hm
  obtain ⟨p, hp, rfl⟩ := List.mem_map.mp he
  exact h p hp

theorem played_reachable (hP : Lenient P anywhere) {r : PlayedRun} (hs : ∀ p ∈ r, Staged venue cfg p)
    (hallow : ∀ p ∈ r, ∀ st w, p.1.faults st w = none → P.allow st w) (chain : Chain) :
    Reachable venue cfg (anyEnvironment.within P) (r.world chain) :=
  ⟨chain, _, played_execution (fun p hp => staged_allowed hP (hs p hp) (hallow p hp)) chain
    (meetsAll_any _ _), rfl⟩

theorem played_reachable_any {r : PlayedRun} (hs : ∀ p ∈ r, Staged venue cfg p) (chain : Chain) :
    Reachable venue cfg anyEnvironment.host (r.world chain) :=
  ⟨chain, _, played_execution (fun p hp => staged_allowed_any (hs p hp)) chain
    (meetsAll_any _ _), rfl⟩

/-- A pool without a position, for runs that need none. -/
def plainVenue : MeteoraPosition.Venue := ⟨true, 1, fun _ _ => 1⟩

def plainConfig : BotConfig where
  operatorTelegramId := 1
  commands := {
    withdrawalFeeBps := 30, minWithdrawalUsd := 1, maxDailyWithdrawalsPerUser := 3,
    maxDailyWithdrawalUsdPerUser := 1000, maxPendingWithdrawals := 10,
    withdrawalFeeBps_le := by decide, minWithdrawalUsd_pos := by decide,
    maxDailyWithdrawalsPerUser_pos := by decide, maxDailyWithdrawalUsdPerUser_pos := by decide,
    maxPendingWithdrawals_pos := by decide }
  whitelistCooldownHours := 24
  minSolFloorLamports := 100000000
  oracleDivergenceBps := 100
  bertMint := "bert"

def message (text : String) (userId : TelegramId) : Vault Unit :=
  dispatch (commanderDeps plainVenue plainConfig) ⟨userId, userId, text⟩

def mainTick : Vault Unit := tick plainVenue plainConfig

def quote (source : String) (solUsd bertUsd : ℚ) : PriceSample :=
  ⟨source, bertUsd, solUsd, solUsd / bertUsd, 0⟩

/-- Two agreeing sources: 100 dollars for a SOL, a cent for a BERT. -/
def quotes : List PriceSample := [quote "jupiter" 100 (1 / 100), quote "dexscreener" 100 (1 / 100)]

def founding : Scene × Vault Unit :=
  ({ clock := 0, keypair := ⟨"operator", List.replicate 64 1⟩ }, vaultBootstrap ensureAta ⟨1, 100⟩)

def enrolling : PlayedRun := [
  ({ clock := 1000000 }, message "/account" 2),
  ({ clock := 1000000, keypair := ⟨"holder", List.replicate 64 2⟩ }, message "/accept" 2),
  ({ clock := 1000000 }, message "123456" 2),
  ({ clock := 2000000 }, message "/setwhitelist away" 2),
  ({ clock := 2000000 }, message "123456" 2)]

/-- The mid of those quotes. -/
def plainMid : Mid := ⟨100, 1 / 100⟩

/-- A tick that finds one inbound transfer of one SOL to user 2. -/
def depositTick : Scene × Vault Unit :=
  ({ clock := 2100000, samples := quotes,
     signatures := fun a => if a = "holder" then [⟨"inbound", false, some 2000⟩] else [],
     transactions := fun s => if s = "inbound" then
       some ⟨["holder"], [0], [1000000000], [], []⟩ else none }, mainTick)

/-- One SOL of the operator's besides the reserve. -/
def oneSol : Chain := ⟨⟨1100000000, 0⟩, []⟩

def twoHolders : PlayedRun := founding :: (enrolling ++ [depositTick])

theorem message_staged {sc : Scene} (hs : sc.samples = []) (hm : sc.mid = none) (text : String)
    (userId : TelegramId) : Staged plainVenue plainConfig (sc, message text userId) :=
  ⟨⟨_, .message _⟩, by simp [hs], hm⟩

theorem tick_staged {sc : Scene} (hs : sc.samples = quotes ∨ sc.samples = []) (hm : sc.mid = none) :
    Staged plainVenue plainConfig (sc, mainTick) := by
  refine ⟨⟨_, .tick⟩, ?_, hm⟩
  rcases hs with hs | hs
  · rw [hs]
    decide +kernel
  · simp [hs]

theorem founding_staged : Staged plainVenue plainConfig founding :=
  ⟨⟨.cli, .bootstrap ⟨1, 100⟩⟩, by simp [founding], rfl⟩

theorem twoHolders_staged : ∀ p ∈ twoHolders, Staged plainVenue plainConfig p := by
  simp only [twoHolders, enrolling, List.cons_append, List.nil_append, List.forall_mem_cons]
  refine ⟨founding_staged, message_staged rfl rfl _ _,
    message_staged rfl rfl _ _, message_staged rfl rfl _ _, message_staged rfl rfl _ _,
    message_staged rfl rfl _ _, tick_staged (.inl rfl) rfl, ?_⟩
  simp

/-- User 2 asks for 60% of the balance, and the next tick pays. -/
def oneWithdrawal : PlayedRun :=
  twoHolders ++ [
    ({ clock := 2150000 }, message "/withdraw 60%" 2),
    ({ clock := 2200000, samples := quotes }, mainTick)]

theorem oneWithdrawal_staged : ∀ p ∈ oneWithdrawal, Staged plainVenue plainConfig p := by
  refine List.forall_mem_append.mpr ⟨twoHolders_staged, ?_⟩
  simp only [List.forall_mem_cons]
  exact ⟨message_staged rfl rfl _ _, tick_staged (.inl rfl) rfl, by simp⟩

def oneRequest : PlayedRun :=
  twoHolders ++ [({ clock := 2150000 }, message "/withdraw 60%" 2)]

theorem oneRequest_staged : ∀ p ∈ oneRequest, Staged plainVenue plainConfig p := by
  refine List.forall_mem_append.mpr ⟨twoHolders_staged, ?_⟩
  simp only [List.forall_mem_cons]
  exact ⟨message_staged rfl rfl _ _, by simp⟩

def PlayedRun.guarded (faults : Stmt → World → Option Thrown) (r : PlayedRun) : PlayedRun :=
  r.map fun p => ({ p.1 with faults }, p.2)

theorem guarded_staged {faults : Stmt → World → Option Thrown} {r : PlayedRun}
    (h : ∀ p ∈ r, Staged venue cfg p) : ∀ p ∈ r.guarded faults, Staged venue cfg p := by
  intro p hp
  obtain ⟨q, hq, rfl⟩ := List.mem_map.mp hp
  exact ⟨(h q hq).job, (h q hq).samples, (h q hq).mid⟩

end PlayedRuns
