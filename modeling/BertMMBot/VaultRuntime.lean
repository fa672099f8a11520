import BertMMBot.MeteoraPosition
import BertMMBot.OperatorCommands

/-! # The running bot

Dispatch of chat messages and buttons, the founding of the vault, one tick of the main loop
around the rebalancer, and the closures with which the process wires them together. -/
namespace VaultRuntime

open AsyncProgram VaultTypes VaultProgram Encryption DepositorStore ShareMath WithdrawalExecutor
open DepositPipeline DepositorCommands OperatorCommands AccountSecurity MeteoraPosition

inductive Kind where
  | operator
  | vault
  | public_
  | enrollment
  deriving DecidableEq, Repr

structure CommanderDeps where
  operatorUserId : TelegramId
  commands : CommandsDeps
  operator : OperatorCommandsDeps

def botResume (deps : OperatorCommandsDeps) (msg : Msg) : Vault Unit := do
  setFlag degradedFlag "0"
  deps.reply msg.chatId .botResumed

def botStatus (deps : OperatorCommandsDeps) (msg : Msg) : Vault Unit := do
  let notice ← readDb fun db => .botStatus (isDegraded db) (getCurrentPosition db)
  deps.reply msg.chatId notice

/-- The registered commands, with who may use them. -/
def handler (deps : CommanderDeps) (name : String) (msg : Msg) : Option (Kind × Vault Unit) :=
  match name with
  | "account" => some (.enrollment, handleAccount deps.commands msg)
  | "accept" => some (.enrollment, handleAccept deps.commands msg)
  | "decline" => some (.enrollment, handleDecline deps.commands msg)
  | "menu" => some (.enrollment, handleMenu deps.commands msg)
  | "stats" => some (.public_, handleStats deps.commands msg)
  | "deposit" => some (.vault, handleDeposit deps.commands msg)
  | "balance" => some (.vault, handleBalance deps.commands msg)
  | "withdraw" => some (.vault, handleWithdraw deps.commands msg)
  | "setwhitelist" => some (.vault, handleSetWhitelist deps.commands msg)
  | "cancelwhitelist" => some (.vault, handleCancelWhitelist deps.commands msg)
  | "pausevault" => some (.operator, handlePause deps.operator msg)
  | "resumevault" => some (.operator, handleResume deps.operator msg)
  | "vaultstatus" => some (.operator, handleStatus deps.operator msg)
  | "forceprocess" => some (.operator, handleForceProcess deps.operator msg)
  | "recreditdeposit" => some (.operator, handleRecreditDeposit deps.operator msg)
  | "resettotp" => some (.operator, handleResetTotp deps.operator msg)
  | "pause" => some (.operator, deps.operator.reply msg.chatId .botPaused)
  | "resume" => some (.operator, botResume deps.operator msg)
  | "status" => some (.operator, botStatus deps.operator msg)
  | "help" => some (.operator, deps.operator.reply msg.chatId .help)
  | _ => none

def registered (userId : TelegramId) : Vault Bool := readDb fun db => (getUser userId db).isSome

def authorized (deps : CommanderDeps) (msg : Msg) (kind : Kind) : Vault Bool :=
  match kind with
  | .public_ => pure true
  | .enrollment => pure true
  | .operator => pure (msg.userId = deps.operatorUserId)
  | .vault => registered msg.userId

def dispatch (deps : CommanderDeps) (msg : Msg) : Vault Unit := do
  match TextInput.commandName msg.text with
  | none => if ← registered msg.userId then handleMessage deps.commands msg else pure ()
  | some name =>
    match handler deps name msg with
    | none => pure ()
    | some (kind, run) => if ← authorized deps msg kind then run else pure ()

/-- The button router. -/
def route (deps : CommandsDeps) (msg : Msg) : Vault Unit :=
  match msg.text with
  | "nav:home" => handleMenu deps msg
  | "nav:create_account" => handleAccount deps msg
  | "nav:settings" => deps.reply msg.chatId .settings
  | "enr:accept" => handleAccept deps msg
  | "enr:decline" => handleDecline deps msg
  | "act:deposit" => handleDeposit deps msg
  | "act:balance" => handleBalance deps msg
  | "act:stats" => handleStats deps msg
  | "act:withdraw" => handleWithdraw deps { msg with text := "/withdraw" }
  | "wd:p25" => handleWithdraw deps { msg with text := "/withdraw 25%" }
  | "wd:p50" => handleWithdraw deps { msg with text := "/withdraw 50%" }
  | "wd:p75" => handleWithdraw deps { msg with text := "/withdraw 75%" }
  | "wd:p100" => handleWithdraw deps { msg with text := "/withdraw 100%" }
  | "wd:custom" => do
    setPending msg.userId .withdrawAmountEntry
    deps.reply msg.chatId .customAmountPrompt
  | "wl:set" => do
    setPending msg.userId .setwhitelistAddressEntry
    deps.reply msg.chatId .pasteAddressPrompt
  | "wl:cancel" => handleCancelWhitelist deps msg
  | "cancel" => do
    clearPending msg.userId
    deps.reply msg.chatId .actionCancelled
  | _ => pure ()

/-- Whatever the router does, the button's spinner is dismissed at the end. -/
def dispatchCallback (deps : CommandsDeps) (msg : Msg) : Vault Unit := do
  tryCatch (route deps msg) fun _ => pure ()
  deps.reply msg.chatId .callbackAnswered

structure BootstrapParams where
  operatorTelegramId : TelegramId
  initialNavUsd : ℚ

/-- One share is one dollar at launch. -/
def foundVault (p : BootstrapParams) (kp : Keypair) (enc : EncryptedBlob) (ms : ℤ) : Vault Unit :=
  withTransaction do
    createUser {
      telegramId := p.operatorTelegramId, role := .operator, depositAddress := kp.publicKey,
      depositSecretEnc := enc, disclaimerAt := ms, createdAt := ms }
    addShares p.operatorTelegramId p.initialNavUsd
    insertNavSnapshot {
      ts := ms, totalValueUsd := p.initialNavUsd, totalShares := p.initialNavUsd,
      navPerShare := 1, source := .bootstrap }
    writeAudit ms (some p.operatorTelegramId) (.bootstrap p.initialNavUsd)

def runBootstrap (ensureAta : Address → Vault Unit) (p : BootstrapParams) : Vault Unit := do
  let ms ← now
  if (← readDb listUsers) ≠ [] then
    throw (.error "vault-bootstrap: vault already initialised (users exist)")
  else
    let kp ← generateKeypair
    let enc ← encryptSecret kp.secretKey
    foundVault p kp enc ms
    ensureAta kp.publicKey

/-- The command line checks its argument first. -/
def vaultBootstrap (ensureAta : Address → Vault Unit) (p : BootstrapParams) : Vault Unit :=
  if 0 < p.initialNavUsd then runBootstrap ensureAta p
  else throw (.error "--initial-nav-usd must be a positive number")

def swallow (m : Vault Unit) : Vault Unit := tryCatch m fun _ => pure ()

def runVaultPreRebalance (pollAddress : Address → Vault Unit) : Vault Unit := do
  let users ← readDb listUsers
  Async.forEach users fun u => swallow (pollAddress u.depositAddress)

def auditActivated (row : WhitelistChangeRow) : Vault Unit := do
  let ts ← now
  writeAudit ts (some row.telegramId) (.whitelistActivated row.id row.oldAddress row.newAddress)

def activateWhitelists : Vault Unit := do
  let ms ← now
  let activated ← activateDue ms
  Async.forEach activated auditActivated

def drainUnlessHalted (drain : Vault Unit) (killed : Bool) : Vault Unit := do
  let paused ← readDb isVaultPaused
  let degraded ← readDb isDegraded
  if degraded ∨ killed ∨ paused then pure () else swallow drain

def runVaultPostRebalance (drain : Vault Unit) (killed : Bool) : Vault Unit := do
  drainUnlessHalted drain killed
  swallow activateWhitelists

def maxHistorySamples : ℕ := 120

/-- The latest sample of the price history, however old. -/
def lastMid (m : Memory) : Option Mid := m.priceHistory.getLast?.map MidPrice.mid

/-- All three `getMid` closures of the process. The host sees when one of them is asked, and
no other handler has a turn. -/
def getMid : Vault (Option Mid) := do
  let _ : Unit ← Async.choose (I := vaultInterface) Choice.consult
  readMemory lastMid

def mean (xs : List ℚ) : ℚ := xs.sum / xs.length

/-- The spread of the quotes is above the limit. Over a median of zero it is infinite, or no
number at all. -/
def diverges (spread median divergenceBps : ℚ) : Bool :=
  if median = 0 then 0 < spread else divergenceBps < spread / median * 10000

/-- The mean of the sources, if at least two quote and none is far from the others. Quotes
without a SOL price do not count for that price. -/
def computeTrustedMid (samples : List PriceSample) (solUsd : ℚ) (now : ℤ) (divergenceBps : ℚ) :
    Option MidPrice :=
  if samples.length < 2 then none
  else
    let prices := (samples.map PriceSample.bertUsd).insertionSort (· ≤ ·)
    let min := prices.getD 0 0
    let max := prices.getD (prices.length - 1) 0
    let median := prices.getD (prices.length / 2) 0
    if diverges (max - min) median divergenceBps then none
    else
      let validSol := (samples.filter fun s => 0 < s.solUsd).map PriceSample.solUsd
      let solUsdMean := if validSol = [] then solUsd else mean validSol
      some {
        bertUsd := mean prices, solUsd := solUsdMean, bertPerSol := solUsdMean / mean prices,
        ts := now, sources := samples.map PriceSample.source }

theorem mean_pos {xs : List ℚ} (hne : xs ≠ []) (h : ∀ x ∈ xs, 0 < x) : 0 < mean xs := by
  have hlen : (0 : ℚ) < xs.length := by exact_mod_cast List.length_pos_iff.mpr hne
  exact div_pos (List.sum_pos xs h hne) hlen

/-- Positive quotes make a positive mid. -/
theorem computeTrustedMid_pos {samples : List PriceSample} {solUsd divergenceBps : ℚ} {now : ℤ}
    {p : MidPrice} (hsol : 0 < solUsd) (hbert : ∀ s ∈ samples, 0 < s.bertUsd)
    (h : computeTrustedMid samples solUsd now divergenceBps = some p) : PositivePrice p.mid := by
  unfold computeTrustedMid at h
  split at h
  · cases h
  · next hlen =>
    simp only [] at h
    split at h
    · cases h
    · cases h
      refine ⟨?_, ?_⟩
      · simp only [MidPrice.mid]
        split
        · exact hsol
        · next hne =>
          refine mean_pos hne fun x hx => ?_
          obtain ⟨s, hs, rfl⟩ := List.mem_map.mp hx
          simpa using (List.mem_filter.mp hs).2
      · refine mean_pos ?_ fun x hx => ?_
        · intro hnil
          have hzero := congrArg List.length hnil
          simp only [List.length_insertionSort, List.length_map, List.length_nil] at hzero
          omega
        · have hmem := (List.mem_insertionSort _).mp hx
          obtain ⟨s, hs, rfl⟩ := List.mem_map.mp hmem
          exact hbert s hs

/-- A trusted mid joins the bounded history, a missing one leaves it as it is. -/
def observeMid (mid : Option MidPrice) (m : Memory) : Memory :=
  match mid with
  | none => { m with trustedMid := some none }
  | some p =>
    let history := m.priceHistory ++ [p]
    { m with
      trustedMid := some (some p)
      priceHistory := if maxHistorySamples < history.length then history.tail else history }

/-- The depositor-facing NAV comes from the chain; it falls back to the latest snapshot. -/
def snapshotFallback (db : Db) : Option Nav :=
  (latestNavSnapshot db).map fun snap => ⟨snap.totalValueUsd, totalShares db⟩

/-- Value and uncollected fees of the tracked position; zeros when it cannot be read. -/
def readPosition (venue : Venue) (nftMint : String) (solUsd : ℚ) : Vault (ℚ × ℕ × ℕ) :=
  tryCatch
    (do
      let pos ← getPosition venue nftMint solUsd
      return (pos.map fun p => (p.totalValueUsd, p.uncollectedFeesBert, p.uncollectedFeesSol)).getD
        (0, 0, 0))
    fun _ => return (0, 0, 0)

def trackedPosition (venue : Venue) (stored : Option StoredPosition) (solUsd : ℚ) :
    Vault (ℚ × ℕ × ℕ) :=
  match stored with
  | none => return (0, 0, 0)
  | some p => readPosition venue p.nftMint solUsd

def liveNav (venue : Venue) (minSolFloorLamports : ℕ) (last : Mid) : Vault (Option Nav) := do
  let bal ← nonNull "solLamports" (← Async.call (I := vaultInterface) Query.getWalletBalances)
  let stored ← readDb getCurrentPosition
  let pos ← trackedPosition venue stored last.solUsd
  let live := computeNav {
    freeSolLamports := spendable minSolFloorLamports bal.solLamports
    freeBertRaw := bal.bertRaw
    positionTotalValueUsd := pos.1
    uncollectedFeesBert := pos.2.1
    uncollectedFeesSol := pos.2.2
    mid := last }
  let total ← readDb totalShares
  return some ⟨live.totalUsd, total⟩

def getNav (venue : Venue) (minSolFloorLamports : ℕ) : Vault (Option Nav) :=
  tryCatch
    (do
      match ← readMemory lastMid with
      | none => readDb snapshotFallback
      | some last => liveNav venue minSolFloorLamports last)
    fun _ => readDb snapshotFallback

/-- The position is valued with the SOL price of the history and no BERT price at all. -/
def getPositionSnapshot (venue : Venue) : Vault (Option PositionValue) := do
  match ← readDb getCurrentPosition with
  | none => return some ⟨0, 0, 0⟩
  | some stored =>
    let last ← readMemory lastMid
    let pos ← getPosition venue stored.nftMint ((last.map Mid.solUsd).getD 0)
    return some ⟨(pos.map PositionSnapshot.totalValueUsd).getD 0, 0, 0⟩

def partialClose (needSolLamports needBertRaw : ℤ) : Vault Unit := do
  match ← readDb getCurrentPosition with
  | none => throw (.error "partialClose: no stored position")
  | some _ => Async.call (I := vaultInterface) (Query.partialClose needSolLamports needBertRaw)

def executorDeps (venue : Venue) (minSolFloorLamports : ℕ) : ExecutorDeps where
  getMid := getMid
  getWalletBalances := Async.call (I := vaultInterface) Query.getWalletBalances
  getPositionSnapshot := getPositionSnapshot venue
  reserveSolLamports := minSolFloorLamports
  partialClose := partialClose
  executeTransfer destination solLamports bertRaw :=
    Async.call (I := vaultInterface) (Query.executeTransfer destination solLamports bertRaw)

def pipelineDeps : PipelineDeps where
  getMid := getMid
  getNavPerShare := readDb snapshotNavPerShare
  rentReserveLamports := 2039280
  getLatestBlockhash := Async.call (I := vaultInterface) Query.getLatestBlockhash
  submitTx instructions := Async.call (I := vaultInterface) (Query.submitTx instructions)

def watcherDeps (bertMint : Address) : WatcherDeps where
  bertMint := bertMint
  getSignaturesForAddress address bertAta limit :=
    Async.call (I := vaultInterface) (Query.getSignaturesForAddress address bertAta limit)
  getParsedTransaction signature :=
    Async.call (I := vaultInterface) (Query.getParsedTransaction signature)
  onInflow := onInflow pipelineDeps

def reply (chatId : ℤ) (notice : Notice) : Vault Unit :=
  Async.call (I := vaultInterface) (Query.reply chatId notice)

def ensureAta (address : Address) : Vault Unit :=
  Async.call (I := vaultInterface) (Query.ensureAta address)

/-- The part of the configuration file that the vault reads. -/
structure BotConfig where
  operatorTelegramId : TelegramId
  commands : CommandsConfig
  whitelistCooldownHours : ℤ
  minSolFloorLamports : ℕ
  oracleDivergenceBps : ℚ
  bertMint : Address

def commandsDeps (venue : Venue) (cfg : BotConfig) : CommandsDeps where
  config := cfg.commands
  cooldownMs := cfg.whitelistCooldownHours * 3600000
  limits := {}
  reply := reply
  ensureAta := ensureAta
  getNav := getNav venue cfg.minSolFloorLamports

def commanderDeps (venue : Venue) (cfg : BotConfig) : CommanderDeps where
  operatorUserId := cfg.operatorTelegramId
  commands := commandsDeps venue cfg
  operator := ⟨reply, getMid⟩

def quotedSolUsd (samples : List PriceSample) : ℚ :=
  ((samples.find? fun s => 0 < s.solUsd).map PriceSample.solUsd).getD 150

theorem quotedSolUsd_pos (samples : List PriceSample) : 0 < quotedSolUsd samples := by
  unfold quotedSolUsd
  rcases hf : samples.find? (fun s => 0 < s.solUsd) with _ | s
  · rw [hf]
    norm_num
  · rw [hf]
    simpa using List.find?_some hf

def readOracle (oracleDivergenceBps : ℚ) (tickStart : ℤ) : Vault Unit := do
  let samples : List PriceSample ← Async.call (I := vaultInterface) Query.fetchAllSources
  modifyMemory (observeMid
    (computeTrustedMid samples (quotedSolUsd samples) tickStart oracleDivergenceBps))

/-- What happens between the two vault parts is the rebalancer's; it may end the tick early. -/
def tick (venue : Venue) (cfg : BotConfig) : Vault Unit := do
  let tickStart ← now
  let killed : Bool ← Async.choose (I := vaultInterface) Choice.killSwitch
  readOracle cfg.oracleDivergenceBps tickStart
  runVaultPreRebalance (pollAddress (watcherDeps cfg.bertMint))
  let goesOn : Bool ← Async.call (I := vaultInterface) Query.rebalanceStage
  if goesOn then
    runVaultPostRebalance (drain (executorDeps venue cfg.minSolFloorLamports)) killed
  else pure ()

end VaultRuntime
