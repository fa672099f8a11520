import BertMMBot.OperatorBounds

/-! # What the vault's part of the main loop may do

Neither the deposit poll, nor the drain, nor the activation of withdrawal addresses touches
the tracked position or the degraded flag. Only the drain takes up withdrawals, frees
liquidity and pays. -/
namespace LoopBounds

open AsyncProgram AsyncWiring VaultTypes VaultProgram Encryption DepositorStore WithdrawalExecutor
open DepositPipeline VaultRuntime AccountSecurity MeteoraPosition

def makerDb (db : Db) : Option StoredPosition × Option String :=
  (db.positionState, db.flags degradedFlag)

abbrev MakerView := Chain × Option StoredPosition × Option String

/-- A call that takes funds out of the vault or out of its position. -/
def pays : Query → Bool
  | .partialClose .. => true
  | .executeTransfer .. => true
  | _ => false

def withheld : Query → Bool
  | .rebalanceStage => true
  | q => pays q

/-- Only the drain takes up withdrawals, and only the tick around it looks at the kill switch; no
part of the loop sets a flag. -/
def allows (draining : Prop) : Choice → Prop
  | .statement (.setWithdrawalProcessing _) => draining
  | .statement (.setFlag _) => False
  | .killSwitch => draining
  | _ => True

def loopBounds (draining : Prop) : Bounds vaultInterface World MakerView where
  choice := allows draining
  call q := withheld q = true → draining
  view w := (w.chain, makerDb w.db)

/-- The part of a user row by which its owner proves who he is and receives deposits. -/
structure Credential where
  telegramId : TelegramId
  depositAddress : Address
  depositSecretEnc : EncryptedBlob
  totpSecretEnc : Option EncryptedBlob
  totpEnrolledAt : Option ℤ
  deriving DecidableEq

def credential (r : UserRow) : Credential :=
  ⟨r.telegramId, r.depositAddress, r.depositSecretEnc, r.totpSecretEnc, r.totpEnrolledAt⟩

def credentials (db : Db) : List Credential := db.users.map credential

/-- The market maker's part, the credentials and the pending actions. -/
abbrev LoopView := MakerView × List Credential × (TelegramId → Option PendingAction)

/-- The loop leaves more alone than what the market maker is concerned with. -/
def loopFootprint (draining : Prop) : Bounds vaultInterface World LoopView where
  choice := allows draining
  call q := withheld q = true → draining
  view w := ((w.chain, makerDb w.db), credentials w.db, w.memory.pending)

def loopRoom (draining : Prop) : Bounds vaultInterface World
    ((Chain × Option StoredPosition × (String → Option String)) × List Credential ×
      (TelegramId → Option PendingAction)) where
  choice := allows draining
  call q := withheld q = true → draining
  view w := ((w.chain, w.db.positionState, w.db.flags), credentials w.db, w.memory.pending)

structure Unseen (db db' : Db) : Prop where
  position : db'.positionState = db.positionState
  flags : db'.flags = db.flags
  credentials : credentials db' = credentials db

variable {draining w : Prop} {α : Type}

@[simp] theorem within_readDb (f : Db → α) : Within (loopRoom draining) w (readDb f) :=
  within_read _

@[simp] theorem within_readMemory (f : Memory → α) : Within (loopRoom draining) w (readMemory f) :=
  within_read _

@[simp] theorem within_record (e : TraceEvent) : Within (loopRoom draining) w (record e) :=
  within_modify fun _ => rfl

theorem within_choice {c : Choice} (h : allows draining c) :
    Within (loopRoom draining) w (Async.choose (I := vaultInterface) c : Vault c.Outcome) :=
  within_choose h

@[simp] theorem within_now : Within (loopRoom draining) w now := within_choice trivial

@[simp] theorem within_getMid : Within (loopRoom draining) w getMid :=
  within_bind (within_choice trivial) fun _ => within_readMemory _

@[simp] theorem within_nonNull (property : String) (a : Option α) :
    Within (loopRoom draining) w (nonNull property a) := by
  cases a with
  | none => exact within_throw _
  | some a => exact within_pure a

theorem within_query {q : Query} (h : withheld q = false) :
    Within (loopRoom draining) True (Async.call (I := vaultInterface) q : Vault q.Reply) :=
  within_call trivial fun hq => absurd (hq.symm.trans h) (by decide)

theorem within_statement {st : Stmt} {f : Db → Except Thrown (α × Db)}
    (hst : allows draining (.statement st))
    (hf : ∀ db a db', f db = .ok (a, db') → Unseen db db') :
    Within (loopRoom draining) w (statement st f) := by
  apply OperatorBounds.within_statement (fun _ _ => rfl) hst
  intro s a db hdb
  obtain ⟨hposition, hflags, hcredentials⟩ := hf s.db a db hdb
  simp only [loopRoom, World.withDb_chain, World.withDb_db, World.withDb_memory, hposition,
    hflags, hcredentials]

theorem within_update {st : Stmt} {f : Db → Db} (hst : allows draining (.statement st))
    (hf : ∀ db, Unseen db (f db)) : Within (loopRoom draining) w (update st f) := by
  apply within_statement hst
  intro db a db' h
  cases h
  exact hf db

theorem within_withTransaction {m : Vault α} (h : Within (loopRoom draining) False m) :
    Within (loopRoom draining) w (withTransaction m) :=
  within_transaction (fun s₀ _ hs =>
    congrArg (fun v => ((v.1.1, s₀.db.positionState, s₀.db.flags), credentials s₀.db, v.2.2)) hs) h

theorem credentials_updateUser {u : TelegramId} {f : UserRow → UserRow}
    (hf : ∀ r, credential (f r) = credential r) (db : Db) :
    credentials (updateUser u f db) = credentials db := by
  simp only [credentials, updateUser, KeyedTable.amend, List.map_map]
  apply List.map_congr_left
  intro r _
  simp only [Function.comp_apply]
  split
  · exact hf r
  · rfl

@[simp] theorem within_setWithdrawalProcessing (id : ℕ) :
    Within (loopRoom True) w (setWithdrawalProcessing id) :=
  within_update trivial fun _ => ⟨rfl, rfl, rfl⟩

@[simp] theorem within_writeAudit (ts : ℤ) (telegramId : Option TelegramId) (event : AuditEvent) :
    Within (loopRoom draining) w (writeAudit ts telegramId event) :=
  within_update trivial fun _ => ⟨rfl, rfl, rfl⟩

@[simp] theorem within_failWithdrawal (id : ℕ) (reason : String) (processedAt : ℤ) :
    Within (loopRoom draining) w (failWithdrawal id reason processedAt) :=
  within_update trivial fun _ => ⟨rfl, rfl, rfl⟩

@[simp] theorem within_markWithdrawalSent (id : ℕ) (txSig : Signature) :
    Within (loopRoom draining) w (markWithdrawalSent id txSig) := by
  have hst : allows draining (.statement (.markWithdrawalSent id)) := trivial
  apply within_statement hst
  intro db a db' h
  split at h
  · cases h
    exact ⟨rfl, rfl, rfl⟩
  · cases h

@[simp] theorem within_addShares (telegramId : TelegramId) (delta : ℚ) :
    Within (loopRoom draining) w (addShares telegramId delta) := by
  have hst : allows draining (.statement (.addShares telegramId delta)) := trivial
  apply within_statement hst
  intro db a db' h
  rcases hs : sharesAfter telegramId delta db with e | shares
  · simp [hs, Except.map] at h
  · simp only [hs, Except.map, Except.ok.injEq, Prod.mk.injEq] at h
    obtain ⟨-, rfl⟩ := h
    exact ⟨rfl, rfl, rfl⟩

@[simp] theorem within_insertDeposit (args : NewDeposit) :
    Within (loopRoom draining) w (insertDeposit args) := by
  have hst : allows draining (.statement (.creditDeposit args.inboundTxSig)) := trivial
  apply within_statement hst
  intro db a db' h
  split at h
  · cases h
  · cases h
    exact ⟨rfl, rfl, rfl⟩

@[simp] theorem within_insertNavSnapshot (row : NavSnapshotRow) :
    Within (loopRoom draining) w (insertNavSnapshot row) :=
  within_update trivial fun _ => ⟨rfl, rfl, rfl⟩

@[simp] theorem within_setWhitelistImmediate (telegramId : TelegramId) (address : Address) (ts : ℤ) :
    Within (loopRoom draining) w (setWhitelistImmediate telegramId address ts) := by
  have hst : allows draining (.statement (.setWhitelistImmediate telegramId)) := trivial
  apply within_update hst
  intro db
  constructor
  · rfl
  · rfl
  · apply credentials_updateUser
    intro r
    rfl

@[simp] theorem within_markWhitelistActivated (id : ℕ) :
    Within (loopRoom draining) w (markWhitelistActivated id) :=
  within_update trivial fun _ => ⟨rfl, rfl, rfl⟩

@[simp] theorem within_creditDeposit (args : NewDeposit) :
    Within (loopRoom draining) w (creditDeposit args) :=
  within_withTransaction (by simp)

@[simp] theorem within_completeWithdrawal (args : Completion) :
    Within (loopRoom draining) w (completeWithdrawal args) := by
  apply within_withTransaction
  apply within_bind (within_readDb _)
  intro row
  cases row with
  | none => exact within_throw _
  | some row =>
    have hcomplete : Within (loopRoom draining) False
        (update (.completeWithdrawal args.id) (updateWithdrawal args.id args.apply)) :=
      within_update trivial fun _ => ⟨rfl, rfl, rfl⟩
    exact within_bind hcomplete fun _ => within_addShares _ _

@[simp] theorem within_swallow {m : Vault Unit} (hm : Within (loopRoom draining) w m) :
    Within (loopRoom draining) w (swallow m) :=
  within_tryCatch hm fun _ => within_pure ()

@[simp] theorem within_recordFailure (telegramId : TelegramId) (event : InflowEvent)
    (reason : String) :
    Within (loopRoom draining) w (DepositPipeline.recordFailure telegramId event reason) :=
  within_bind within_now fun _ => within_writeAudit _ _ _

@[simp] theorem within_credit (p : CreditParams) : Within (loopRoom draining) w (credit p) := by
  apply within_bind (within_lifted _)
  intro minted
  apply within_withTransaction
  apply within_bind (within_creditDeposit _)
  intro _
  apply within_bind (within_readDb _)
  intro total
  exact within_bind (within_insertNavSnapshot _) fun _ => within_writeAudit _ _ _

theorem within_creditSwept (telegramId : TelegramId) (event : InflowEvent) (sweepSig : Signature)
    (sweptAt : ℤ) :
    Within (loopRoom draining) w (creditSwept pipelineDeps telegramId event sweepSig sweptAt) := by
  apply within_bind within_getMid
  intro mid
  cases mid with
  | none => exact within_recordFailure _ _ _
  | some mid =>
    apply within_bind (within_readDb _)
    intro navPerShare
    exact within_tryCatch (within_credit _) fun e => within_recordFailure _ _ _

theorem within_sweepAndCredit (telegramId : TelegramId) (event : InflowEvent)
    (ixs : List SweepInstruction) :
    Within (loopRoom draining) True (sweepAndCredit pipelineDeps telegramId event ixs) := by
  have hsubmit : Within (loopRoom draining) True (submitSweep pipelineDeps event ixs) :=
    within_bind (within_record _) fun _ => within_bind (within_query rfl) fun _ =>
      within_bind (within_record _) fun _ => within_pure _
  have hsweep : Within (loopRoom draining) True (sweep pipelineDeps telegramId event ixs) :=
    within_tryCatch (within_bind hsubmit fun _ => within_pure _) fun _ =>
      within_bind (within_recordFailure _ _ _) fun _ => within_pure _
  apply within_bind (within_query rfl)
  intro _
  apply within_bind hsweep
  intro sig
  cases sig with
  | none => exact within_pure ()
  | some sig =>
    apply within_bind within_now
    intro sweptAt
    exact within_bind (within_writeAudit _ _ _) fun _ => within_creditSwept _ _ _ _

theorem within_sweepInflow (user : UserRow) (event : InflowEvent) :
    Within (loopRoom draining) True (sweepInflow pipelineDeps user event) := by
  apply within_bind (within_readDb _)
  intro secrets
  cases secrets with
  | none => exact within_pure ()
  | some secrets =>
    have hkeypair : Within (loopRoom draining) True (depositKeypair secrets) :=
      within_depositKeypair (fun c hc => by cases c <;> cases hc <;> trivial) secrets
    have hopened := within_tryCatch (within_bind hkeypair fun _ => within_pure true)
      fun _ => within_bind (within_recordFailure user.telegramId event "decrypt_failed")
        fun _ => within_pure false
    apply within_bind hopened
    intro opened
    cases opened with
    | false => exact within_pure ()
    | true =>
      rcases hixs : buildSweepInstructions event.solLamports event.bertRaw
          pipelineDeps.rentReserveLamports with e | ixs
      · simp
      · by_cases hnil : ixs = []
        · simp [hnil]
        · simpa [hixs, hnil] using within_sweepAndCredit _ _ _

theorem within_onInflow (event : InflowEvent) :
    Within (loopRoom draining) True (onInflow pipelineDeps event) := by
  apply within_bind (within_readDb _)
  intro user
  cases user with
  | none => exact within_pure ()
  | some user =>
    apply within_bind within_now
    intro ts
    apply within_bind (within_writeAudit _ _ _)
    intro _
    apply within_bind within_getMid
    intro mid
    cases mid with
    | none => exact within_bind within_now fun _ => within_writeAudit _ _ _
    | some mid => exact within_sweepInflow user event

theorem within_pollSignature (bertMint address : Address) (s : SignatureInfo) :
    Within (loopRoom draining) True (pollSignature (watcherDeps bertMint) address s) := by
  apply within_ite
  · exact fun _ => within_pure ()
  · intro _
    apply within_bind (within_readDb _)
    intro credited
    apply within_ite
    · exact fun _ => within_pure ()
    · intro _
      apply within_bind (within_query rfl)
      intro tx
      cases tx with
      | none => exact within_pure ()
      | some tx =>
        apply within_ite
        · exact fun _ => within_pure ()
        · intro _
          have htime : Within (loopRoom draining) True (confirmationTime s.blockTime) := by
            cases s.blockTime with
            | none => exact within_bind within_now fun _ => within_pure _
            | some t => exact within_pure _
          exact within_bind htime fun _ => within_onInflow _

theorem within_runVaultPreRebalance (bertMint : Address) :
    Within (loopRoom draining) True (runVaultPreRebalance (pollAddress (watcherDeps bertMint))) := by
  have hpoll : ∀ address, Within (loopRoom draining) True
      (pollAddress (watcherDeps bertMint) address) := by
    intro address
    apply within_bind (within_query rfl)
    intro sigsMain
    apply within_bind (within_query rfl)
    intro sigsAta
    exact within_forEach (within_pollSignature _ _) _
  apply within_bind (within_readDb _)
  intro users
  apply within_forEach
  intro u
  exact within_swallow (hpoll _)

section Drain

variable (venue : Venue) (minSolFloorLamports : ℕ)

theorem within_getPosition (nftMint : String) (solUsd : ℚ) :
    Within (loopRoom draining) True (getPosition venue nftMint solUsd) :=
  within_bind (within_query rfl) fun _ => within_pure _

theorem within_getPositionSnapshot :
    Within (loopRoom draining) True (getPositionSnapshot venue) := by
  apply within_bind (within_readDb _)
  intro stored
  cases stored with
  | none => exact within_pure _
  | some stored =>
    apply within_bind (within_readMemory _)
    intro last
    exact within_bind (within_getPosition venue _ _) fun _ => within_pure _

theorem within_partialClose (needSolLamports needBertRaw : ℤ) :
    Within (loopRoom True) True (partialClose needSolLamports needBertRaw) := by
  apply within_bind (within_readDb _)
  intro stored
  cases stored with
  | none => exact within_throw _
  | some stored => exact within_call trivial fun _ => trivial

structure Footed (deps : ExecutorDeps) : Prop where
  getMid : Within (loopRoom True) True deps.getMid
  getWalletBalances : Within (loopRoom True) True deps.getWalletBalances
  getPositionSnapshot : Within (loopRoom True) True deps.getPositionSnapshot
  partialClose : ∀ sol bert, Within (loopRoom True) True (deps.partialClose sol bert)
  executeTransfer : ∀ destination sol bert,
    Within (loopRoom True) True (deps.executeTransfer destination sol bert)

theorem footed_executorDeps : Footed (executorDeps venue minSolFloorLamports) where
  getMid := within_getMid
  getWalletBalances := within_query rfl
  getPositionSnapshot := within_getPositionSnapshot venue
  partialClose := within_partialClose
  executeTransfer _ _ _ := within_call trivial fun _ => trivial

theorem footed_hostDeps : Footed (hostDeps minSolFloorLamports) where
  getMid := within_query rfl
  getWalletBalances := within_query rfl
  getPositionSnapshot := within_query rfl
  partialClose _ _ := within_call trivial fun _ => trivial
  executeTransfer _ _ _ := within_call trivial fun _ => trivial

variable {deps : ExecutorDeps} (hd : Footed deps)
include hd

theorem within_secureReserves (bal : Balances) (p : Payout) : Within (loopRoom True) True
    (secureReserves deps bal p) := by
  apply within_ite
  · exact fun _ => within_pure _
  · intro _
    have hclose : ∀ sol bert, Within (loopRoom True) True
        (closeShort deps sol bert) := by
      intro sol bert
      exact within_ite (fun _ => hd.partialClose _ _) fun _ => within_pure ()
    apply within_bind (hclose _ _)
    intro _
    apply within_bind hd.getWalletBalances
    intro bal₂
    exact within_bind (within_nonNull _ _) fun _ => within_pure _

theorem within_settle (now : ℤ) (row : WithdrawalRow) (p : Payout) : Within (loopRoom True) True
    (settle deps now row p) := by
  have hpay : Within (loopRoom True) True
      (payOut deps row p) :=
    within_bind (within_record _) fun _ =>
      within_bind (hd.executeTransfer _ _ _) fun _ =>
        within_bind (within_nonNull _ _) fun _ => within_bind (within_record _) fun _ => within_pure _
  have htransfer : Within (loopRoom True) True
      (WithdrawalExecutor.executeTransfer deps now row p) :=
    within_tryCatch (within_bind hpay fun _ => within_pure _) fun _ => by simp
  have hcomplete : ∀ sig, Within (loopRoom True) True (completeRow now row p sig) := by
    intro sig
    apply within_tryCatch
    · apply within_bind (within_readDb _)
      intro before
      apply within_withTransaction
      apply within_bind (within_completeWithdrawal _)
      intro _
      apply within_bind (within_readDb _)
      intro after
      exact within_bind (within_insertNavSnapshot _) fun _ => within_writeAudit _ _ _
    · exact fun _ => by simp
  apply within_bind htransfer
  intro sig
  cases sig with
  | none => exact within_pure ()
  | some sig =>
    have hsent : Within (loopRoom True) True (recordSent now row sig) :=
      within_tryCatch (by simp) fun _ => by simp
    apply within_bind hsent
    intro sent
    exact within_ite (fun _ => hcomplete sig) fun _ => within_pure ()

theorem within_processOne (id : ℕ) : Within (loopRoom True) True
    (processOne deps id) := by
  have hrow : ∀ now mid row, Within (loopRoom True) True
      (processRow deps now mid row) := by
    intro now mid row
    apply within_bind hd.getWalletBalances
    intro bal
    apply within_bind hd.getPositionSnapshot
    intro pos
    apply within_bind (within_nonNull _ _)
    intro bal
    apply within_bind (within_nonNull _ _)
    intro pos
    apply within_bind (within_readDb _)
    intro total
    apply within_bind (within_lifted _)
    intro p
    apply within_bind (within_secureReserves hd _ _)
    intro covered
    exact within_ite (fun _ => within_settle hd _ _ _) fun _ => within_failWithdrawal _ _ _
  apply within_bind within_now
  intro now
  apply within_bind hd.getMid
  intro mid
  cases mid with
  | none => exact within_failWithdrawal _ _ _
  | some mid =>
    apply within_bind (within_readDb _)
    intro row
    cases row with
    | none => exact within_pure ()
    | some row => exact hrow now mid row

theorem within_drainOf : Within (loopRoom True) True (drain deps) := by
  apply within_bind (within_readDb _)
  intro queued
  apply within_forEach
  intro id
  apply within_bind (within_record _)
  intro _
  apply within_bind (within_setWithdrawalProcessing id)
  intro _
  apply within_tryCatch (within_processOne hd id)
  intro e
  apply within_bind (within_readDb _)
  intro w
  cases w.bind WithdrawalRow.txSig with
  | none => exact within_bind within_now fun _ => within_failWithdrawal _ _ _
  | some sig => exact within_pure ()

omit hd in
theorem within_drain :
    Within (loopRoom True) True (drain (executorDeps venue minSolFloorLamports)) :=
  within_drainOf (footed_executorDeps venue minSolFloorLamports)

end Drain

theorem within_activateWhitelists : Within (loopRoom draining) w activateWhitelists := by
  have hactivate : ∀ now row, Within (loopRoom draining) w (activateChange now row) :=
    fun _ _ => within_withTransaction (by simp)
  have hdue : ∀ now, Within (loopRoom draining) w (activateDue now) := by
    intro now
    apply within_bind (within_readDb _)
    intro due
    exact within_bind (within_forEach (hactivate now) due) fun _ => within_pure _
  apply within_bind within_now
  intro ms
  apply within_bind (hdue ms)
  intro activated
  exact within_forEach (fun row => within_bind within_now fun _ => within_writeAudit _ _ _) _

theorem within_runVaultPostRebalance (venue : Venue) (minSolFloorLamports : ℕ) (killed : Bool) :
    Within (loopRoom True) True
      (runVaultPostRebalance (drain (executorDeps venue minSolFloorLamports)) killed) := by
  have hdrain : Within (loopRoom True) True
      (drainUnlessHalted (drain (executorDeps venue minSolFloorLamports)) killed) := by
    apply within_bind (within_readDb _)
    intro paused
    apply within_bind (within_readDb _)
    intro degraded
    exact within_ite (fun _ => within_pure ()) fun _ =>
      within_swallow (within_drain venue minSolFloorLamports)
  exact within_bind hdrain fun _ => within_swallow within_activateWhitelists

theorem within_readOracle (oracleDivergenceBps : ℚ) (tickStart : ℤ) :
    Within (loopRoom draining) True (readOracle oracleDivergenceBps tickStart) := by
  apply within_bind (within_query rfl)
  intro samples
  apply within_modify
  intro w
  cases computeTrustedMid samples (quotedSolUsd samples) tickStart oracleDivergenceBps with
  | none => rfl
  | some p => rfl

theorem within_tick (venue : Venue) (cfg : BotConfig) :
    Within (loopRoom True) True (tick venue cfg) := by
  apply within_bind within_now
  intro tickStart
  apply within_bind (within_choice (c := Choice.killSwitch) trivial)
  intro killed
  apply within_bind (within_readOracle _ _)
  intro _
  apply within_bind (within_runVaultPreRebalance _)
  intro _
  apply within_bind (within_call trivial fun _ => trivial)
  intro (goesOn : Bool)
  cases goesOn with
  | false => exact within_pure ()
  | true => exact within_runVaultPostRebalance _ _ _

theorem within_footprint {m : Vault α} (hm : Within (loopRoom draining) w m) :
    Within (loopFootprint draining) w m :=
  hm.mono (fun _ hc => hc) (fun _ hq => hq) fun _ _ hview =>
    congrArg (fun v => ((v.1.1, v.1.2.1, v.1.2.2 degradedFlag), v.2)) hview

theorem within_loopBounds {m : Vault α} (hm : Within (loopRoom draining) w m) :
    Within (loopBounds draining) w m :=
  (within_footprint hm).mono (fun _ hc => hc) (fun _ hq => hq) fun _ _ hview =>
    congrArg Prod.fst hview

end LoopBounds
