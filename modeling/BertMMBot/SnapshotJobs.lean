import BertMMBot.SnapshotMachine

/-! # Every job keeps to the snapshot machine

The handlers of the chat are put together from parts that touch no snapshot; the loop and the
operator's commands reach the tables only through a credit or a completion. So what the machine
says of its points holds throughout every run. -/
namespace SnapshotJobs

open AsyncProgram AsyncContract AsyncFibers AsyncRecords AsyncWiring AsyncParts
open RecordedTriples RecordedOutcomes KeyedTable VaultTypes VaultProgram DepositorStore ShareMath
open Encryption
open WithdrawalExecutor DepositPipeline AccountSecurity DepositorCommands OperatorCommands
open DepositorParts VaultJournal SnapshotMachine
open VaultRuntime (BotConfig commandsDeps commanderDeps pipelineDeps watcherDeps executorDeps
  lastMid reply ensureAta swallow)
open VaultDiscipline (Environment)
open LedgerMachine (Fiber)
open MeteoraPosition (Venue getPosition)

variable {venue : Venue} {cfg : BotConfig} {env : Environment} {i : Fiber} {w w' : World}
  {h : Journal} {p : JournalPoint} {db : Db} {u : TelegramId} {msg : Msg} {α β : Type} {x : Prop}

theorem tables_updateUser (f : UserRow → UserRow) (db : Db) :
    tables (updateUser u f db) = tables db := by
  simp [tables, updateUser, amend]

theorem within_setWhitelistImmediate (address : Address) (ts : ℤ) :
    Within tableBounds x (setWhitelistImmediate u address ts) := by
  have hst : plain (.statement (.setWhitelistImmediate u)) := trivial
  exact within_update hst fun db => tables_updateUser _ db

theorem within_enqueueWhitelistChange (args : NewWhitelistChange) :
    Within tableBounds x (enqueueWhitelistChange args) := by
  have hst : plain (.statement (.enqueueWhitelistChange args.telegramId)) := trivial
  apply within_statement hst
  intro db a db' hdb
  cases hdb
  rfl

theorem within_requestChange (cooldownMs : ℤ) (address : Address) (ms : ℤ) :
    Within tableBounds x (requestChange cooldownMs u address ms) :=
  OperatorBounds.within_requestChange within_enqueueWhitelistChange
    (within_setWhitelistImmediate address ms) within_withTransaction

theorem within_cancelPending (reason : String) :
    Within tableBounds x (cancelPending u reason) := by
  apply OperatorBounds.within_cancelPending
  intro id
  have hst : plain (.statement (.cancelPendingWhitelist id)) := trivial
  exact within_update hst fun _ => rfl

theorem createUser_watched (args : NewUser) : Watched env i (createUser args) := by
  apply Triple.bind (B := fun (o : Option Thrown) p => Away i p)
  · apply triple_choose
    intro w h o _ ha _
    exact ⟨told rfl (away_guarded ha rfl), away_choice trivial⟩
  · intro (o : Option Thrown)
    cases o with
    | some e =>
      apply Keeps.bind _ fun _ => keeps_throw
      apply triple_modify
      intro w h _ ha
      exact ⟨.single (.aside rfl), ha⟩
    | none =>
      apply triple_attempt
      · intro w h a w' _ ha hrun
        dsimp only at hrun
        split at hrun
        · next hdb =>
          cases hrun
          split at hdb
          · cases hdb
          · cases hdb
            exact ⟨.single (.enter rfl rfl (by simp)), ha⟩
        · cases hrun
      · intro w h e ha _
        exact ha

theorem part_watched {m : Vault α} (hm : Part u True α m) : Watched env i m := by
  cases hm with
  | @ask c hc =>
    have hplain : plain c := by
      cases c with
      | statement => cases hc
      | _ => trivial
    exact watched_within (x := False) (within_choice hplain)
  | call q => exact watched_within (within_query q)
  | read f => exact keeps_read
  | desk f => exact watched_within (x := False) (within_modify fun _ => rfl)
  | audit ms event => exact watched_within (x := False) (within_writeAudit _ _ _)
  | counter counter =>
    have hst : plain (.statement (.setTotpLastCounter u)) := trivial
    exact watched_within (x := False) (within_update hst fun db => tables_updateUser _ db)
  | enqueue args =>
    have hst : plain (.statement (.enqueueWithdrawal args.telegramId args.sharesBurned)) := trivial
    apply watched_within (x := False)
    apply within_statement hst
    intro db a db' hdb
    cases hdb
    rfl
  | request cooldownMs address ms => exact watched_within (x := False) (within_requestChange _ _ _)
  | cancel reason => exact watched_within (x := False) (within_cancelPending _)
  | invite => exact watched_within (x := False) (within_modify fun _ => rfl)
  | create args => exact createUser_watched args
  | secret secretEnc enrolledAt =>
    have hst : plain (.statement (.setTotp u)) := trivial
    exact watched_within (x := False) (within_update hst fun db => tables_updateUser _ db)

theorem made_watched {m : Vault α} (hm : MadeBy u True m) : Watched env i m :=
  made_keeps (fun hpart => part_watched hpart) hm

theorem recordFailure_watched (event : InflowEvent) (reason : String) :
    Watched env i (DepositPipeline.recordFailure u event reason) :=
  watched_within (x := False) (within_bind within_now fun _ => within_writeAudit _ _ _)

section Told

-- lines of the fiber itself leave the assertion standing
variable {A : JournalPoint → Prop}
  (hA : ∀ {w : World} {h : Journal} {e : Line}, e.fiber = some i → A (w, h) → A (w, e :: h))
include hA

theorem choice_told {c : Choice} (hc : plain c) :
    Triple (snapshotMachine env) i (fun p => A p ∧ Away i p)
      (Async.choose (I := vaultInterface) c : Vault c.Outcome) (fun _ p => A p ∧ Away i p)
      (Away i) := by
  apply triple_choose (I := vaultInterface) (c := c)
  intro w h o _ ha _
  exact ⟨told rfl (away_guarded ha.2 rfl), hA rfl ha.1, away_choice hc⟩

theorem now_told : Triple (snapshotMachine env) i (fun p => A p ∧ Away i p) now
    (fun _ p => A p ∧ Away i p) (Away i) :=
  choice_told hA (c := Choice.clock) trivial

theorem encryptSecret_told (plaintext : Bytes) :
    Triple (snapshotMachine env) i (fun p => A p ∧ Away i p) (encryptSecret plaintext)
      (fun _ p => A p ∧ Away i p) (Away i) := by
  apply Triple.bind (choice_told hA (c := Choice.masterKey) trivial)
  intro key
  apply triple_ite
  · exact fun _ => triple_throw fun _ ha => ha.2
  · intro _
    apply Triple.bind (choice_told hA (c := Choice.randomBytes ivBytes) trivial)
    intro iv
    apply Triple.bind (choice_told hA (c := Choice.cipher key iv plaintext) trivial)
    exact fun _ => triple_pure fun _ ha => ha

theorem getMid_told : Triple (snapshotMachine env) i (fun p => A p ∧ Away i p) VaultRuntime.getMid
    (fun mid p => (lastMid p.1.memory = mid ∧ A p) ∧ Away i p) (Away i) := by
  apply Triple.bind (choice_told hA (c := Choice.consult) trivial)
  intro _
  exact triple_read fun p _ ha => ⟨⟨rfl, ha.1⟩, ha.2⟩

end Told

theorem creditSwept_watched (event : InflowEvent) (sweepSig : Signature) (sweptAt : ℤ) :
    Watched env i (creditSwept pipelineDeps u event sweepSig sweptAt) := by
  apply Triple.bind (B := fun mid p => (lastMid p.1.memory = mid ∧ True) ∧ Away i p)
  · exact (getMid_told (A := fun _ => True) fun _ _ => trivial).mono
      (fun p ha => ⟨trivial, ha⟩) (fun _ _ hp => hp) fun _ hp => hp
  · intro mid
    cases mid with
    | none =>
      exact (recordFailure_watched event _).mono (fun _ hp => hp.2) (fun _ _ hp => hp) fun _ hp => hp
    | some mid =>
      apply Triple.bind (B := fun nav p => (nav = snapshotNavPerShare p.1.db ∧
        lastMid p.1.memory = some mid) ∧ Away i p)
      · exact triple_read fun p _ hp => ⟨⟨rfl, hp.1.1⟩, hp.2⟩
      · intro nav
        apply Triple.tryCatch (D := Away i)
        · exact credit_writes.mono (fun p hp => ⟨⟨hp.1.1, hp.1.2⟩, hp.2⟩) (fun _ _ hp => hp)
            fun _ hp => hp
        · intro e
          exact recordFailure_watched event _

theorem recredit_watched (inboundTxSig : String) (sweepTxSig : Signature)
    (solLamports bertRaw : ℕ) (confirmedAt : ℤ) (mid : Mid) (navPerShare : ℚ) :
    Triple (snapshotMachine env) i (fun p => (navPerShare = snapshotNavPerShare p.1.db ∧
        lastMid p.1.memory = some mid) ∧ Away i p)
      (recredit (commanderDeps venue cfg).operator msg u inboundTxSig sweepTxSig solLamports
        bertRaw confirmedAt mid navPerShare) (fun _ => Away i) (Away i) := by
  apply Triple.tryCatch (D := Away i)
  · apply Triple.bind (now_told fun _ hp => hp)
    intro sweptAt
    apply Triple.bind (now_told fun _ hp => hp)
    intro ms
    apply Triple.bind (B := fun _ => Away i)
    · exact credit_writes.mono (fun p hp => ⟨⟨hp.1.1, hp.1.2⟩, hp.2⟩) (fun _ _ hp => hp)
        fun _ hp => hp
    · intro _
      exact keeps_pure
  · intro e
    apply Keeps.bind _ fun _ => keeps_pure
    apply watched_within (x := True)
    exact within_ite (fun _ => within_query _) fun _ => within_query _

theorem recreditFrom_watched (inboundTxSig : String) (detected : ℕ × ℕ)
    (swept : Signature × ℕ × ℕ × ℤ) :
    Watched env i (recreditFrom (commanderDeps venue cfg).operator msg inboundTxSig u detected
      swept) := by
  apply Triple.bind (B := fun mid p => (lastMid p.1.memory = mid ∧ True) ∧ Away i p)
  · exact (getMid_told (A := fun _ => True) fun _ _ => trivial).mono
      (fun p ha => ⟨trivial, ha⟩) (fun _ _ hp => hp) fun _ hp => hp
  · intro mid
    cases mid with
    | none =>
      exact (watched_within (within_query _)).mono (fun _ hp => hp.2) (fun _ _ hp => hp)
        fun _ hp => hp
    | some mid =>
      apply Triple.bind (B := fun nav p => (nav = snapshotNavPerShare p.1.db ∧
        lastMid p.1.memory = some mid) ∧ Away i p)
      · exact triple_read fun p _ hp => ⟨⟨rfl, hp.1.1⟩, hp.2⟩
      · intro nav
        apply Triple.bind (recredit_watched _ _ _ _ _ _ _)
        intro credited
        apply watched_within (x := True)
        apply within_ite
        · intro _
          apply within_bind (within_read _)
          intro deposits
          apply within_bind within_now
          intro ms
          exact within_bind (within_writeAudit _ _ _) fun _ => within_query _
        · intro _
          exact within_pure _

theorem handleRecreditDeposit_watched :
    Watched env i (handleRecreditDeposit (commanderDeps venue cfg).operator msg) := by
  unfold handleRecreditDeposit
  cases TextInput.argument msg.text with
  | none => exact watched_within (within_query _)
  | some inboundTxSig =>
    apply Keeps.bind keeps_read
    intro credited
    apply keeps_ite (watched_within (within_query _))
    apply Keeps.bind keeps_read
    intro recent
    rcases scanAudit inboundTxSig recent ⟨none, none, none⟩ with ⟨detected, swept, telegramId⟩
    cases detected with
    | none => exact watched_within (within_query _)
    | some detected =>
      cases swept with
      | none => exact watched_within (within_query _)
      | some swept =>
        cases telegramId with
        | none => exact watched_within (within_query _)
        | some telegramId => exact recreditFrom_watched _ _ _

theorem within_requeueFailedWithdrawal (id : ℕ) :
    Within tableBounds True (requeueFailedWithdrawal id) := by
  have hst : plain (.statement (.requeueFailedWithdrawal id)) := trivial
  exact OperatorBounds.within_requeueFailedWithdrawal roomy_tables hst fun _ _ => rfl

theorem within_clearUserTotp (targetId : TelegramId) :
    Within tableBounds True (clearUserTotp targetId) := by
  have hst : plain (.statement (.clearUserTotp targetId)) := trivial
  apply within_statement hst
  intro db a db' hdb
  split at hdb
  · cases hdb
    exact tables_updateUser _ db
  · cases hdb

theorem operator_watched {name : String} {run : Vault Unit}
    (hh : VaultRuntime.handler (commanderDeps venue cfg) name msg = some (.operator, run)) :
    Watched env i run := by
  unfold VaultRuntime.handler at hh
  split at hh <;> cases hh
  · exact watched_within (OperatorBounds.within_switch roomy_tables (within_setFlag _ _) _ _)
  · exact watched_within (OperatorBounds.within_switch roomy_tables (within_setFlag _ _) _ _)
  · exact watched_within (within_bind (within_read _) fun _ => within_query _)
  · exact watched_within
      (OperatorBounds.within_handleForceProcess roomy_tables within_requeueFailedWithdrawal)
  · exact handleRecreditDeposit_watched
  · exact watched_within (OperatorBounds.within_handleResetTotp roomy_tables within_clearUserTotp)
  · exact watched_within (within_query _)
  · exact watched_within (within_bind (within_setFlag _ _) fun _ => within_query _)
  · exact watched_within (within_bind (within_read _) fun _ => within_query _)
  · exact watched_within (within_query _)

theorem dispatch_watched : Watched env i (VaultRuntime.dispatch (commanderDeps venue cfg) msg) := by
  unfold VaultRuntime.dispatch
  cases TextInput.commandName msg.text with
  | none =>
    apply Keeps.bind keeps_read
    intro known
    exact keeps_ite (made_watched (made_handleMessage rfl trivial)) keeps_pure
  | some name =>
    dsimp only
    cases hh : VaultRuntime.handler (commanderDeps venue cfg) name msg with
    | none => exact keeps_pure
    | some entry =>
      obtain ⟨kind, run⟩ := entry
      have hrun : Watched env i run := by
        by_cases hkind : kind = .operator
        · subst hkind
          exact operator_watched hh
        · exact made_watched (made_handler (fun _ => trivial) hh hkind)
      have hauthorized : Watched env i
          (VaultRuntime.authorized (commanderDeps venue cfg) msg kind) := by
        cases kind with
        | vault => exact keeps_read
        | _ => exact keeps_pure
      exact Keeps.bind hauthorized fun allowed => keeps_ite hrun keeps_pure

theorem sweepAndCredit_watched (event : InflowEvent) (ixs : List SweepInstruction) :
    Watched env i (sweepAndCredit pipelineDeps u event ixs) := by
  have hsubmit : Within tableBounds True (submitSweep pipelineDeps event ixs) :=
    within_bind (within_record _) fun _ => within_bind (within_query _) fun _ =>
      within_bind (within_record _) fun _ => within_pure _
  have hsweep : Watched env i (sweep pipelineDeps u event ixs) := by
    apply Keeps.tryCatch
    · exact watched_within (within_bind hsubmit fun _ => within_pure _)
    · intro e
      exact Keeps.bind (recordFailure_watched event _) fun _ => keeps_pure
  apply Keeps.bind (watched_within (within_query _))
  intro _
  apply Keeps.bind hsweep
  intro sig
  cases sig with
  | none => exact keeps_pure
  | some sig =>
    apply Keeps.bind (watched_within (x := False) within_now)
    intro sweptAt
    apply Keeps.bind (watched_within (x := False) (within_writeAudit _ _ _))
    intro _
    exact creditSwept_watched _ _ _

theorem sweepInflow_watched (user : UserRow) (event : InflowEvent) :
    Watched env i (sweepInflow pipelineDeps user event) := by
  apply Keeps.bind keeps_read
  intro secrets
  cases secrets with
  | none => exact keeps_pure
  | some secrets =>
    have hkeypair : Within tableBounds True (depositKeypair secrets) :=
      within_depositKeypair (fun c hc => by cases c <;> cases hc <;> trivial) secrets
    apply Keeps.bind
    · apply Keeps.tryCatch
      · exact watched_within (within_bind hkeypair fun _ => within_pure true)
      · intro e
        exact Keeps.bind (recordFailure_watched event _) fun _ => keeps_pure
    · intro opened
      apply keeps_ite _ keeps_pure
      cases buildSweepInstructions event.solLamports event.bertRaw
          pipelineDeps.rentReserveLamports with
      | error e => exact recordFailure_watched event _
      | ok ixs => exact keeps_ite keeps_pure (sweepAndCredit_watched _ _)

theorem onInflow_watched (event : InflowEvent) : Watched env i (onInflow pipelineDeps event) := by
  apply Keeps.bind keeps_read
  intro user
  cases user with
  | none => exact keeps_pure
  | some user =>
    apply Keeps.bind (watched_within (x := False) within_now)
    intro ts
    apply Keeps.bind (watched_within (x := False) (within_writeAudit _ _ _))
    intro _
    apply Keeps.bind (watched_within (x := False) within_getMid)
    intro mid
    cases mid with
    | none =>
      exact watched_within (x := False) (within_bind within_now fun _ => within_writeAudit _ _ _)
    | some mid => exact sweepInflow_watched user event

theorem pollSignature_watched (bertMint address : Address) (s : SignatureInfo) :
    Watched env i (pollSignature (watcherDeps bertMint) address s) := by
  have htime : Within tableBounds True (confirmationTime s.blockTime) := by
    cases s.blockTime with
    | none => exact within_bind within_now fun _ => within_pure _
    | some t => exact within_pure _
  apply keeps_ite keeps_pure
  apply Keeps.bind keeps_read
  intro credited
  apply keeps_ite keeps_pure
  apply Keeps.bind (watched_within (within_query _))
  intro tx
  cases tx with
  | none => exact keeps_pure
  | some tx =>
    apply keeps_ite keeps_pure
    exact Keeps.bind (watched_within htime) fun _ => onInflow_watched _

theorem runVaultPreRebalance_watched (bertMint : Address) :
    Watched env i (VaultRuntime.runVaultPreRebalance (pollAddress (watcherDeps bertMint))) := by
  apply Keeps.bind keeps_read
  intro users
  apply keeps_forEach
  intro user
  apply Keeps.tryCatch _ fun _ => keeps_pure
  apply Keeps.bind (watched_within (within_query _))
  intro sigsMain
  apply Keeps.bind (watched_within (within_query _))
  intro sigsAta
  exact keeps_forEach (pollSignature_watched _ _) _

structure Detached (deps : ExecutorDeps) : Prop where
  getMid : Within tableBounds True deps.getMid
  getWalletBalances : Within tableBounds True deps.getWalletBalances
  getPositionSnapshot : Within tableBounds True deps.getPositionSnapshot
  partialClose : ∀ sol bert, Within tableBounds True (deps.partialClose sol bert)
  executeTransfer : ∀ destination sol bert,
    Within tableBounds True (deps.executeTransfer destination sol bert)

theorem detached_executorDeps (floor : ℕ) : Detached (executorDeps venue floor) where
  getMid := within_getMid
  getWalletBalances := within_query _
  getPositionSnapshot := by
    apply within_bind (within_read _)
    intro stored
    cases stored with
    | none => exact within_pure _
    | some stored =>
      apply within_bind (within_read _)
      intro last
      exact within_bind (within_bind (within_query _) fun _ => within_pure _) fun _ => within_pure _
  partialClose sol bert := by
    apply within_bind (within_read _)
    intro stored
    cases stored with
    | none => exact within_throw _
    | some stored => exact within_query _
  executeTransfer _ _ _ := within_query _

theorem detached_hostDeps (floor : ℕ) : Detached (hostDeps floor) where
  getMid := within_query _
  getWalletBalances := within_query _
  getPositionSnapshot := within_query _
  partialClose _ _ := within_query _
  executeTransfer _ _ _ := within_query _

section Drain

variable {deps : ExecutorDeps} (hd : Detached deps)
include hd

theorem within_secureReserves (bal : Balances) (p : Payout) :
    Within tableBounds True (secureReserves deps bal p) := by
  apply within_ite (fun _ => within_pure _)
  intro _
  apply within_bind
  · exact within_ite (fun _ => hd.partialClose _ _) fun _ => within_pure ()
  · intro _
    apply within_bind hd.getWalletBalances
    intro bal
    exact within_bind (within_nonNull _ _) fun _ => within_pure _

theorem settle_watched (ms : ℤ) (row : WithdrawalRow) (p : Payout) :
    Watched env i (settle deps ms row p) := by
  have hpay : Within tableBounds True (payOut deps row p) :=
    within_bind (within_record _) fun _ => within_bind (hd.executeTransfer _ _ _) fun _ =>
      within_bind (within_nonNull _ _) fun _ => within_bind (within_record _) fun _ => within_pure _
  have htransfer : Within tableBounds True (WithdrawalExecutor.executeTransfer deps ms row p) := by
    apply within_tryCatch (within_bind hpay fun _ => within_pure _)
    intro e
    apply within_bind (within_failWithdrawal _ _ _)
    intro _
    exact within_bind (within_writeAudit _ _ _) fun _ => within_pure _
  apply Keeps.bind (watched_within htransfer)
  intro sig
  cases sig with
  | none => exact keeps_pure
  | some sig =>
    have hst : plain (.statement (.markWithdrawalSent row.id)) := trivial
    have hsent : Within tableBounds True (recordSent ms row sig) := by
      apply within_tryCatch
      · refine within_bind (within_statement hst ?_) fun _ => within_pure _
        intro db a db' hdb
        split at hdb
        · cases hdb
          rfl
        · cases hdb
      · exact fun e => within_bind (within_writeAudit _ _ _) fun _ => within_pure _
    apply Keeps.bind (watched_within hsent)
    intro sent
    apply keeps_ite _ keeps_pure
    apply Keeps.tryCatch (completion_watched _ _ _ _)
    intro e
    exact watched_within (x := False) (within_bind (within_writeAudit _ _ _) fun _ => within_throw _)

theorem processOne_watched (id : ℕ) : Watched env i (processOne deps id) := by
  apply Keeps.bind (watched_within (x := False) within_now)
  intro ms
  apply Keeps.bind (watched_within hd.getMid)
  intro mid
  cases mid with
  | none => exact watched_within (x := False) (within_failWithdrawal _ _ _)
  | some mid =>
    apply Keeps.bind keeps_read
    intro row
    cases row with
    | none => exact keeps_pure
    | some row =>
      apply Keeps.bind (watched_within hd.getWalletBalances)
      intro bal
      apply Keeps.bind (watched_within hd.getPositionSnapshot)
      intro pos
      apply Keeps.bind (watched_within (x := False) (within_nonNull _ _))
      intro bal
      apply Keeps.bind (watched_within (x := False) (within_nonNull _ _))
      intro pos
      apply Keeps.bind keeps_read
      intro total
      apply Keeps.bind (watched_within (x := False) (within_liftExcept _))
      intro p
      apply Keeps.bind (watched_within (within_secureReserves hd _ _))
      intro covered
      exact keeps_ite (settle_watched hd _ _ _)
        (watched_within (x := False) (within_failWithdrawal _ _ _))

theorem drain_watched : Watched env i (drain deps) := by
  apply Keeps.bind keeps_read
  intro queued
  apply keeps_forEach
  intro id
  have hst : plain (.statement (.setWithdrawalProcessing id)) := trivial
  have htaken : Within tableBounds True (setWithdrawalProcessing id) :=
    within_update hst fun _ => rfl
  apply Keeps.bind (watched_within (x := False) (within_record _))
  intro _
  apply Keeps.bind (watched_within htaken)
  intro _
  apply Keeps.tryCatch (processOne_watched hd id)
  intro e
  apply Keeps.bind keeps_read
  intro found
  cases found.bind WithdrawalRow.txSig with
  | none =>
    exact watched_within (x := False) (within_bind within_now fun _ => within_failWithdrawal _ _ _)
  | some sig => exact keeps_pure

end Drain

theorem within_activateWhitelists : Within tableBounds True VaultRuntime.activateWhitelists := by
  have hactivate : ∀ ms row, Within tableBounds True (activateChange ms row) := by
    intro ms row
    have hst : plain (.statement (.markWhitelistActivated row.id)) := trivial
    apply within_withTransaction
    exact within_bind (within_setWhitelistImmediate _ _) fun _ => within_update hst fun _ => rfl
  apply within_bind within_now
  intro ms
  apply within_bind
  · exact within_bind (within_read _) fun due =>
      within_bind (within_forEach (hactivate ms) due) fun _ => within_pure _
  · intro activated
    exact within_forEach (fun row => within_bind within_now fun _ => within_writeAudit _ _ _) _

theorem tick_watched : Watched env i (VaultRuntime.tick venue cfg) := by
  apply Keeps.bind (watched_within (x := False) within_now)
  intro tickStart
  apply Keeps.bind (watched_within (x := False) (within_choice (c := Choice.killSwitch) trivial))
  intro (killed : Bool)
  apply Keeps.bind
  · apply Keeps.bind (watched_within (within_query _))
    intro samples
    exact watched_within (x := False) (within_modify fun _ => rfl)
  intro _
  apply Keeps.bind (runVaultPreRebalance_watched _)
  intro _
  apply Keeps.bind (watched_within (within_query _))
  intro (goesOn : Bool)
  apply keeps_ite _ keeps_pure
  apply Keeps.bind
  · apply Keeps.bind keeps_read
    intro paused
    apply Keeps.bind keeps_read
    intro degraded
    apply keeps_ite keeps_pure
    exact Keeps.tryCatch (drain_watched (detached_executorDeps _)) fun _ => keeps_pure
  · intro _
    exact Keeps.tryCatch (watched_within within_activateWhitelists) fun _ => keeps_pure

theorem vaultBootstrap_watched (b : VaultRuntime.BootstrapParams) :
    Watched env i (VaultRuntime.vaultBootstrap ensureAta b) := by
  apply keeps_ite _ keeps_throw
  apply Keeps.bind (watched_within (x := False) within_now)
  intro ms
  apply Triple.bind (B := fun users p => users = listUsers p.1.db ∧ Away i p)
  · exact triple_read fun p _ ha => ⟨rfl, ha⟩
  · intro users
    apply triple_ite
    · intro _
      exact triple_throw fun _ hp => hp.2
    · intro hnone
      apply Triple.mono (A := fun p => p.1.db.users = [] ∧ Away i p) ?_ ?_ (fun _ _ hp => hp)
        fun _ hp => hp
      · apply Triple.bind (choice_told (A := fun p => p.1.db.users = []) (fun _ hp => hp)
          (c := Choice.generateKeypair) trivial)
        intro kp
        apply Triple.bind (encryptSecret_told (A := fun p => p.1.db.users = [])
          (fun _ hp => hp) kp.secretKey)
        intro enc
        apply Triple.bind (foundVault_watched _ _ _ _)
        intro _
        exact watched_within (within_query _)
      · rintro p ⟨husers, ha⟩
        refine ⟨?_, ha⟩
        rw [not_not] at hnone
        rw [hnone] at husers
        have hsorted := List.map_eq_nil_iff.mp husers.symm
        rw [← List.length_eq_zero_iff, List.length_insertionSort] at hsorted
        exact List.length_eq_zero_iff.mp hsorted

theorem job_watched (j : Job) : Watched env j.fiber (j.program venue cfg) := by
  cases j with
  | tick => exact tick_watched
  | drain => exact drain_watched (detached_hostDeps _)
  | message msg => exact dispatch_watched
  | button msg => exact made_watched made_dispatchCallback
  | bootstrap b => exact vaultBootstrap_watched b

theorem sound_restart (env : Environment) (w : World) (h : Journal)
    (hp : (snapshotMachine env).inv (w, h)) :
    (snapshotMachine env).inv (w.restart, .stop w :: h) := by
  have hg : Guarded h (.stop w) := by
    intro c i o heq
    cases heq
  have hrestarted : Sound (w.restart, h) := sound_tables (w := w) rfl hp
  exact sound_line hrestarted hg

theorem snapshot_safe :
    ((snapshotMachine env).discipline (vaultJobs venue cfg) (sound_restart env)).JobsSafe := by
  rintro i m ⟨j, rfl, rfl⟩ p hp
  apply triple_job
  · intro w h
    apply Act.tell _ rfl
    intro c i o heq
    cases heq
  · intro w h
    apply (job_watched j).mono
    · rintro p rfl ⟨ts, w₀, older, heq⟩
      cases heq
    · intro _ _ _
      trivial
    · intro _ _
      trivial
  · exact hp

/-- Every credit of every run is quoted, and as long as snapshots come in time the latest one
counts the shares there are. -/
theorem journaled_sound (hj : Journaled venue cfg env.host p) : Sound p := by
  obtain ⟨chain, c, ex, rfl⟩ := hj
  have hempty : Sound (World.initial chain, []) := by
    constructor
    · intro _
      rfl
    · rintro credit ⟨newer, older, i, o, heq, -⟩
      simp at heq
    · intro _ row hrow
      cases hrow
  exact (execution_preserves_holds snapshot_safe (idle_holds hempty) ex).inv

end SnapshotJobs
