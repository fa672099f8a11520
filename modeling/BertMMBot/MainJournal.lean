import BertMMBot.DispatchJournal

/-! # The main loop in the journal

The watcher, the pipeline, the drain and the activation of new addresses, followed line by
line, and with the chat and the command line every job of the process. -/
namespace MainJournal

open AsyncProgram AsyncContract AsyncFibers AsyncRecords RecordedTriples KeyedTable
open VaultTypes VaultProgram Encryption DepositorStore ShareMath WithdrawalExecutor DepositPipeline
open AccountSecurity VaultRuntime
open VaultJournal JournalMachine JournalTriples JournalStore
open VaultDiscipline (Environment)
open LedgerMachine (Fiber)
open MeteoraPosition (Venue)

variable {venue : Venue} {cfg : BotConfig} {env : Environment} {i : Fiber} {w w' : World}
  {h h' L L' : Journal} {p q : JournalPoint} {u : TelegramId} {A : JournalPoint → Prop}
  {e : Line} {address : Address} {α β : Type}

def Polling (address : Address) (p : JournalPoint) : Prop := polled p.2 = some address

theorem polled_plain (hi : e.fiber = some .main) (hp : Plain e) : polled (e :: h) = polled h := by
  have hnone : pollOf e = none := by
    unfold pollOf
    split
    · exact absurd hp id
    · rfl
  simp [polled, hnone]

theorem steady_polling : Steady venue cfg env .main (Polling address) := by
  constructor
  · intro w h e he _ hp hpoll
    exact (polled_plain he hp).trans hpoll
  · intro w w' h _ hpoll
    exact hpoll
  · intro p q hd hpoll
    exact (disturbs_main hd).polled.trans hpoll

theorem steady_fetched {sig : String} :
    Steady venue cfg env .main fun p => Fetched sig p.1 (own .main p.2) := by
  constructor
  · rintro w h e he hs - ⟨w₁, hmem, hswept⟩
    refine ⟨w₁, ?_, hswept⟩
    rw [own_tell he hs]
    exact List.mem_cons_of_mem e hmem
  · rintro w w' h ha ⟨w₁, hmem, hswept⟩
    exact ⟨w₁, hmem, ha.sweptRows.trans hswept⟩
  · rintro p q hd ⟨w₁, hmem, hswept⟩
    have hsees := disturbs_main hd
    refine ⟨w₁, ?_, hsees.sweptRows.trans hswept⟩
    rw [hsees.own]
    exact hmem

theorem steady_stored {id : ℕ} {destination : Address} :
    Steady venue cfg env .main fun p => Stored id destination p.1 := by
  constructor
  · intro w h e _ _ _ hs
    exact hs
  · intro w w' h ha hs
    exact stored_alike ha hs
  · intro p q hd hs
    exact (disturbs_main hd).stored id destination hs

theorem steady_trace {F : List TraceEvent → Prop} :
    Steady venue cfg env .main fun p => F p.1.trace := by
  constructor
  · intro w h e _ _ _ hf
    exact hf
  · intro w w' h ha hf
    rwa [ha.trace]
  · intro p q hd hf
    rwa [(disturbs_main hd).trace]

theorem steady_swept {s : Sweep} : Steady venue cfg env .main fun p => s ∈ sweeps p.2 := by
  constructor
  · intro w h e _ _ _ hs
    exact sweeps_suffix (List.suffix_cons ..) hs
  · intro w w' h _ hs
    exact hs
  · intro p q hd hs
    rwa [(disturbs_main hd).sweeps]

theorem recorded_passed (hA : ∀ w h e, A (w, h) → A (w.record e, h)) (ev : TraceEvent) :
    Passed venue cfg env .main A (record ev) := by
  apply triple_modify
  intro w h _ ha
  exact ⟨changed (.record ev) rfl, hA w h ev ha⟩

theorem recordFailure_passed (hA : Steady venue cfg env .main A) (event : InflowEvent)
    (reason : String) : Passed venue cfg env .main A (recordFailure u event reason) :=
  (now_passed hA).bind fun ms => writeAudit_passed hA (fun _ _ _ => rfl) ms _

def Sweepable (u : TelegramId) (event : InflowEvent) (p : JournalPoint) : Prop :=
  Polling event.depositAddress p ∧ Owns u event.depositAddress p.1.db ∧
    Fetched event.inboundTxSig p.1 (own .main p.2)

theorem steady_sweepable {event : InflowEvent} :
    Steady venue cfg env .main (Sweepable u event) :=
  steady_polling.and (steady_owned.and steady_fetched)

def Issued (u : TelegramId) (event : InflowEvent) (p : JournalPoint) : Prop :=
  Sweepable u event p ∧ ∃ rest, p.1.trace =
    .sweep event.inboundTxSig event.solLamports event.bertRaw :: rest

theorem steady_issued {event : InflowEvent} : Steady venue cfg env .main (Issued u event) :=
  steady_sweepable.and (steady_trace (F := fun trace => ∃ rest, trace =
    .sweep event.inboundTxSig event.solLamports event.bertRaw :: rest))

def sweepOf (event : InflowEvent) (txSig : Signature) (ixs : List SweepInstruction) : Sweep :=
  ⟨event.depositAddress, event.inboundTxSig, txSig, event.solLamports, event.bertRaw, ixs⟩

def Landed (u : TelegramId) (event : InflowEvent) (txSig : Signature)
    (ixs : List SweepInstruction) (p : JournalPoint) : Prop :=
  Polling event.depositAddress p ∧ Owns u event.depositAddress p.1.db ∧
    sweepOf event txSig ixs ∈ sweeps p.2

theorem steady_landed {event : InflowEvent} {txSig : Signature} {ixs : List SweepInstruction} :
    Steady venue cfg env .main (Landed u event txSig ixs) :=
  steady_polling.and (steady_owned.and steady_swept)

theorem sweep_answered {event : InflowEvent} {txSig : Signature} {ixs : List SweepInstruction}
    {rest : List TraceEvent} (hpoll : polled h = some event.depositAddress)
    (htrace : w.trace = .sweep event.inboundTxSig event.solLamports event.bertRaw :: rest) :
    sweepOf event txSig ixs ∈ sweeps (.answer .main (Query.submitTx ixs)
      (.ok txSig : Except Thrown Signature) w :: h : Journal) := by
  simp [sweeps, sweepAt, hpoll, htrace, sweepOf]

theorem submitSweep_followed {event : InflowEvent} {ixs : List SweepInstruction}
    (hixs : buildSweepInstructions event.solLamports event.bertRaw
      pipelineDeps.rentReserveLamports = .ok ixs) :
    Followed venue cfg env .main (Sweepable u event) (submitSweep pipelineDeps event ixs)
      (fun txSig => Landed u event txSig ixs) (Polling event.depositAddress) := by
  have hissue : Followed venue cfg env .main (Sweepable u event)
      (record (.sweep event.inboundTxSig event.solLamports event.bertRaw))
      (fun _ => Issued u event) (Polling event.depositAddress) := by
    apply triple_modify
    intro w h _ hs
    exact ⟨changed (.record _) rfl, hs, w.trace, rfl⟩
  have hsubmit : Followed venue cfg env .main (Issued u event) (pipelineDeps.submitTx ixs)
      (fun txSig => Landed u event txSig ixs) (Polling event.depositAddress) := by
    refine triple_call (I := vaultInterface) (q := Query.submitTx ixs) ?_ ?_
    · rintro w h - ⟨⟨-, -, hfetched⟩, rest, htrace⟩
      exact told rfl rfl rfl ⟨event.inboundTxSig, ⟨_, _, rest, htrace, hixs⟩, hfetched⟩
    · intro w h w' h' a hissued hr _
      have hsteady : Steady venue cfg env .main (Issued u event) := steady_issued
      have hcalled := hsteady.tell (e := .call .main (Query.submitTx ixs) w) rfl rfl trivial hissued
      obtain ⟨⟨hpoll, howns, -⟩, rest, htrace⟩ := rely_holds steady_issued.disturb hr hcalled
      refine ⟨told rfl rfl rfl ⟨event.inboundTxSig, _, _, rest, htrace, hixs⟩, ?_⟩
      cases a with
      | error err => exact hpoll
      | ok txSig => exact ⟨hpoll, howns, sweep_answered hpoll htrace⟩
  refine hissue.bind fun _ => hsubmit.bind fun txSig => ?_
  refine Triple.bind (B := fun _ => Landed u event txSig ixs) ?_ fun _ => triple_pure fun _ hp => hp
  apply triple_modify
  intro w h _ hl
  exact ⟨changed (.record _) rfl, hl⟩

theorem sweep_followed {event : InflowEvent} {ixs : List SweepInstruction}
    (hixs : buildSweepInstructions event.solLamports event.bertRaw
      pipelineDeps.rentReserveLamports = .ok ixs) :
    Followed venue cfg env .main (Sweepable u event) (sweep pipelineDeps u event ixs)
      (fun swept p => Polling event.depositAddress p ∧
        ∀ txSig, swept = some txSig → Landed u event txSig ixs p)
      (Polling event.depositAddress) := by
  apply Triple.tryCatch (D := Polling event.depositAddress)
  · refine (submitSweep_followed hixs).bind fun txSig => triple_pure ?_
    intro p hl
    refine ⟨hl.1, ?_⟩
    rintro txSig' ⟨⟩
    exact hl
  · intro err
    refine Triple.bind (recordFailure_passed steady_polling event _) fun _ => triple_pure ?_
    intro p hpoll
    exact ⟨hpoll, fun txSig hf => by cases hf⟩

theorem writeSwept_passed {event : InflowEvent} {txSig : Signature}
    {ixs : List SweepInstruction} (ms : ℤ) :
    Passed venue cfg env .main (Landed u event txSig ixs)
      (writeAudit ms (some u) (.depositSwept event.inboundTxSig txSig event.solLamports
        event.bertRaw event.confirmedAt)) := by
  refine followed_statement steady_landed (fun _ hp => hp) (fun _ _ _ _ => trivial) ?_
  intro w h _ db _ hl hdb
  cases hdb
  have hsteady : Steady venue cfg env .main (Landed u event txSig ixs) := steady_landed
  have hl' := hsteady.tell (e := .choice .main (Choice.statement (.writeAudit (.depositSwept
    event.inboundTxSig txSig event.solLamports event.bertRaw event.confirmedAt))) w
      (none : Option Thrown)) rfl rfl trivial hl
  exact ⟨changed (.addSwept _) ⟨rfl, _, hl'.2.2, u, hl'.2.1, rfl⟩, hl'⟩

theorem creditSwept_passed {event : InflowEvent} {txSig : Signature} {ixs : List SweepInstruction}
    (sweptAt : ℤ) :
    Followed venue cfg env .main (Landed u event txSig ixs)
      (creditSwept pipelineDeps u event txSig sweptAt)
      (fun _ => Polling event.depositAddress) (Polling event.depositAddress) := by
  refine Triple.mono (A := Landed u event txSig ixs) (B := fun _ => Landed u event txSig ixs)
    (E := Landed u event txSig ixs) ?_ (fun _ ha => ha) (fun _ p hl => hl.1) fun p hl => hl.1
  refine Triple.bind (getMid_passed steady_landed) fun mid => ?_
  cases mid with
  | none => exact recordFailure_passed steady_landed event _
  | some mid =>
    refine Triple.bind keeps_read fun navPerShare => ?_
    apply Triple.tryCatch (D := Landed u event txSig ixs)
    · apply credit_passed steady_landed
      · intro w h d hl
        exact hl
      · intro p hl
        exact ⟨_, hl.2.2, rfl⟩
      · intro p id sharesMinted hl
        exact ⟨_, hl.2.2, rfl, rfl, rfl, hl.2.1⟩
    · intro err
      exact recordFailure_passed steady_landed event _

theorem before_sweep {event : InflowEvent} {m : Vault α}
    (hm : Passed venue cfg env .main (Sweepable u event) m) :
    Followed venue cfg env .main (Sweepable u event) m (fun _ => Sweepable u event)
      (Polling event.depositAddress) :=
  Triple.mono hm (fun _ hs => hs) (fun _ _ hs => hs) fun _ hs => hs.1

theorem sweepAndCredit_followed {event : InflowEvent} {ixs : List SweepInstruction}
    (hixs : buildSweepInstructions event.solLamports event.bertRaw
      pipelineDeps.rentReserveLamports = .ok ixs) :
    Followed venue cfg env .main (Sweepable u event) (sweepAndCredit pipelineDeps u event ixs)
      (fun _ => Polling event.depositAddress) (Polling event.depositAddress) := by
  have hblockhash : Passed venue cfg env .main (Sweepable u event)
      pipelineDeps.getLatestBlockhash := by
    apply passed_call steady_sweepable
    · intro h w
      exact ⟨trivial, trivial⟩
    · intro h a w
      exact ⟨trivial, trivial⟩
  refine Triple.bind (before_sweep hblockhash) fun _ => ?_
  refine (sweep_followed hixs).bind fun swept => ?_
  cases swept with
  | none => exact triple_pure fun p hp => hp.1
  | some txSig =>
    have hland : Passed venue cfg env .main (Landed u event txSig ixs) now :=
      now_passed steady_landed
    refine Triple.bind (Triple.mono hland (fun p hp => hp.2 txSig rfl) (fun _ _ hl => hl)
      fun p hl => hl.1) fun sweptAt => ?_
    refine Triple.bind (Triple.mono (writeSwept_passed sweptAt) (fun _ hl => hl)
      (fun _ _ hl => hl) fun p hl => hl.1) fun _ => ?_
    exact creditSwept_passed sweptAt

theorem sweepInflow_followed {event : InflowEvent} {user : UserRow} :
    Followed venue cfg env .main (Sweepable user.telegramId event)
      (sweepInflow pipelineDeps user event)
      (fun _ => Polling event.depositAddress) (Polling event.depositAddress) := by
  refine Triple.bind (B := fun _ => Sweepable user.telegramId event)
    (triple_read fun _ _ hs => hs) fun secrets => ?_
  cases secrets with
  | none => exact triple_pure fun p hs => hs.1
  | some secrets =>
    have hopen : Passed venue cfg env .main (Sweepable user.telegramId event)
        (tryCatch (do let _ ← depositKeypair secrets; return true) fun _ => do
          recordFailure user.telegramId event "decrypt_failed"
          return false) := by
      apply Triple.tryCatch (D := Sweepable user.telegramId event)
      · have hkeypair : Passed venue cfg env .main (Sweepable user.telegramId event)
            (depositKeypair secrets) :=
          (decryptSecret_passed steady_sweepable _).bind fun _ => fromSecretKey_passed steady_sweepable _
        exact Triple.bind hkeypair fun _ => keeps_pure
      · intro err
        exact Triple.bind (recordFailure_passed steady_sweepable event _) fun _ => keeps_pure
    refine Triple.bind (before_sweep hopen) fun opened => ?_
    apply triple_ite
    · intro _
      cases hbuild : buildSweepInstructions event.solLamports event.bertRaw
          pipelineDeps.rentReserveLamports with
      | error err =>
        exact Triple.mono (recordFailure_passed steady_sweepable event _) (fun _ hs => hs)
          (fun _ p hs => hs.1) fun p hs => hs.1
      | ok ixs =>
        apply triple_ite
        · intro _
          exact triple_pure fun p hs => hs.1
        · intro _
          exact sweepAndCredit_followed hbuild
    · intro _
      exact triple_pure fun p hs => hs.1

def Noticed (event : InflowEvent) (p : JournalPoint) : Prop :=
  Polling event.depositAddress p ∧ Fetched event.inboundTxSig p.1 (own .main p.2)

theorem onInflow_followed (event : InflowEvent) :
    Followed venue cfg env .main (Noticed event) (onInflow pipelineDeps event)
      (fun _ => Polling event.depositAddress) (Polling event.depositAddress) := by
  refine Triple.bind (B := fun user p => Noticed event p ∧
    getUserByDepositAddress event.depositAddress p.1.db = user)
    (triple_read fun _ _ hn => ⟨hn, rfl⟩) fun user => ?_
  cases user with
  | none => exact triple_pure fun p hn => hn.1.1
  | some user =>
    refine Triple.mono (A := Sweepable user.telegramId event) ?_ ?_ (fun _ _ hp => hp) fun _ hp => hp
    · refine Triple.bind (before_sweep (now_passed steady_sweepable)) fun ts => ?_
      refine Triple.bind (before_sweep
        (writeAudit_passed steady_sweepable (fun _ _ _ => rfl) ts _)) fun _ => ?_
      refine Triple.bind (before_sweep (getMid_passed steady_sweepable)) fun mid => ?_
      cases mid with
      | some mid => exact sweepInflow_followed
      | none =>
        refine Triple.bind (before_sweep (now_passed steady_sweepable)) fun ts => ?_
        exact Triple.mono (writeAudit_passed steady_sweepable (fun _ _ _ => rfl) ts _)
          (fun _ hs => hs) (fun _ p hs => hs.1) fun p hs => hs.1
    · rintro p ⟨⟨hpoll, hfetched⟩, hu⟩
      exact ⟨hpoll, getUserByDepositAddress_owns hu, hfetched⟩

theorem confirmationTime_passed (hA : Steady venue cfg env .main A) (blockTime : Option ℤ) :
    Passed venue cfg env .main A (confirmationTime blockTime) := by
  cases blockTime with
  | some blockTime => exact keeps_pure
  | none => exact (now_passed hA).bind fun _ => keeps_pure

theorem getParsedTransaction_followed (sig : String) :
    Followed venue cfg env .main (Polling address)
      ((watcherDeps cfg.bertMint).getParsedTransaction sig)
      (fun _ p => Polling address p ∧ Fetched sig p.1 (own .main p.2)) (Polling address) := by
  have hsteady : Steady venue cfg env .main
      (fun p => Polling address p ∧ Fetched sig p.1 (own .main p.2)) :=
    steady_polling.and steady_fetched
  refine triple_call (I := vaultInterface) (q := Query.getParsedTransaction sig) ?_ ?_
  · intro w h _ _
    exact told rfl rfl rfl trivial
  · intro w h w' h' a hpoll hr _
    have hcalled : Polling address (w, .call .main (Query.getParsedTransaction sig) w :: h) ∧
        Fetched sig w (own .main (.call .main (Query.getParsedTransaction sig) w :: h)) :=
      ⟨hpoll, w, mem_own_self rfl rfl, rfl⟩
    have hfound := rely_holds hsteady.disturb hr hcalled
    have hend := hsteady.tell (e := .answer .main (Query.getParsedTransaction sig) a w') rfl rfl
      trivial hfound
    refine ⟨told rfl rfl rfl trivial, ?_⟩
    cases a with
    | error err => exact hend.1
    | ok tx => exact hend

theorem pollSignature_followed (s : SignatureInfo) :
    Followed venue cfg env .main (Polling address)
      (pollSignature (watcherDeps cfg.bertMint) address s)
      (fun _ => Polling address) (Polling address) := by
  apply triple_ite
  · intro _
    exact keeps_pure
  · intro _
    refine Triple.bind (B := fun _ => Polling address) (triple_read fun _ _ hp => hp) ?_
    intro credited
    apply triple_ite
    · intro _
      exact keeps_pure
    · intro _
      refine (getParsedTransaction_followed s.signature).bind fun tx => ?_
      cases (tx : Option ParsedTransaction) with
      | none => exact triple_pure fun p hp => hp.1
      | some tx =>
        apply triple_ite
        · intro _
          exact triple_pure fun p hp => hp.1
        · intro _
          have hsteady : Steady venue cfg env .main
              (fun p => Polling address p ∧ Fetched s.signature p.1 (own .main p.2)) :=
            steady_polling.and steady_fetched
          refine Triple.bind (Triple.mono (confirmationTime_passed hsteady s.blockTime)
            (fun _ hp => hp) (fun _ _ hp => hp) fun p hp => hp.1) fun confirmedAt => ?_
          exact onInflow_followed ⟨address, s.signature, _, _, confirmedAt⟩

theorem pollSignatures_followed (sigs : List SignatureInfo) :
    Followed venue cfg env .main (Polling address)
      (Async.forEach sigs (pollSignature (watcherDeps cfg.bertMint) address))
      (fun _ => Polling address) (Polling address) :=
  triple_forEach (A := fun _ : List SignatureInfo => Polling address)
    (fun s _ => pollSignature_followed s) sigs

theorem getSignatures_followed (bertAta : Bool) (limit : ℕ) :
    Followed venue cfg env .main (fun _ => True)
      ((watcherDeps cfg.bertMint).getSignaturesForAddress address bertAta limit)
      (fun _ => Polling address) fun _ => True := by
  refine triple_call (I := vaultInterface)
    (q := Query.getSignaturesForAddress address bertAta limit) ?_ ?_
  · intro w h _ _
    exact told rfl rfl rfl trivial
  · intro w h w' h' a _ hr _
    have hcalled : Polling address
        (w, .call .main (Query.getSignaturesForAddress address bertAta limit) w :: h) := rfl
    have hsteady : Steady venue cfg env .main (Polling address) := steady_polling
    have hfound := rely_holds hsteady.disturb hr hcalled
    refine ⟨told rfl rfl rfl trivial, ?_⟩
    cases a with
    | error err => exact trivial
    | ok sigs => exact hfound

theorem pollAddress_obeys (address : Address) :
    Obeys venue cfg env .main (fun _ => True) (pollAddress (watcherDeps cfg.bertMint) address) := by
  refine Triple.bind (Triple.mono (getSignatures_followed false 10) (fun _ hp => hp)
    (fun _ _ _ => trivial) fun _ hp => hp) fun sigsMain => ?_
  refine (getSignatures_followed true 10).bind fun sigsAta => ?_
  exact Triple.mono (pollSignatures_followed _) (fun _ hp => hp) (fun _ _ _ => trivial)
    fun _ _ => trivial

/-- Dependencies of the executor that do nothing but ask the host. -/
structure Dependable (venue : Venue) (cfg : BotConfig) (env : Environment) (deps : ExecutorDeps) :
    Prop where
  getMid : ∀ {A}, Steady venue cfg env .main A → Passed venue cfg env .main A deps.getMid
  getWalletBalances : ∀ {A}, Steady venue cfg env .main A →
    Passed venue cfg env .main A deps.getWalletBalances
  getPositionSnapshot : ∀ {A}, Steady venue cfg env .main A →
    Passed venue cfg env .main A deps.getPositionSnapshot
  partialClose : ∀ {A}, Steady venue cfg env .main A → ∀ sol bert,
    Passed venue cfg env .main A (deps.partialClose sol bert)
  executeTransfer : ∀ destination sol bert, deps.executeTransfer destination sol bert =
    Async.call (I := vaultInterface) (Query.executeTransfer destination sol bert)

theorem hostDeps_dependable (reserve : ℕ) : Dependable venue cfg env (hostDeps reserve) where
  getMid hA := passed_call hA (fun _ _ => ⟨trivial, trivial⟩) fun _ _ _ => ⟨trivial, trivial⟩
  getWalletBalances hA := getWalletBalances_passed hA
  getPositionSnapshot hA :=
    passed_call hA (fun _ _ => ⟨trivial, trivial⟩) fun _ _ _ => ⟨trivial, trivial⟩
  partialClose hA _ _ :=
    passed_call hA (fun _ _ => ⟨trivial, trivial⟩) fun _ _ _ => ⟨trivial, trivial⟩
  executeTransfer _ _ _ := rfl

theorem executorDeps_dependable (minSolFloorLamports : ℕ) :
    Dependable venue cfg env (executorDeps venue minSolFloorLamports) where
  getMid hA := getMid_passed hA
  getWalletBalances hA := getWalletBalances_passed hA
  getPositionSnapshot hA := by
    refine keeps_read.bind fun stored => ?_
    cases stored with
    | none => exact keeps_pure
    | some stored =>
      refine keeps_read.bind fun last => ?_
      exact (getPosition_passed hA _ _).bind fun _ => keeps_pure
  partialClose hA sol bert := by
    refine keeps_read.bind fun stored => ?_
    cases stored with
    | none => exact keeps_throw
    | some stored =>
      exact passed_call hA (fun _ _ => ⟨trivial, trivial⟩) fun _ _ _ => ⟨trivial, trivial⟩
  executeTransfer _ _ _ := rfl

theorem amend_obeys {st : Stmt} {f : Db → Except Thrown (α × Db)} {id : ℕ}
    {g : WithdrawalRow → WithdrawalRow}
    (hg : ∀ h w o, Guarded venue cfg h (.choice i (Choice.statement st) w o))
    (hf : ∀ db a db', f db = .ok (a, db') → db' = updateWithdrawal id g db)
    (horder : ∀ r, order (g r) = order r) :
    Followed venue cfg env i A (statement st f) (fun _ _ => True) fun _ => True := by
  refine Triple.mono (A := fun _ => True) (B := fun _ _ => True) (E := fun _ => True) ?_
    (fun _ _ => trivial) (fun _ _ hb => hb) fun _ he => he
  refine followed_statement steady_true (fun _ ha => ha) (fun w h o _ => hg h w o) ?_
  intro w h a db _ _ hdb
  obtain rfl := hf _ _ _ hdb
  exact ⟨changed (.amendWithdrawal id g) horder, trivial⟩

theorem failWithdrawal_obeys (id : ℕ) (reason : String) (processedAt : ℤ) :
    Obeys venue cfg env i A (failWithdrawal id reason processedAt) := by
  apply amend_obeys (g := failed reason processedAt)
  · intro h w o
    exact trivial
  · intro db a db' hdb
    cases hdb
    rfl
  · intro r
    rfl

theorem recordTxSig_order (txSig : Signature) (r : WithdrawalRow) :
    order (recordTxSig txSig r) = order r := by
  unfold recordTxSig
  split <;> rfl

theorem startProcessing_order (r : WithdrawalRow) : order (startProcessing r) = order r := by
  unfold startProcessing
  split <;> rfl

variable {deps : ExecutorDeps}

theorem payOut_followed (hd : Dependable venue cfg env deps) (row : WithdrawalRow) (p : Payout) :
    Followed venue cfg env .main (fun q => Stored row.id row.destination q.1)
      (payOut deps row p) (fun _ _ => True) fun _ => True := by
  have htake : Followed venue cfg env .main (fun q => Stored row.id row.destination q.1)
      (record (.transfer row.id row.destination p.needSol p.needBert))
      (fun _ q => Paying row.destination p.needSol p.needBert q.1) fun _ => True := by
    apply triple_modify
    intro w h _ hs
    exact ⟨changed (.record _) rfl, row.id, w.trace, rfl, hs⟩
  refine htake.bind fun _ => ?_
  have hpay : Followed venue cfg env .main
      (fun q => Paying row.destination p.needSol p.needBert q.1)
      (deps.executeTransfer row.destination p.needSol p.needBert) (fun _ _ => True)
      fun _ => True := by
    rw [hd.executeTransfer]
    refine triple_call (I := vaultInterface)
      (q := Query.executeTransfer row.destination p.needSol p.needBert) ?_ ?_
    · intro w h _ hpaying
      exact told rfl rfl rfl hpaying
    · intro w h w' h' a _ _ _
      refine ⟨told rfl rfl rfl trivial, ?_⟩
      cases a <;> exact trivial
  refine hpay.bind fun answer => Triple.bind passed_nonNull fun txSig => ?_
  refine Triple.bind (recorded_passed (A := fun _ => True) (fun _ _ _ _ => trivial) _) fun _ => ?_
  exact triple_pure fun _ _ => trivial

theorem executeTransfer_followed (hd : Dependable venue cfg env deps) (ms : ℤ)
    (row : WithdrawalRow) (p : Payout) :
    Followed venue cfg env .main (fun q => Stored row.id row.destination q.1)
      (executeTransfer deps ms row p) (fun _ _ => True) fun _ => True := by
  apply Triple.tryCatch (D := fun _ => True)
  · exact (payOut_followed hd row p).bind fun _ => triple_pure fun _ _ => trivial
  · intro err
    refine Triple.bind (failWithdrawal_obeys row.id _ ms) fun _ => ?_
    refine Triple.bind (writeAudit_passed steady_true (fun _ _ _ => rfl) ms _) fun _ => ?_
    exact triple_pure fun _ _ => trivial

theorem recordSent_followed (ms : ℤ) (row : WithdrawalRow) (txSig : Signature) :
    Followed venue cfg env .main A (recordSent ms row txSig) (fun _ _ => True)
      fun _ => True := by
  apply Triple.tryCatch (D := fun _ => True)
  · refine Triple.bind (B := fun _ _ => True) ?_ fun _ => triple_pure fun _ _ => trivial
    apply amend_obeys (g := recordTxSig txSig)
    · intro h w o
      exact trivial
    · intro db a db' hdb
      split at hdb
      · cases hdb
        rfl
      · cases hdb
    · exact recordTxSig_order txSig
  · intro err
    refine Triple.bind (writeAudit_passed steady_true (fun _ _ _ => rfl) ms _) fun _ => ?_
    exact triple_pure fun _ _ => trivial

theorem completion_obeys (ms : ℤ) (row : WithdrawalRow) (p : Payout) (txSig : Signature) :
    Obeys venue cfg env .main A (completion ms row p txSig) := by
  refine weaken (A := fun _ => True) ?_ fun _ _ => trivial
  refine passed_then keeps_read fun totalSharesBefore => ?_
  apply followed_transaction (A := fun _ => True) fun _ ha => ha
  intro t w h _ _ hshown
  apply within_bind
  apply within_transaction
  apply within_bind
  apply within_readDb
  cases getWithdrawalById row.id w.db with
  | none => exact ⟨hshown.kept, trivial⟩
  | some found =>
    apply within_bind
    refine within_statement steady_true hshown (fun _ => trivial) ?_
    intro _ db hdb hshown
    cases hdb
    refine within_statement steady_true hshown (fun _ => trivial) ?_
    intro _ db hdb hshown
    obtain ⟨shares, rfl⟩ := addShares_ok hdb
    apply within_bind
    apply within_readDb
    apply within_bind
    refine within_statement steady_true hshown (fun _ => trivial) ?_
    intro _ db hdb hshown
    cases hdb
    refine within_statement steady_true hshown (fun _ => trivial) ?_
    intro _ db hdb hshown
    cases hdb
    let done : Completion := ⟨row.id, txSig, p.needSol, p.needBert, p.navPerShare, ms⟩
    have horder : ∀ r, order (done.apply r) = order r := fun _ => rfl
    have hamend := hshown.kept.more (changed (.amendWithdrawal row.id done.apply) horder)
    refine ⟨hamend.more (minored ?_), trivial⟩
    exact ⟨⟨rfl, rfl, rfl, rfl, sweptRows_append rfl, rfl⟩, rfl, rfl⟩

theorem settle_obeys (hd : Dependable venue cfg env deps) (ms : ℤ) (row : WithdrawalRow)
    (p : Payout) :
    Obeys venue cfg env .main (fun q => Stored row.id row.destination q.1)
      (settle deps ms row p) := by
  refine any_then (executeTransfer_followed hd ms row p) fun sent => ?_
  cases sent with
  | none => exact obeys_pure
  | some txSig =>
    refine any_then (recordSent_followed ms row txSig) fun recorded => ?_
    apply triple_ite
    · intro _
      apply Triple.tryCatch (D := fun _ => True)
      · exact completion_obeys ms row p txSig
      · intro err
        refine passed_then (writeAudit_passed steady_true (fun _ _ _ => rfl) ms _) fun _ => ?_
        exact triple_throw fun _ _ => trivial
    · intro _
      exact obeys_pure

theorem closeShort_passed (hd : Dependable venue cfg env deps)
    (hA : Steady venue cfg env .main A) (sol bert : ℤ) :
    Passed venue cfg env .main A (closeShort deps sol bert) := by
  apply keeps_ite
  · exact hd.partialClose hA sol bert
  · exact keeps_pure

theorem secureReserves_passed (hd : Dependable venue cfg env deps)
    (hA : Steady venue cfg env .main A) (bal : Balances) (p : Payout) :
    Passed venue cfg env .main A (secureReserves deps bal p) := by
  apply keeps_ite
  · exact keeps_pure
  · refine (closeShort_passed hd hA _ _).bind fun _ => ?_
    refine (hd.getWalletBalances hA).bind fun bal2 => passed_nonNull.bind fun bal2 => ?_
    exact keeps_pure

theorem processRow_obeys (hd : Dependable venue cfg env deps) (ms : ℤ) (mid : Mid)
    (row : WithdrawalRow) :
    Obeys venue cfg env .main (fun q => Stored row.id row.destination q.1)
      (processRow deps ms mid row) := by
  have hA : Steady venue cfg env .main (fun q => Stored row.id row.destination q.1) := steady_stored
  refine passed_then (hd.getWalletBalances hA) fun bal => ?_
  refine passed_then (hd.getPositionSnapshot hA) fun pos => ?_
  refine passed_then passed_nonNull fun bal => passed_then passed_nonNull fun pos => ?_
  refine passed_then keeps_read fun total => passed_then passed_liftExcept fun p => ?_
  refine passed_then (secureReserves_passed hd hA bal p) fun secured => ?_
  apply triple_ite
  · intro _
    exact settle_obeys hd ms row p
  · intro _
    exact failWithdrawal_obeys row.id _ ms

theorem processOne_obeys (hd : Dependable venue cfg env deps) (id : ℕ) :
    Obeys venue cfg env .main A (processOne deps id) := by
  refine weaken (A := fun _ => True) ?_ fun _ _ => trivial
  refine passed_then (now_passed steady_true) fun ms => ?_
  refine passed_then (hd.getMid steady_true) fun mid => ?_
  cases mid with
  | none => exact failWithdrawal_obeys id _ ms
  | some mid =>
    refine followed_then followed_readDb fun found => ?_
    cases found with
    | none => exact obeys_pure
    | some row =>
      refine weaken (processRow_obeys hd ms mid row) ?_
      rintro p ⟨-, hfound⟩
      have hmem := (List.mem_filter.mp (List.mem_of_find?_eq_some hfound)).1
      exact ⟨row, hmem, rfl, rfl⟩

theorem drainRow_obeys (hd : Dependable venue cfg env deps) (id : ℕ) :
    Obeys venue cfg env .main A (drainRow deps id) := by
  refine weaken (A := fun _ => True) ?_ fun _ _ => trivial
  refine passed_then (recorded_passed (fun _ _ _ _ => trivial) _) fun _ => ?_
  refine any_then ?_ fun _ => ?_
  · apply amend_obeys (g := startProcessing)
    · intro h w o
      exact trivial
    · intro db a db' hdb
      cases hdb
      rfl
    · exact startProcessing_order
  · apply Triple.tryCatch (D := fun _ => True)
    · exact processOne_obeys hd id
    · intro err
      refine passed_then keeps_read fun row => ?_
      cases row.bind WithdrawalRow.txSig with
      | some txSig => exact obeys_pure
      | none =>
        refine passed_then (now_passed steady_true) fun ms => ?_
        exact failWithdrawal_obeys id _ ms

theorem forEach_obeys {f : β → Vault Unit}
    (hf : ∀ x, Obeys venue cfg env i (fun _ => True) (f x)) (xs : List β) :
    Obeys venue cfg env i A (Async.forEach xs f) := by
  have hall := triple_forEach (A := fun _ _ => True) (E := fun _ => True) (fun x _ => hf x) xs
  exact Triple.mono hall (fun _ _ => trivial) (fun _ _ _ => trivial) fun _ _ => trivial

theorem drain_obeys (hd : Dependable venue cfg env deps) :
    Obeys venue cfg env .main A (drain deps) := by
  refine weaken (A := fun _ => True) ?_ fun _ _ => trivial
  exact passed_then keeps_read fun queued => forEach_obeys (fun id => drainRow_obeys hd id) _

/-- These rows wait for their activation at this reading. -/
structure Due (ms : ℤ) (rows : List WhitelistChangeRow) (p : JournalPoint) : Prop where
  reading : Reading ms p.2
  distinct : (rows.map WhitelistChangeRow.id).Nodup
  pending : ∀ c ∈ rows, c ∈ p.1.db.whitelistChanges ∧ c.status = .pending ∧ c.activatesAt ≤ ms

theorem reading_cons {ms : ℤ} (hr : Reading ms h) : Reading ms (e :: h) := by
  obtain ⟨i, w, hmem⟩ := hr
  exact ⟨i, w, List.mem_cons_of_mem e hmem⟩

theorem listDue_due {ms : ℤ} (ht : Tidy w) (hr : Reading ms h) :
    Due ms (listDueWhitelistChanges ms w.db) (w, h) := by
  refine ⟨hr, ?_, ?_⟩
  · have hperm := (List.perm_insertionSort (fun a b : WhitelistChangeRow =>
      a.activatesAt ≤ b.activatesAt) (w.db.whitelistChanges.filter fun c =>
        c.status = .pending ∧ c.activatesAt ≤ ms)).map WhitelistChangeRow.id
    refine hperm.nodup_iff.mpr ?_
    exact ht.changes.sublist (List.filter_sublist.map _)
  · intro c hc
    have hmem := (List.mem_insertionSort _).mp hc
    simpa using hmem

theorem activateChange_followed (ms : ℤ) (c : WhitelistChangeRow) (rows : List WhitelistChangeRow) :
    Followed venue cfg env .main (Due ms (c :: rows)) (activateChange ms c)
      (fun _ => Due ms rows) fun _ => True := by
  apply followed_transaction (A := fun _ => True) fun _ _ => trivial
  intro t w h _ hdue hshown
  obtain ⟨hmem, hstatus, hat⟩ := hdue.pending c (List.mem_cons_self ..)
  apply within_bind
  refine within_statement steady_true hshown (fun _ => trivial) ?_
  intro _ db hdb hshown
  cases hdb
  refine within_statement steady_true hshown (fun _ => trivial) ?_
  intro _ db hdb hshown
  cases hdb
  have hreading := reading_cons (e := .choice .main
    (Choice.statement (.markWhitelistActivated c.id)) w (none : Option Thrown))
    (reading_cons (e := .choice .main (Choice.statement (.setWhitelistImmediate c.telegramId)) w
      (none : Option Thrown)) hdue.reading)
  have hpermitted : Permitted venue cfg .main w _ (.activateWhitelist c) :=
    ⟨rfl, hmem, hstatus, ms, hreading, hat⟩
  refine ⟨(hshown.kept.more (changed _ hpermitted)).more (minored ?_), hreading, ?_, ?_⟩
  · refine ⟨⟨?_, rfl, rfl, rfl, rfl, rfl⟩, rfl, rfl⟩
    have hleft := accounts_whitelist (u := c.telegramId) c.newAddress w.db
    refine Eq.trans ?_ hleft.symm
    exact accounts_updateUser (fun _ => rfl) _
  · exact (List.nodup_cons.mp hdue.distinct).2
  · intro c' hc'
    obtain ⟨hmem', hrest⟩ := hdue.pending c' (List.mem_cons_of_mem c hc')
    refine ⟨mem_amend.mpr (.inl ⟨hmem', ?_⟩), hrest⟩
    intro hid
    have hnot := (List.nodup_cons.mp hdue.distinct).1
    rw [← hid] at hnot
    exact hnot (List.mem_map_of_mem hc')

theorem activateWhitelists_obeys : Obeys venue cfg env .main A activateWhitelists := by
  refine weaken (A := fun _ => True) ?_ fun _ _ => trivial
  have hread : Followed venue cfg env .main (fun _ => True) now (fun ms p => Reading ms p.2)
      fun _ => True := by
    refine triple_choose (I := vaultInterface) (c := Choice.clock) ?_
    intro w h ms _ _ _
    exact ⟨told rfl rfl rfl trivial, .main, w, List.mem_cons_self ..⟩
  refine hread.bind fun ms => ?_
  refine any_then ?_ fun activated => ?_
  · have hlist : Followed venue cfg env .main (fun p => Reading ms p.2)
        (readDb (listDueWhitelistChanges ms)) (fun rows p => Due ms rows p) fun _ => True :=
      triple_read fun p ht hr => listDue_due ht hr
    refine hlist.bind fun due => ?_
    have hall : Followed venue cfg env .main (Due ms due) _ _ _ :=
      triple_forEach (A := Due ms) (E := fun _ => True) (activateChange_followed ms) due
    exact hall.bind fun _ => triple_pure fun _ _ => trivial
  · apply forEach_obeys
    intro row
    refine passed_then (now_passed steady_true) fun ts => ?_
    exact obeys_of (writeAudit_passed steady_true (fun _ _ _ => rfl) ts _)

theorem swallow_obeys {m : Vault Unit} (hm : Obeys venue cfg env i A m) :
    Obeys venue cfg env i A (swallow m) :=
  Triple.tryCatch (D := fun _ => True) hm fun _ => triple_pure fun _ _ => trivial

theorem readOracle_obeys (oracleDivergenceBps : ℚ) (tickStart : ℤ) :
    Obeys venue cfg env .main A (readOracle oracleDivergenceBps tickStart) := by
  refine weaken (A := fun _ => True) ?_ fun _ _ => trivial
  have hfetch : Passed venue cfg env .main (fun _ => True)
      (Async.call (I := vaultInterface) Query.fetchAllSources) :=
    passed_call steady_true (fun _ _ => ⟨trivial, trivial⟩) fun _ _ _ => ⟨trivial, trivial⟩
  refine passed_then hfetch fun samples => obeys_of (passed_memory steady_true ?_ ?_)
  · intro m
    unfold observeMid
    split <;> rfl
  · intro m
    unfold observeMid
    split <;> rfl

theorem tick_obeys : Obeys venue cfg env .main A (tick venue cfg) := by
  refine weaken (A := fun _ => True) ?_ fun _ _ => trivial
  refine passed_then (now_passed steady_true) fun tickStart => ?_
  refine passed_then (passed_choose (c := .killSwitch) steady_true fun _ _ _ => trivial) ?_
  intro killed
  refine any_then (readOracle_obeys _ _) fun _ => ?_
  refine any_then ?_ fun _ => ?_
  · refine passed_then keeps_read fun users => forEach_obeys (fun user => ?_) _
    exact swallow_obeys (pollAddress_obeys user.depositAddress)
  · have hstage : Passed venue cfg env .main (fun _ => True)
        (Async.call (I := vaultInterface) Query.rebalanceStage) :=
      passed_call steady_true (fun _ _ => ⟨trivial, trivial⟩) fun _ _ _ => ⟨trivial, trivial⟩
    refine passed_then hstage fun goesOn => ?_
    apply triple_ite
    · intro _
      refine any_then ?_ fun _ => swallow_obeys activateWhitelists_obeys
      refine passed_then keeps_read fun paused => passed_then keeps_read fun degraded => ?_
      apply triple_ite
      · intro _
        exact obeys_pure
      · intro _
        exact swallow_obeys (drain_obeys (executorDeps_dependable cfg.minSolFloorLamports))
    · intro _
      exact obeys_pure

theorem choose_state {F : World → Prop} {c : Choice}
    (hg : ∀ h w o, Guarded venue cfg h (.choice i c w o)) :
    Followed venue cfg env i (fun p => F p.1) (Async.choose (I := vaultInterface) c)
      (fun _ p => F p.1) fun _ => True := by
  refine triple_choose ?_
  intro w h o _ hf _
  exact ⟨told rfl rfl rfl (hg h w o), hf⟩

theorem encryptSecret_state {F : World → Prop} (plaintext : Bytes) :
    Followed venue cfg env i (fun p => F p.1) (encryptSecret plaintext)
      (fun _ p => F p.1) fun _ => True := by
  refine Triple.bind (choose_state (c := .masterKey) fun _ _ _ => trivial) fun key => ?_
  apply triple_ite
  · exact fun _ => triple_throw fun _ _ => trivial
  · intro _
    refine Triple.bind (choose_state (c := .randomBytes ivBytes) fun _ _ _ => trivial) fun iv => ?_
    refine Triple.bind (choose_state (c := .cipher key iv plaintext) fun _ _ _ => trivial) ?_
    exact fun _ => triple_pure fun _ hf => hf

theorem foundVault_obeys (b : BootstrapParams) (kp : Keypair) (enc : EncryptedBlob) (ms : ℤ) :
    Obeys venue cfg env .cli (fun p => p.1.db.users = []) (foundVault b kp enc ms) := by
  apply followed_transaction (A := fun _ => True) fun _ _ => trivial
  intro t w h _ husers hshown
  apply within_bind
  refine within_statement steady_true hshown (fun _ => trivial) ?_
  intro _ db hdb hshown
  split at hdb
  · cases hdb
  · cases hdb
    apply within_bind
    refine within_statement steady_true hshown (fun _ => trivial) ?_
    intro _ db hdb hshown
    obtain ⟨shares, rfl⟩ := addShares_ok hdb
    apply within_bind
    refine within_statement steady_true hshown (fun _ => trivial) ?_
    intro _ db hdb hshown
    cases hdb
    refine within_statement steady_true hshown (fun _ => trivial) ?_
    intro _ db hdb hshown
    cases hdb
    have hnobody : accounts w.db = [] := by simp [accounts, show w.db.users = [] from husers]
    let founder : UserRow :=
      ⟨b.operatorTelegramId, .operator, kp.publicKey, enc, none, none, none, none, none, ms, ms⟩
    have hpermitted : Permitted venue cfg .cli w [] (.addUser founder) := by
      refine ⟨by decide, fun _ => husers, ?_, rfl, rfl⟩
      intro a ha
      rw [hnobody] at ha
      cases ha
    refine ⟨(hshown.kept.more (changed (.addUser founder) hpermitted)).more (minored ?_), trivial⟩
    exact ⟨⟨rfl, rfl, rfl, rfl, sweptRows_append rfl, rfl⟩, rfl, rfl⟩

theorem vaultBootstrap_obeys (b : BootstrapParams) :
    Obeys venue cfg env .cli A (vaultBootstrap ensureAta b) := by
  refine weaken (A := fun _ => True) ?_ fun _ _ => trivial
  apply triple_ite
  · intro _
    refine passed_then (now_passed steady_true) fun ms => ?_
    refine followed_then followed_readDb fun users => ?_
    apply triple_ite
    · intro _
      exact triple_throw fun _ _ => trivial
    · intro hnone
      refine weaken (A := fun p => p.1.db.users = []) ?_ ?_
      · refine Triple.bind (choose_state (F := fun w => w.db.users = []) (c := .generateKeypair)
          fun _ _ _ => trivial) fun kp => ?_
        refine Triple.bind (encryptSecret_state (F := fun w => w.db.users = []) _) fun enc => ?_
        refine any_then (foundVault_obeys b kp enc ms) fun _ => ?_
        exact obeys_of (ensureAta_passed steady_true _)
      · rintro p ⟨-, hlist⟩
        have hempty : listUsers p.1.db = [] := by
          rw [hlist]
          exact not_not.mp hnone
        have hperm := List.perm_insertionSort (fun a b : UserRow => a.createdAt < b.createdAt ∨
          (a.createdAt = b.createdAt ∧ a.telegramId ≤ b.telegramId)) p.1.db.users
        have hsorted := List.map_eq_nil_iff.mp hempty
        rw [hsorted] at hperm
        exact List.perm_nil.mp hperm.symm
  · intro _
    exact triple_throw fun _ _ => trivial

theorem job_obeys (j : Job) : Obeys venue cfg env j.fiber
    (fun p => own j.fiber p.2 = [.start j.fiber j p.1]) (j.program venue cfg) := by
  cases j with
  | tick => exact tick_obeys
  | drain => exact drain_obeys (hostDeps_dependable cfg.minSolFloorLamports)
  | message msg => exact DispatchJournal.dispatch_chatted
  | button msg => exact DispatchJournal.dispatchCallback_chatted
  | bootstrap b => exact vaultBootstrap_obeys b

theorem tidy_restart (venue : Venue) (cfg : BotConfig) (env : Environment) (w : World)
    (h : Journal) (ht : (journalMachine venue cfg env).inv (w, h)) :
    (journalMachine venue cfg env).inv (w.restart, .stop w :: h) :=
  ⟨ht.users, ht.addresses, ht.deposits, ht.withdrawals, ht.changes⟩

/-- What each fiber promises the others, in terms of the journal. -/
abbrev journalDiscipline (venue : Venue) (cfg : BotConfig) (env : Environment) :=
  (journalMachine venue cfg env).discipline (vaultJobs venue cfg)
    (tidy_restart venue cfg env)

theorem journal_safe : (journalDiscipline venue cfg env).JobsSafe := by
  rintro i m ⟨j, rfl, rfl⟩ p hp
  apply triple_job
  · intro w h
    exact .begin j
  · intro w h
    refine weaken (job_obeys j) ?_
    rintro p rfl
    exact own_start
  · exact hp

theorem tidy_initial (chain : Chain) : Tidy (World.initial chain) := by
  constructor <;> exact List.nodup_nil

theorem journaled_invariant {P : JournalPoint → Prop} {p : JournalPoint}
    (hj : Journaled venue cfg env.host p) (hstart : ∀ chain, P (World.initial chain, []))
    (turn : ∀ p q, Tidy p.1 → P p →
      (journalMachine venue cfg env).Turn World.restart p q → P q) : P p := by
  obtain ⟨chain, c, ex, rfl⟩ := hj
  have hholds : (journalDiscipline venue cfg env).Holds (idle (World.initial chain, [])) :=
    idle_holds (tidy_initial chain)
  exact execution_invariant journal_safe hholds turn ex (hstart chain)

end MainJournal
