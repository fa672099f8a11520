import BertMMBot.VaultJournal

/-! # The machine behind the journal

Every stretch of the bot adds lines to its journal and makes a few changes to its tables in
between. A privileged line is added, and a change is made, only under a condition on the
journal that its fiber has written so far. -/
namespace JournalMachine

open AsyncProgram AsyncContract AsyncFibers AsyncRecords RecordedTriples KeyedTable
open VaultTypes VaultProgram VaultDiscipline DepositorStore ShareMath LedgerMachine
open WithdrawalExecutor DepositPipeline AccountSecurity DepositorCommands OperatorCommands
open MeteoraPosition VaultRuntime VaultJournal

/-- The latest thing done was to issue a sweep of this inflow. -/
def Sweeping (inboundTxSig : String) (ixs : List SweepInstruction) (w : World) : Prop :=
  ∃ sol bert rest, w.trace = .sweep inboundTxSig sol bert :: rest ∧
    buildSweepInstructions sol bert pipelineDeps.rentReserveLamports = .ok ixs

/-- The main loop fetched the transaction, and no sweep was recorded since. -/
def Fetched (inboundTxSig : String) (w : World) (L : Journal) : Prop :=
  ∃ w₁, Entry.call .main (Query.getParsedTransaction inboundTxSig) w₁ ∈ L ∧
    sweptRows w.db = sweptRows w₁.db

/-- The latest thing done was to issue the payout of a stored row. -/
def Paying (destination : Address) (sol bert : ℤ) (w : World) : Prop :=
  ∃ id rest, w.trace = .transfer id destination sol bert :: rest ∧
    ∃ r ∈ w.db.withdrawals, r.id = id ∧ r.destination = destination

/-- A sweep of the inflow is on record, or the audit log told the operator of one. -/
def Traced (inboundTxSig : String) (i : Fiber) (h : Journal) : Prop :=
  match i with
  | .main => ∃ s ∈ sweeps h, s.inboundTxSig = inboundTxSig
  | .telegram => ∃ w o, Entry.choice .telegram Choice.consult w o ∈ own .telegram h ∧
      ∃ r ∈ sweptRows w.db, r.inboundTxSig = inboundTxSig
  | .cli => False

/-- The session cancelled the waiting change that its user had asked for last, and no other. -/
def CancelledLast (u : TelegramId) (w : World) (h : Journal) : Prop :=
  ∃ (w₀ : World) (c : WhitelistChangeRow) (reason : String),
    (Entry.choice .telegram (Choice.statement (.cancelPendingWhitelist c.id)) w₀
      (none : Option Thrown) : Line) ∈ own .telegram h ∧
    mostRecentPendingChange u w₀.db = some c ∧
    w.db.whitelistChanges = amend WhitelistChangeRow.id c.id
      (fun r => { r with status := .cancelled, cancelReason := some reason }) w₀.db.whitelistChanges

/-- What a line needs of the journal it is added to. -/
def Guarded (venue : Venue) (cfg : BotConfig) (h : Journal) : Line → Prop
  | .choice i (Choice.statement (.enqueueWithdrawal u _)) w _ =>
    i = .telegram ∧ Authorized venue cfg u (own .telegram h) ∧
      (Enrolled u w.db ∨ Lapsed u (own .telegram h))
  | .choice i (Choice.statement (.enqueueWhitelistChange u)) w _ =>
    i = .telegram ∧ Authorized venue cfg u (own .telegram h) ∧ Enrolled u w.db
  | .choice i (Choice.statement (.cancelPendingWhitelist id)) w _ =>
    i = .telegram ∧ ∃ c ∈ w.db.whitelistChanges, c.id = id ∧
      Authorized venue cfg c.telegramId (own .telegram h) ∧ Enrolled c.telegramId w.db
  | .choice i (Choice.statement (.creditDeposit inboundTxSig)) _ _ => Traced inboundTxSig i h
  | .call i (Query.reply _ (.depositAddress address)) w =>
    i = .telegram ∧ ∃ u, Authorized venue cfg u (own .telegram h) ∧ Enrolled u w.db ∧
      Owns u address w.db
  | .call i (Query.reply _ (.balance _ _ _)) w =>
    i = .telegram ∧ ∃ u, Authorized venue cfg u (own .telegram h) ∧ Enrolled u w.db
  | .call i (Query.reply _ (.amountExceedsBalance _)) w =>
    i = .telegram ∧ ∃ u, speaker (own .telegram h) = some u ∧
      (Enrolled u w.db ∨ Overdrawn venue cfg u (own .telegram h))
  | .call _ (Query.reply _ (.totpReset u)) w => ¬Enrolled u w.db
  | .call i (Query.reply _ .whitelistCancelled) w =>
    i = .telegram ∧ ∃ u, Authorized venue cfg u (own .telegram h) ∧ CancelledLast u w h
  | .call i (Query.reply _ .nothingToCancel) w =>
    i = .telegram ∧ ∃ u, Authorized venue cfg u (own .telegram h) ∧
      mostRecentPendingChange u w.db = none
  | .call _ (Query.reply _ (.withdrawPrompt _ _)) _ => False
  | .call _ (Query.reply _ (.withdrawEntryPrompt _ _)) _ => False
  | .call _ (Query.submitTx ixs) w =>
    ∃ inboundTxSig, Sweeping inboundTxSig ixs w ∧ Fetched inboundTxSig w (own .main h)
  | .answer _ (Query.submitTx ixs) _ w => ∃ inboundTxSig, Sweeping inboundTxSig ixs w
  | .call _ (Query.executeTransfer destination sol bert) w => Paying destination sol bert w
  | _ => True

/-- Lines that no function of the journal looks at. -/
def Plain : Line → Prop
  | .call .main (Query.getSignaturesForAddress _ _ _) _ => False
  | .answer .main (Query.submitTx _) _ _ => False
  | .call .telegram (Query.reply _ (.withdrawPrompt _ _)) _ => False
  | .call .telegram (Query.reply _ (.withdrawEntryPrompt _ _)) _ => False
  | _ => True

inductive Change where
  | addUser (row : UserRow)
  | setEnrolment (telegramId : TelegramId) (enrolledAt : Option ℤ)
  | addDeposit (d : DepositRow)
  | addWithdrawal (row : WithdrawalRow)
  | amendWithdrawal (id : ℕ) (f : WithdrawalRow → WithdrawalRow)
  | requestWhitelist (c : WhitelistChangeRow)
  | firstWhitelist (c : WhitelistChangeRow)
  | activateWhitelist (c : WhitelistChangeRow)
  | cancelWhitelist (c : WhitelistChangeRow) (reason : String)
  | addSwept (row : AuditRow)
  | setPending (userId : TelegramId) (action : Option PendingAction)
  | setUnlocked (userId : TelegramId) (until_ : ℤ)
  | record (e : TraceEvent)

def enrol (enrolledAt : Option ℤ) (r : UserRow) : UserRow := { r with totpEnrolledAt := enrolledAt }

def whitelist (address : Address) (r : UserRow) : UserRow :=
  { r with whitelistAddress := some address }

def activated (r : WhitelistChangeRow) : WhitelistChangeRow := { r with status := .activated }

def cancelled (reason : String) (r : WhitelistChangeRow) : WhitelistChangeRow :=
  { r with status := .cancelled, cancelReason := some reason }

def withPending (userId : TelegramId) (action : Option PendingAction) (m : Memory) : Memory :=
  { m with pending := Function.update m.pending userId action }

def withUnlocked (userId : TelegramId) (until_ : ℤ) (m : Memory) : Memory :=
  { m with unlockedUntil := Function.update m.unlockedUntil userId (some until_) }

def Change.apply (w : World) : Change → World
  | .addUser row => w.withDb { w.db with users := w.db.users ++ [row] }
  | .setEnrolment u enrolledAt => w.withDb (updateUser u (enrol enrolledAt) w.db)
  | .addDeposit d => w.withDb { w.db with deposits := w.db.deposits ++ [d] }
  | .addWithdrawal row => w.withDb { w.db with withdrawals := w.db.withdrawals ++ [row] }
  | .amendWithdrawal id f => w.withDb (updateWithdrawal id f w.db)
  | .requestWhitelist c => w.withDb { w.db with whitelistChanges := w.db.whitelistChanges ++ [c] }
  | .firstWhitelist c => w.withDb (updateUser c.telegramId (whitelist c.newAddress)
      { w.db with whitelistChanges := w.db.whitelistChanges ++ [c] })
  | .activateWhitelist c => w.withDb (updateWhitelistChange c.id activated
      (updateUser c.telegramId (whitelist c.newAddress) w.db))
  | .cancelWhitelist c reason => w.withDb (updateWhitelistChange c.id (cancelled reason) w.db)
  | .addSwept row => w.withDb { w.db with auditLog := w.db.auditLog ++ [row] }
  | .setPending u action => w.withMemory (withPending u action w.memory)
  | .setUnlocked u until_ => w.withMemory (withUnlocked u until_ w.memory)
  | .record e => w.record e

/-- A reading of the clock. -/
def Reading (ms : ℤ) (h : Journal) : Prop := ∃ i w, Entry.choice i Choice.clock w ms ∈ h

/-- The user asked for this change, in the statement that gave the row its id. -/
def Requested (c : WhitelistChangeRow) (h : Journal) : Prop :=
  ∃ w, (Entry.choice .telegram (Choice.statement (.enqueueWhitelistChange c.telegramId)) w
      (none : Option Thrown) : Line) ∈ h ∧
    c.id = nextId (w.db.whitelistChanges.map WhitelistChangeRow.id)

/-- A new row of the whitelist changes. -/
structure Requesting (c : WhitelistChangeRow) (w : World) (h : Journal) : Prop where
  fresh : c.id = nextId (w.db.whitelistChanges.map WhitelistChangeRow.id)
  requested : Requested c h
  reading : Reading c.requestedAt h
  reason : c.cancelReason = none

/-- A setup code of the user was just found valid. -/
def Confirms (u : TelegramId) (w : World) (h : Journal) : Prop :=
  ∃ older, h = .choice .telegram (Choice.statement (.setTotp u)) w (none : Option Thrown) :: older ∧
    ∃ secret code w₁ delta, (Entry.choice .telegram (Choice.totpValidate secret code) w₁
      (some delta : Option ℤ) : Line) ∈ own .telegram older

/-- The two latest lines read the clock and ran the insertion; before them the amount was
settled and priced. -/
def Queueing (venue : Venue) (cfg : BotConfig) (row : WithdrawalRow) (w : World) (h : Journal) :
    Prop :=
  ∃ amountUsd navPerShare older,
    h = .choice .telegram (Choice.statement (.enqueueWithdrawal row.telegramId row.sharesBurned)) w
        (none : Option Thrown) :: .choice .telegram Choice.clock w row.queuedAt :: older ∧
      Ordered venue cfg row.telegramId amountUsd row.destination (own .telegram older) ∧
      Priced venue cfg navPerShare (own .telegram older) ∧ 0 < navPerShare ∧
      row = NewWithdrawal.row ⟨row.telegramId, row.destination, amountUsd / navPerShare,
        (splitFee (amountUsd / navPerShare) cfg.commands.withdrawalFeeBps).feeShares,
        row.queuedAt⟩ (nextId (w.db.withdrawals.map WithdrawalRow.id))

/-- A deposit row repeats the sweep it follows: the one the main loop has just made, or the
one that the audit log showed to the operator. -/
def Backed (d : DepositRow) (i : Fiber) (w : World) (h : Journal) : Prop :=
  match i with
  | .main => ∃ s ∈ sweeps h, s.inboundTxSig = d.inboundTxSig ∧ s.solLamports = d.solLamports ∧
      s.bertRaw = d.bertRaw ∧ Owns d.telegramId s.address w.db
  | .telegram => ∃ (msg : Msg) (w₀ w₁ : World) (o : Unit) (txSig : Signature) (sol bert : ℕ)
      (ms : ℤ), Opened (.message msg) w₀ (own .telegram h) ∧
        TextInput.argument msg.text = some d.inboundTxSig ∧
        Entry.choice .telegram Choice.consult w₁ o ∈ own .telegram h ∧
        scanAudit d.inboundTxSig (listRecentAuditEvents 5000 w₁.db) ⟨none, none, none⟩ =
          ⟨some (d.solLamports, d.bertRaw), some (txSig, sol, bert, ms), some d.telegramId⟩
  | .cli => False

/-- When a fiber may make a change. -/
def Permitted (venue : Venue) (cfg : BotConfig) (i : Fiber) (w : World) (h : Journal) :
    Change → Prop
  | .addUser row => i ≠ .main ∧ (i = .cli → w.db.users = []) ∧
      (∀ a ∈ accounts w.db, a.telegramId ≠ row.telegramId ∧ a.depositAddress ≠ row.depositAddress) ∧
      row.totpEnrolledAt = none ∧ row.whitelistAddress = none
  | .setEnrolment u enrolledAt => i = .telegram ∧
      (enrolledAt = none ∨ enrolledAt = some 0 ∨ Confirms u w h)
  | .addDeposit d => hasDeposit d.inboundTxSig w.db = false ∧ Backed d i w h ∧
      ∃ w₁, (Entry.choice i (Choice.statement (.creditDeposit d.inboundTxSig)) w₁
        (none : Option Thrown) : Line) ∈ h
  | .addWithdrawal row => i = .telegram ∧ Queueing venue cfg row w h
  | .amendWithdrawal _ f => ∀ r, order (f r) = order r
  | .requestWhitelist c => i = .telegram ∧ Requesting c w h ∧
      whitelistOf c.telegramId w.db = c.oldAddress ∧ c.oldAddress ≠ none ∧
      c.status = .pending ∧ c.activatesAt = c.requestedAt + (commandsDeps venue cfg).cooldownMs
  | .firstWhitelist c => i = .telegram ∧ Requesting c w h ∧
      whitelistOf c.telegramId w.db = none ∧ c.oldAddress = none ∧
      (accountOf c.telegramId w.db).isSome ∧ c.status = .activated
  | .activateWhitelist c => i = .main ∧ c ∈ w.db.whitelistChanges ∧ c.status = .pending ∧
      ∃ ms, Reading ms h ∧ c.activatesAt ≤ ms
  | .cancelWhitelist c _ => i = .telegram ∧ c ∈ w.db.whitelistChanges ∧ c.status = .pending
  | .addSwept row => i = .main ∧ ∃ s ∈ sweeps h, ∃ u, Owns u s.address w.db ∧
      sweptRow row = some ⟨some u, s.inboundTxSig, s.sweepTxSig, s.solLamports, s.bertRaw⟩
  | .setPending _ action => i = .telegram ∧ ∀ usd, action ≠ some (.withdraw usd)
  | .setUnlocked u until_ => i = .telegram ∧ ∃ (w₁ : World) (ms : ℤ) (L : Journal),
      own .telegram h = .choice .telegram Choice.clock w₁ ms :: L ∧
        Accepted venue cfg u (own .telegram h) ∧ until_ = ms + totpUnlockMs
  | .record _ => i = .main

/-- The notice asks to confirm this withdrawal: a checked one of an enrolled user, or an amount
typed after the question for one. -/
inductive Prompts (venue : Venue) (cfg : BotConfig) (u : TelegramId) (w : World) (L : Journal)
    (amountUsd : ℚ) (destination : Address) : Notice → Prop where
  | checked {w₀ L'} : Enrolled u w.db → L' <:+ L → CapsPassed venue cfg u amountUsd w₀ L' →
      Prompts venue cfg u w L amountUsd destination (.withdrawPrompt amountUsd destination)
  | entry : AmountEntry u L →
      Prompts venue cfg u w L amountUsd destination (.withdrawEntryPrompt amountUsd destination)

inductive Act (venue : Venue) (cfg : BotConfig) : Fiber → JournalPoint → JournalPoint → Prop where
  | begin {w h} (j : Job) : Act venue cfg j.fiber (w, h) (w, .start j.fiber j w :: h)
  | tell {i w h} (e : Line) : e.fiber = some i → e.isStart = false → e.state = w →
      Guarded venue cfg h e → Act venue cfg i (w, h) (w, e :: h)
  | minor {i w w' h} : Minor w w' → Act venue cfg i (w, h) (w', h)
  | change {i w h} (c : Change) : Permitted venue cfg i w h c →
      Act venue cfg i (w, h) (c.apply w, h)
  | prompt {w h} (chatId : ℤ) (u : TelegramId) (amountUsd : ℚ) (destination : Address)
      (notice : Notice) : speaker (own .telegram h) = some u →
      Prompts venue cfg u w (own .telegram h) amountUsd destination notice →
      Act venue cfg .telegram (w, h) (w.withMemory (withPending u (some (.withdraw amountUsd)) w.memory),
        .call .telegram (Query.reply chatId notice)
          (w.withMemory (withPending u (some (.withdraw amountUsd)) w.memory)) :: h)

/-- No key of a table occurs twice. -/
structure Tidy (w : World) : Prop where
  users : Keyed Account.telegramId (accounts w.db)
  addresses : Keyed Account.depositAddress (accounts w.db)
  deposits : Keyed DepositRow.inboundTxSig w.db.deposits
  withdrawals : Keyed WithdrawalRow.id w.db.withdrawals
  changes : Keyed WhitelistChangeRow.id w.db.whitelistChanges

variable {venue : Venue} {cfg : BotConfig} {env : Environment} {i : Fiber} {w w' : World}
  {h h' : Journal} {p q : JournalPoint} {u v : TelegramId}

def Account.enrol (enrolledAt : Option ℤ) (a : Account) : Account :=
  { a with totpEnrolledAt := enrolledAt }

def Account.whitelist (address : Address) (a : Account) : Account :=
  { a with whitelistAddress := some address }

theorem accounts_updateUser {f : UserRow → UserRow} {g : Account → Account}
    (hfg : ∀ r, account (f r) = g (account r)) (db : Db) :
    accounts (updateUser u f db) = amend Account.telegramId u g (accounts db) := by
  simp only [accounts, updateUser, amend, List.map_map]
  apply List.map_congr_left
  intro r _
  change account (if r.telegramId = u then f r else r) =
    if r.telegramId = u then g (account r) else account r
  by_cases hr : r.telegramId = u
  · rw [if_pos hr, if_pos hr, hfg]
  · rw [if_neg hr, if_neg hr]

theorem accounts_enrol (enrolledAt : Option ℤ) (db : Db) :
    accounts (updateUser u (enrol enrolledAt) db) =
      amend Account.telegramId u (Account.enrol enrolledAt) (accounts db) :=
  accounts_updateUser (fun _ => rfl) db

theorem accounts_whitelist (address : Address) (db : Db) :
    accounts (updateUser u (whitelist address) db) =
      amend Account.telegramId u (Account.whitelist address) (accounts db) :=
  accounts_updateUser (fun _ => rfl) db

/-- Where a change of accounts keeps who owns what, both keys stay unique. -/
theorem keyed_accounts {g : Account → Account} {rows : List Account}
    (hid : ∀ a, (g a).telegramId = a.telegramId) (haddr : ∀ a, (g a).depositAddress = a.depositAddress)
    (hu : Keyed Account.telegramId rows) (ha : Keyed Account.depositAddress rows) :
    Keyed Account.telegramId (amend Account.telegramId u g rows) ∧
      Keyed Account.depositAddress (amend Account.telegramId u g rows) := by
  refine ⟨keyed_amend hid hu, ?_⟩
  have hkeys : (amend Account.telegramId u g rows).map Account.depositAddress =
      rows.map Account.depositAddress := by
    simp only [amend, List.map_map]
    apply List.map_congr_left
    intro a _
    by_cases h : a.telegramId = u <;> simp [h, haddr]
  rw [Keyed, hkeys]
  exact ha

theorem lookup_fresh {ρ : Type} {key : ρ → ℕ} {rows : List ρ} :
    lookup key (nextId (rows.map key)) rows = none := by
  rw [lookup_none]
  intro r hr heq
  have hlt := nextId_fresh (List.mem_map_of_mem (f := key) hr)
  omega

theorem order_id {f : WithdrawalRow → WithdrawalRow} (hf : ∀ r, order (f r) = order r)
    (r : WithdrawalRow) : (f r).id = r.id := congrArg Order.id (hf r)

theorem change_tidy (ht : Tidy w) {c : Change} (hp : Permitted venue cfg i w h c) :
    Tidy (c.apply w) := by
  obtain ⟨husers, haddr, hdep, hwd, hch⟩ := ht
  cases c with
  | addUser row =>
    obtain ⟨-, -, hfresh, -, -⟩ := hp
    have happ : accounts (w.db.users ++ [row] |> fun users => { w.db with users }) =
        accounts w.db ++ [account row] := by simp [accounts]
    refine ⟨?_, ?_, hdep, hwd, hch⟩
    · refine happ ▸ keyed_append husers (lookup_none.mpr ?_)
      intro a ha
      exact (hfresh a ha).1
    · refine happ ▸ keyed_append haddr (lookup_none.mpr ?_)
      intro a ha
      exact (hfresh a ha).2
  | setEnrolment u enrolledAt =>
    have hk := keyed_accounts (u := u) (g := Account.enrol enrolledAt) (fun _ => rfl) (fun _ => rfl)
      husers haddr
    rw [← accounts_enrol] at hk
    exact ⟨hk.1, hk.2, hdep, hwd, hch⟩
  | addDeposit d =>
    refine ⟨husers, haddr, keyed_append hdep (lookup_none.mpr ?_), hwd, hch⟩
    intro r hr heq
    have hnone := hp.1
    simp only [hasDeposit, List.any_eq_false] at hnone
    exact hnone r hr (by simpa using heq)
  | addWithdrawal row =>
    obtain ⟨-, usd, nav, older, -, -, -, -, hrow⟩ := hp
    refine ⟨husers, haddr, hdep, keyed_append hwd ?_, hch⟩
    rw [hrow]
    exact lookup_fresh
  | amendWithdrawal id f => exact ⟨husers, haddr, hdep, keyed_amend (order_id hp) hwd, hch⟩
  | requestWhitelist c =>
    refine ⟨husers, haddr, hdep, hwd, keyed_append hch ?_⟩
    rw [hp.2.1.fresh]
    exact lookup_fresh
  | firstWhitelist c =>
    have hk := keyed_accounts (u := c.telegramId) (g := Account.whitelist c.newAddress)
      (fun _ => rfl) (fun _ => rfl) husers haddr
    rw [← accounts_whitelist] at hk
    refine ⟨hk.1, hk.2, hdep, hwd, keyed_append hch ?_⟩
    rw [hp.2.1.fresh]
    exact lookup_fresh
  | activateWhitelist c =>
    have hk := keyed_accounts (u := c.telegramId) (g := Account.whitelist c.newAddress)
      (fun _ => rfl) (fun _ => rfl) husers haddr
    rw [← accounts_whitelist] at hk
    exact ⟨hk.1, hk.2, hdep, hwd, keyed_amend (fun _ => rfl) hch⟩
  | cancelWhitelist c reason => exact ⟨husers, haddr, hdep, hwd, keyed_amend (fun _ => rfl) hch⟩
  | addSwept row => exact ⟨husers, haddr, hdep, hwd, hch⟩
  | setPending u action => exact ⟨husers, haddr, hdep, hwd, hch⟩
  | setUnlocked u until_ => exact ⟨husers, haddr, hdep, hwd, hch⟩
  | record e => exact ⟨husers, haddr, hdep, hwd, hch⟩

theorem alike_tidy (ht : Tidy w) (ha : Alike w w') : Tidy w' := by
  constructor
  · rw [ha.accounts]
    exact ht.users
  · rw [ha.accounts]
    exact ht.addresses
  · rw [ha.deposits]
    exact ht.deposits
  · rw [ha.withdrawals]
    exact ht.withdrawals
  · rw [ha.whitelistChanges]
    exact ht.changes

theorem act_tidy (ht : Tidy p.1) (ha : Act venue cfg i p q) : Tidy q.1 := by
  cases ha with
  | begin j => exact ht
  | tell e => exact ht
  | minor hm => exact alike_tidy ht hm.toAlike
  | change c hp => exact change_tidy ht hp
  | prompt => exact ⟨ht.users, ht.addresses, ht.deposits, ht.withdrawals, ht.changes⟩

/-- The fibers of the bot, as far as the journal can tell them apart. -/
def journalMachine (venue : Venue) (cfg : BotConfig) (env : Environment) :
    Machine Job vaultInterface World Thrown Fiber env.host where
  act := Act venue cfg
  inv p := Tidy p.1
  act_inv := act_tidy
  respond_inv ht hr := alike_tidy ht (quiet_minor (env.quiet hr)).toAlike

end JournalMachine
