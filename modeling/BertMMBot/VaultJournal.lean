import BertMMBot.RecordedTriples
import BertMMBot.RuntimeRefinement

/-! # The journal of the vault

Recorded runs of the bot. A journal keeps every job, every choice of the host, every call
and every answer, with the states they were made in; what a claim says about the order of
events is said about it. -/
namespace VaultJournal

open AsyncProgram AsyncContract AsyncFibers AsyncRecords RecordedTriples KeyedTable
open VaultTypes VaultProgram VaultDiscipline DepositorStore ShareMath LedgerMachine
open WithdrawalExecutor DepositPipeline AccountSecurity DepositorCommands OperatorCommands
open MeteoraPosition VaultRuntime RuntimeRefinement

inductive Job where
  | tick
  | drain
  | message (msg : Msg)
  | button (msg : Msg)
  | bootstrap (p : BootstrapParams)

def Job.fiber : Job → Fiber
  | .tick => .main
  | .drain => .main
  | .message _ => .telegram
  | .button _ => .telegram
  | .bootstrap _ => .cli

def Job.user : Job → Option TelegramId
  | .message msg => some msg.userId
  | .button msg => some msg.userId
  | _ => none

def Job.program (venue : Venue) (cfg : BotConfig) : Job → Vault Unit
  | .tick => VaultRuntime.tick venue cfg
  | .drain => WithdrawalExecutor.drain (hostDeps cfg.minSolFloorLamports)
  | .message msg => dispatch (commanderDeps venue cfg) msg
  | .button msg => dispatchCallback (commandsDeps venue cfg) msg
  | .bootstrap p => vaultBootstrap ensureAta p

abbrev Line := Entry Fiber Job vaultInterface World Thrown
abbrev Journal := History Fiber Job vaultInterface World Thrown
abbrev JournalPoint := World × Journal

def vaultJobs (venue : Venue) (cfg : BotConfig) : Jobs Fiber Job vaultInterface World Thrown :=
  ⟨Job.fiber, Job.program venue cfg⟩

abbrev RecordedVault (venue : Venue) (cfg : BotConfig) (H : VaultHost) :=
  (vaultJobs venue cfg).recordedSystem H World.restart

/-- The points in which a recorded execution from the empty vault can stand. -/
def Journaled (venue : Venue) (cfg : BotConfig) (H : VaultHost) (p : JournalPoint) : Prop :=
  ∃ chain c, Execution (RecordedVault venue cfg H) (idle (World.initial chain, [])) c ∧ c.state = p

variable {venue : Venue} {cfg : BotConfig} {H : VaultHost}

theorem vaultJobs_system : (vaultJobs venue cfg).system H World.restart = vault venue cfg H := by
  have hjobs : (fun i m => ∃ j, Job.fiber j = i ∧ Job.program venue cfg j = m) =
      VaultJob venue cfg := by
    funext i m
    refine propext ⟨?_, fun h => ?_⟩
    · rintro ⟨j, rfl, rfl⟩
      cases j with
      | tick => exact .tick
      | drain => exact .drain
      | message msg => exact .message msg
      | button msg => exact .button msg
      | bootstrap p => exact .bootstrap p
    · cases h with
      | tick => exact ⟨.tick, rfl, rfl⟩
      | drain => exact ⟨.drain, rfl, rfl⟩
      | message msg => exact ⟨.message msg, rfl, rfl⟩
      | button msg => exact ⟨.button msg, rfl, rfl⟩
      | bootstrap p => exact ⟨.bootstrap p, rfl, rfl⟩
  simp only [Jobs.system, vaultJobs, vault, vaultSystem, hjobs]

theorem journaled_reachable {p : JournalPoint} (h : Journaled venue cfg H p) :
    Reachable venue cfg H p.1 := by
  obtain ⟨chain, c, ex, rfl⟩ := h
  obtain ⟨c', ex', hm⟩ := execution_projects (idle_matches (World.initial chain) []) ex
  rw [vaultJobs_system] at ex'
  exact ⟨chain, c', ex', hm.state.symm⟩

/-- The part of a user row that decides who is who, and what a user may do. -/
structure Account where
  telegramId : TelegramId
  depositAddress : Address
  totpEnrolledAt : Option ℤ
  whitelistAddress : Option Address
  deriving DecidableEq

def account (r : UserRow) : Account :=
  ⟨r.telegramId, r.depositAddress, r.totpEnrolledAt, r.whitelistAddress⟩

def accounts (db : Db) : List Account := db.users.map account

def accountOf (u : TelegramId) (db : Db) : Option Account :=
  lookup Account.telegramId u (accounts db)

/-- An enrolment time of 0 means that the secret is not confirmed. -/
def Account.isEnrolled (a : Account) : Bool := a.totpEnrolledAt ≠ none ∧ a.totpEnrolledAt ≠ some 0

def Enrolled (u : TelegramId) (db : Db) : Prop := ∃ a, accountOf u db = some a ∧ a.isEnrolled

def whitelistOf (u : TelegramId) (db : Db) : Option Address :=
  (accountOf u db).bind Account.whitelistAddress

/-- The deposit address of a user. -/
def Owns (u : TelegramId) (address : Address) (db : Db) : Prop :=
  ∃ a ∈ accounts db, a.telegramId = u ∧ a.depositAddress = address

section Accounts

variable {u : TelegramId} {db db' : Db} {user : UserRow}

theorem accountOf_eq : accountOf u db = (lookup UserRow.telegramId u db.users).map account := by
  simp only [accountOf, accounts, lookup, List.find?_map]
  rfl

theorem account_rowToUser {r : UserRow} :
    (rowToUser r).totpEnrolledAt.isSome ↔ (account r).isEnrolled := by
  simp only [rowToUser, account, Account.isEnrolled]
  by_cases hzero : r.totpEnrolledAt = some 0
  · simp [hzero]
  · simp [hzero, Option.isSome_iff_ne_none]

theorem getUser_account (h : getUser u db = some user) :
    ∃ a, accountOf u db = some a ∧ a.telegramId = user.telegramId ∧ user.telegramId = u ∧
      a.depositAddress = user.depositAddress ∧ a.whitelistAddress = user.whitelistAddress ∧
      (user.totpEnrolledAt.isSome ↔ a.isEnrolled) := by
  obtain ⟨r, hr, rfl⟩ := Option.map_eq_some_iff.mp h
  refine ⟨account r, ?_, rfl, (lookup_some hr).2, rfl, rfl, account_rowToUser⟩
  rw [accountOf_eq, hr]
  rfl

theorem getUser_whitelist (h : getUser u db = some user) :
    whitelistOf u db = user.whitelistAddress := by
  obtain ⟨a, ha, -, -, -, hw, -⟩ := getUser_account h
  simp [whitelistOf, ha, hw]

theorem getUser_owns (h : getUser u db = some user) : Owns u user.depositAddress db := by
  obtain ⟨r, hr, rfl⟩ := Option.map_eq_some_iff.mp h
  exact ⟨account r, List.mem_map_of_mem (lookup_some hr).1, (lookup_some hr).2, rfl⟩

theorem enrolled_getUser (h : enrolled (getUser u db) = some user) :
    getUser u db = some user ∧ Enrolled u db := by
  obtain ⟨hget, hen⟩ := Option.filter_eq_some_iff.mp h
  obtain ⟨a, ha, -, -, -, -, hiff⟩ := getUser_account hget
  exact ⟨hget, a, ha, hiff.mp (by simpa using hen)⟩

theorem getUserByDepositAddress_owns {address : Address}
    (h : getUserByDepositAddress address db = some user) : Owns user.telegramId address db := by
  obtain ⟨r, hr, rfl⟩ := Option.map_eq_some_iff.mp h
  exact ⟨account r, List.mem_map_of_mem (lookup_some hr).1, rfl, (lookup_some hr).2⟩

theorem accountOf_congr (h : accounts db' = accounts db) : accountOf u db' = accountOf u db := by
  rw [accountOf, accountOf, h]

theorem enrolled_congr (h : accountOf u db' = accountOf u db) (he : Enrolled u db) :
    Enrolled u db' := by
  obtain ⟨a, ha, hen⟩ := he
  exact ⟨a, h.trans ha, hen⟩

end Accounts

structure SweptRow where
  telegramId : Option TelegramId
  inboundTxSig : String
  sweepTxSig : Signature
  solLamports : ℕ
  bertRaw : ℕ
  deriving DecidableEq

def sweptRow (a : AuditRow) : Option SweptRow :=
  match a.event with
  | .depositSwept inbound txSig sol bert _ => some ⟨a.telegramId, inbound, txSig, sol, bert⟩
  | _ => none

/-- The sweeps that the audit log knows of. -/
def sweptRows (db : Db) : List SweptRow := db.auditLog.filterMap sweptRow

structure Order where
  id : ℕ
  telegramId : TelegramId
  destination : Address
  sharesBurned : ℚ
  feeShares : ℚ
  queuedAt : ℤ
  deriving DecidableEq

def order (r : WithdrawalRow) : Order :=
  ⟨r.id, r.telegramId, r.destination, r.sharesBurned, r.feeShares, r.queuedAt⟩

/-- The tables and the trace say the same, memory apart. -/
structure Alike (w w' : World) : Prop where
  accounts : accounts w'.db = accounts w.db
  deposits : w'.db.deposits = w.db.deposits
  withdrawals : w'.db.withdrawals = w.db.withdrawals
  whitelistChanges : w'.db.whitelistChanges = w.db.whitelistChanges
  sweptRows : sweptRows w'.db = sweptRows w.db
  trace : w'.trace = w.trace

/-- Nothing has changed that a line or a later act depends on. -/
structure Minor (w w' : World) : Prop extends Alike w w' where
  pending : w'.memory.pending = w.memory.pending
  unlockedUntil : w'.memory.unlockedUntil = w.memory.unlockedUntil

theorem Alike.refl (w : World) : Alike w w := ⟨rfl, rfl, rfl, rfl, rfl, rfl⟩

theorem quiet_minor {w w' : World} (h : Quiet w w') : Minor w w' := by
  refine ⟨⟨?_, h.deposits, h.withdrawals, h.whitelistChanges, ?_, h.trace⟩, ?_, ?_⟩
  · simp [accounts, h.users]
  · simp [sweptRows, h.auditLog]
  · rw [h.memory]
  · rw [h.memory]

def Opened (j : Job) (w : World) (L : Journal) : Prop := L.getLast? = some (.start .telegram j w)

def opener : Line → Option TelegramId
  | .start _ j _ => j.user
  | _ => none

/-- Whose message or button press a part of the journal is about. -/
def speaker (L : Journal) : Option TelegramId := L.getLast?.bind opener

/-- The rate limiter holds the user off. -/
def Locked (u : TelegramId) (ms : ℤ) (m : Memory) : Prop :=
  ∃ until_, m.lockedUntil u = some until_ ∧ ms < until_

/-- `rejectIfLocked` let the user pass, at a reading at which the limiter held nobody off. -/
def Admitted (venue : Venue) (cfg : BotConfig) (u : TelegramId) (L : Journal) : Prop :=
  ∃ chatId w L₀ ms s, .choice .telegram Choice.clock w ms :: L₀ <:+ L ∧
    Ran .telegram (rejectIfLocked (commandsDeps venue cfg) chatId u w) L₀ (.ok false) s
      (.choice .telegram Choice.clock w ms :: L₀) ∧ ¬Locked u ms w.memory

/-- The message carried a code of its sender that `verifyTotpGated` accepted just now. -/
def Accepted (venue : Venue) (cfg : BotConfig) (u : TelegramId) (L : Journal) : Prop :=
  ∃ msg op w₀ s₀ L₀ s, Opened (.message msg) w₀ L ∧ msg.userId = u ∧
    Ran .telegram (verifyTotpGated (commandsDeps venue cfg) u (TextInput.trim msg.text) op s₀) L₀
      (.ok .ok) s L

/-- The latest line is the reading at which the unlock window began or was found open. -/
inductive Cleared (venue : Venue) (cfg : BotConfig) (u : TelegramId) (w : World) (ms : ℤ) :
    Journal → Prop where
  | accepted {L : Journal} : Accepted venue cfg u (.choice .telegram Choice.clock w ms :: L) →
      Cleared venue cfg u w ms (.choice .telegram Choice.clock w ms :: L)
  | unlocked {L : Journal} {until_ : ℤ} : w.memory.unlockedUntil u = some until_ → ms < until_ →
      Cleared venue cfg u w ms (.choice .telegram Choice.clock w ms :: L)

/-- What a privileged action needs: its user speaks, was admitted, and gave a code in this
message or a little earlier. -/
structure Authorized (venue : Venue) (cfg : BotConfig) (u : TelegramId) (L : Journal) : Prop where
  speaks : speaker L = some u
  admitted : Admitted venue cfg u L
  cleared : ∃ w ms L', L' <:+ L ∧ Cleared venue cfg u w ms L'

/-- A message that answers the question for an amount. -/
def AmountEntry (u : TelegramId) (L : Journal) : Prop :=
  ∃ msg w, Opened (.message msg) w L ∧ msg.userId = u ∧
    TextInput.commandName msg.text = none ∧ w.memory.pending u = some .withdrawAmountEntry

/-- An unlock window was found open although its user was not enrolled any more. -/
def Lapsed (u : TelegramId) (L : Journal) : Prop :=
  AmountEntry u L ∧ ∃ (w : World) (ms until_ : ℤ), .choice .telegram Choice.clock w ms ∈ L ∧
    w.memory.unlockedUntil u = some until_ ∧ ms < until_ ∧ ¬Enrolled u w.db

/-- A user who is not enrolled any more answers the question for an amount with more than the
balance, at the NAV that the chat has read. -/
def Overdrawn (venue : Venue) (cfg : BotConfig) (u : TelegramId) (L : Journal) : Prop :=
  ∃ (msg : Msg) (w₀ : World) (amountUsd : ℚ) (nav : Nav) (s s' : World) (L₀ L' : Journal),
    Opened (.message msg) w₀ L ∧ msg.userId = u ∧ TextInput.commandName msg.text = none ∧
    w₀.memory.pending u = some .withdrawAmountEntry ∧
    (TextInput.number (TextInput.trim msg.text)).filter (0 < ·) = some amountUsd ∧
    L' <:+ L ∧ Ran .telegram (VaultRuntime.getNav venue cfg.minSolFloorLamports s) L₀
      (.ok (some nav)) s' L' ∧
    usdForShares (getShares u s'.db) (computeNavPerShare nav.totalUsd nav.totalShares) +
      1 / 10 ^ 6 < amountUsd ∧
    cfg.commands.minWithdrawalUsd ≤ amountUsd ∧ ¬Enrolled u s'.db

/-- A check of the caps in this state let the amount pass, and the lines end with it. -/
def CapsPassed (venue : Venue) (cfg : BotConfig) (u : TelegramId) (amountUsd : ℚ) (w : World)
    (L : Journal) : Prop :=
  ∃ L₀ s, Ran .telegram (checkCaps (commandsDeps venue cfg) u amountUsd w) L₀ (.ok none) s L

/-- Where the caps were checked for the amount of a session: nowhere for an answer to the
question for one, before the prompt for an answer to that, or in the session itself. -/
inductive Vetted (venue : Venue) (cfg : BotConfig) (u : TelegramId) (amountUsd : ℚ) (L : Journal) :
    Prop where
  | entry : AmountEntry u L → Vetted venue cfg u amountUsd L
  | prompted {msg w} : Opened (.message msg) w L → w.memory.pending u = some (.withdraw amountUsd) →
      Vetted venue cfg u amountUsd L
  | checked {w L'} : L' <:+ L → CapsPassed venue cfg u amountUsd w L' → Vetted venue cfg u amountUsd L

/-- Where the amount of a withdrawal comes from: it was kept with the prompt that the message
answers, typed as an amount entry, or part of a command. `L'` ends with the check. -/
inductive Origin (venue : Venue) (cfg : BotConfig) (u : TelegramId) (amountUsd : ℚ)
    (L L' : Journal) : Prop where
  | code {msg w} : Opened (.message msg) w L → msg.userId = u →
      TextInput.commandName msg.text = none →
      w.memory.pending u = some (.withdraw amountUsd) → Accepted venue cfg u L' →
      Origin venue cfg u amountUsd L L'
  | entry : AmountEntry u L → Origin venue cfg u amountUsd L L'
  | command {msg w} : Opened (.message msg) w L → TextInput.commandName msg.text ≠ none →
      Origin venue cfg u amountUsd L L'
  | button {msg w} : Opened (.button msg) w L → Origin venue cfg u amountUsd L L'

/-- The amount and destination that a confirmation prompt shows. -/
def promptOf : Line → Option (ℚ × Address)
  | .call .telegram (Query.reply _ (.withdrawPrompt amountUsd destination)) _ =>
    some (amountUsd, destination)
  | .call .telegram (Query.reply _ (.withdrawEntryPrompt amountUsd destination)) _ =>
    some (amountUsd, destination)
  | _ => none

/-- A check that was passed, the destination on file at that moment, and the amount. -/
structure Ordered (venue : Venue) (cfg : BotConfig) (u : TelegramId) (amountUsd : ℚ)
    (destination : Address) (L : Journal) : Prop where
  speaks : speaker L = some u
  admitted : Admitted venue cfg u L
  checked : ∃ w ms L', L' <:+ L ∧ Cleared venue cfg u w ms L' ∧
    whitelistOf u w.db = some destination ∧ Origin venue cfg u amountUsd L L'
  vetted : Vetted venue cfg u amountUsd L
  unprompted : ∀ e ∈ L, promptOf e = none

theorem Ordered.authorized {u : TelegramId} {amountUsd : ℚ} {destination : Address} {L : Journal}
    (h : Ordered venue cfg u amountUsd destination L) : Authorized venue cfg u L := by
  obtain ⟨w, ms, L', hsuffix, hcleared, -⟩ := h.checked
  exact ⟨h.speaks, h.admitted, w, ms, L', hsuffix, hcleared⟩

/-- The NAV per share that the chat read after the check. -/
def Priced (venue : Venue) (cfg : BotConfig) (navPerShare : ℚ) (L : Journal) : Prop :=
  ∃ nav s L₀ s' L', L' <:+ L ∧
    Ran .telegram (VaultRuntime.getNav venue cfg.minSolFloorLamports s) L₀ (.ok (some nav)) s' L' ∧
    navPerShare = computeNavPerShare nav.totalUsd nav.totalShares

def pollOf : Line → Option Address
  | .call .main (Query.getSignaturesForAddress address _ _) _ => some address
  | _ => none

def polled : Journal → Option Address
  | [] => none
  | e :: h => (pollOf e).orElse fun _ => polled h

/-- A sweep whose submission came back with a signature. -/
structure Sweep where
  address : Address
  inboundTxSig : String
  sweepTxSig : Signature
  solLamports : ℕ
  bertRaw : ℕ
  instructions : List SweepInstruction

def sweepAt (h : Journal) : Line → Option Sweep
  | .answer .main (Query.submitTx ixs) (.ok txSig) w =>
    match polled h, w.trace with
    | some address, .sweep inboundTxSig sol bert :: _ =>
      some ⟨address, inboundTxSig, txSig, sol, bert, ixs⟩
    | _, _ => none
  | _ => none

def sweeps : Journal → List Sweep
  | [] => []
  | e :: h => (sweepAt h e).toList ++ sweeps h

/-- The most recent confirmation prompt sent to a user. -/
def lastPrompt (u : TelegramId) : Journal → Option (ℚ × Address)
  | [] => none
  | e :: h =>
    if speaker (own .telegram h) = some u then (promptOf e).orElse fun _ => lastPrompt u h
    else lastPrompt u h

end VaultJournal
