import BertMMBot.DepositPipeline

/-! # The ledger as a state machine

Every stretch of the vault's code between two observable points is a sequence of a few
moves on balances, deposits, withdrawal rows and the trace. The status of a row and the
latest trace event about it decide which move may come next. -/
namespace LedgerMachine

open VaultTypes VaultProgram KeyedTable DepositorStore ShareMath DepositPipeline

/-- The main loop, the chat loop, and the command line that founds the vault. -/
inductive Fiber where
  | main
  | telegram
  | cli
  deriving DecidableEq, Repr

/-- What is assumed of the host: which statements it lets run, when the oracle may be used,
and the prices it hands out. -/
structure Policy where
  allow : Stmt → World → Prop
  ready : Memory → Prop
  price : Mid → Prop
  ready_oracle : ∀ m m' : Memory, m'.trustedMid = m.trustedMid →
    m'.priceHistory = m.priceHistory → ready m → ready m'

/-- How far the present process has come with a withdrawal. -/
inductive Phase where
  | idle
  | taken
  | issued
  | paid (txSig : Signature)
  deriving DecidableEq, Repr

def phase (id : ℕ) : List TraceEvent → Phase
  | [] => .idle
  | .stop :: _ => .idle
  | .take i :: rest => if i = id then .taken else phase id rest
  | .transfer i _ _ _ :: rest => if i = id then .issued else phase id rest
  | .transferred i txSig :: rest => if i = id then .paid txSig else phase id rest
  | .sweep .. :: rest => phase id rest
  | .swept .. :: rest => phase id rest

def userIds (db : Db) : List TelegramId := db.users.map UserRow.telegramId

def bootstrapOf (a : AuditRow) : Option (TelegramId × ℚ) :=
  match a.event, a.telegramId with
  | .bootstrap n, some u => some (u, n)
  | _, _ => none

/-- The shares given out when the vault was founded, as the audit log records them. -/
def bootstraps (db : Db) : List (TelegramId × ℚ) := db.auditLog.filterMap bootstrapOf

def PendingPositive (m : Memory) : Prop :=
  ∀ u amountUsd, m.pending u = some (.withdraw amountUsd) → 0 < amountUsd

structure Frame (w w' : World) : Prop where
  withdrawals : w'.db.withdrawals = w.db.withdrawals
  shares : w'.db.shares = w.db.shares
  deposits : w'.db.deposits = w.db.deposits
  bootstraps : bootstraps w'.db = bootstraps w.db
  users : userIds w.db <+: userIds w'.db
  usersNodup : (userIds w.db).Nodup → (userIds w'.db).Nodup
  trace : w'.trace = w.trace
  faults : w.faults <:+ w'.faults
  trustedMid : w'.memory.trustedMid = w.memory.trustedMid
  priceHistory : w'.memory.priceHistory = w.memory.priceHistory
  pending : PendingPositive w.memory → PendingPositive w'.memory

theorem Frame.refl (w : World) : Frame w w :=
  ⟨rfl, rfl, rfl, rfl, List.prefix_rfl, id, rfl, List.suffix_rfl, rfl, rfl, id⟩

theorem Frame.trans {w w' w'' : World} (h : Frame w w') (k : Frame w' w'') : Frame w w'' where
  withdrawals := k.withdrawals.trans h.withdrawals
  shares := k.shares.trans h.shares
  deposits := k.deposits.trans h.deposits
  bootstraps := k.bootstraps.trans h.bootstraps
  users := h.users.trans k.users
  usersNodup := fun hn => k.usersNodup (h.usersNodup hn)
  trace := k.trace.trans h.trace
  faults := h.faults.trans k.faults
  trustedMid := k.trustedMid.trans h.trustedMid
  priceHistory := k.priceHistory.trans h.priceHistory
  pending := fun hp => k.pending (h.pending hp)

/-- The shares of a deposit at one mid and a positive NAV per share. -/
def Credited (mid : Mid) (d : DepositRow) : Prop :=
  0 < d.navPerShareAt ∧
    d.sharesMinted = tokenUsd mid d.solLamports d.bertRaw / d.navPerShareAt

/-- A row that its process has taken up and that is not recorded as paid. -/
def Unsent (row : WithdrawalRow) (w : World) : Prop :=
  getWithdrawalById row.id w.db = some row ∧ row.status = .processing ∧ row.txSig = none

/-- The audit write that replaces the record of a signature was made to throw. -/
def SyncAuditLost (id : ℕ) (w : World) : Prop :=
  ∃ txSig error, Stmt.writeAudit (.withdrawalDbSyncFailed id txSig error .markWithdrawalSent) ∈
    w.faults

inductive Move (P : Policy) : Fiber → World → World → Prop where
  | frame {f w w'} : Frame w w' → Move P f w w'
  | found {w} (row : UserRow) (n : ℚ) (audit : AuditRow) (shares : List ShareRow) :
      w.db.users = [] → 0 < n → audit.event = .bootstrap n →
      audit.telegramId = some row.telegramId →
      sharesAfter row.telegramId n { w.db with users := [row] } = .ok shares →
      Move P .cli w (w.withDb { w.db with
        users := [row], shares, auditLog := w.db.auditLog ++ [audit] })
  | credit {f w} (d : DepositRow) (mid : Mid) (shares : List ShareRow) :
      P.ready w.memory → P.price mid → hasDeposit d.inboundTxSig w.db = false → Credited mid d →
      sharesAfter d.telegramId d.sharesMinted w.db = .ok shares →
      Move P f w (w.withDb { w.db with shares, deposits := w.db.deposits ++ [d] })
  | enqueue {w} (row : WithdrawalRow) :
      row.status = .queued → row.txSig = none → getWithdrawalById row.id w.db = none →
      row.telegramId ∈ userIds w.db → 0 < row.sharesBurned →
      P.allow (.enqueueWithdrawal row.telegramId row.sharesBurned) w →
      Move P .telegram w (w.withDb { w.db with withdrawals := w.db.withdrawals ++ [row] })
  | requeue {w} (row : WithdrawalRow) :
      getWithdrawalById row.id w.db = some row → row.status = .failed → row.txSig = none →
      P.allow (.requeueFailedWithdrawal row.id) w →
      Move P .telegram w (w.withDb (updateWithdrawal row.id requeued w.db))
  | take {w} (row : WithdrawalRow) :
      getWithdrawalById row.id w.db = some row → row.status = .queued →
      Move P .main w (w.record (.take row.id))
  | process {w} (row : WithdrawalRow) :
      getWithdrawalById row.id w.db = some row → row.status = .queued →
      phase row.id w.trace = .taken →
      Move P .main w (w.withDb (updateWithdrawal row.id startProcessing w.db))
  | transfer {w} (row : WithdrawalRow) (solLamports bertRaw : ℤ) :
      Unsent row w → phase row.id w.trace = .taken → P.ready w.memory →
      Move P .main w (w.record (.transfer row.id row.destination solLamports bertRaw))
  | transferred {w} (row : WithdrawalRow) (txSig : Signature) :
      Unsent row w → phase row.id w.trace = .issued →
      Move P .main w (w.record (.transferred row.id txSig))
  | sweep {w} (inboundTxSig : String) (solLamports bertRaw : ℕ) :
      P.ready w.memory → Move P .main w (w.record (.sweep inboundTxSig solLamports bertRaw))
  | swept {w} (inboundTxSig : String) (txSig : Signature) :
      Move P .main w (w.record (.swept inboundTxSig txSig))
  | send {w} (row : WithdrawalRow) (txSig : Signature) :
      Unsent row w → phase row.id w.trace = .paid txSig →
      Move P .main w (w.withDb (updateWithdrawal row.id (recordTxSig txSig) w.db))
  | complete {w} (row : WithdrawalRow) (c : Completion) (shares : List ShareRow) :
      getWithdrawalById row.id w.db = some row → row.status = .processing →
      row.txSig = some c.txSig → c.id = row.id → phase row.id w.trace = .paid c.txSig →
      sharesAfter row.telegramId (-row.sharesBurned) w.db = .ok shares →
      Move P .main w (w.withDb { updateWithdrawal row.id c.apply w.db with shares })
  | fail {w} (row : WithdrawalRow) (reason : String) (processedAt : ℤ) :
      getWithdrawalById row.id w.db = some row → row.txSig = none →
      (row.status = .processing ∨ row.status = .failed) → phase row.id w.trace ≠ .idle →
      (∀ txSig, phase row.id w.trace = .paid txSig → SyncAuditLost row.id w) →
      P.allow (.failWithdrawal row.id) w →
      Move P .main w (w.withDb (updateWithdrawal row.id (failed reason processedAt) w.db))

def Moves (P : Policy) (f : Fiber) : World → World → Prop := Relation.ReflTransGen (Move P f)

variable {P : Policy} {f : Fiber} {w w' : World}

theorem updated_self {id : ℕ} {row : WithdrawalRow} {g : WithdrawalRow → WithdrawalRow} {db : Db}
    (hg : ∀ r, (g r).id = r.id) (h : getWithdrawalById id db = some row) :
    getWithdrawalById id (updateWithdrawal id g db) = some (g row) := by
  simp only [getWithdrawalById, updateWithdrawal] at h ⊢
  rw [lookup_amend_self hg, h]
  rfl

theorem updated_other {id id' : ℕ} {g : WithdrawalRow → WithdrawalRow} {db : Db}
    (hg : ∀ r, (g r).id = r.id) (h : id' ≠ id) :
    getWithdrawalById id' (updateWithdrawal id g db) = getWithdrawalById id' db :=
  lookup_amend_of_ne hg h

theorem startProcessing_id (r : WithdrawalRow) : (startProcessing r).id = r.id := by
  unfold startProcessing
  split <;> rfl

theorem recordTxSig_id (txSig : Signature) (r : WithdrawalRow) :
    (recordTxSig txSig r).id = r.id := by
  unfold recordTxSig
  split <;> rfl

theorem startProcessing_owner (r : WithdrawalRow) :
    (startProcessing r).telegramId = r.telegramId := by
  unfold startProcessing
  split <;> rfl

theorem recordTxSig_owner (txSig : Signature) (r : WithdrawalRow) :
    (recordTxSig txSig r).telegramId = r.telegramId := by
  unfold recordTxSig
  split <;> rfl

/-- Only a row in processing leaves open whether its signature is recorded. -/
def WellFormed (row : WithdrawalRow) : Prop :=
  (row.status = .queued ∨ row.status = .failed → row.txSig = none) ∧
    (row.status = .completed → row.txSig.isSome)

/-- What every reachable state satisfies under a policy. -/
structure Legal (P : Policy) (w : World) : Prop where
  keyed : Keyed WithdrawalRow.id w.db.withdrawals
  rows : ∀ row ∈ w.db.withdrawals, WellFormed row
  owners : ∀ row ∈ w.db.withdrawals, row.telegramId ∈ userIds w.db
  users : (userIds w.db).Nodup
  pending : PendingPositive w.memory
  prices : ∀ p ∈ w.memory.priceHistory, P.price p.mid

theorem initial_legal (chain : Chain) : Legal P (World.initial chain) := by
  constructor <;> simp [World.initial, Db.empty, Keyed, userIds, PendingPositive, Memory.fresh]

theorem Legal.wellFormed (h : Legal P w) {id : ℕ} {row : WithdrawalRow}
    (hrow : getWithdrawalById id w.db = some row) : WellFormed row :=
  h.rows row (lookup_some hrow).1

theorem Legal.updateWithdrawal (h : Legal P w) {row : WithdrawalRow}
    {g : WithdrawalRow → WithdrawalRow} (shares : List ShareRow) (hg : ∀ r, (g r).id = r.id)
    (hrow : getWithdrawalById row.id w.db = some row) (hw : WellFormed (g row))
    (hown : (g row).telegramId = row.telegramId) :
    Legal P (w.withDb { updateWithdrawal row.id g w.db with shares }) where
  keyed := keyed_amend hg h.keyed
  rows := by
    intro a ha
    rcases mem_amend_keyed h.keyed hrow ha with ⟨hmem, -⟩ | rfl
    · exact h.rows a hmem
    · exact hw
  owners := by
    intro a ha
    rcases mem_amend_keyed h.keyed hrow ha with ⟨hmem, -⟩ | rfl
    · exact h.owners a hmem
    · rw [hown]
      exact h.owners row (lookup_some hrow).1
  users := h.users
  pending := h.pending
  prices := h.prices

theorem move_preserves_legal (h : Legal P w) (m : Move P f w w') : Legal P w' := by
  cases m with
  | frame hf =>
    refine ⟨?_, ?_, ?_, hf.usersNodup h.users, hf.pending h.pending, ?_⟩
    · rw [hf.withdrawals]
      exact h.keyed
    · rw [hf.withdrawals]
      exact h.rows
    · rw [hf.withdrawals]
      exact fun row hr => hf.users.subset (h.owners row hr)
    · rw [hf.priceHistory]
      exact h.prices
  | found row n audit shares hempty =>
    refine ⟨h.keyed, h.rows, fun r hr => ?_, by simp [userIds], h.pending, h.prices⟩
    have hown := h.owners r hr
    simp [userIds, hempty] at hown
  | credit d mid shares => exact ⟨h.keyed, h.rows, h.owners, h.users, h.pending, h.prices⟩
  | enqueue row hq hsig hfresh howner =>
    refine ⟨keyed_append h.keyed hfresh, ?_, ?_, h.users, h.pending, h.prices⟩
    · intro a ha
      rcases List.mem_append.mp ha with hmem | hnew
      · exact h.rows a hmem
      · rw [List.mem_singleton.mp hnew]
        exact ⟨fun _ => hsig, by simp [hq]⟩
    · intro a ha
      rcases List.mem_append.mp ha with hmem | hnew
      · exact h.owners a hmem
      · rw [List.mem_singleton.mp hnew]
        exact howner
  | requeue row hrow hst hsig =>
    exact h.updateWithdrawal w.db.shares (fun _ => rfl) hrow ⟨fun _ => hsig, by simp [requeued]⟩ rfl
  | take => exact ⟨h.keyed, h.rows, h.owners, h.users, h.pending, h.prices⟩
  | process row hrow hst =>
    exact h.updateWithdrawal w.db.shares startProcessing_id hrow
      ⟨by simp [startProcessing, hst], by simp [startProcessing, hst]⟩ (startProcessing_owner row)
  | transfer => exact ⟨h.keyed, h.rows, h.owners, h.users, h.pending, h.prices⟩
  | transferred => exact ⟨h.keyed, h.rows, h.owners, h.users, h.pending, h.prices⟩
  | sweep => exact ⟨h.keyed, h.rows, h.owners, h.users, h.pending, h.prices⟩
  | swept => exact ⟨h.keyed, h.rows, h.owners, h.users, h.pending, h.prices⟩
  | send row txSig hun =>
    exact h.updateWithdrawal w.db.shares (recordTxSig_id txSig) hun.1
      ⟨by simp [recordTxSig, hun.2.1, hun.2.2], by simp [recordTxSig, hun.2.2]⟩
      (recordTxSig_owner txSig row)
  | complete row c shares hrow =>
    exact h.updateWithdrawal shares (fun _ => rfl) hrow ⟨by simp [Completion.apply],
      by simp [Completion.apply]⟩ rfl
  | fail row reason processedAt hrow hsig =>
    exact h.updateWithdrawal w.db.shares (fun _ => rfl) hrow ⟨fun _ => hsig, by simp [failed]⟩ rfl

theorem moves_preserve_legal (h : Legal P w) (ms : Moves P f w w') : Legal P w' := by
  induction ms with
  | refl => exact h
  | tail _ m ih => exact move_preserves_legal ih m

theorem move_users (m : Move P f w w') : userIds w.db <+: userIds w'.db := by
  cases m with
  | frame hf => exact hf.users
  | found row n audit shares hempty => simp [userIds, hempty]
  | _ => exact List.prefix_rfl

theorem moves_users (ms : Moves P f w w') : userIds w.db <+: userIds w'.db := by
  induction ms with
  | refl => exact List.prefix_rfl
  | tail _ m ih => exact ih.trans (move_users m)

theorem restart_preserves_legal (h : Legal P w) : Legal P w.restart :=
  ⟨h.keyed, h.rows, h.owners, h.users, by simp [PendingPositive, Memory.fresh], by simp [Memory.fresh]⟩

end LedgerMachine
