import BertMMBot.PlayedRuns

/-! # No withdrawal is paid twice

A row that was paid is never queued again, unless both the record of its signature and the
audit row in its place were lost: then the drain takes it for unpaid and fails it, and the
operator may requeue it. -/
namespace PaymentSafety

open VaultTypes VaultProgram KeyedTable DepositorStore LedgerMachine VaultDiscipline
open VaultRuntime RuntimeRefinement PlayedRuns

/-- In a trace, newest first: no transfer of a row after a signature came back for it. -/
def NotRepaid (newer older : TraceEvent) : Prop :=
  match older, newer with
  | .transferred id _, .transfer id' _ _ _ => id' ≠ id
  | _, _ => True

instance (newer older : TraceEvent) : Decidable (NotRepaid newer older) := by
  unfold NotRepaid
  split <;> infer_instance

def Paid (id : ℕ) (trace : List TraceEvent) : Prop := ∃ txSig, .transferred id txSig ∈ trace

/-- A requeue never meets a row whose payment left no record in the database. -/
def Recorded (st : Stmt) (w : World) : Prop :=
  match st with
  | .requeueFailedWithdrawal id => ¬SyncAuditLost id w
  | _ => True

def recordedPolicy : Policy := ⟨Recorded, fun _ => True, fun _ => True, fun _ _ _ _ h => h⟩

variable {P : Policy} {f : Fiber} {w w' : World} {id : ℕ} {trace : List TraceEvent}

theorem paid_cons {e : TraceEvent} (he : ∀ txSig, e ≠ .transferred id txSig) :
    Paid id (e :: trace) ↔ Paid id trace := by
  unfold Paid
  refine exists_congr fun txSig => ?_
  rw [List.mem_cons]
  exact or_iff_right fun h => he txSig h.symm

structure PaidRow (id : ℕ) (w : World) : Prop where
  row : ∃ row, getWithdrawalById id w.db = some row ∧ row.status ≠ .queued ∧
    (row.status = .failed → SyncAuditLost id w)
  phase : phase id w.trace = .idle ∨ ∃ txSig, phase id w.trace = .paid txSig

structure SafelyPaid (w : World) : Prop where
  paid : ∀ id, Paid id w.trace → PaidRow id w
  once : w.trace.Pairwise NotRepaid

theorem initial_safelyPaid (chain : Chain) : SafelyPaid (World.initial chain) := by
  constructor <;> simp [World.initial, Paid]

theorem PaidRow.not_taken (h : PaidRow id w) : LedgerMachine.phase id w.trace ≠ .taken := by
  rcases h.phase with hp | ⟨txSig, hp⟩ <;> simp [hp]

theorem PaidRow.not_queued {row : WithdrawalRow} (h : PaidRow id w)
    (hrow : getWithdrawalById id w.db = some row) : row.status ≠ .queued := by
  obtain ⟨r, hr, hs, -⟩ := h.row
  rw [hrow] at hr
  cases hr
  exact hs

theorem safelyPaid_of_same (h : SafelyPaid w)
    (hrow : ∀ id row, getWithdrawalById id w.db = some row → getWithdrawalById id w'.db = some row)
    (ht : w'.trace = w.trace) (hf : w.faults <:+ w'.faults) : SafelyPaid w' := by
  refine ⟨fun id hp => ?_, by rw [ht]; exact h.once⟩
  rw [ht] at hp
  obtain ⟨⟨row, hr, hq, hlost⟩, hphase⟩ := h.paid id hp
  refine ⟨⟨row, hrow id row hr, hq, fun hs => ?_⟩, by rw [ht]; exact hphase⟩
  obtain ⟨txSig, error, hmem⟩ := hlost hs
  exact ⟨txSig, error, hf.subset hmem⟩

theorem safelyPaid_update {row : WithdrawalRow} {g : WithdrawalRow → WithdrawalRow}
    (shares : List ShareRow) (h : SafelyPaid w) (hg : ∀ r, (g r).id = r.id)
    (hrow : getWithdrawalById row.id w.db = some row)
    (hpaid : PaidRow row.id w → (g row).status ≠ .queued ∧
      ((g row).status = .failed → SyncAuditLost row.id w)) :
    SafelyPaid (w.withDb { updateWithdrawal row.id g w.db with shares }) := by
  refine ⟨fun id hp => ?_, h.once⟩
  have hold := h.paid id hp
  refine ⟨?_, hold.phase⟩
  by_cases hid : id = row.id
  · subst id
    exact ⟨g row, updated_self hg hrow, hpaid hold⟩
  · obtain ⟨r, hr, hq, hlost⟩ := hold.row
    exact ⟨r, (updated_other hg hid).trans hr, hq, hlost⟩

theorem safelyPaid_record {e : TraceEvent} (h : SafelyPaid w)
    (he : ∀ id txSig, e ≠ .transferred id txSig)
    (hphase : ∀ id, Paid id w.trace → phase id (e :: w.trace) = phase id w.trace)
    (honce : ∀ older ∈ w.trace, NotRepaid e older) : SafelyPaid (w.record e) := by
  refine ⟨fun id hp => ?_, List.pairwise_cons.mpr ⟨honce, h.once⟩⟩
  have hpaid := (paid_cons (he id)).mp hp
  have hold := h.paid id hpaid
  refine ⟨hold.row, ?_⟩
  rw [World.record_trace, hphase id hpaid]
  exact hold.phase

theorem notRepaid_of_not_transfer {e : TraceEvent}
    (he : ∀ id d sol bert, e ≠ .transfer id d sol bert) (older : TraceEvent) :
    NotRepaid e older := by
  unfold NotRepaid
  split
  · exact absurd rfl (he _ _ _ _)
  · trivial

theorem move_preserves_safelyPaid (h : SafelyPaid w) (m : Move recordedPolicy f w w') :
    SafelyPaid w' := by
  cases m with
  | frame hf =>
    refine safelyPaid_of_same h (fun id row hr => ?_) hf.trace hf.faults
    unfold getWithdrawalById at hr ⊢
    rw [hf.withdrawals]
    exact hr
  | found => exact safelyPaid_of_same h (fun _ _ hr => hr) rfl List.suffix_rfl
  | credit => exact safelyPaid_of_same h (fun _ _ hr => hr) rfl List.suffix_rfl
  | enqueue row =>
    exact safelyPaid_of_same h (fun _ _ hr => lookup_append_some hr) rfl List.suffix_rfl
  | requeue row hrow hst hsig hallow =>
    refine safelyPaid_update w.db.shares h (fun _ => rfl) hrow fun hp => ?_
    obtain ⟨r, hr, -, hlost⟩ := hp.row
    rw [hrow] at hr
    cases hr
    exact absurd (hlost hst) hallow
  | take row hrow hst =>
    refine safelyPaid_record h (by simp) (fun id hp => ?_) fun older _ =>
      notRepaid_of_not_transfer (by simp) older
    have hne : row.id ≠ id := by
      rintro rfl
      exact (h.paid row.id hp).not_queued hrow hst
    simp [phase, hne]
  | process row hrow hst =>
    exact safelyPaid_update w.db.shares h startProcessing_id hrow
      fun hp => absurd hst (hp.not_queued hrow)
  | transfer row sol bert hun hphase =>
    have hne : ∀ id, Paid id w.trace → row.id ≠ id := by
      rintro id hp rfl
      exact (h.paid row.id hp).not_taken hphase
    refine safelyPaid_record h (by simp) (fun id hp => by simp [phase, hne id hp]) ?_
    intro older hmem
    cases older with
    | transferred id txSig => exact hne id ⟨txSig, hmem⟩
    | _ => trivial
  | transferred row txSig hun hphase =>
    refine ⟨fun id hp => ?_, List.pairwise_cons.mpr ⟨fun older _ =>
      notRepaid_of_not_transfer (by simp) older, h.once⟩⟩
    by_cases hid : row.id = id
    · subst id
      refine ⟨⟨row, hun.1, by simp [hun.2.1], by simp [hun.2.1]⟩, .inr ⟨txSig, ?_⟩⟩
      simp [phase]
    · have hold := h.paid id ((paid_cons (by simp [hid])).mp hp)
      refine ⟨hold.row, ?_⟩
      simpa [phase, hid] using hold.phase
  | sweep =>
    exact safelyPaid_record h (by simp) (fun _ _ => by simp [phase]) fun older _ =>
      notRepaid_of_not_transfer (by simp) older
  | swept =>
    exact safelyPaid_record h (by simp) (fun _ _ => by simp [phase]) fun older _ =>
      notRepaid_of_not_transfer (by simp) older
  | send row txSig hun =>
    refine safelyPaid_update w.db.shares h (recordTxSig_id txSig) hun.1 fun _ => ?_
    simp [recordTxSig, hun.2.1, hun.2.2]
  | complete row c shares hrow =>
    exact safelyPaid_update shares h (fun _ => rfl) hrow fun _ => by simp [Completion.apply]
  | fail row reason processedAt hrow hsig hst hidle hlost =>
    refine safelyPaid_update w.db.shares h (fun _ => rfl) hrow fun hp => ⟨by simp [failed], ?_⟩
    intro _
    rcases hp.phase with hphase | ⟨txSig, hphase⟩
    · exact absurd hphase hidle
    · exact hlost txSig hphase

theorem turn_preserves_safelyPaid (h : SafelyPaid w) (t : Turn recordedPolicy w w') :
    SafelyPaid w' := by
  cases t with
  | move m => exact move_preserves_safelyPaid h m
  | observe mid => exact safelyPaid_of_same h (fun _ _ hr => hr) rfl List.suffix_rfl
  | answer hq =>
    exact move_preserves_safelyPaid (f := .main) h (.frame hq.frame)
  | stop =>
    refine ⟨fun id hp => ?_, List.pairwise_cons.mpr ⟨fun older _ =>
      notRepaid_of_not_transfer (by simp) older, h.once⟩⟩
    have hold := h.paid id ((paid_cons (by simp)).mp hp)
    exact ⟨hold.row, .inl rfl⟩

variable {venue : MeteoraPosition.Venue} {cfg : BotConfig}

/-- Whatever statements throw, no row is paid twice in a run that requeues no row whose
signature and whose audit row in its place were both lost. -/
theorem paid_at_most_once (env : Environment)
    (h : Reachable venue cfg (env.within recordedPolicy) w) : w.trace.Pairwise NotRepaid :=
  (reachable_invariant (env.within_ok recordedPolicy) initial_safelyPaid
    (fun _ _ _ hs t => turn_preserves_safelyPaid hs t) h).once

/-- The signature of row 1 cannot be recorded, and neither can the audit row about it. -/
def loseSync (st : Stmt) (_ : World) : Option Thrown :=
  match st with
  | .markWithdrawalSent 1 => some (.error "database is locked")
  | .writeAudit (.withdrawalDbSyncFailed ..) => some (.error "database is locked")
  | _ => none

/-- The row is paid, fails, is requeued by the operator, and is drained again. -/
def lostSync : PlayedRun :=
  twoHolders ++ [
    ({ clock := 2150000 }, message "/withdraw 60%" 2),
    ({ clock := 2200000, samples := quotes, faults := loseSync }, mainTick),
    ({ clock := 2250000 }, message "/forceprocess 1" 1),
    ({ clock := 2300000, samples := quotes }, mainTick)]

theorem lostSync_staged : ∀ p ∈ lostSync, Staged plainVenue plainConfig p := by
  refine List.forall_mem_append.mpr ⟨twoHolders_staged, ?_⟩
  simp only [List.forall_mem_cons]
  exact ⟨message_staged rfl rfl _ _, tick_staged (.inl rfl) rfl, message_staged rfl rfl _ _,
    tick_staged (.inl rfl) rfl, by simp⟩

/-- Two lost writes and a requeue pay row 1 twice. -/
theorem paid_twice : ∃ w,
    Reachable plainVenue plainConfig anyEnvironment.host w ∧ ¬w.trace.Pairwise NotRepaid :=
  ⟨lostSync.world oneSol, played_reachable_any lostSync_staged oneSol, by decide +kernel⟩

/-- The same two writes are lost, and the requeue throws as well. -/
def refuseRequeue (st : Stmt) (w : World) : Option Thrown :=
  match st with
  | .requeueFailedWithdrawal _ => some (.error "database is locked")
  | _ => loseSync st w

theorem recordedPolicy_lenient : Lenient recordedPolicy anywhere :=
  ⟨fun _ _ => .inl trivial, fun _ _ => trivial⟩

theorem refuseRequeue_allowed {st : Stmt} (h : refuseRequeue st w = none) :
    recordedPolicy.allow st w := by
  cases st with
  | requeueFailedWithdrawal id => simp [refuseRequeue] at h
  | _ => trivial

/-- Row 1 is paid once although its signature is lost. -/
theorem paid_at_most_once_refused :
    Paid 1 ((lostSync.guarded refuseRequeue).world oneSol).trace ∧
      ((lostSync.guarded refuseRequeue).world oneSol).trace.Pairwise NotRepaid := by
  have hreach : Reachable plainVenue plainConfig (anyEnvironment.within recordedPolicy)
      ((lostSync.guarded refuseRequeue).world oneSol) := by
    refine played_reachable recordedPolicy_lenient (guarded_staged lostSync_staged) ?_ oneSol
    intro p hp st w h
    obtain ⟨q, -, rfl⟩ := List.mem_map.mp hp
    exact refuseRequeue_allowed h
  have hpaid : .transferred 1 (txSig "transfer" (by decide)) ∈
      ((lostSync.guarded refuseRequeue).world oneSol).trace := by decide +kernel
  exact ⟨⟨_, hpaid⟩, paid_at_most_once anyEnvironment hreach⟩

end PaymentSafety
