import BertMMBot.RuntimeRefinement

/-! # The life of a withdrawal row

Every move of the ledger machine leaves a row as it is or takes one step of the state machine
below. Over whole runs, completed rows and recorded signatures stay, and a row that a process
left in processing is never touched again. -/
namespace RowLifecycle

open AsyncFibers VaultTypes VaultProgram KeyedTable DepositorStore LedgerMachine VaultDiscipline
open VaultRuntime RuntimeRefinement

/-- The steps of one row; which may come depends on how far its process has come with it. -/
inductive RowStep : Phase → WithdrawalRow → WithdrawalRow → Prop where
  | requeue {ph row} : row.status = .failed → row.txSig = none → RowStep ph row (requeued row)
  | process {row} : row.status = .queued → RowStep .taken row (startProcessing row)
  | send {row} {txSig : Signature} : row.status = .processing → row.txSig = none →
      RowStep (.paid txSig) row (recordTxSig txSig row)
  | complete {row} {c : Completion} : row.status = .processing → row.txSig = some c.txSig →
      RowStep (.paid c.txSig) row (c.apply row)
  | fail {ph row reason processedAt} : row.txSig = none →
      row.status = .processing ∨ row.status = .failed → ph ≠ .idle →
      RowStep ph row (failed reason processedAt row)

variable {P : Policy} {f : Fiber} {w w' : World} {id : ℕ} {row : WithdrawalRow} {ph : Phase}

def Handles (id : ℕ) : TraceEvent → Prop
  | .take i => i = id
  | .transfer i _ _ _ => i = id
  | .transferred i _ => i = id
  | _ => False

theorem RowStep.not_completed {row' : WithdrawalRow} (h : RowStep ph row row') :
    row.status ≠ .completed := by
  cases h with
  | fail _ hst => rcases hst with hst | hst <;> simp [hst]
  | _ => simp [*]

theorem RowStep.keeps_txSig {row' : WithdrawalRow} {txSig : Signature} (h : RowStep ph row row')
    (hw : WellFormed row) (hsig : row.txSig = some txSig) : row'.txSig = some txSig := by
  cases h with
  | complete hst hs =>
    rw [hs] at hsig
    exact hsig
  | process hst =>
    have hnone := hw.1 (.inl hst)
    rw [hnone] at hsig
    cases hsig
  | requeue _ hnone | send _ hnone | fail hnone =>
    rw [hnone] at hsig
    cases hsig

theorem RowStep.idle {row' : WithdrawalRow} (h : RowStep .idle row row') :
    row.status = .failed := by
  cases h with
  | requeue hst => exact hst
  | fail _ _ hph => exact absurd rfl hph

theorem amended_row {r : WithdrawalRow} {g : WithdrawalRow → WithdrawalRow} {db db' : Db}
    (hg : ∀ x, (g x).id = x.id) (hstored : getWithdrawalById r.id db = some r)
    (hdb : db'.withdrawals = (updateWithdrawal r.id g db).withdrawals)
    (hstep : r.id = id → RowStep ph r (g r)) (hrow : getWithdrawalById id db = some row) :
    ∃ row', getWithdrawalById id db' = some row' ∧ (row' = row ∨ RowStep ph row row') := by
  have hsame : getWithdrawalById id db' = getWithdrawalById id (updateWithdrawal r.id g db) := by
    unfold getWithdrawalById
    rw [hdb]
  by_cases hid : id = r.id
  · subst id
    obtain rfl : r = row := Option.some.inj (hstored.symm.trans hrow)
    exact ⟨g r, hsame.trans (updated_self hg hstored), .inr (hstep rfl)⟩
  · exact ⟨row, (hsame.trans (updated_other hg hid)).trans hrow, .inl rfl⟩

theorem move_row (m : Move P f w w') (hrow : getWithdrawalById id w.db = some row) :
    ∃ row', getWithdrawalById id w'.db = some row' ∧
      (row' = row ∨ RowStep (phase id w.trace) row row') := by
  cases m with
  | frame hf =>
    refine ⟨row, ?_, .inl rfl⟩
    unfold getWithdrawalById at hrow ⊢
    rw [hf.withdrawals]
    exact hrow
  | enqueue => exact ⟨row, lookup_append_some hrow, .inl rfl⟩
  | requeue r hr hst hsig =>
    exact amended_row (g := requeued) (fun _ => rfl) hr rfl (fun _ => .requeue hst hsig) hrow
  | process r hr hst hph =>
    refine amended_row startProcessing_id hr rfl ?_ hrow
    rintro rfl
    rw [hph]
    exact .process hst
  | send r txSig hun hph =>
    refine amended_row (recordTxSig_id txSig) hun.1 rfl ?_ hrow
    rintro rfl
    rw [hph]
    exact .send hun.2.1 hun.2.2
  | complete r c shares hr hst hsig _ hph =>
    refine amended_row (g := c.apply) (fun _ => rfl) hr rfl ?_ hrow
    rintro rfl
    rw [hph]
    exact .complete hst hsig
  | fail r reason processedAt hr hsig hst hidle =>
    refine amended_row (g := failed reason processedAt) (fun _ => rfl) hr rfl ?_ hrow
    rintro rfl
    exact .fail hsig hst hidle
  | found | credit | take | transfer | transferred | sweep | swept => exact ⟨row, hrow, .inl rfl⟩

theorem turn_row (t : Turn P w w') (hrow : getWithdrawalById id w.db = some row) :
    ∃ row', getWithdrawalById id w'.db = some row' ∧
      (row' = row ∨ RowStep (phase id w.trace) row row') := by
  cases t with
  | move m => exact move_row m hrow
  | observe => exact ⟨row, hrow, .inl rfl⟩
  | answer hq => exact move_row (f := .main) (P := P) (.frame hq.frame) hrow
  | stop => exact ⟨row, hrow, .inl rfl⟩

/-- In processing, but the process that took it up has stopped. -/
structure Stranded (id : ℕ) (row : WithdrawalRow) (w : World) : Prop where
  stored : getWithdrawalById id w.db = some row
  status : row.status = .processing
  phase : phase id w.trace = .idle

/-- Nothing was started or paid for a row. -/
def Untouched (id : ℕ) (w w' : World) : Prop :=
  ∃ events, w'.trace = events ++ w.trace ∧ ∀ e ∈ events, ¬Handles id e

theorem untouched_same (h : w'.trace = w.trace) : Untouched id w w' := ⟨[], h, by simp⟩

theorem untouched_record {e : TraceEvent} (h : ¬Handles id e) : Untouched id w (w.record e) :=
  ⟨[e], rfl, by simpa using h⟩

theorem Untouched.trans {w'' : World} (h : Untouched id w w') (k : Untouched id w' w'') :
    Untouched id w w'' := by
  obtain ⟨es, htrace, hes⟩ := h
  obtain ⟨es', htrace', hes'⟩ := k
  refine ⟨es' ++ es, by rw [htrace', htrace, List.append_assoc], ?_⟩
  intro e he
  rcases List.mem_append.mp he with hnew | hold
  · exact hes' e hnew
  · exact hes e hold

theorem move_untouched (hs : Stranded id row w) (m : Move P f w w') : Untouched id w w' := by
  cases m with
  | frame hf => exact untouched_same hf.trace
  | take r hr hst =>
    refine untouched_record ?_
    rintro rfl
    rw [hs.stored] at hr
    cases hr
    rw [hs.status] at hst
    cases hst
  | transfer r _ _ _ hph | transferred r _ _ hph =>
    refine untouched_record ?_
    rintro rfl
    rw [hs.phase] at hph
    cases hph
  | sweep | swept => exact untouched_record (by simp [Handles])
  | found | credit | enqueue | requeue | process | send | complete | fail =>
    exact untouched_same rfl

theorem phase_untouched (h : Untouched id w w') (hidle : phase id w.trace = .idle) :
    phase id w'.trace = .idle := by
  obtain ⟨events, htrace, hevents⟩ := h
  rw [htrace]
  clear htrace
  induction events with
  | nil => exact hidle
  | cons e es ih =>
    have htail := ih fun x hx => hevents x (List.mem_cons_of_mem e hx)
    have he := hevents e (List.mem_cons_self ..)
    cases e with
    | stop => rfl
    | take i | transfer i | transferred i => simpa [phase, show i ≠ id from he] using htail
    | sweep | swept => simpa [phase] using htail

theorem turn_stranded (hs : Stranded id row w) (t : Turn P w w') :
    Stranded id row w' ∧ Untouched id w w' := by
  have huntouched : Untouched id w w' := by
    cases t with
    | move m => exact move_untouched hs m
    | observe => exact untouched_same rfl
    | answer hq => exact untouched_same hq.trace
    | stop => exact ⟨[.stop], rfl, by simp [Handles]⟩
  obtain ⟨row', hrow', hstep⟩ := turn_row t hs.stored
  have heq : row' = row := by
    rcases hstep with heq | hstep
    · exact heq
    · rw [hs.phase] at hstep
      have hfailed := hstep.idle
      rw [hs.status] at hfailed
      cases hfailed
  subst row'
  exact ⟨⟨hrow', hs.status, phase_untouched huntouched hs.phase⟩, huntouched⟩

/-- What becomes of the rows between two states of a run. -/
structure RowsEvolve (w w' : World) : Prop where
  completed : ∀ id row, getWithdrawalById id w.db = some row → row.status = .completed →
    getWithdrawalById id w'.db = some row
  txSig : ∀ id row txSig, getWithdrawalById id w.db = some row → row.txSig = some txSig →
    ∃ row', getWithdrawalById id w'.db = some row' ∧ row'.txSig = some txSig
  requeued : ∀ id row row', getWithdrawalById id w.db = some row → row.status = .failed →
    getWithdrawalById id w'.db = some row' → row'.status = .queued →
    row.txSig = none ∧ row'.txSig = none
  stranded : ∀ id row, getWithdrawalById id w.db = some row → row.status = .processing →
    w.trace.head? = some .stop → getWithdrawalById id w'.db = some row ∧ Untouched id w w'

theorem turns_completed (ts : Turns P w w') (hrow : getWithdrawalById id w.db = some row)
    (hst : row.status = .completed) : getWithdrawalById id w'.db = some row := by
  induction ts with
  | refl => exact hrow
  | tail _ t ih =>
    obtain ⟨row', hrow', heq | hstep⟩ := turn_row t ih
    · rw [hrow', heq]
    · exact absurd hst hstep.not_completed

theorem turns_txSig {txSig : Signature} (hl : Legal P w) (ts : Turns P w w')
    (hrow : getWithdrawalById id w.db = some row) (hsig : row.txSig = some txSig) :
    ∃ row', getWithdrawalById id w'.db = some row' ∧ row'.txSig = some txSig := by
  induction ts with
  | refl => exact ⟨row, hrow, hsig⟩
  | tail ts t ih =>
    obtain ⟨r, hr, hrsig⟩ := ih
    obtain ⟨row', hrow', heq | hstep⟩ := turn_row t hr
    · exact ⟨row', hrow', by rw [heq]; exact hrsig⟩
    · exact ⟨row', hrow', hstep.keeps_txSig ((turns_preserve_legal hl ts).wellFormed hr) hrsig⟩

theorem turns_stranded (ts : Turns P w w') (hs : Stranded id row w) :
    Stranded id row w' ∧ Untouched id w w' := by
  induction ts with
  | refl => exact ⟨hs, untouched_same rfl⟩
  | tail _ t ih =>
    obtain ⟨hs', hu⟩ := turn_stranded ih.1 t
    exact ⟨hs', ih.2.trans hu⟩

theorem stranded_of_stop (hrow : getWithdrawalById id w.db = some row)
    (hst : row.status = .processing) (hstop : w.trace.head? = some .stop) : Stranded id row w := by
  refine ⟨hrow, hst, ?_⟩
  obtain ⟨rest, htrace⟩ := List.head?_eq_some_iff.mp hstop
  rw [htrace]
  rfl

theorem turns_evolve (hl : Legal P w) (ts : Turns P w w') : RowsEvolve w w' where
  completed _ _ hrow hst := turns_completed ts hrow hst
  txSig _ _ _ hrow hsig := turns_txSig hl ts hrow hsig
  requeued _ _ _ hrow hst hrow' hst' := ⟨(hl.wellFormed hrow).1 (.inr hst),
    ((turns_preserve_legal hl ts).wellFormed hrow').1 (.inl hst')⟩
  stranded _ _ hrow hst hstop :=
    have h := turns_stranded ts (stranded_of_stop hrow hst hstop)
    ⟨h.1.stored, h.2⟩

end RowLifecycle
