import BertMMBot.PlayedRuns
import Mathlib.Tactic.Ring

/-! # Conservation of shares

A balance is what its owner got at the founding and for deposits, less what completed
withdrawals burned. A row is burned once: only a row in processing completes. -/
namespace ShareConservation

open VaultTypes VaultProgram KeyedTable DepositorStore LedgerMachine VaultDiscipline
open VaultRuntime RuntimeRefinement PlayedRuns

/-- Shares a user was given when the vault was founded. -/
def bootstrapShares (u : TelegramId) (db : Db) : ℚ :=
  (((bootstraps db).filter fun b => b.1 = u).map Prod.snd).sum

def mintedShares (u : TelegramId) (db : Db) : ℚ :=
  ((db.deposits.filter fun d => d.telegramId = u).map DepositRow.sharesMinted).sum

def burnedShares (u : TelegramId) (db : Db) : ℚ :=
  ((db.withdrawals.filter fun r => r.telegramId = u ∧ r.status = .completed).map
    WithdrawalRow.sharesBurned).sum

variable {P : Policy} {f : Fiber} {w w' : World} {u v : TelegramId} {delta : ℚ} {db : Db}
  {shares : List ShareRow}

theorem getShares_sharesAfter (h : sharesAfter u delta db = .ok shares) (v : TelegramId) :
    getShares v { db with shares } = getShares v db + if v = u then delta else 0 := by
  unfold sharesAfter at h
  by_cases hv : v = u
  · subst v
    rcases hl : lookup ShareRow.telegramId u db.shares with _ | existing
    · rw [hl] at h
      simp only [] at h
      split at h
      · cases h
        let row : ShareRow := ⟨u, delta⟩
        have hfresh : lookup ShareRow.telegramId row.telegramId (db.shares ++ [row]) = some row :=
          lookup_append_fresh hl
        simp only [row] at hfresh
        simp [getShares, hl, hfresh]
      · cases h
    · rw [hl] at h
      cases h
      have hself : lookup ShareRow.telegramId u (amend ShareRow.telegramId u
          (fun r => { r with shares := existing.shares + delta }) db.shares) =
            (lookup ShareRow.telegramId u db.shares).map fun r =>
              { r with shares := existing.shares + delta } := lookup_amend_self fun _ => rfl
      simp only [getShares]
      rw [hself, hl]
      simp
  · rcases hl : lookup ShareRow.telegramId u db.shares with _ | existing
    · rw [hl] at h
      simp only [] at h
      split at h
      · cases h
        simp [getShares, lookup_append_of_ne, hv]
      · cases h
    · rw [hl] at h
      cases h
      have hother : lookup ShareRow.telegramId v (amend ShareRow.telegramId u
          (fun r => { r with shares := existing.shares + delta }) db.shares) =
            lookup ShareRow.telegramId v db.shares := lookup_amend_of_ne (fun _ => rfl) hv
      simp only [getShares]
      rw [hother]
      simp [hv]

theorem sharesAfter_keyed (hk : Keyed ShareRow.telegramId db.shares)
    (h : sharesAfter u delta db = .ok shares) : Keyed ShareRow.telegramId shares := by
  unfold sharesAfter at h
  rcases hl : lookup ShareRow.telegramId u db.shares with _ | existing
  · rw [hl] at h
    simp only [] at h
    split at h
    · cases h
      exact keyed_append hk hl
    · cases h
  · rw [hl] at h
    cases h
    exact keyed_amend (fun _ => rfl) hk

theorem totalShares_sharesAfter (hk : Keyed ShareRow.telegramId db.shares)
    (h : sharesAfter u delta db = .ok shares) :
    (shares.map ShareRow.shares).sum = totalShares db + delta := by
  unfold sharesAfter at h
  rcases hl : lookup ShareRow.telegramId u db.shares with _ | existing
  · rw [hl] at h
    simp only [] at h
    split at h
    · cases h
      simp [totalShares]
    · cases h
  · rw [hl] at h
    cases h
    have hsum := sum_amend (f := fun r : ShareRow => { r with shares := existing.shares + delta })
      ShareRow.shares hk hl
    rw [hsum, totalShares]
    ring

theorem sharesAfter_owners (hown : ∀ r ∈ db.shares, r.telegramId ∈ userIds db)
    (h : sharesAfter u delta db = .ok shares) : ∀ r ∈ shares, r.telegramId ∈ userIds db := by
  unfold sharesAfter at h
  intro r hr
  rcases hl : lookup ShareRow.telegramId u db.shares with _ | existing
  · rw [hl] at h
    simp only [] at h
    split at h
    · next hu =>
      cases h
      rcases List.mem_append.mp hr with hold | hnew
      · exact hown r hold
      · obtain ⟨user, huser⟩ := Option.isSome_iff_exists.mp hu
        obtain ⟨hmem, hid⟩ := lookup_some huser
        rw [List.mem_singleton.mp hnew]
        exact List.mem_map.mpr ⟨user, hmem, hid⟩
    · cases h
  · rw [hl] at h
    cases h
    rcases mem_amend.mp hr with ⟨hmem, -⟩ | ⟨a, ha, -, rfl⟩
    · exact hown r hmem
    · exact hown a ha

theorem burnedShares_column (u : TelegramId) (db : Db) : burnedShares u db =
    (db.withdrawals.map fun r =>
      if r.telegramId = u ∧ r.status = .completed then r.sharesBurned else 0).sum := by
  simp [burnedShares, sum_filter]

theorem burnedShares_updateWithdrawal {row : WithdrawalRow} {g : WithdrawalRow → WithdrawalRow}
    (hl : Legal P w) (hrow : getWithdrawalById row.id w.db = some row)
    (hold : row.status ≠ .completed) (hnew : (g row).status ≠ .completed) (u : TelegramId) :
    burnedShares u (updateWithdrawal row.id g w.db) = burnedShares u w.db := by
  rw [burnedShares_column, burnedShares_column]
  refine sum_amend_of_eq _ fun r hr hid => ?_
  rw [keyed_unique hl.keyed hr (lookup_some hrow).1 hid]
  simp [hold, hnew]

theorem burnedShares_complete {row : WithdrawalRow} (hl : Legal P w) (c : Completion)
    (hrow : getWithdrawalById row.id w.db = some row) (hst : row.status = .processing)
    (u : TelegramId) :
    burnedShares u (updateWithdrawal row.id c.apply w.db) =
      burnedShares u w.db + if u = row.telegramId then row.sharesBurned else 0 := by
  rw [burnedShares_column, burnedShares_column]
  have hsum := sum_amend (f := c.apply) (fun r : WithdrawalRow =>
    if r.telegramId = u ∧ r.status = .completed then r.sharesBurned else 0) hl.keyed hrow
  simp only [updateWithdrawal]
  rw [hsum]
  simp [Completion.apply, hst, eq_comm]

theorem burnedShares_append {row : WithdrawalRow} (h : row.status ≠ .completed) (u : TelegramId) :
    burnedShares u { db with withdrawals := db.withdrawals ++ [row] } = burnedShares u db := by
  simp [burnedShares, List.filter_append, h]

theorem mintedShares_append (d : DepositRow) (u : TelegramId) :
    mintedShares u { db with deposits := db.deposits ++ [d] } =
      mintedShares u db + if u = d.telegramId then d.sharesMinted else 0 := by
  by_cases h : d.telegramId = u
  · simp [mintedShares, List.filter_append, h]
  · simp [mintedShares, List.filter_append, h, Ne.symm h]

theorem bootstrapShares_append {row : AuditRow} {n : ℚ} (he : row.event = .bootstrap n)
    (hu : row.telegramId = some v) (u : TelegramId) :
    bootstrapShares u { db with auditLog := db.auditLog ++ [row] } =
      bootstrapShares u db + if u = v then n else 0 := by
  have hb : bootstrapOf row = some (v, n) := by simp [bootstrapOf, he, hu]
  by_cases h : v = u
  · simp [bootstrapShares, bootstraps, List.filterMap_append, List.filter_append, hb, h]
  · simp [bootstrapShares, bootstraps, List.filterMap_append, List.filter_append, hb, h, Ne.symm h]

structure Conserved (w : World) : Prop where
  keyed : Keyed ShareRow.telegramId w.db.shares
  owners : ∀ r ∈ w.db.shares, r.telegramId ∈ userIds w.db
  balance : ∀ u, getShares u w.db =
    bootstrapShares u w.db + mintedShares u w.db - burnedShares u w.db

theorem initial_conserved (chain : Chain) : Conserved (World.initial chain) := by
  constructor <;> simp [World.initial, Db.empty, Keyed, getShares, lookup, bootstrapShares,
    bootstraps, mintedShares, burnedShares]

theorem conserved_of_same (h : Conserved w) (hs : w'.db.shares = w.db.shares)
    (hu : userIds w.db <+: userIds w'.db) (hb : bootstraps w'.db = bootstraps w.db)
    (hm : ∀ u, mintedShares u w'.db = mintedShares u w.db)
    (hd : ∀ u, burnedShares u w'.db = burnedShares u w.db) : Conserved w' where
  keyed := by rw [hs]; exact h.keyed
  owners := by
    rw [hs]
    exact fun r hr => hu.subset (h.owners r hr)
  balance := by
    intro u
    have hget : getShares u w'.db = getShares u w.db := by rw [getShares, getShares, hs]
    have hboot : bootstrapShares u w'.db = bootstrapShares u w.db := by
      rw [bootstrapShares, bootstrapShares, hb]
    rw [hget, hboot, hm, hd]
    exact h.balance u

theorem frame_preserves_conserved (h : Conserved w) (hf : Frame w w') : Conserved w' :=
  conserved_of_same h hf.shares hf.users hf.bootstraps
    (fun u => by rw [mintedShares, mintedShares, hf.deposits])
    fun u => by rw [burnedShares, burnedShares, hf.withdrawals]

theorem move_preserves_conserved (hl : Legal P w) (h : Conserved w) (m : Move P f w w') :
    Conserved w' := by
  cases m with
  | frame hf => exact frame_preserves_conserved h hf
  | found row n audit shares hempty hn he hid hs =>
    have hnone : w.db.shares = [] := by
      refine List.eq_nil_iff_forall_not_mem.mpr fun r hr => ?_
      have := h.owners r hr
      simp [userIds, hempty] at this
    have howners : ∀ r ∈ w.db.shares, r.telegramId ∈ userIds { w.db with users := [row] } := by
      simp [hnone]
    have hold : Keyed ShareRow.telegramId { w.db with users := [row] }.shares := h.keyed
    have hkeyed : Keyed ShareRow.telegramId shares := sharesAfter_keyed hold hs
    have hafter := sharesAfter_owners howners hs
    refine ⟨hkeyed, hafter, fun u => ?_⟩
    have hget := getShares_sharesAfter hs u
    have hboot : bootstrapShares u { w.db with auditLog := w.db.auditLog ++ [audit] } =
        bootstrapShares u w.db + if u = row.telegramId then n else 0 :=
      bootstrapShares_append he hid u
    have hbal := h.balance u
    change getShares u { w.db with users := [row], shares } = _ + mintedShares u w.db -
      burnedShares u w.db
    rw [hget]
    change getShares u w.db + _ = _
    rw [hbal]
    change _ = bootstrapShares u { w.db with auditLog := w.db.auditLog ++ [audit] } + _ - _
    rw [hboot]
    ring
  | credit d mid shares _ _ _ _ hs =>
    have hkeyed := sharesAfter_keyed h.keyed hs
    have howners := sharesAfter_owners h.owners hs
    refine ⟨hkeyed, howners, fun u => ?_⟩
    have hget := getShares_sharesAfter hs u
    have hmint : mintedShares u { w.db with deposits := w.db.deposits ++ [d] } =
        mintedShares u w.db + if u = d.telegramId then d.sharesMinted else 0 :=
      mintedShares_append d u
    have hbal := h.balance u
    change getShares u { w.db with shares } = bootstrapShares u w.db +
      mintedShares u { w.db with deposits := w.db.deposits ++ [d] } - burnedShares u w.db
    rw [hget, hmint, hbal]
    ring
  | enqueue row hq =>
    exact conserved_of_same h rfl List.prefix_rfl rfl (fun _ => rfl)
      fun u => burnedShares_append (by simp [hq]) u
  | requeue row hrow hst =>
    exact conserved_of_same h rfl List.prefix_rfl rfl (fun _ => rfl)
      fun u => burnedShares_updateWithdrawal hl hrow (by simp [hst]) (by simp [requeued]) u
  | take => exact ⟨h.keyed, h.owners, h.balance⟩
  | process row hrow hst =>
    exact conserved_of_same h rfl List.prefix_rfl rfl (fun _ => rfl) fun u =>
      burnedShares_updateWithdrawal hl hrow (by simp [hst]) (by simp [startProcessing, hst]) u
  | transfer => exact ⟨h.keyed, h.owners, h.balance⟩
  | transferred => exact ⟨h.keyed, h.owners, h.balance⟩
  | sweep => exact ⟨h.keyed, h.owners, h.balance⟩
  | swept => exact ⟨h.keyed, h.owners, h.balance⟩
  | send row txSig hun =>
    exact conserved_of_same h rfl List.prefix_rfl rfl (fun _ => rfl) fun u =>
      burnedShares_updateWithdrawal hl hun.1 (by simp [hun.2.1])
        (by simp [recordTxSig, hun.2.1, hun.2.2]) u
  | complete row c shares hrow hst _ _ _ hs =>
    have hkeyed := sharesAfter_keyed h.keyed hs
    have howners := sharesAfter_owners h.owners hs
    refine ⟨hkeyed, howners, fun u => ?_⟩
    have hget := getShares_sharesAfter hs u
    have hburn := burnedShares_complete hl c hrow hst u
    have hbal := h.balance u
    change getShares u { w.db with shares } = bootstrapShares u w.db + mintedShares u w.db -
      burnedShares u (updateWithdrawal row.id c.apply w.db)
    rw [hget, hburn, hbal]
    by_cases hu : u = row.telegramId
    · simp [hu]
      ring
    · simp [hu]
  | fail row reason processedAt hrow hsig hst =>
    have hne : row.status ≠ .completed := by rcases hst with h | h <;> simp [h]
    exact conserved_of_same h rfl List.prefix_rfl rfl (fun _ => rfl)
      fun u => burnedShares_updateWithdrawal hl hrow hne (by simp [failed]) u

theorem turn_preserves_conserved (hl : Legal P w) (h : Conserved w) (t : Turn P w w') :
    Conserved w' := by
  cases t with
  | move m => exact move_preserves_conserved hl h m
  | observe mid => exact ⟨h.keyed, h.owners, h.balance⟩
  | answer hq => exact frame_preserves_conserved h hq.frame
  | stop => exact ⟨h.keyed, h.owners, h.balance⟩

theorem totalShares_by_user (hu : (userIds w.db).Nodup) (h : Conserved w) :
    totalShares w.db = ((userIds w.db).map fun u => getShares u w.db).sum :=
  (sum_lookup ShareRow.shares h.keyed hu h.owners).symm

variable {venue : MeteoraPosition.Venue} {cfg : BotConfig}

theorem reachable_conserved (env : Environment) (h : Reachable venue cfg env.host w) :
    Conserved w :=
  reachable_invariant env.ok initial_conserved
    (fun _ _ hl hc t => turn_preserves_conserved hl hc t) h

/-- In every reachable state each balance, and with them the total, is accounted for by the
founding, the deposit rows and the completed withdrawal rows. -/
theorem shares_conserved (env : Environment) (h : Reachable venue cfg env.host w) :
    (∀ u, getShares u w.db =
      bootstrapShares u w.db + mintedShares u w.db - burnedShares u w.db) ∧
    totalShares w.db = ((userIds w.db).map fun u =>
      bootstrapShares u w.db + mintedShares u w.db - burnedShares u w.db).sum := by
  have hl := reachable_legal env.ok h
  have hc := reachable_conserved env h
  refine ⟨hc.balance, ?_⟩
  rw [totalShares_by_user hl.users hc]
  exact congrArg List.sum (List.map_congr_left fun u _ => hc.balance u)

/-- After one deposit of 100 shares and one withdrawal of 60, user 2 is left with 40. -/
theorem shares_conserved_oneWithdrawal :
    mintedShares 2 (oneWithdrawal.world oneSol).db = 100 ∧
      burnedShares 2 (oneWithdrawal.world oneSol).db = 60 ∧
      (∀ u, getShares u (oneWithdrawal.world oneSol).db =
        bootstrapShares u (oneWithdrawal.world oneSol).db +
          mintedShares u (oneWithdrawal.world oneSol).db -
          burnedShares u (oneWithdrawal.world oneSol).db) :=
  ⟨by decide +kernel, by decide +kernel,
    (shares_conserved anyEnvironment (played_reachable_any oneWithdrawal_staged oneSol)).1⟩

end ShareConservation
