import BertMMBot.ShareConservation

/-! # Balances and open requests

Nothing is reserved when a withdrawal is queued. As long as every request is queued or
requeued within what the user's other open requests leave, balances cover all open requests;
two requests for more than the balance together drive it below zero. -/
namespace ShareSolvency

open VaultTypes VaultProgram KeyedTable DepositorStore LedgerMachine VaultDiscipline ShareMath
open VaultRuntime RuntimeRefinement ShareConservation PlayedRuns AsyncFibers

def Open (r : WithdrawalRow) : Prop := r.status = .queued ∨ r.status = .processing

instance (r : WithdrawalRow) : Decidable (Open r) := inferInstanceAs (Decidable (_ ∨ _))

def openShares (u : TelegramId) (db : Db) : ℚ :=
  ((db.withdrawals.filter fun r => r.telegramId = u ∧ Open r).map WithdrawalRow.sharesBurned).sum

/-- Prices are positive; nothing else is asked. -/
def pricedPolicy : Policy := ⟨fun _ _ => True, fun _ => True, PositivePrice, fun _ _ _ _ h => h⟩

/-- A request is queued or requeued only if the balance covers it and the open ones. -/
def Covered (st : Stmt) (w : World) : Prop :=
  match st with
  | .enqueueWithdrawal u shares => openShares u w.db + shares ≤ getShares u w.db
  | .requeueFailedWithdrawal id => ∀ row, getWithdrawalById id w.db = some row →
    openShares row.telegramId w.db + row.sharesBurned ≤ getShares row.telegramId w.db
  | _ => True

def coveredPolicy : Policy := ⟨Covered, fun _ => True, PositivePrice, fun _ _ _ _ h => h⟩

variable {P : Policy} {f : Fiber} {w w' : World} {db : Db}

theorem openShares_column (u : TelegramId) (db : Db) : openShares u db =
    (db.withdrawals.map fun r =>
      if r.telegramId = u ∧ Open r then r.sharesBurned else 0).sum := by
  simp [openShares, sum_filter]

theorem openShares_append {row : WithdrawalRow} (h : Open row) (u : TelegramId) :
    openShares u { db with withdrawals := db.withdrawals ++ [row] } =
      openShares u db + if u = row.telegramId then row.sharesBurned else 0 := by
  by_cases hu : row.telegramId = u
  · simp [openShares, List.filter_append, h, hu]
  · simp [openShares, List.filter_append, hu, Ne.symm hu]

theorem openShares_update {row : WithdrawalRow} {g : WithdrawalRow → WithdrawalRow}
    (hl : Legal P w) (hrow : getWithdrawalById row.id w.db = some row)
    (hid : (g row).telegramId = row.telegramId) (hburn : (g row).sharesBurned = row.sharesBurned)
    (u : TelegramId) :
    openShares u (updateWithdrawal row.id g w.db) = openShares u w.db +
      if u = row.telegramId then
        (if Open (g row) then row.sharesBurned else 0) - (if Open row then row.sharesBurned else 0)
      else 0 := by
  rw [openShares_column, openShares_column]
  have hsum := sum_amend (f := g) (fun r : WithdrawalRow =>
    if r.telegramId = u ∧ Open r then r.sharesBurned else 0) hl.keyed hrow
  simp only [updateWithdrawal]
  rw [hsum, hid, hburn]
  by_cases hu : u = row.telegramId
  · simp [hu]
  · simp [hu, Ne.symm hu]

theorem openShares_nonneg (h : ∀ r ∈ db.withdrawals, 0 ≤ r.sharesBurned) (u : TelegramId) :
    0 ≤ openShares u db := by
  refine List.sum_nonneg fun x hx => ?_
  obtain ⟨r, hr, rfl⟩ := List.mem_map.mp hx
  exact h r (List.mem_of_mem_filter hr)

structure Solvent (w : World) : Prop where
  burned : ∀ r ∈ w.db.withdrawals, 0 ≤ r.sharesBurned
  covers : ∀ u, openShares u w.db ≤ getShares u w.db

theorem Solvent.nonneg (h : Solvent w) (u : TelegramId) : 0 ≤ getShares u w.db :=
  (openShares_nonneg h.burned u).trans (h.covers u)

theorem initial_solvent (chain : Chain) : Solvent (World.initial chain) := by
  constructor <;> simp [World.initial, Db.empty, openShares, getShares, lookup]

theorem solvent_of_same (h : Solvent w) (hw : w'.db.withdrawals = w.db.withdrawals)
    (hs : w'.db.shares = w.db.shares) : Solvent w' := by
  refine ⟨by rw [hw]; exact h.burned, fun u => ?_⟩
  rw [openShares, getShares, hw, hs]
  exact h.covers u

theorem solvent_mint {u : TelegramId} {delta : ℚ} {shares : List ShareRow} (h : Solvent w)
    (hs : sharesAfter u delta db = .ok shares) (hdb : db.shares = w.db.shares) (hpos : 0 ≤ delta)
    (hw' : w'.db.withdrawals = w.db.withdrawals) (hs' : w'.db.shares = shares) : Solvent w' := by
  refine ⟨by rw [hw']; exact h.burned, fun v => ?_⟩
  have hget := getShares_sharesAfter hs v
  have hold : getShares v db = getShares v w.db := by rw [getShares, getShares, hdb]
  have hnew : getShares v w'.db = getShares v { db with shares } := by
    rw [getShares, getShares, hs']
  have hopen : openShares v w'.db = openShares v w.db := by rw [openShares, openShares, hw']
  have hcov := h.covers v
  rw [hopen, hnew, hget, hold]
  split
  · linarith
  · linarith

theorem solvent_update {row : WithdrawalRow} {g : WithdrawalRow → WithdrawalRow}
    (hl : Legal P w) (h : Solvent w) (hrow : getWithdrawalById row.id w.db = some row)
    (hid : (g row).telegramId = row.telegramId) (hburn : (g row).sharesBurned = row.sharesBurned)
    (hopen : Open (g row) → ¬Open row → openShares row.telegramId w.db + row.sharesBurned ≤
      getShares row.telegramId w.db) :
    Solvent (w.withDb (updateWithdrawal row.id g w.db)) := by
  have hpos := h.burned row (lookup_some hrow).1
  refine ⟨?_, fun u => ?_⟩
  · intro r hr
    rcases mem_amend_keyed hl.keyed hrow hr with ⟨hmem, -⟩ | rfl
    · exact h.burned r hmem
    · rw [hburn]
      exact hpos
  · have hsum := openShares_update hl hrow hid hburn u
    have hcov := h.covers u
    change openShares u (updateWithdrawal row.id g w.db) ≤ getShares u w.db
    rw [hsum]
    by_cases hu : u = row.telegramId
    · subst u
      by_cases hg : Open (g row) <;> by_cases hr : Open row
      · simpa [hg, hr] using hcov
      · simpa [hg, hr] using hopen hg hr
      · simp only [hg, hr, if_true, if_false]
        linarith
      · simpa [hg, hr] using hcov
    · simpa [hu] using hcov

theorem solvent_complete {row : WithdrawalRow} {shares : List ShareRow} (c : Completion)
    (hl : Legal P w) (h : Solvent w) (hrow : getWithdrawalById row.id w.db = some row)
    (hst : row.status = .processing)
    (hs : sharesAfter row.telegramId (-row.sharesBurned) w.db = .ok shares) :
    Solvent (w.withDb { updateWithdrawal row.id c.apply w.db with shares }) := by
  have hclosed : ¬Open (c.apply row) := by simp [Open, Completion.apply]
  have hwas : Open row := .inr hst
  refine ⟨?_, fun u => ?_⟩
  · intro r hr
    rcases mem_amend_keyed hl.keyed hrow hr with ⟨hmem, -⟩ | rfl
    · exact h.burned r hmem
    · exact h.burned row (lookup_some hrow).1
  · have hget := getShares_sharesAfter hs u
    have hopen := openShares_update (g := c.apply) hl hrow rfl rfl u
    have hcov := h.covers u
    change openShares u (updateWithdrawal row.id c.apply w.db) ≤ getShares u { w.db with shares }
    rw [hget, hopen]
    by_cases hu : u = row.telegramId
    · simp only [hu, hclosed, hwas, if_true, if_false] at hcov ⊢
      linarith
    · simpa [hu] using hcov

theorem credited_nonneg {mid : Mid} {d : DepositRow} (hp : PositivePrice mid)
    (h : Credited mid d) : 0 ≤ d.sharesMinted := by
  rw [h.2]
  exact div_nonneg (tokenUsd_nonneg hp.1.le hp.2.le d.solLamports d.bertRaw) h.1.le

theorem move_preserves_solvent (hl : Legal coveredPolicy w) (h : Solvent w)
    (m : Move coveredPolicy f w w') : Solvent w' := by
  cases m with
  | frame hf => exact solvent_of_same h hf.withdrawals hf.shares
  | found row n audit shares _ hn _ _ hs => exact solvent_mint h hs rfl hn.le rfl rfl
  | credit d mid shares _ hp _ hd hs => exact solvent_mint h hs rfl (credited_nonneg hp hd) rfl rfl
  | enqueue row hq hsig hfresh howner hpos hallow =>
    refine ⟨?_, fun u => ?_⟩
    · intro r hr
      rcases List.mem_append.mp hr with hold | hnew
      · exact h.burned r hold
      · rw [List.mem_singleton.mp hnew]
        exact hpos.le
    · have hsum : openShares u { w.db with withdrawals := w.db.withdrawals ++ [row] } =
          openShares u w.db + if u = row.telegramId then row.sharesBurned else 0 :=
        openShares_append (.inl hq) u
      have hcov := h.covers u
      have hroom : openShares row.telegramId w.db + row.sharesBurned ≤
        getShares row.telegramId w.db := hallow
      change openShares u { w.db with withdrawals := w.db.withdrawals ++ [row] } ≤
        getShares u w.db
      rw [hsum]
      by_cases hu : u = row.telegramId
      · simpa [hu] using hroom
      · simpa [hu] using hcov
  | requeue row hrow hst hsig hallow =>
    exact solvent_update hl h hrow rfl rfl fun _ _ => hallow row hrow
  | take => exact ⟨h.burned, h.covers⟩
  | process row hrow hst =>
    have hfields : startProcessing row = { row with status := .processing } := if_pos hst
    exact solvent_update hl h hrow (by rw [hfields]) (by rw [hfields])
      fun _ hno => absurd (.inl hst) hno
  | transfer => exact ⟨h.burned, h.covers⟩
  | transferred => exact ⟨h.burned, h.covers⟩
  | sweep => exact ⟨h.burned, h.covers⟩
  | swept => exact ⟨h.burned, h.covers⟩
  | send row txSig hun =>
    have hfields : recordTxSig txSig row = { row with txSig := some txSig } := if_pos hun.2.2
    exact solvent_update hl h hun.1 (by rw [hfields]) (by rw [hfields])
      fun _ hno => absurd (.inr hun.2.1) hno
  | complete row c shares hrow hst _ _ _ hs => exact solvent_complete c hl h hrow hst hs
  | fail row reason processedAt hrow =>
    exact solvent_update hl h hrow rfl rfl fun hopen _ => by simp [Open, failed] at hopen

theorem turn_preserves_solvent (hl : Legal coveredPolicy w) (h : Solvent w)
    (t : Turn coveredPolicy w w') : Solvent w' := by
  cases t with
  | move m => exact move_preserves_solvent hl h m
  | observe mid => exact ⟨h.burned, h.covers⟩
  | answer hq => exact solvent_of_same h hq.withdrawals hq.shares
  | stop => exact ⟨h.burned, h.covers⟩

variable {venue : MeteoraPosition.Venue} {cfg : BotConfig}

/-- No balance is negative in any run whose requests are covered when they are queued. -/
theorem shares_nonneg_of_covered (env : Environment)
    (h : Reachable venue cfg (env.within coveredPolicy) w) (u : TelegramId) :
    0 ≤ getShares u w.db :=
  (reachable_invariant (env.within_ok coveredPolicy) initial_solvent
    (fun _ _ hl hs t => turn_preserves_solvent hl hs t) h).nonneg u

/-- User 2 asks twice for 60% of the balance, and a tick pays both. -/
def overdraw : PlayedRun :=
  twoHolders ++ [
    ({ clock := 2150000 }, message "/withdraw 60%" 2),
    ({ clock := 2160000 }, message "/withdraw 60%" 2),
    ({ clock := 2200000, samples := quotes }, mainTick)]

theorem overdraw_staged : ∀ p ∈ overdraw, Staged plainVenue plainConfig p := by
  refine List.forall_mem_append.mpr ⟨twoHolders_staged, ?_⟩
  simp only [List.forall_mem_cons]
  exact ⟨message_staged rfl rfl _ _, message_staged rfl rfl _ _, tick_staged (.inl rfl) rfl, by simp⟩

theorem priced_lenient : Lenient pricedPolicy anywhere := ⟨fun _ _ => .inl trivial, fun _ h => h⟩

theorem covered_lenient : Lenient coveredPolicy anywhere := ⟨fun _ _ => .inl trivial, fun _ h => h⟩

def refuseUncovered (st : Stmt) (w : World) : Option Thrown :=
  match st with
  | .enqueueWithdrawal u shares =>
    if openShares u w.db + shares ≤ getShares u w.db then none else some (.error "not covered")
  | .requeueFailedWithdrawal _ => some (.error "not covered")
  | _ => none

theorem refuseUncovered_covered (st : Stmt) (w : World) (h : refuseUncovered st w = none) :
    Covered st w := by
  cases st with
  | enqueueWithdrawal u shares => simpa [refuseUncovered, Covered] using h
  | requeueFailedWithdrawal id => cases h
  | _ => trivial

/-- With such a store the same messages leave user 2 with the uncovered 40 shares. -/
theorem shares_nonneg_of_covered_refused :
    getShares 2 ((overdraw.guarded refuseUncovered).world oneSol).db = 40 ∧
      0 ≤ getShares 2 ((overdraw.guarded refuseUncovered).world oneSol).db := by
  refine ⟨by decide +kernel, ?_⟩
  refine shares_nonneg_of_covered anyEnvironment (played_reachable covered_lenient
    (guarded_staged overdraw_staged) (fun p hp => ?_) oneSol) 2
  obtain ⟨q, -, rfl⟩ := List.mem_map.mp hp
  exact refuseUncovered_covered

/-- With positive prices all along, two requests that were each within the balance end in a
negative one. -/
theorem overdraw_negative : ∃ w,
    Reachable plainVenue plainConfig (anyEnvironment.within pricedPolicy) w ∧
      getShares 2 w.db < 0 :=
  ⟨overdraw.world oneSol, played_reachable priced_lenient overdraw_staged (fun _ _ _ _ _ => trivial)
    oneSol, by decide +kernel⟩

end ShareSolvency
