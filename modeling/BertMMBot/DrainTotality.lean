import BertMMBot.DrainSemantics
import BertMMBot.RowLifecycle
import BertMMBot.ShareConservation

/-! # Every queued row is settled, and rows only move forward

A drain whose store runs its statements comes to its end with each queued row completed or
failed, whatever its dependencies answer. Over whole runs, with stops and lost statements, a
row follows a small state machine: completed rows and recorded signatures stay. -/
namespace DrainTotality

open AsyncProgram AsyncContract AsyncFibers VaultTypes VaultProgram KeyedTable DepositorStore
open LedgerMachine VaultDiscipline WithdrawalExecutor DrainSemantics VaultRuntime
open RuntimeRefinement ShareConservation RowLifecycle PlayedRuns

/-- The signature that came back for a row, if the event is one. -/
def signatureOf (id : ℕ) : TraceEvent → Option Signature
  | .transferred i txSig => if i = id then some txSig else none
  | _ => none

def signatures (id : ℕ) (events : List TraceEvent) : List Signature :=
  events.filterMap (signatureOf id)

/-- A row at the end of a drain: paid once, or not at all. -/
inductive Ended (row : WithdrawalRow) (events : List TraceEvent) (db : Db) : Prop where
  | completed {r : WithdrawalRow} {txSig : Signature} :
      getWithdrawalById row.id db = some r → r.status = .completed → r.txSig = some txSig →
      signatures row.id events = [txSig] → Ended row events db
  | failed {r : WithdrawalRow} :
      getWithdrawalById row.id db = some r → r.status = .failed → r.txSig = none →
      signatures row.id events = [] → Ended row events db

def isCompleted (id : ℕ) (db : Db) : Bool :=
  (getWithdrawalById id db).any fun r => r.status = .completed

/-- The shares of one user that the rows which completed were for. -/
def burnedOf (u : TelegramId) (rows : List WithdrawalRow) (db : Db) : ℚ :=
  ((rows.filter fun r => r.telegramId = u ∧ isCompleted r.id db).map WithdrawalRow.sharesBurned).sum

/-- What a drain of `rows` comes to. -/
structure Drained (rows : List WithdrawalRow) (events : List TraceEvent) (w w' : World) : Prop where
  ended : ∀ row ∈ rows, Ended row events w'.db
  shares : ∀ u, getShares u w'.db = getShares u w.db - burnedOf u rows w'.db
  others : ∀ id, (∀ row ∈ rows, row.id ≠ id) →
    getWithdrawalById id w'.db = getWithdrawalById id w.db
  trace : w'.trace = events ++ w.trace
  silent : ∀ id, (∀ row ∈ rows, row.id ≠ id) → signatures id events = []

variable {H : VaultHost} {reserve : ℕ} {row : WithdrawalRow} {rows : List WithdrawalRow}
  {events events' : List TraceEvent} {w w₁ w' : World} {u : TelegramId}

theorem signatures_append (id : ℕ) (events events' : List TraceEvent) :
    signatures id (events ++ events') = signatures id events ++ signatures id events' :=
  List.filterMap_append ..

theorem burnedOf_cons (u : TelegramId) (row : WithdrawalRow) (rows : List WithdrawalRow) (db : Db) :
    burnedOf u (row :: rows) db =
      (if row.telegramId = u ∧ isCompleted row.id db then row.sharesBurned else 0) +
        burnedOf u rows db := by
  by_cases h : row.telegramId = u ∧ isCompleted row.id db = true
  · simp [burnedOf, h]
  · simp [burnedOf, h]

theorem drained_nil (w : World) : Drained [] [] w w := by
  constructor <;> simp [burnedOf, signatures]

theorem isCompleted_of {id : ℕ} {db : Db} {r : WithdrawalRow}
    (h : getWithdrawalById id db = some r) : isCompleted id db = (r.status = .completed : Bool) := by
  simp [isCompleted, h]

theorem getShares_congr {db db' : Db} (h : db'.shares = db.shares) (u : TelegramId) :
    getShares u db' = getShares u db := by
  rw [getShares, getShares, h]

theorem turn_drained (hsig : row.txSig = none) (h : RowTurn H reserve row w w') :
    ∃ events, Drained [row] events w w' := by
  have hothers : ∀ id, (∀ r ∈ [row], r.id ≠ id) →
      getWithdrawalById id w'.db = getWithdrawalById id w.db :=
    fun id hid => h.unchanged.1 id fun heq => hid row (List.mem_singleton_self row) heq.symm
  cases h with
  | @completed c p txSig ts shares _ _ hburn hstage =>
    have hstored : getWithdrawalById row.id w'.db = some (Completion.apply
      ⟨row.id, txSig, p.needSol, p.needBert, p.navPerShare, ts⟩ row) := hstage.stored
    refine ⟨_, ⟨?_, fun u => ?_, hothers, hstage.trace, fun id hid => ?_⟩⟩
    · simp only [List.forall_mem_singleton]
      exact .completed hstored rfl rfl (by simp [signatures, signatureOf])
    · have hcongr := getShares_congr (show w'.db.shares = { w.db with shares }.shares from
        hstage.shares) u
      rw [burnedOf_cons, isCompleted_of hstored, hcongr, getShares_sharesAfter hburn u]
      by_cases hu : u = row.telegramId
      · simp [hu, Completion.apply, burnedOf, sub_eq_add_neg]
      · simp [hu, Ne.symm hu, burnedOf]
    · have hne := hid row (List.mem_singleton_self row)
      simp [signatures, signatureOf, hne]
  | @failed reason ts issued _ hissued hstage =>
    have hstored : getWithdrawalById row.id w'.db = some (failed reason ts row) := hstage.stored
    have hnosig : ∀ id, signatures id (issued ++ [.take row.id]) = [] := by
      intro id
      rcases hissued with rfl | ⟨sol, bert, rfl⟩ <;> simp [signatures, signatureOf]
    refine ⟨_, ⟨?_, fun u => ?_, hothers, hstage.trace, fun id _ => hnosig id⟩⟩
    · simp only [List.forall_mem_singleton]
      exact .failed hstored rfl hsig (hnosig row.id)
    · rw [burnedOf_cons, isCompleted_of hstored, getShares_congr hstage.shares]
      simp [failed, burnedOf]

theorem Ended.later (h : Ended row events w₁.db)
    (hrow : getWithdrawalById row.id w'.db = getWithdrawalById row.id w₁.db)
    (hnew : signatures row.id events' = []) : Ended row (events' ++ events) w'.db := by
  cases h with
  | completed hr hs hsig hone =>
    exact .completed (hrow.trans hr) hs hsig (by rw [signatures_append, hnew, hone]; rfl)
  | failed hr hs hsig hnone =>
    exact .failed (hrow.trans hr) hs hsig (by rw [signatures_append, hnew, hnone]; rfl)

theorem Ended.earlier (h : Ended row events' w'.db) (hold : signatures row.id events = []) :
    Ended row (events' ++ events) w'.db := by
  cases h with
  | completed hr hs hsig hone =>
    exact .completed hr hs hsig (by rw [signatures_append, hold, hone]; rfl)
  | failed hr hs hsig hnone =>
    exact .failed hr hs hsig (by rw [signatures_append, hold, hnone]; rfl)

theorem Drained.cons (h : Drained [row] events w w₁) (hrest : Drained rows events' w₁ w')
    (hfresh : ∀ r ∈ rows, r.id ≠ row.id) : Drained (row :: rows) (events' ++ events) w w' := by
  have hlater := hrest.others row.id hfresh
  have hquiet := hrest.silent row.id hfresh
  refine ⟨?_, fun u => ?_, fun id hid => ?_, ?_, fun id hid => ?_⟩
  · intro r hr
    rcases List.mem_cons.mp hr with rfl | hmem
    · exact (h.ended r (List.mem_singleton_self r)).later hlater hquiet
    · refine (hrest.ended r hmem).earlier (h.silent r.id fun x hx => ?_)
      rw [List.mem_singleton.mp hx]
      exact (hfresh r hmem).symm
  · have hsame : isCompleted row.id w'.db = isCompleted row.id w₁.db := by
      rw [isCompleted, isCompleted, hlater]
    have hfirst := h.shares u
    rw [burnedOf_cons] at hfirst ⊢
    rw [hrest.shares, hfirst, hsame]
    simp [burnedOf]
    ring
  · have hrow : ∀ r ∈ [row], r.id ≠ id := by
      simp only [List.forall_mem_singleton]
      exact hid row (List.mem_cons_self ..)
    exact (hrest.others id fun r hr => hid r (List.mem_cons_of_mem _ hr)).trans (h.others id hrow)
  · rw [hrest.trace, h.trace, List.append_assoc]
  · have hrow : ∀ r ∈ [row], r.id ≠ id := by
      simp only [List.forall_mem_singleton]
      exact hid row (List.mem_cons_self ..)
    rw [signatures_append, h.silent id hrow,
      hrest.silent id fun r hr => hid r (List.mem_cons_of_mem _ hr)]
    rfl

theorem turns_drained {turns : List (Pass WithdrawalRow World)} (hl : Linked w turns w')
    (hturns : ∀ t ∈ turns, RowTurn H reserve t.item t.before t.after)
    (hsig : ∀ t ∈ turns, t.item.txSig = none)
    (hnodup : (turns.map fun t => t.item.id).Nodup) :
    ∃ events, Drained (turns.map Pass.item) events w w' := by
  induction turns generalizing w with
  | nil =>
    cases hl
    exact ⟨[], drained_nil _⟩
  | cons t turns ih =>
    obtain ⟨rfl, hrest⟩ := hl
    obtain ⟨hfresh, htail⟩ := List.nodup_cons.mp hnodup
    obtain ⟨events, hfirst⟩ := turn_drained (hsig t (List.mem_cons_self ..))
      (hturns t (List.mem_cons_self ..))
    obtain ⟨events', hlast⟩ := ih hrest (fun x hx => hturns x (List.mem_cons_of_mem _ hx))
      (fun x hx => hsig x (List.mem_cons_of_mem _ hx)) htail
    refine ⟨_, hfirst.cons hlast fun r hr heq => hfresh ?_⟩
    obtain ⟨x, hx, rfl⟩ := List.mem_map.mp hr
    exact List.mem_map.mpr ⟨x, hx, heq⟩

theorem drain_drained {P : Policy} (hH : Undisturbed H) (hl : Legal P w) :
    Yields H (drain (hostDeps reserve) w) fun x w' => x = .ok () ∧
      ∃ events, Drained (listWithdrawalsByStatus .queued w.db) events w w' := by
  refine (drain_yields hH hl).mono ?_
  rintro x w' ⟨hx, turns, hlinked, hitems, hturns⟩
  have hwait := queued_waiting hl
  have hmem : ∀ t ∈ turns, t.item ∈ listWithdrawalsByStatus .queued w.db := by
    intro t ht
    rw [← hitems]
    exact List.mem_map_of_mem ht
  have hnodup := hwait.nodup
  rw [← hitems, List.map_map] at hnodup
  have hdrained := turns_drained hlinked (fun t ht => (hturns t ht).2)
    (fun t ht => (hwait.waiting _ (hmem t ht)).unsent) hnodup
  rw [hitems] at hdrained
  exact ⟨hx, hdrained⟩

/-- A drain comes to its end, and settles the rows that were queued. -/
structure Total (H : VaultHost) (reserve : ℕ) (w : World) : Prop where
  returns : (∀ c w, ∃ o, H.choose c w o) → (∀ q w, ∃ a w', H.respond q w a w') →
    ∃ w', Ends H (drain (hostDeps reserve) w) (.ok ()) w'
  settles : ∀ x w', Ends H (drain (hostDeps reserve) w) x w' → x = .ok () ∧
    ∃ events, Drained (listWithdrawalsByStatus .queued w.db) events w w'

theorem drain_total {P : Policy} (hH : Undisturbed H) (hl : Legal P w) : Total H reserve w := by
  have hyields : Yields H (drain (hostDeps reserve) w) fun x w' => x = .ok () ∧
      ∃ events, Drained (listWithdrawalsByStatus .queued w.db) events w w' := drain_drained hH hl
  refine ⟨fun hc hr => ?_, fun x w' he => hyields.ends he⟩
  obtain ⟨x, w', he⟩ := ends_exists hc hr (drain (hostDeps reserve) w)
  obtain ⟨rfl, -⟩ := hyields.ends he
  exact ⟨w', he⟩

variable {venue : MeteoraPosition.Venue} {cfg : BotConfig} {chain : Chain}
  {c : Config Fiber vaultInterface World Thrown}

/-- From every state of every run: a drain whose statements all run is total, whatever its
dependencies answer; and however the run goes on, rows only move forward. -/
theorem drain_total_rows_evolve (env : Environment)
    (ex : Execution (vault venue cfg env.host) (idle (World.initial chain)) c) :
    (∀ H reserve, Undisturbed H → Total H reserve c.state) ∧
      ∀ c', Execution (vault venue cfg env.host) c c' → RowsEvolve c.state c'.state := by
  have hholds := execution_preserves_holds (vaultJob_safe env.ok)
    (idle_holds (initial_legal chain)) ex
  refine ⟨fun H reserve hH => drain_total hH hholds.inv, fun c' ex' => ?_⟩
  exact turns_evolve hholds.inv (execution_turns env.ok hholds ex')

def payingScene : Scene := { clock := 2200000, mid := some plainMid }

theorem payingScene_undisturbed : Undisturbed payingScene.host where
  store := fun st w o h => h
  quiet := fun q w a w' h => by
    have hquiet := payingScene.quiet q w
    rw [show w' = (payingScene.respond q w).2 from congrArg Prod.snd h]
    exact hquiet

theorem drain_total_oneRequest : ∃ w', Ends payingScene.host
    (drain (hostDeps 100000000) (oneRequest.world oneSol)) (.ok ()) w' ∧
      getShares 2 w'.db = 40 ∧
      ∃ events, Drained (listWithdrawalsByStatus .queued (oneRequest.world oneSol).db) events
        (oneRequest.world oneSol) w' := by
  have hrun := played_execution (fun p hp => staged_allowed_any (oneRequest_staged p hp)) oneSol
    (meetsAll_any _ _)
  have hends := play_ends payingScene.follows (Script.meets_any _
    (drain (hostDeps 100000000) (oneRequest.world oneSol)))
  have htotal := (drain_total_rows_evolve anyEnvironment hrun).1 payingScene.host 100000000
    payingScene_undisturbed
  obtain ⟨hok, hdrained⟩ := htotal.settles _ _ hends
  rw [hok] at hends
  exact ⟨_, hends, by decide +kernel, hdrained⟩

end DrainTotality
