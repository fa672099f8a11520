import BertMMBot.AsyncFibers

/-! # Recorded executions

A recorded system runs the same jobs and keeps, newest first, a history of what passes
between them and their host, each entry with the state it was made in. Its executions are
those of the system it records. -/
namespace AsyncRecords

open AsyncProgram AsyncContract AsyncFibers

inductive Entry (ι J : Type) (I : Interface) (σ ε : Type) where
  | start (i : ι) (j : J) (s : σ)
  | choice (i : ι) (c : I.Choice) (s : σ) (o : I.Outcome c)
  | call (i : ι) (q : I.Query) (s : σ)
  | answer (i : ι) (q : I.Query) (a : Except ε (I.Reply q)) (s : σ)
  | stop (s : σ)

abbrev History (ι J : Type) (I : Interface) (σ ε : Type) := List (Entry ι J I σ ε)

variable {ι J σ ε α β : Type} {I : Interface}

namespace Entry

def fiber : Entry ι J I σ ε → Option ι
  | .start i _ _ => some i
  | .choice i _ _ _ => some i
  | .call i _ _ => some i
  | .answer i _ _ _ => some i
  | .stop _ => none

def state : Entry ι J I σ ε → σ
  | .start _ _ s => s
  | .choice _ _ s _ => s
  | .call _ _ s => s
  | .answer _ _ _ s => s
  | .stop s => s

def isStart : Entry ι J I σ ε → Bool
  | .start .. => true
  | _ => false

end Entry

/-- What fiber `i` has put on record since its latest job began. -/
def own [DecidableEq ι] (i : ι) : History ι J I σ ε → History ι J I σ ε
  | [] => []
  | .stop _ :: _ => []
  | .start i' j s :: h => if i' = i then [.start i' j s] else own i h
  | e :: h => if e.fiber = some i then e :: own i h else own i h

/-- The run of fiber `i` that writes the history. -/
def recorded (i : ι) : Run I σ ε α → History ι J I σ ε → Run I (σ × History ι J I σ ε) ε α
  | .done x s, h => .done x (s, h)
  | .sync c s k, h => .sync c (s, h) fun o => recorded i (k o) (.choice i c s o :: h)
  | .await q s k, h => .await q (s, .call i q s :: h) fun a p =>
      recorded i (k a p.1) (.answer i q a p.1 :: p.2)

theorem recorded_bind (i : ι) (r : Run I σ ε α) (f : α → σ → Run I σ ε β)
    (h : History ι J I σ ε) :
    recorded i (r.bind f) h = (recorded i r h).bind fun a p => recorded i (f a p.1) p.2 := by
  induction r generalizing h with
  | done x s => cases x <;> rfl
  | sync c s k ih =>
    simp only [Run.bind, recorded]
    congr 1
    funext o
    exact ih o _
  | await q s k ih =>
    simp only [Run.bind, recorded]
    congr 1
    funext a p
    exact ih a p.1 _

theorem recorded_handle (i : ι) (r : Run I σ ε α) (f : ε → σ → Run I σ ε α)
    (h : History ι J I σ ε) :
    recorded i (r.handle f) h = (recorded i r h).handle fun e p => recorded i (f e p.1) p.2 := by
  induction r generalizing h with
  | done x s => cases x <;> rfl
  | sync c s k ih =>
    simp only [Run.handle, recorded]
    congr 1
    funext o
    exact ih o _
  | await q s k ih =>
    simp only [Run.handle, recorded]
    congr 1
    funext a p
    exact ih a p.1 _

/-- Named jobs, each of one fiber. -/
structure Jobs (ι J : Type) (I : Interface) (σ ε : Type) where
  fiber : J → ι
  program : J → Async I σ ε Unit

/-- The host answers as before and leaves the history alone. -/
def recordedHost (H : Host I σ ε) : Host I (σ × History ι J I σ ε) ε where
  choose c p o := H.choose c p.1 o
  respond q p a p' := H.respond q p.1 a p'.1 ∧ p'.2 = p.2

namespace Jobs

variable (jobs : Jobs ι J I σ ε) (H : Host I σ ε) (restart : σ → σ)

def system : System ι I σ ε := ⟨fun i m => ∃ j, jobs.fiber j = i ∧ jobs.program j = m, H, restart⟩

def recording (j : J) : Async I (σ × History ι J I σ ε) ε Unit := fun p =>
  recorded (jobs.fiber j) (jobs.program j p.1) (.start (jobs.fiber j) j p.1 :: p.2)

def recordedSystem : System ι I (σ × History ι J I σ ε) ε where
  job i m := ∃ j, jobs.fiber j = i ∧ jobs.recording j = m
  host := recordedHost H
  restart p := (restart p.1, .stop p.1 :: p.2)

end Jobs

/-- The same configuration, with and without its history. -/
structure Matches (c : Config ι I σ ε) (d : Config ι I (σ × History ι J I σ ε) ε) : Prop where
  state : d.state.1 = c.state
  fibers : ∀ i, (c.fibers i = none ∧ d.fibers i = none) ∨
    ∃ r h, c.fibers i = some r ∧ d.fibers i = some (recorded i r h)

variable {H : Host I σ ε} {c c' : Config ι I σ ε} {d d' : Config ι I (σ × History ι J I σ ε) ε}

theorem idle_matches (s : σ) (h : History ι J I σ ε) :
    Matches (idle s : Config ι I σ ε) (idle (s, h)) :=
  ⟨rfl, fun _ => .inl ⟨rfl, rfl⟩⟩

theorem recorded_state (i : ι) (r : Run I σ ε α) (h : History ι J I σ ε) :
    (recorded i r h).state.1 = r.state := by
  cases r <;> rfl

theorem segment_projects {i : ι} {r : Run I σ ε Unit} {h : History ι J I σ ε}
    {x : Run I (σ × History ι J I σ ε) ε Unit}
    (hs : Segment (recordedHost H) (recorded i r h) x) :
    ∃ r' h', x = recorded i r' h' ∧ Segment H r r' := by
  generalize hx : recorded i r h = y at hs
  induction hs generalizing r h with
  | refl => exact ⟨r, h, hx.symm, .refl _⟩
  | @sync c s k o z ho _ ih =>
    cases r with
    | done x s => cases hx
    | sync c' s' k' =>
      cases hx
      obtain ⟨r', h', hr', hseg⟩ := ih rfl
      exact ⟨r', h', hr', .sync ho hseg⟩
    | await q s k => cases hx

variable [DecidableEq ι] {jobs : Jobs ι J I σ ε} {restart : σ → σ}

omit [DecidableEq ι] in
theorem activates_projects (hm : Matches c d) {i : ι} {x : Run I (σ × History ι J I σ ε) ε Unit}
    (ha : Activates (jobs.recordedSystem H restart) d i x) :
    ∃ r h, x = recorded i r h ∧ Activates (jobs.system H restart) c i r := by
  cases ha with
  | start hi hj =>
    obtain ⟨j, rfl, rfl⟩ := hj
    rcases hm.fibers (jobs.fiber j) with ⟨hc, -⟩ | ⟨r, h, -, hd⟩
    · have hstart := Activates.start (S := jobs.system H restart) hc ⟨j, rfl, rfl⟩
      refine ⟨_, _, rfl, ?_⟩
      rw [hm.state]
      exact hstart
    · rw [hi] at hd
      cases hd
  | @resume q s k a p hi hr =>
    rcases hm.fibers i with ⟨-, hd⟩ | ⟨r, h, hc, hd⟩
    · rw [hi] at hd
      cases hd
    · rw [hi] at hd
      cases r with
      | done x s => cases hd
      | sync c s k => cases hd
      | await q' s' k' =>
        cases hd
        refine ⟨_, _, rfl, .resume hc ?_⟩
        have hresp := hr.1
        rw [hm.state] at hresp
        exact hresp

omit [DecidableEq ι] in
theorem parked_matches (i : ι) (r : Run I σ ε Unit) (h : History ι J I σ ε) :
    (r.parked = none ∧ (recorded i r h).parked = none) ∨
      ∃ q s k, r = .await q s k ∧ r.parked = some r ∧
        (recorded i r h).parked = some (recorded i r h) := by
  cases r with
  | done x s => exact .inl ⟨rfl, rfl⟩
  | sync c s k => exact .inl ⟨rfl, rfl⟩
  | await q s k => exact .inr ⟨q, s, k, rfl, rfl, rfl⟩

theorem update_matches (hm : Matches c d) (i : ι) (r : Run I σ ε Unit) (h : History ι J I σ ε) :
    Matches ⟨r.state, Function.update c.fibers i r.parked⟩
      ⟨(recorded i r h).state, Function.update d.fibers i (recorded i r h).parked⟩ := by
  refine ⟨recorded_state i r h, fun j => ?_⟩
  by_cases hji : j = i
  · subst j
    simp only [Function.update_self]
    rcases parked_matches i r h with hnone | ⟨q, s, k, -, hr, hd⟩
    · exact .inl hnone
    · exact .inr ⟨r, h, hr, hd⟩
  · simp only [Function.update_of_ne hji]
    exact hm.fibers j

omit [DecidableEq ι] in
theorem recorded_settled {i : ι} {r : Run I σ ε Unit} {h : History ι J I σ ε} :
    (recorded i r h).Settled ↔ r.Settled := by
  cases r <;> exact Iff.rfl

/-- Every recorded step is one of the system. -/
theorem step_projects (hm : Matches c d) (st : Step (jobs.recordedSystem H restart) d d') :
    ∃ c', Step (jobs.system H restart) c c' ∧ Matches c' d' := by
  cases st with
  | run ha hs hset =>
    obtain ⟨r, h, rfl, ha'⟩ := activates_projects hm ha
    obtain ⟨r', h', rfl, hs'⟩ := segment_projects hs
    exact ⟨_, .run ha' hs' (recorded_settled.mp hset), update_matches hm _ r' h'⟩
  | stop ha hs =>
    obtain ⟨r, h, rfl, ha'⟩ := activates_projects hm ha
    obtain ⟨r', h', rfl, hs'⟩ := segment_projects hs
    refine ⟨_, .stop ha' hs', ?_, fun _ => .inl ⟨rfl, rfl⟩⟩
    simp only [idle, Jobs.recordedSystem, recorded_state]
    rfl
  | stopIdle =>
    refine ⟨_, .stopIdle, ?_, fun _ => .inl ⟨rfl, rfl⟩⟩
    simp only [idle, Jobs.recordedSystem, hm.state]
    rfl

theorem execution_projects (hm : Matches c d)
    (ex : Execution (jobs.recordedSystem H restart) d d') :
    ∃ c', Execution (jobs.system H restart) c c' ∧ Matches c' d' := by
  induction ex with
  | refl => exact ⟨c, .refl, hm⟩
  | tail _ st ih =>
    obtain ⟨c₁, hc₁, hm₁⟩ := ih
    obtain ⟨c₂, hc₂, hm₂⟩ := step_projects hm₁ st
    exact ⟨c₂, hc₁.tail hc₂, hm₂⟩

end AsyncRecords
