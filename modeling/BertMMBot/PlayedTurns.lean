import BertMMBot.AsyncFibers

/-! # Fibers that take turns

A turn starts the job of its fiber, or resumes the one that waits, and goes on for some awaited
calls. Turns of several fibers make an execution in which each is found waiting while the
others go on. -/
namespace PlayedTurns

open AsyncProgram AsyncContract AsyncFibers

variable {ι σ ε : Type} [DecidableEq ι] {I : Interface} {S : System ι I σ ε}

/-- What a fiber starts if it is idle, how it is answered, and for how many calls. -/
structure Turn (ι : Type) (I : Interface) (σ ε : Type) where
  fiber : ι
  job : Async I σ ε Unit
  script : Script I σ ε
  calls : Nat

variable {t : Turn ι I σ ε} {c : Config ι I σ ε}

def Turn.enter (t : Turn ι I σ ε) (c : Config ι I σ ε) : Option (Run I σ ε Unit) :=
  match c.fibers t.fiber with
  | none => some (t.job c.state)
  | some (.await q _ k) => some (k (t.script.respond q c.state).1 (t.script.respond q c.state).2)
  | some _ => none

/-- Past some awaited calls, from a run that is standing at one. -/
def answering (s : Script I σ ε) (r : Run I σ ε Unit) : Nat → Run I σ ε Unit
  | 0 => s.settle r
  | n + 1 => s.answer (answering s r n)

def Turn.take (t : Turn ι I σ ε) (c : Config ι I σ ε) : Config ι I σ ε :=
  match t.enter c with
  | none => c
  | some r => ⟨(answering t.script r t.calls).state,
      Function.update c.fibers t.fiber (answering t.script r t.calls).parked⟩

def takeAll (ts : List (Turn ι I σ ε)) (c : Config ι I σ ε) : Config ι I σ ε :=
  ts.foldl (fun c t => t.take c) c

structure Turn.Allowed (S : System ι I σ ε) (t : Turn ι I σ ε) : Prop where
  job : S.job t.fiber t.job
  follows : t.script.Follows S.host fun _ _ => true

omit [DecidableEq ι] in
theorem Turn.Allowed.settle (h : t.Allowed S) (r : Run I σ ε Unit) :
    Segment S.host r (t.script.settle r) := by
  induction r with
  | done => exact .refl _
  | sync c s k ih => exact .sync (h.follows.choose c s rfl) (ih _)
  | await => exact .refl _

omit [DecidableEq ι] in
theorem enter_activates (h : t.Allowed S) {r : Run I σ ε Unit} (hr : t.enter c = some r) :
    Activates S c t.fiber r := by
  unfold Turn.enter at hr
  split at hr
  · next hidle =>
    cases hr
    exact .start hidle h.job
  · next q s k hwaiting =>
    cases hr
    exact .resume hwaiting (h.follows.respond q c.state)
  · cases hr

omit [DecidableEq ι] in
theorem answering_settled (s : Script I σ ε) (r : Run I σ ε Unit) (n : Nat) :
    (answering s r n).Settled := by
  induction n with
  | zero => exact s.settle_settled r
  | succ n ih =>
    rw [answering]
    cases hr : answering s r n with
    | done => trivial
    | sync =>
      rw [hr] at ih
      exact ih.elim
    | await => exact s.settle_settled _

theorem answering_reaches (h : t.Allowed S) {r : Run I σ ε Unit} (ha : Activates S c t.fiber r)
    (n : Nat) : Execution S c ⟨(answering t.script r n).state,
      Function.update c.fibers t.fiber (answering t.script r n).parked⟩ := by
  induction n with
  | zero => exact .single (.run ha (h.settle r) (answering_settled t.script r 0))
  | succ n ih =>
    have hsettled := answering_settled t.script r (n + 1)
    rw [answering] at hsettled ⊢
    cases hr : answering t.script r n with
    | done =>
      rw [hr] at ih
      exact ih
    | sync =>
      rw [hr] at ih
      exact ih
    | await q s k =>
      rw [hr] at ih hsettled
      have hresume : Activates S
          ⟨s, Function.update c.fibers t.fiber (some (.await q s k))⟩ t.fiber
          (k (t.script.respond q s).1 (t.script.respond q s).2) :=
        .resume (Function.update_self (f := c.fibers) ..) (h.follows.respond q s)
      have hstep := Step.run hresume (h.settle _) hsettled
      rw [Function.update_idem] at hstep
      exact ih.tail hstep

theorem take_reaches (h : t.Allowed S) (c : Config ι I σ ε) : Execution S c (t.take c) := by
  unfold Turn.take
  cases hr : t.enter c with
  | none => exact .refl
  | some r => exact answering_reaches h (enter_activates h hr) t.calls

theorem takeAll_reaches {ts : List (Turn ι I σ ε)} (h : ∀ t ∈ ts, t.Allowed S)
    (c : Config ι I σ ε) : Execution S c (takeAll ts c) := by
  induction ts generalizing c with
  | nil => exact .refl
  | cons t ts ih =>
    have hfirst := take_reaches (h t (List.mem_cons_self ..)) c
    exact hfirst.trans (ih (fun x hx => h x (List.mem_cons_of_mem t hx)) (t.take c))

end PlayedTurns
