import BertMMBot.RecordedOutcomes

/-! # An invariant that every fiber keeps

If no answer of the host breaks a property of the state, and every job keeps it up to each point
at which another fiber may take its turn, every execution keeps it. A program that the property
cannot see keeps it for nothing; what a program writes has to be good, and why it is good is
carried from one step to the next as a fact about values. -/
namespace KeptInvariants

open AsyncProgram AsyncContract AsyncFibers AsyncRecords AsyncWiring RecordedTriples
open RecordedOutcomes

variable {ι J σ ε κ α β : Type} {I : Interface} {H : Host I σ ε} {P : σ → Prop}

def Unbroken (H : Host I σ ε) (P : σ → Prop) : Prop :=
  ∀ q s a t, H.respond q s a t → P s → P t

def keepingMachine (hP : Unbroken H P) : Machine J I σ ε ι H where
  act _ p q := P p.1 → P q.1
  inv p := P p.1
  act_inv hp ha := ha hp
  respond_inv hp hr := hP _ _ _ _ hr hp

variable {hP : Unbroken H P} {i : ι}

/-- The program keeps the property and ends in a value that meets `Q`. -/
abbrev Delivers (J : Type) (hP : Unbroken H P) (i : ι) (m : Async I σ ε α) (Q : α → Prop) : Prop :=
  Triple (keepingMachine (J := J) hP) i (fun _ => True) m (fun a _ => Q a) fun _ => True

abbrev Upholds (J : Type) (hP : Unbroken H P) (i : ι) (m : Async I σ ε α) : Prop :=
  Keeps (keepingMachine (J := J) hP) i (fun _ => True) m

section Rules

variable {m : Async I σ ε α} {Q : α → Prop}

theorem upholds_then {k : α → Async I σ ε β} (hm : Delivers J hP i m Q)
    (hk : ∀ a, Q a → Upholds J hP i (k a)) : Upholds J hP i (m >>= k) := by
  apply Triple.bind (B := fun a _ => Q a ∧ True)
  · exact hm.mono (fun _ hp => hp) (fun _ _ hq => ⟨hq, trivial⟩) fun _ hp => hp
  · exact fun a => triple_of_fact (hk a)

theorem delivers_then {k : α → Async I σ ε β} {R : β → Prop} (hm : Delivers J hP i m Q)
    (hk : ∀ a, Q a → Delivers J hP i (k a) R) : Delivers J hP i (m >>= k) R := by
  apply Triple.bind (B := fun a _ => Q a ∧ True)
  · exact hm.mono (fun _ hp => hp) (fun _ _ hq => ⟨hq, trivial⟩) fun _ hp => hp
  · exact fun a => triple_of_fact (hk a)

theorem delivers_choose {c : I.Choice} {Q : I.Outcome c → Prop}
    (hQ : ∀ s o, P s → H.choose c s o → Q o) : Delivers J hP i (Async.choose c) Q := by
  apply triple_choose
  intro s h o hs _ ho
  exact ⟨.single fun _ => hs, hQ s o hs ho⟩

theorem delivers_read {f : σ → α} (hQ : ∀ s, P s → Q (f s)) : Delivers J hP i (Async.read f) Q :=
  triple_read fun p hp _ => hQ p.1 hp

theorem upholds_modify {f : σ → σ} (hf : ∀ s, P s → P (f s)) :
    Upholds J hP i (Async.modify f : Async I σ ε Unit) := by
  apply triple_modify
  intro s h hs _
  exact ⟨.single fun _ => hf s hs, trivial⟩

theorem upholds_attempt {f : σ → Except ε (α × σ)}
    (hf : ∀ s a t, P s → f s = .ok (a, t) → P t) : Upholds J hP i (Async.attempt f) := by
  apply triple_attempt
  · intro s h a t hs _ hrun
    exact ⟨.single fun _ => hf s a t hs hrun, trivial⟩
  · exact fun _ _ _ _ _ => trivial

/-- The view of the bounds shows all that the property is about. -/
def Shows (B : Bounds I σ κ) (P : σ → Prop) : Prop := ∀ s t, B.view t = B.view s → P s → P t

theorem upholds_within {B : Bounds I σ κ} {w : Prop} (hB : Shows B P) (hm : Within B w m) :
    Upholds J hP i m := by
  have hadmits : Admits (keepingMachine (J := J) hP) i B fun _ => True :=
    { local_ := fun hview hs _ => ⟨.single fun _ => hB _ _ hview hs, trivial⟩
      choice := fun _ _ hs _ => ⟨.single fun _ => hs, trivial⟩
      call := fun _ hs _ => ⟨.single fun _ => hs, trivial⟩
      answer := fun _ hs _ => ⟨.single fun _ => hs, trivial⟩
      rely := fun _ _ => trivial }
  exact triple_within hadmits hm

end Rules

/-- A run that never waits, and leaves the property standing where it does not throw. -/
def Leaves (P : σ → Prop) : Run I σ ε α → Prop
  | .done (.ok _) s => P s
  | .done (.error _) _ => True
  | .sync _ _ k => ∀ o, Leaves P (k o)
  | .await .. => False

theorem Leaves.bind {r : Run I σ ε α} {f : α → σ → Run I σ ε β} (hr : Leaves P r)
    (hf : ∀ a s, P s → Leaves P (f a s)) : Leaves P (r.bind f) := by
  induction r with
  | done x s =>
    cases x with
    | ok a => exact hf a s hr
    | error e => trivial
  | sync c s k ih => exact fun o => ih o (hr o)
  | await q s k ih => exact hr.elim

/-- What is restored when a transaction throws is as good as the state before it. -/
def Restores (restore : σ → σ → σ) (P : σ → Prop) : Prop := ∀ s₀ s, P s₀ → P (restore s₀ s)

theorem body_leaves {restore : σ → σ → σ} {s₀ : σ} {t : Point ι J I σ ε} {r : Run I σ ε α}
    {h : History ι J I σ ε} (hrestore : Restores restore P) (hs : P s₀) (hr : Leaves P r) :
    Body (keepingMachine hP) i restore s₀ t
      (fun _ p => (keepingMachine hP).Kept i t p ∧ True)
      (fun p => (keepingMachine hP).Kept i t p ∧ True) r h := by
  have hkept : ∀ {s h}, P s → (keepingMachine hP).Kept i t (s, h) := fun hs =>
    ⟨hs, .single fun _ => hs⟩
  induction r generalizing h with
  | done x s =>
    cases x with
    | ok a => exact ⟨hkept hr, trivial⟩
    | error e => exact ⟨hkept (hrestore s₀ s hs), trivial⟩
  | sync c s k ih => exact ⟨hkept (hrestore s₀ s hs), fun o _ => ih o (hr o)⟩
  | await q s k ih => exact hr.elim

theorem upholds_transaction {restore : σ → σ → σ} {m : Async I σ ε α}
    (hrestore : Restores restore P) (hm : ∀ s, P s → Leaves P (m s)) :
    Upholds J hP i (Async.transaction restore m) := by
  apply triple_transaction
  intro t s h hk _
  exact body_leaves hrestore hk.inv (hm s hk.inv)

section Executions

variable [DecidableEq ι] {jobs : Jobs ι J I σ ε} {restart : σ → σ}

theorem execution_keeps (hP : Unbroken H P) (hrestart : ∀ s, P s → P (restart s))
    (hjobs : ∀ j, Upholds J hP (jobs.fiber j) (jobs.program j)) {s : σ} (hs : P s)
    {c : Config ι I (Point ι J I σ ε) ε}
    (ex : Execution (jobs.recordedSystem H restart) (idle (s, [])) c) : P c.state.1 := by
  have hstop : ∀ s h, (keepingMachine (J := J) (ι := ι) hP).inv (s, h) →
      (keepingMachine (J := J) (ι := ι) hP).inv (restart s, .stop s :: h) :=
    fun s _ hs => hrestart s hs
  have hsafe : ((keepingMachine hP).discipline jobs hstop).JobsSafe := by
    rintro i m ⟨j, rfl, rfl⟩ p hp
    have hstart : ∀ s h, (keepingMachine hP).act (jobs.fiber j) (s, h)
        (s, .start (jobs.fiber j) j s :: h) := fun _ _ hs => hs
    exact triple_job hstart (fun _ _ => (hjobs j).mono (fun _ _ => trivial)
      (fun _ _ _ => trivial) fun _ _ => trivial) hp
  have hidle : ((keepingMachine hP).discipline jobs hstop).Inv (s, []) := hs
  exact (execution_preserves_holds hsafe (idle_holds hidle) ex).inv

end Executions

end KeptInvariants
