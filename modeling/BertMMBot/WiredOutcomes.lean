import BertMMBot.RecordedOutcomes

/-! # What a wired program ends in

A wired program does outside what it does inside: if the outer host answers as an inner host
may, the wired program can only end as the program itself can. -/
namespace WiredOutcomes

open AsyncProgram AsyncContract AsyncRecords RecordedTriples RecordedOutcomes AsyncWiring

variable {I J : Interface} {σ τ ε α : Type}

/-- Seen from inside, the outer host `H` behaves as `K` may. -/
structure Simulates (W : Wiring I J σ τ ε) (H : Host J τ ε) (K : Host I σ ε) : Prop where
  choice : ∀ {c s t o}, H.choose (W.choice c) (W.set s t) o → K.choose c s (W.outcome c o)
  answer : ∀ q s t, Yields H (W.answer q (W.set s t)) fun a t' => K.respond q s a (W.get t')

variable {W : Wiring I J σ τ ε} {H : Host J τ ε} {K : Host I σ ε}

theorem yields_settle {β : Type} {r : Run J τ ε β} {f : Except ε β → τ → Run J τ ε α}
    {mid : Except ε β → τ → Prop} {post : Except ε α → τ → Prop} (hr : Yields H r mid)
    (hf : ∀ x t, mid x t → Yields H (f x t) post) : Yields H (settle r f) post := by
  induction r with
  | done x t => exact hf x t hr
  | sync c t k ih => exact fun o ho => ih o (hr o ho)
  | await q t k ih => exact fun a t' ha => ih a t' (hr a t' ha)

theorem Simulates.yields_run (hsim : Simulates W H K) {r : Run I σ ε α}
    {post : Except ε α → σ → Prop} (hr : Yields K r post) (t : τ) :
    Yields H (W.run r t) fun x t' => post x (W.get t') := by
  induction r generalizing t with
  | done x s =>
    change post x (W.get (W.set s t))
    rw [W.get_set]
    exact hr
  | sync c s k ih => exact fun o ho => ih _ (hr _ (hsim.choice ho)) _
  | await q s k ih => exact yields_settle (hsim.answer q s t) fun a t' ha => ih a _ (hr a _ ha) t'

theorem Simulates.yields (hsim : Simulates W H K) {m : Async I σ ε α} {t : τ}
    {post : Except ε α → σ → Prop} (hm : Yields K (m (W.get t)) post) :
    Yields H (W.lift m t) fun x t' => post x (W.get t') := hsim.yields_run hm t

section States

variable {ι L : Type} {i : ι}

def OfState (A : σ → Prop) (p : Point ι L I σ ε) : Prop := A p.1

def endsIn (B : α → σ → Prop) (E : σ → Prop) : Except ε α → σ → Prop
  | .ok a => B a
  | .error _ => E

theorem yields_recorded {r : Run I σ ε α} {post : Except ε α → σ → Prop} (hr : Yields K r post)
    (h : History ι L I σ ε) :
    Yields (recordedHost K) (recorded i r h) fun x p => post x p.1 := by
  induction r generalizing h with
  | done x s => exact hr
  | sync c s k ih => exact fun o ho => ih o (hr o ho) _
  | await q s k ih => exact fun a p hp => ih a p.1 (hr a p.1 hp.1) _

theorem yields_of_outcome {A E : σ → Prop} {B : α → σ → Prop} {m : Async I σ ε α}
    (hm : Outcome K i (OfState (ι := ι) (L := L) A) m (fun a => OfState (B a)) (OfState E)) {s : σ}
    (hs : A s) : Yields K (m s) (endsIn B E) := by
  apply yields_ends.mono
  intro x s' hends
  obtain ⟨h, hrecorded⟩ := ends_recorded (ι := ι) (J := L) (i := i) hends []
  have hend := hm.ends hs hrecorded
  cases x with
  | ok a => exact hend
  | error e => exact hend

/-- What holds both of a value and of an exception holds at the end of any run. -/
theorem ends_of_outcome {A E : σ → Prop} {m : Async I σ ε α} {s s' : σ} {x : Except ε α}
    (hm : Outcome K i (OfState (ι := ι) (L := L) A) m (fun _ => OfState E) (OfState E))
    (hends : Ends K (m s) x s') (hs : A s) : E s' := by
  have hend := (yields_of_outcome hm hs).ends hends
  cases x with
  | ok a => exact hend
  | error e => exact hend

theorem Simulates.outcome {κ M : Type} {j : κ} (hsim : Simulates W H K) {A E : σ → Prop}
    {B : α → σ → Prop} {m : Async I σ ε α}
    (hm : Outcome K i (OfState (ι := ι) (L := L) A) m (fun a => OfState (B a)) (OfState E)) :
    Outcome H j (OfState (ι := κ) (L := M) fun t => A (W.get t)) (W.lift m)
      (fun a => OfState fun t => B a (W.get t)) (OfState fun t => E (W.get t)) := by
  intro t h ht
  apply (yields_recorded (hsim.yields (yields_of_outcome hm ht)) h).mono
  intro x p hx
  cases x with
  | ok a => exact hx
  | error e => exact hx

end States

end WiredOutcomes
