import BertMMBot.AsyncWiring
import BertMMBot.RecordedTriples

/-! # Outcomes of recorded programs

What a program that is left alone with its host can end in, said of the state and of the
history it writes. The rules follow the program text; a program that stays within bounds
keeps whatever its bounds cannot disturb. -/
namespace RecordedOutcomes

open AsyncProgram AsyncContract AsyncFibers AsyncRecords RecordedTriples AsyncWiring

variable {ι J σ ε α β κ : Type} {I : Interface}

/-- From a point that meets `A`, the program ends in `B`, or throws in `E`. -/
def Outcome (H : Host I σ ε) (i : ι) (A : Point ι J I σ ε → Prop) (m : Async I σ ε α)
    (B : α → Point ι J I σ ε → Prop) (E : Point ι J I σ ε → Prop) : Prop :=
  ∀ s h, A (s, h) → Yields (recordedHost H) (recorded i (m s) h) (ending B E)

variable {H : Host I σ ε} {i : ι} {A A' E E' : Point ι J I σ ε → Prop}
  {B B' : α → Point ι J I σ ε → Prop} {C : β → Point ι J I σ ε → Prop} {m : Async I σ ε α}

theorem Outcome.ends {s : σ} {h : History ι J I σ ε} {x : Except ε α} {p : Point ι J I σ ε}
    (hm : Outcome H i A m B E) (hA : A (s, h))
    (he : Ends (recordedHost H) (recorded i (m s) h) x p) : ending B E x p :=
  (hm s h hA).ends he

theorem Outcome.mono (hm : Outcome H i A m B E) (hA : ∀ p, A' p → A p)
    (hB : ∀ a p, B a p → B' a p) (hE : ∀ p, E p → E' p) : Outcome H i A' m B' E' := by
  intro s h ha
  apply (hm s h (hA _ ha)).mono
  intro x p hx
  cases x with
  | ok a => exact hB a p hx
  | error e => exact hE p hx

theorem Outcome.and (hm : Outcome H i A m B E) (hm' : Outcome H i A' m B' E') :
    Outcome H i (fun p => A p ∧ A' p) m (fun a p => B a p ∧ B' a p) fun p => E p ∧ E' p := by
  intro s h ha
  apply ((hm s h ha.1).and (hm' s h ha.2)).mono
  intro x p hx
  cases x with
  | ok a => exact hx
  | error e => exact hx

theorem outcome_pure {a : α} (h : ∀ p, A p → B a p) : Outcome H i A (pure a) B E :=
  fun s h' ha => h (s, h') ha

theorem Outcome.bind {k : α → Async I σ ε β} (hm : Outcome H i A m B E)
    (hk : ∀ a, Outcome H i (B a) (k a) C E) : Outcome H i A (m >>= k) C E := by
  intro s h ha
  have heq : recorded i ((m >>= k) s) h =
      (recorded i (m s) h).bind fun a p => recorded i (k a p.1) p.2 := recorded_bind i (m s) k h
  rw [heq]
  apply (hm s h ha).bind
  · intro a p hp
    exact hk a p.1 p.2 hp
  · intro e p hp
    exact hp

theorem Outcome.tryCatch {D : Point ι J I σ ε → Prop} {k : ε → Async I σ ε α}
    (hm : Outcome H i A m B D) (hk : ∀ e, Outcome H i D (k e) B E) :
    Outcome H i A (tryCatch m k) B E := by
  intro s h ha
  have heq : recorded i ((MonadExcept.tryCatch m k) s) h =
      (recorded i (m s) h).handle fun e p => recorded i (k e p.1) p.2 :=
    recorded_handle i (m s) k h
  rw [heq]
  apply (hm s h ha).handle
  · intro a p hp
    exact hp
  · intro e p hp
    exact hk e p.1 p.2 hp

theorem outcome_ite {b : Prop} [Decidable b] {m n : Async I σ ε α}
    (hm : b → Outcome H i A m B E) (hn : ¬b → Outcome H i A n B E) :
    Outcome H i A (if b then m else n) B E := by
  by_cases h : b
  · simpa only [if_pos h] using hm h
  · simpa only [if_neg h] using hn h

/-- A program may be followed from one point at a time. -/
theorem outcome_at (h : ∀ s h, A (s, h) → Outcome H i (fun p => p = (s, h)) m B E) :
    Outcome H i A m B E := fun s h' ha => h s h' ha s h' rfl

/-- A fact found on the way becomes a hypothesis. -/
theorem outcome_of_fact {b : Prop} (h : b → Outcome H i A m B E) :
    Outcome H i (fun p => b ∧ A p) m B E := fun s h' ha => h ha.1 s h' ha.2

theorem outcome_or (h : Outcome H i A m B E) (h' : Outcome H i A' m B E) :
    Outcome H i (fun p => A p ∨ A' p) m B E := by
  intro s h₀ ha
  cases ha with
  | inl ha => exact h s h₀ ha
  | inr ha => exact h' s h₀ ha

theorem outcome_read {f : σ → α} (h : ∀ p, A p → B (f p.1) p) :
    Outcome H i A (Async.read f) B E := fun s h' ha => h (s, h') ha

theorem outcome_modify {f : σ → σ} {B : Unit → Point ι J I σ ε → Prop}
    (h : ∀ s h, A (s, h) → B () (f s, h)) : Outcome H i A (Async.modify f) B E :=
  fun s h' ha => h s h' ha

theorem outcome_choose {c : I.Choice} {B : I.Outcome c → Point ι J I σ ε → Prop}
    (h : ∀ s h o, A (s, h) → H.choose c s o → B o (s, .choice i c s o :: h)) :
    Outcome H i A (Async.choose c) B E := fun s h' ha o ho => h s h' o ha ho

theorem outcome_call {q : I.Query} {B : I.Reply q → Point ι J I σ ε → Prop}
    (h : ∀ s h s' a, A (s, h) → H.respond q s a s' →
      ending B E a (s', .answer i q a s' :: .call i q s :: h)) :
    Outcome H i A (Async.call q) B E := by
  intro s h' ha
  change Yields (recordedHost H) (recorded i (.await q s .done) h') _
  rintro a ⟨s', _⟩ ⟨hr, rfl⟩
  exact h s h' s' a ha hr

/-- A run that ends also ends on record. -/
theorem ends_recorded {r : Run I σ ε α} {x : Except ε α} {s : σ} (he : Ends H r x s)
    (h : History ι J I σ ε) : ∃ h', Ends (recordedHost H) (recorded i r h) x (s, h') := by
  induction he generalizing h with
  | done x s => exact ⟨h, .done x (s, h)⟩
  | @sync c s k o x s' ho _ ih =>
    obtain ⟨h', hk⟩ := ih (.choice i c s o :: h)
    exact ⟨h', .sync ho hk⟩
  | @await q s k a s₁ x s' hr _ ih =>
    obtain ⟨h', hk⟩ := ih (.answer i q a s₁ :: .call i q s :: h)
    have hresp : (recordedHost H).respond q (s, .call i q s :: h) a (s₁, .call i q s :: h) :=
      ⟨hr, rfl⟩
    exact ⟨h', .await hresp hk⟩

/-- What a run puts on record does not depend on what was on record before. -/
theorem ends_recorded_append {i : ι} (r : Run I σ ε α) {h h₀ : History ι J I σ ε}
    {x : Except ε α} {p : Point ι J I σ ε}
    (he : Ends (recordedHost H) (recorded i r (h ++ h₀)) x p) :
    ∃ new, p.2 = new ++ h₀ ∧ Ends (recordedHost H) (recorded i r h) x (p.1, new) := by
  induction r generalizing h with
  | done y s =>
    cases he
    exact ⟨h, rfl, .done _ (s, h)⟩
  | sync c s k ih =>
    obtain _ | ⟨ho, hk⟩ := he
    obtain ⟨new, hnew, hends⟩ := ih _ (h := _ :: h) hk
    exact ⟨new, hnew, .sync ho hends⟩
  | await q s k ih =>
    obtain _ | _ | @⟨_, _, _, a, p', _, _, hr, hk⟩ := he
    obtain ⟨s', h'⟩ := p'
    obtain ⟨hresp, rfl⟩ := hr
    obtain ⟨new, hnew, hends⟩ := ih a s' (h := .answer i q a s' :: .call i q s :: h) hk
    have hgo : (recordedHost H).respond q (s, .call i q s :: h) a (s', .call i q s :: h) :=
      ⟨hresp, rfl⟩
    exact ⟨new, hnew, .await hgo hends⟩

/-- What a program within bounds `B` cannot disturb. -/
structure Undisturbed (H : Host I σ ε) (i : ι) (B : Bounds I σ κ) (A : Point ι J I σ ε → Prop) :
    Prop where
  local_ : ∀ {s s' h}, B.view s' = B.view s → A (s, h) → A (s', h)
  choice : ∀ {c s o h}, B.choice c → H.choose c s o → A (s, h) → A (s, .choice i c s o :: h)
  call : ∀ {q s a s' h}, B.call q → H.respond q s a s' → A (s, h) →
    A (s', .answer i q a s' :: .call i q s :: h)

theorem outcome_within {B : Bounds I σ κ} {w : Prop} (hA : Undisturbed H i B A)
    (hm : Within B w m) : Outcome H i A m (fun _ => A) A := by
  have key : ∀ (r : Run I σ ε α) (s₀ : σ) (h : History ι J I σ ε), A (s₀, h) →
      Bounded B w (B.view s₀) r →
      Yields (recordedHost H) (recorded i r h) (ending (fun _ => A) A) := by
    intro r
    induction r with
    | done x s =>
      intro s₀ h ha hr
      have hs : A (s, h) := hA.local_ hr ha
      cases x with
      | ok a => exact hs
      | error e => exact hs
    | sync c s k ih =>
      intro s₀ h ha hr o ho
      have hs := hA.choice hr.1 ho (hA.local_ hr.2.1 ha)
      refine ih o s _ hs ?_
      rw [hr.2.1]
      exact hr.2.2 o
    | await q s k ih =>
      rintro s₀ h ha hr a ⟨s', _⟩ ⟨hresp, rfl⟩
      have hs := hA.call hr.2.1 hresp (hA.local_ hr.2.2.1 ha)
      exact ih a s' s' _ hs (hr.2.2.2 a s')
  exact fun s h ha => key _ s h ha (hm s)

variable {M : Machine J I σ ε ι H}

/-- Programs within bounds `B` perform acts only, and keep `A`. -/
structure Admits (M : Machine J I σ ε ι H) (i : ι) (B : Bounds I σ κ)
    (A : Point ι J I σ ε → Prop) : Prop where
  local_ : ∀ {s s' h}, B.view s' = B.view s → M.inv (s, h) → A (s, h) →
    M.Acts i (s, h) (s', h) ∧ A (s', h)
  choice : ∀ {c s o h}, B.choice c → H.choose c s o → M.inv (s, h) → A (s, h) →
    M.Acts i (s, h) (s, .choice i c s o :: h) ∧ A (s, .choice i c s o :: h)
  call : ∀ {q s h}, B.call q → M.inv (s, h) → A (s, h) →
    M.Acts i (s, h) (s, .call i q s :: h) ∧ A (s, .call i q s :: h)
  answer : ∀ {q a s h}, B.call q → M.inv (s, h) → A (s, h) →
    M.Acts i (s, h) (s, .answer i q a s :: h) ∧ A (s, .answer i q a s :: h)
  rely : ∀ {p q}, M.Disturbs i p q → A p → A q

theorem triple_within {B : Bounds I σ κ} {w : Prop} (hA : Admits M i B A) (hm : Within B w m) :
    Triple M i A m (fun _ => A) A := by
  have key : ∀ (r : Run I σ ε α) (t : Point ι J I σ ε) (s₀ : σ) (h : History ι J I σ ε),
      M.Kept i t (s₀, h) → A (s₀, h) → Bounded B w (B.view s₀) r →
      Safe (M.contract i) (recorded i r h) t fun t x p =>
        M.Kept i t p ∧ ending (fun _ => A) A x p := by
    intro r
    induction r with
    | done x s =>
      intro t s₀ h ht ha hr
      obtain ⟨hacts, has⟩ := hA.local_ hr ht.inv ha
      refine ⟨ht.more hacts, ?_⟩
      cases x with
      | ok a => exact has
      | error e => exact has
    | sync c s k ih =>
      intro t s₀ h ht ha hr
      obtain ⟨hacts, has⟩ := hA.local_ hr.2.1 ht.inv ha
      have hs := ht.more hacts
      refine ⟨hs, ?_⟩
      intro o ho
      obtain ⟨hline, haline⟩ := hA.choice hr.1 ho hs.inv has
      refine ih o t s _ (hs.more hline) haline ?_
      rw [hr.2.1]
      exact hr.2.2 o
    | await q s k ih =>
      intro t s₀ h ht ha hr
      obtain ⟨hacts, has⟩ := hA.local_ hr.2.2.1 ht.inv ha
      have hs := ht.more hacts
      obtain ⟨hline, haline⟩ := hA.call hr.2.1 hs.inv has
      refine ⟨hs.more hline, ?_⟩
      rintro a ⟨s', h'⟩ ⟨hinv, hrely, -⟩
      have ha' : A (s', h') := rely_holds (fun hd hp => hA.rely hd hp) hrely haline
      obtain ⟨hanswer, haanswer⟩ := hA.answer (a := a) hr.2.1 hinv ha'
      exact ih a s' (s', h') s' _ ⟨acts_inv hinv hanswer, hanswer⟩ haanswer (hr.2.2.2 a s')
  exact ⟨fun t p ht ha => key (m p.1) t p.1 p.2 ht ha (hm p.1)⟩

/-- A line that stays within bounds. -/
def Honours (B : Bounds I σ κ) : Entry ι J I σ ε → Prop
  | .choice _ c _ _ => B.choice c
  | .call _ q _ => B.call q
  | _ => True

/-- Fibers that add lines within bounds. -/
def boundedMachine (H : Host I σ ε) (B : Bounds I σ κ) : Machine J I σ ε ι H where
  act _ p q := ∃ new, q.2 = new ++ p.2 ∧ ∀ e ∈ new, Honours B e
  inv p := ∀ e ∈ p.2, Honours B e
  act_inv := by
    rintro i p q hp ⟨new, hq, hnew⟩ e he
    rw [hq] at he
    rcases List.mem_append.mp he with he | he
    · exact hnew e he
    · exact hp e he
  respond_inv := fun hp _ => hp

theorem bounded_act {B : Bounds I σ κ} {s s' : σ} {h : History ι J I σ ε} {e : Entry ι J I σ ε}
    (he : Honours B e) : (boundedMachine H B).act i (s, h) (s', e :: h) :=
  ⟨[e], rfl, by simpa using he⟩

theorem bounded_admits {B : Bounds I σ κ} :
    Admits (boundedMachine (ι := ι) (J := J) H B) i B fun _ => True where
  local_ := fun _ _ _ => ⟨.single ⟨[], rfl, by simp⟩, trivial⟩
  choice := fun hc _ _ _ => ⟨.single (bounded_act hc), trivial⟩
  call := fun hq _ _ => ⟨.single (bounded_act hq), trivial⟩
  answer := fun _ _ _ => ⟨.single (bounded_act trivial), trivial⟩
  rely := fun _ _ => trivial

/-- Jobs within bounds leave a history within bounds, however they are interleaved. -/
theorem execution_within [DecidableEq ι] {jobs : Jobs ι J I σ ε} {restart : σ → σ}
    {B : Bounds I σ κ} {w : Prop} (hjobs : ∀ j, Within B w (jobs.program j)) {s : σ}
    {c : Config ι I (σ × History ι J I σ ε) ε}
    (ex : Execution (jobs.recordedSystem H restart) (idle (s, [])) c) :
    ∀ e ∈ c.state.2, Honours B e := by
  have hstop : ∀ s h, (boundedMachine (ι := ι) (J := J) H B).inv (s, h) →
      (boundedMachine H B).inv (restart s, .stop s :: h) := by
    intro s h hp e he
    rcases List.mem_cons.mp he with rfl | he
    · trivial
    · exact hp e he
  have hsafe : ((boundedMachine H B).discipline jobs hstop).JobsSafe := by
    rintro i m ⟨j, rfl, rfl⟩ p hinv
    refine triple_job (fun _ _ => bounded_act trivial) (fun _ _ => ?_) hinv
    exact (triple_within bounded_admits (hjobs j)).mono (fun _ _ => trivial)
      (fun _ _ _ => trivial) fun _ _ => trivial
  have hempty : (boundedMachine (ι := ι) (J := J) H B).inv (s, []) := by
    intro e he
    cases he
  exact (execution_preserves_holds hsafe (idle_holds hempty) ex).inv

end RecordedOutcomes
