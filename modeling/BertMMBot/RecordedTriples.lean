import BertMMBot.AsyncRecords

/-! # Triples for recorded programs

A machine says which acts each fiber may perform on a state and its history, and what a
fiber finds again after an awaited call. A triple shows that a program performs nothing but
acts; what one program does is shown once, for every execution it takes part in. -/
namespace RecordedTriples

open AsyncProgram AsyncContract AsyncFibers AsyncRecords

variable {ι J σ ε α β : Type} {I : Interface}

/-- A state and the history that led to it. -/
abbrev Point (ι J : Type) (I : Interface) (σ ε : Type) := σ × History ι J I σ ε

/-- The acts of each fiber, and what they and the host's answers preserve. -/
structure Machine (J : Type) (I : Interface) (σ ε ι : Type) (H : Host I σ ε) where
  act : ι → Point ι J I σ ε → Point ι J I σ ε → Prop
  inv : Point ι J I σ ε → Prop
  act_inv : ∀ {i p q}, inv p → act i p q → inv q
  respond_inv : ∀ {q s a t h}, inv (s, h) → H.respond q s a t → inv (t, h)

variable {H : Host I σ ε} {M : Machine J I σ ε ι H} {i : ι} {p q : Point ι J I σ ε}

/-- What can happen to a suspended fiber: another one acts, or the host answers a call. -/
inductive Machine.Disturbs (M : Machine J I σ ε ι H) (i : ι) :
    Point ι J I σ ε → Point ι J I σ ε → Prop where
  | other {j p q} : i ≠ j → M.act j p q → M.Disturbs i p q
  | answer {q s a t h} : H.respond q s a t → M.Disturbs i (s, h) (t, h)

def Machine.rely (M : Machine J I σ ε ι H) (i : ι) :
    Point ι J I σ ε → Point ι J I σ ε → Prop := Relation.ReflTransGen (M.Disturbs i)

/-- What a stretch of one fiber adds up to. -/
def Machine.Acts (M : Machine J I σ ε ι H) (i : ι) :
    Point ι J I σ ε → Point ι J I σ ε → Prop := Relation.ReflTransGen (M.act i)

theorem acts_inv (hp : M.inv p) (h : M.Acts i p q) : M.inv q := by
  induction h with
  | refl => exact hp
  | tail _ hact ih => exact M.act_inv ih hact

theorem acts_rely {j : ι} (hij : i ≠ j) (h : M.Acts i p q) : M.rely j p q := by
  induction h with
  | refl => exact .refl
  | tail _ hact ih => exact ih.tail (.other (Ne.symm hij) hact)

theorem rely_holds {A : Point ι J I σ ε → Prop} (hA : ∀ {p q}, M.Disturbs i p q → A p → A q)
    (h : M.rely i p q) (hp : A p) : A q := by
  induction h with
  | refl => exact hp
  | tail _ hd ih => exact hA hd ih

def Machine.discipline (M : Machine J I σ ε ι H) (jobs : Jobs ι J I σ ε) {restart : σ → σ}
    (hstop : ∀ s h, M.inv (s, h) → M.inv (restart s, .stop s :: h)) :
    Discipline (jobs.recordedSystem H restart) where
  Inv := M.inv
  guar := M.Acts
  rely := M.rely
  rely_refl _ _ := .refl
  rely_trans _ _ _ _ h k := h.trans k
  guar_rely := fun _ _ _ _ hij _ h => acts_rely hij h
  respond_inv := by
    rintro q ⟨s, h⟩ a ⟨t, _⟩ hs ⟨hr, rfl⟩
    exact M.respond_inv hs hr
  respond_rely := by
    rintro i q ⟨s, h⟩ a ⟨t, _⟩ - ⟨hr, rfl⟩
    exact .single (.answer hr)
  restart_inv := fun p hp => hstop p.1 p.2 hp

/-- Where a fiber stands after a stretch of acts. -/
structure Machine.Kept (M : Machine J I σ ε ι H) (i : ι) (t p : Point ι J I σ ε) : Prop where
  inv : M.inv p
  acts : M.Acts i t p

theorem Machine.Kept.more {t : Point ι J I σ ε} (h : M.Kept i t p) (hq : M.Acts i p q) :
    M.Kept i t q := ⟨acts_inv h.inv hq, h.acts.trans hq⟩

theorem Machine.Kept.act {t : Point ι J I σ ε} (h : M.Kept i t p) (hq : M.act i p q) :
    M.Kept i t q := h.more (.single hq)

/-- The contract of one fiber: acts up to every observable point. -/
def Machine.contract (M : Machine J I σ ε ι H) (i : ι) :
    Contract I (σ × History ι J I σ ε) ε where
  choose c p o := H.choose c p.1 o
  stop := M.Kept i
  suspend _ := M.Kept i
  resume q p a p' := M.inv p' ∧ M.rely i p p' ∧ ∃ s, H.respond q s a p'.1

def ending (B : α → Point ι J I σ ε → Prop) (E : Point ι J I σ ε → Prop) (x : Except ε α)
    (p : Point ι J I σ ε) : Prop :=
  match x with
  | .ok a => B a p
  | .error _ => E p

/-- From a point that meets `A`, the program performs acts of its fiber and ends in `B`, or
throws in `E`. -/
structure Triple (M : Machine J I σ ε ι H) (i : ι) (A : Point ι J I σ ε → Prop)
    (m : Async I σ ε α) (B : α → Point ι J I σ ε → Prop) (E : Point ι J I σ ε → Prop) : Prop where
  safe : ∀ t p, M.Kept i t p → A p →
    Safe (M.contract i) (recorded i (m p.1) p.2) t fun t x p => M.Kept i t p ∧ ending B E x p

def Keeps (M : Machine J I σ ε ι H) (i : ι) (A : Point ι J I σ ε → Prop) (m : Async I σ ε α) :
    Prop := Triple M i A m (fun _ => A) A

variable {A E : Point ι J I σ ε → Prop} {B : α → Point ι J I σ ε → Prop}
  {C : β → Point ι J I σ ε → Prop}

/-- A job that performs acts owes nothing more. -/
theorem triple_job {jobs : Jobs ι J I σ ε} {restart : σ → σ}
    {hstop : ∀ s h, M.inv (s, h) → M.inv (restart s, .stop s :: h)} {j : J}
    (hstart : ∀ s h, M.act (jobs.fiber j) (s, h) (s, .start (jobs.fiber j) j s :: h))
    (hj : ∀ s h, Triple M (jobs.fiber j)
      (fun p => p = (s, .start (jobs.fiber j) j s :: h)) (jobs.program j) (fun _ _ => True)
      fun _ => True)
    {p : Point ι J I σ ε} (hp : M.inv p) :
    Safe ((M.discipline jobs hstop).contract (jobs.fiber j)) (jobs.recording j p) p
      ((M.discipline jobs hstop).owed (jobs.fiber j)) := by
  have key : ∀ (r : Run I (σ × History ι J I σ ε) ε Unit) (t : Point ι J I σ ε)
      (post post' : Point ι J I σ ε → Except ε Unit → Point ι J I σ ε → Prop),
      (∀ t x p, post t x p → post' t x p) → Safe (M.contract (jobs.fiber j)) r t post →
      Safe ((M.discipline jobs hstop).contract (jobs.fiber j)) r t post' := by
    intro r
    induction r with
    | done x s => exact fun t _ _ hp h => hp t x s h
    | sync c s k ih =>
      exact fun t _ _ hp h => ⟨⟨h.1.inv, h.1.acts⟩, fun o ho => ih o t _ _ hp (h.2 o ho)⟩
    | await q s k ih =>
      refine fun t _ _ hp h =>
        ⟨⟨h.1.inv, h.1.acts⟩, fun a p' ha => ih a p' p' _ _ hp (h.2 a p' ?_)⟩
      obtain ⟨hinv, hrely, p₁, hr, -⟩ := ha
      exact ⟨hinv, hrely, p₁.1, hr⟩
  obtain ⟨s, h⟩ := p
  have hbegun := Machine.Kept.act ⟨hp, .refl⟩ (hstart s h)
  refine key _ _ _ _ ?_ ((hj s h).safe (s, h) _ hbegun rfl)
  exact fun t x p hx => ⟨hx.1.inv, hx.1.acts⟩

/-- One step of a recorded run, seen from its points. -/
inductive Machine.Turn (M : Machine J I σ ε ι H) (restart : σ → σ) :
    Point ι J I σ ε → Point ι J I σ ε → Prop where
  | act {i : ι} {p q} : M.act i p q → M.Turn restart p q
  | answer {q s a t h} : H.respond q s a t → M.Turn restart (s, h) (t, h)
  | stop {s h} : M.Turn restart (s, h) (restart s, .stop s :: h)

theorem answered {restart : σ → σ} {q : I.Query} {a : Except ε (I.Reply q)}
    {p p' : Point ι J I σ ε} (h : (recordedHost H).respond q p a p') : M.Turn restart p p' := by
  obtain ⟨s, h₀⟩ := p
  obtain ⟨s', h'⟩ := p'
  obtain ⟨hr, rfl⟩ := h
  exact .answer hr

section Runs

variable [DecidableEq ι] {jobs : Jobs ι J I σ ε} {restart : σ → σ}
  {hstop : ∀ s h, M.inv (s, h) → M.inv (restart s, .stop s :: h)}
  {c c' : Config ι I (σ × History ι J I σ ε) ε}

/-- Every recorded execution is a run of the machine. -/
theorem execution_turns (hj : (M.discipline jobs hstop).JobsSafe)
    (hc : (M.discipline jobs hstop).Holds c)
    (ex : Execution (jobs.recordedSystem H restart) c c') :
    Relation.ReflTransGen (M.Turn restart) c.state c'.state :=
  execution_evolves hj (fun _ => .refl) (fun _ _ _ h k => h.trans k)
    (fun _ _ _ _ h => Relation.ReflTransGen.mono (fun _ _ ha => .act ha) _ _ h)
    (fun _ _ _ _ _ hr => .single (answered hr)) (fun _ _ => .single .stop) hc ex

/-- What the first point has and every turn keeps, the last point has. -/
theorem execution_invariant {P : Point ι J I σ ε → Prop} (hj : (M.discipline jobs hstop).JobsSafe)
    (hc : (M.discipline jobs hstop).Holds c)
    (turn : ∀ p q, M.inv p → P p → M.Turn restart p q → P q)
    (ex : Execution (jobs.recordedSystem H restart) c c') (hp : P c.state) : P c'.state := by
  have key : ∀ q, Relation.ReflTransGen (M.Turn restart) c.state q → M.inv q ∧ P q := by
    intro q hq
    induction hq with
    | refl => exact ⟨hc.inv, hp⟩
    | tail _ ht ih =>
      refine ⟨?_, turn _ _ ih.1 ih.2 ht⟩
      cases ht with
      | act ha => exact M.act_inv ih.1 ha
      | answer hr => exact M.respond_inv ih.1 hr
      | stop => exact hstop _ _ ih.1
  exact (key _ (execution_turns hj hc ex)).2

end Runs

theorem Triple.mono {P E' : Point ι J I σ ε → Prop} {B' : α → Point ι J I σ ε → Prop}
    {m : Async I σ ε α} (h : Triple M i A m B E) (hA : ∀ p, P p → A p)
    (hB : ∀ a p, B a p → B' a p) (hE : ∀ p, E p → E' p) : Triple M i P m B' E' := by
  refine ⟨fun t p ht ha => (h.safe t p ht (hA p ha)).mono ?_⟩
  rintro t (e | a) p ⟨ht, hx⟩
  · exact ⟨ht, hE p hx⟩
  · exact ⟨ht, hB a p hx⟩

theorem triple_pure {a : α} (h : ∀ p, A p → B a p) : Triple M i A (pure a) B E :=
  ⟨fun _ p ht ha => ⟨ht, h p ha⟩⟩

theorem triple_throw {e : ε} (h : ∀ p, A p → E p) : Triple M i A (throw e) B E :=
  ⟨fun _ p ht ha => ⟨ht, h p ha⟩⟩

theorem Triple.bind {m : Async I σ ε α} {k : α → Async I σ ε β} (hm : Triple M i A m B E)
    (hk : ∀ a, Triple M i (B a) (k a) C E) : Triple M i A (m >>= k) C E := by
  refine ⟨fun t p ht ha => ?_⟩
  have heq : recorded i ((m >>= k) p.1) p.2 =
      (recorded i (m p.1) p.2).bind fun a p => recorded i (k a p.1) p.2 :=
    recorded_bind i (m p.1) k p.2
  rw [heq]
  refine safe_bind.mpr ((hm.safe t p ht ha).mono ?_)
  rintro t (e | a) p ⟨ht, hx⟩
  · exact ⟨ht, hx⟩
  · exact (hk a).safe t p ht hx

theorem Triple.tryCatch {D : Point ι J I σ ε → Prop} {m : Async I σ ε α} {k : ε → Async I σ ε α}
    (hm : Triple M i A m B D) (hk : ∀ e, Triple M i D (k e) B E) :
    Triple M i A (tryCatch m k) B E := by
  refine ⟨fun t p ht ha => ?_⟩
  have heq : recorded i ((MonadExcept.tryCatch m k) p.1) p.2 =
      (recorded i (m p.1) p.2).handle fun e p => recorded i (k e p.1) p.2 :=
    recorded_handle i (m p.1) k p.2
  rw [heq]
  refine safe_handle.mpr ((hm.safe t p ht ha).mono ?_)
  rintro t (e | a) p ⟨ht, hx⟩
  · exact (hk e).safe t p ht hx
  · exact ⟨ht, hx⟩

theorem triple_ite {b : Prop} [Decidable b] {m n : Async I σ ε α}
    (hm : b → Triple M i A m B E) (hn : ¬b → Triple M i A n B E) :
    Triple M i A (if b then m else n) B E := by
  by_cases h : b
  · simpa [h] using hm h
  · simpa [h] using hn h

/-- A fact found on the way becomes a hypothesis. -/
theorem triple_of_fact {b : Prop} {m : Async I σ ε α} (h : b → Triple M i A m B E) :
    Triple M i (fun p => b ∧ A p) m B E :=
  ⟨fun t p ht ha => (h ha.1).safe t p ht ha.2⟩

/-- A program may be followed from one point at a time. -/
theorem triple_at {m : Async I σ ε α}
    (h : ∀ s h, M.inv (s, h) → A (s, h) → Triple M i (fun p => p = (s, h)) m B E) :
    Triple M i A m B E :=
  ⟨fun t p ht ha => (h p.1 p.2 ht.inv ha).safe t p ht rfl⟩

theorem triple_read {f : σ → α} (h : ∀ p, M.inv p → A p → B (f p.1) p) :
    Triple M i A (Async.read f) B E :=
  ⟨fun _ p ht ha => ⟨ht, h p ht.inv ha⟩⟩

theorem triple_modify {f : σ → σ} {B : Unit → Point ι J I σ ε → Prop}
    (h : ∀ s h, M.inv (s, h) → A (s, h) → M.Acts i (s, h) (f s, h) ∧ B () (f s, h)) :
    Triple M i A (Async.modify f) B E := by
  refine ⟨fun t p ht ha => ?_⟩
  obtain ⟨hact, hb⟩ := h p.1 p.2 ht.inv ha
  exact ⟨ht.more hact, hb⟩

theorem triple_attempt {f : σ → Except ε (α × σ)}
    (hok : ∀ s h a s', M.inv (s, h) → A (s, h) → f s = .ok (a, s') →
      M.Acts i (s, h) (s', h) ∧ B a (s', h))
    (herror : ∀ s h e, A (s, h) → f s = .error e → E (s, h)) :
    Triple M i A (Async.attempt f) B E := by
  refine ⟨fun t p ht ha => ?_⟩
  obtain ⟨s, h⟩ := p
  simp only [Async.attempt]
  rcases hf : f s with e | ⟨a, s'⟩
  · exact ⟨ht, herror s h e ha hf⟩
  · obtain ⟨hact, hb⟩ := hok s h a s' ht.inv ha hf
    exact ⟨ht.more hact, hb⟩

/-- A program that never asks its host for anything. -/
theorem triple_done {m : Async I σ ε α}
    (h : ∀ s h, M.inv (s, h) → A (s, h) → ∃ a s', m s = .done (.ok a) s' ∧
      M.Acts i (s, h) (s', h) ∧ B a (s', h)) : Triple M i A m B E := by
  refine ⟨fun t p ht ha => ?_⟩
  obtain ⟨s, h₀⟩ := p
  obtain ⟨a, s', hrun, hact, hb⟩ := h s h₀ ht.inv ha
  rw [hrun]
  exact ⟨ht.more hact, hb⟩

theorem triple_choose {c : I.Choice} {B : I.Outcome c → Point ι J I σ ε → Prop}
    (h : ∀ s h o, M.inv (s, h) → A (s, h) → H.choose c s o →
      M.Acts i (s, h) (s, .choice i c s o :: h) ∧ B o (s, .choice i c s o :: h)) :
    Triple M i A (Async.choose c) B E := by
  refine ⟨fun t p ht ha => ⟨ht, fun o ho => ?_⟩⟩
  obtain ⟨hact, hb⟩ := h p.1 p.2 o ht.inv ha ho
  exact ⟨ht.more hact, hb⟩

/-- A fiber suspends once the call is on record, and goes on once the answer is. -/
theorem triple_call {q : I.Query} {B : I.Reply q → Point ι J I σ ε → Prop}
    (hcall : ∀ s h, M.inv (s, h) → A (s, h) → M.Acts i (s, h) (s, .call i q s :: h))
    (hanswer : ∀ s h s' h' a, A (s, h) → M.rely i (s, .call i q s :: h) (s', h') →
      M.inv (s', h') → M.Acts i (s', h') (s', .answer i q a s' :: h') ∧
        ending B E a (s', .answer i q a s' :: h')) :
    Triple M i A (Async.call q) B E := by
  refine ⟨fun t p ht ha => ⟨ht.more (hcall p.1 p.2 ht.inv ha), ?_⟩⟩
  rintro a ⟨s', h'⟩ ⟨hinv, hrely, -⟩
  obtain ⟨hact, hx⟩ := hanswer p.1 p.2 s' h' a ha hrely hinv
  exact ⟨⟨acts_inv hinv hact, hact⟩, hx⟩

/-- A change of state made together with the call that follows it. -/
theorem triple_modify_call {f : σ → σ} {q : I.Query} {B : I.Reply q → Point ι J I σ ε → Prop}
    (hcall : ∀ s h, M.inv (s, h) → A (s, h) → M.Acts i (s, h) (f s, .call i q (f s) :: h))
    (hanswer : ∀ s h s' h' a, A (s, h) → M.rely i (f s, .call i q (f s) :: h) (s', h') →
      M.inv (s', h') → M.Acts i (s', h') (s', .answer i q a s' :: h') ∧
        ending B E a (s', .answer i q a s' :: h')) :
    Triple M i A (do Async.modify f; Async.call q) B E := by
  refine ⟨fun t p ht ha => ⟨ht.more (hcall p.1 p.2 ht.inv ha), ?_⟩⟩
  rintro a ⟨s', h'⟩ ⟨hinv, hrely, -⟩
  obtain ⟨hact, hx⟩ := hanswer p.1 p.2 s' h' a ha hrely hinv
  exact ⟨⟨acts_inv hinv hact, hact⟩, hx⟩

/-- What a transaction shows is the state at its start; its body never waits. -/
def Body (M : Machine J I σ ε ι H) (i : ι) (restore : σ → σ → σ) (s₀ : σ) (t : Point ι J I σ ε)
    (B : α → Point ι J I σ ε → Prop) (E : Point ι J I σ ε → Prop) :
    Run I σ ε α → History ι J I σ ε → Prop
  | .done (.ok a) s, h => B a (s, h)
  | .done (.error _) s, h => E (restore s₀ s, h)
  | .sync c s k, h => M.Kept i t (restore s₀ s, h) ∧ ∀ o, H.choose c (restore s₀ s) o →
      Body M i restore s₀ t B E (k o) (.choice i c (restore s₀ s) o :: h)
  | .await .., _ => False

theorem body_bind {restore : σ → σ → σ} {s₀ : σ} {t : Point ι J I σ ε} {r : Run I σ ε α}
    {f : α → σ → Run I σ ε β} {h : History ι J I σ ε}
    (hr : Body M i restore s₀ t (fun a p => Body M i restore s₀ t C E (f a p.1) p.2) E r h) :
    Body M i restore s₀ t C E (r.bind f) h := by
  induction r generalizing h with
  | done x s => cases x <;> exact hr
  | sync c s k ih => exact ⟨hr.1, fun o ho => ih o (hr.2 o ho)⟩
  | await q s k ih => exact hr

/-- A transaction within a transaction shows nothing of its own. -/
theorem body_transact {restore : σ → σ → σ} {s₀ s₁ : σ} {t : Point ι J I σ ε}
    {r : Run I σ ε α} {h : History ι J I σ ε}
    (hrestore : ∀ s, restore s₀ (restore s₁ s) = restore s₀ s)
    (hr : Body M i restore s₀ t B E r h) : Body M i restore s₀ t B E (r.transact restore s₁) h := by
  induction r generalizing h with
  | done x s =>
    cases x with
    | error e =>
      simp only [Run.transact, Body, hrestore]
      exact hr
    | ok a => exact hr
  | sync c s k ih =>
    simp only [Run.transact, Body, hrestore]
    exact ⟨hr.1, fun o ho => ih o (hr.2 o ho)⟩
  | await q s k ih => exact hr

/-- A transaction that fails leaves its fiber where it was. -/
theorem triple_transaction {restore : σ → σ → σ} {m : Async I σ ε α}
    (h : ∀ t s h, M.Kept i t (s, h) → A (s, h) →
      Body M i restore s t (fun a p => M.Kept i t p ∧ B a p) (fun p => M.Kept i t p ∧ E p)
        (m s) h) :
    Triple M i A (Async.transaction restore m) B E := by
  refine ⟨fun t p ht ha => ?_⟩
  obtain ⟨s, h₀⟩ := p
  have key : ∀ (r : Run I σ ε α) (h : History ι J I σ ε),
      Body M i restore s t (fun a p => M.Kept i t p ∧ B a p) (fun p => M.Kept i t p ∧ E p) r h →
      Safe (M.contract i) (recorded i (r.transact restore s) h) t
        fun t x p => M.Kept i t p ∧ ending B E x p := by
    intro r
    induction r with
    | done x s' => exact fun h hb => by cases x <;> exact hb
    | sync c s' k ih => exact fun h hb => ⟨hb.1, fun o ho => ih o _ (hb.2 o ho)⟩
    | await q s' k ih => exact fun h hb => hb.elim
  exact key _ _ (h t s h₀ ht ha)

theorem triple_forEach {f : β → Async I σ ε Unit} {A : List β → Point ι J I σ ε → Prop}
    (body : ∀ x xs, Triple M i (A (x :: xs)) (f x) (fun _ => A xs) E) :
    ∀ xs, Triple M i (A xs) (Async.forEach xs f) (fun _ => A []) E := by
  intro xs
  induction xs with
  | nil => exact triple_pure fun _ h => h
  | cons x xs ih => exact (body x xs).bind fun _ => ih

theorem keeps_pure {a : α} : Keeps M i A (pure a : Async I σ ε α) := triple_pure fun _ h => h

theorem keeps_throw {e : ε} : Keeps M i A (throw e : Async I σ ε α) := triple_throw fun _ h => h

theorem Keeps.bind {m : Async I σ ε α} {k : α → Async I σ ε β} (hm : Keeps M i A m)
    (hk : ∀ a, Keeps M i A (k a)) : Keeps M i A (m >>= k) := Triple.bind hm hk

theorem Keeps.tryCatch {m : Async I σ ε α} {k : ε → Async I σ ε α} (hm : Keeps M i A m)
    (hk : ∀ e, Keeps M i A (k e)) : Keeps M i A (tryCatch m k) := Triple.tryCatch hm hk

theorem keeps_ite {b : Prop} [Decidable b] {m n : Async I σ ε α} (hm : Keeps M i A m)
    (hn : Keeps M i A n) : Keeps M i A (if b then m else n) :=
  triple_ite (fun _ => hm) (fun _ => hn)

theorem keeps_read {f : σ → α} : Keeps M i A (Async.read f : Async I σ ε α) :=
  triple_read fun _ _ h => h

theorem keeps_forEach {f : β → Async I σ ε Unit} (body : ∀ x, Keeps M i A (f x)) (xs : List β) :
    Keeps M i A (Async.forEach xs f) :=
  triple_forEach (A := fun _ => A) (fun x _ => body x) xs

/-- A program run by fiber `i` to its end, with what the fiber put on record meanwhile. -/
inductive Ran (i : ι) : Run I σ ε α → History ι J I σ ε → Except ε α → σ → History ι J I σ ε →
    Prop where
  | done (x s h) : Ran i (.done x s) h x s h
  | sync {c s k o h x s' h'} : Ran i (k o) (.choice i c s o :: h) x s' h' →
      Ran i (.sync c s k) h x s' h'
  | await {q s k a s₁ h x s' h'} :
      Ran i (k a s₁) (.answer i q a s₁ :: .call i q s :: h) x s' h' → Ran i (.await q s k) h x s' h'

theorem Ran.bind {r : Run I σ ε α} {f : α → σ → Run I σ ε β} {h h' h'' : History ι J I σ ε}
    {a : α} {s s' : σ} {x : Except ε β} (hr : Ran i r h (.ok a) s h')
    (hf : Ran i (f a s) h' x s' h'') : Ran i (r.bind f) h x s' h'' := by
  generalize hy : (Except.ok a : Except ε α) = y at hr
  induction hr with
  | done x s h =>
    subst hy
    exact hf
  | sync _ ih => exact .sync (ih hf hy)
  | await _ ih => exact .await (ih hf hy)

theorem ran_choose_inv {c : I.Choice} {k : I.Outcome c → Async I σ ε β} {s s' : σ}
    {x : Except ε β} {h h' : History ι J I σ ε}
    (hran : Ran i ((Async.choose c >>= k) s) h x s' h') :
    ∃ o, Ran i (k o s) (.choice i c s o :: h) x s' h' := by
  have hsync : Ran i (.sync c s fun o => k o s) h x s' h' := hran
  cases hsync with
  | @sync _ _ _ o _ _ _ _ hrest => exact ⟨o, hrest⟩

theorem ran_pure_inv {b : β} {s s' : σ} {x : Except ε β} {h h' : History ι J I σ ε}
    (hran : Ran i ((pure b : Async I σ ε β) s) h x s' h') : x = .ok b ∧ h' = h := by
  have hdone : Ran i (.done (.ok b) s) h x s' h' := hran
  cases hdone with
  | done => exact ⟨rfl, rfl⟩

variable [DecidableEq ι]

theorem own_choice {c : I.Choice} {s : σ} {o : I.Outcome c} {h : History ι J I σ ε} :
    own i (.choice i c s o :: h) = .choice i c s o :: own i h := if_pos rfl

theorem own_call {q : I.Query} {s : σ} {h : History ι J I σ ε} :
    own i (.call i q s :: h) = .call i q s :: own i h := if_pos rfl

theorem own_answer {q : I.Query} {a : Except ε (I.Reply q)} {s : σ} {h : History ι J I σ ε} :
    own i (.answer i q a s :: h) = .answer i q a s :: own i h := if_pos rfl

theorem own_start {j : J} {s : σ} {h : History ι J I σ ε} :
    own i (.start i j s :: h) = [.start i j s] := if_pos rfl

/-- A line that starts nothing comes on top of its fiber's own part. -/
theorem own_tell {e : Entry ι J I σ ε} {h : History ι J I σ ε} (he : e.fiber = some i)
    (hs : e.isStart = false) : own i (e :: h) = e :: own i h := by
  cases e with
  | start => cases hs
  | stop => cases he
  | _ => exact if_pos he

theorem own_other {e : Entry ι J I σ ε} {h : History ι J I σ ε} {j : ι} (he : e.fiber = some j)
    (hj : j ≠ i) : own i (e :: h) = own i h := by
  have hne : e.fiber ≠ some i := by
    rw [he]
    exact fun hji => hj (Option.some.inj hji)
  cases e with
  | start j' => exact if_neg fun hji => hne (congrArg some hji)
  | stop => cases he
  | _ => exact if_neg hne

/-- A line of a fiber's own part stands in the history, above the rest of that part. -/
theorem own_split {e : Entry ι J I σ ε} {h l₁ l₂ : History ι J I σ ε}
    (h' : own i h = l₁ ++ e :: l₂) (hs : e.isStart = false) :
    ∃ newer older, h = newer ++ e :: older ∧ own i older = l₂ := by
  induction h generalizing l₁ with
  | nil =>
    have hnil : [] = l₁ ++ e :: l₂ := h'
    simp at hnil
  | cons x h ih =>
    have deeper : ∀ l, own i h = l ++ e :: l₂ →
        ∃ newer older, x :: h = newer ++ e :: older ∧ own i older = l₂ := by
      intro l hin
      obtain ⟨newer, older, rfl, hold⟩ := ih hin
      exact ⟨x :: newer, older, rfl, hold⟩
    have onTop : x :: own i h = l₁ ++ e :: l₂ →
        ∃ newer older, x :: h = newer ++ e :: older ∧ own i older = l₂ := by
      intro htop
      cases l₁ with
      | nil =>
        obtain ⟨rfl, hrest⟩ := List.cons.inj htop
        exact ⟨[], h, rfl, hrest⟩
      | cons y l => exact deeper l (List.cons.inj htop).2
    cases x with
    | stop s =>
      have hnil : [] = l₁ ++ e :: l₂ := h'
      simp at hnil
    | start i' j s =>
      by_cases hi : i' = i
      · subst i'
        rw [own_start] at h'
        rcases l₁ with _ | ⟨y, l₁⟩
        · obtain ⟨rfl, -⟩ := List.cons.inj h'
          cases hs
        · simp at h'
      · rw [own_other rfl hi] at h'
        exact deeper _ h'
    | choice i' =>
      by_cases hi : i' = i
      · subst i'
        exact onTop (own_choice.symm.trans h')
      · exact deeper _ ((own_other rfl hi).symm.trans h')
    | call i' =>
      by_cases hi : i' = i
      · subst i'
        exact onTop (own_call.symm.trans h')
      · exact deeper _ ((own_other rfl hi).symm.trans h')
    | answer i' =>
      by_cases hi : i' = i
      · subst i'
        exact onTop (own_answer.symm.trans h')
      · exact deeper _ ((own_other rfl hi).symm.trans h')

/-- A program that ends has run, in the fiber's own part of the history. -/
theorem Triple.ran {m : Async I σ ε α} (hown : ∀ p q, M.rely i p q → own i q.2 = own i p.2)
    (h : Triple M i A m B E) :
    Triple M i A m (fun a p => B a p ∧ ∃ p₀, A p₀ ∧ Ran i (m p₀.1) (own i p₀.2) (.ok a) p.1
      (own i p.2)) E := by
  refine ⟨fun t p ht ha => ?_⟩
  have key : ∀ (r : Run I σ ε α) (h : History ι J I σ ε) (t : Point ι J I σ ε)
      (post : Point ι J I σ ε → Except ε α → Point ι J I σ ε → Prop),
      Safe (M.contract i) (recorded i r h) t post →
      Safe (M.contract i) (recorded i r h) t fun t x p =>
        post t x p ∧ Ran i r (own i h) x p.1 (own i p.2) := by
    intro r
    induction r with
    | done x s => exact fun h t post hs => ⟨hs, .done x s _⟩
    | sync c s k ih =>
      refine fun h t post hs => ⟨hs.1, fun o ho => ?_⟩
      refine (ih o _ t post (hs.2 o ho)).mono fun t x p hx => ⟨hx.1, ?_⟩
      have hran := hx.2
      rw [own_choice] at hran
      exact .sync hran
    | await q s k ih =>
      refine fun h t post hs => ⟨hs.1, fun a p' hp' => ?_⟩
      refine (ih a p'.1 _ p' post (hs.2 a p' hp')).mono fun t x p hx => ⟨hx.1, ?_⟩
      have hran := hx.2
      rw [own_answer, hown _ _ hp'.2.1, own_call] at hran
      exact .await hran
  refine (key _ _ _ _ (h.safe t p ht ha)).mono ?_
  rintro t (e | a) p' ⟨⟨ht, hx⟩, hran⟩
  · exact ⟨ht, hx⟩
  · exact ⟨ht, hx, p, ha, hran⟩

end RecordedTriples
