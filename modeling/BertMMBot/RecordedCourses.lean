import BertMMBot.RecordedTriples

/-! # Courses of recorded programs

A course is one complete run of a program by its fiber, amid whatever the others do whenever
it waits. A triple says where courses can end; what a course shows in the history is found by
taking it apart along the program text. -/
namespace RecordedCourses

open AsyncProgram AsyncContract AsyncFibers AsyncRecords RecordedTriples

variable {ι J σ ε α β O : Type} {I : Interface} {H : Host I σ ε} {M : Machine J I σ ε ι H} {i : ι}
  {p q : Point ι J I σ ε} {A E F : Point ι J I σ ε → Prop} {B : α → Point ι J I σ ε → Prop}

/-- What a fiber of the machine meets: while it waits the others act, until the host answers. -/
def surroundings (M : Machine J I σ ε ι H) (i : ι) : Host I (Point ι J I σ ε) ε where
  choose c p o := H.choose c p.1 o
  respond q p a p' := M.rely i p p' ∧ ∃ s, H.respond q s a p'.1

def Course (M : Machine J I σ ε ι H) (i : ι) (m : Async I σ ε α) (p : Point ι J I σ ε)
    (x : Except ε α) (q : Point ι J I σ ε) : Prop :=
  Ends (surroundings M i) (recorded i (m p.1) p.2) x q

theorem rely_inv (hp : M.inv p) (h : M.rely i p q) : M.inv q := by
  refine rely_holds (A := M.inv) ?_ h hp
  intro p q hd hinv
  cases hd with
  | other _ ha => exact M.act_inv hinv ha
  | answer hr => exact M.respond_inv hinv hr

theorem safe_ends {r : Run I (Point ι J I σ ε) ε α} {t : Point ι J I σ ε}
    {post : Point ι J I σ ε → Except ε α → Point ι J I σ ε → Prop} {x : Except ε α}
    (he : Ends (surroundings M i) r x q) (hs : Safe (M.contract i) r t post) :
    ∃ t, post t x q := by
  induction he generalizing t with
  | done x s => exact ⟨t, hs⟩
  | sync ho _ ih => exact ih (hs.2 _ ho)
  | await ha _ ih => exact ih (hs.2 _ _ ⟨rely_inv hs.1.inv ha.1, ha.1, ha.2⟩)

theorem triple_course {m : Async I σ ε α} {x : Except ε α} (h : Triple M i A m B E)
    (hp : M.inv p) (ha : A p) (hc : Course M i m p x q) : M.inv q ∧ ending B E x q := by
  obtain ⟨t, hkept, hend⟩ := safe_ends hc (h.safe p p ⟨hp, .refl⟩ ha)
  exact ⟨hkept.inv, hend⟩

theorem Course.lasting {m : Async I σ ε α} {x : Except ε α}
    (hact : ∀ {j p q}, M.inv p → M.act j p q → F p → F q)
    (hanswer : ∀ {q s a t h}, H.respond q s a t → F (s, h) → F (t, h))
    (h : Triple M i A m B E) (hp : M.inv p) (ha : A p) (hc : Course M i m p x q) (hf : F p) :
    F q := by
  have hacts : ∀ {p q}, M.inv p → M.Acts i p q → F p → M.inv q ∧ F q := by
    intro p q hp hpq hf
    induction hpq with
    | refl => exact ⟨hp, hf⟩
    | tail _ ha ih => exact ⟨M.act_inv ih.1 ha, hact ih.1 ha ih.2⟩
  have hrely : ∀ {p q}, M.inv p → M.rely i p q → F p → M.inv q ∧ F q := by
    intro p q hp hpq hf
    induction hpq with
    | refl => exact ⟨hp, hf⟩
    | tail _ hd ih =>
      cases hd with
      | other _ ha => exact ⟨M.act_inv ih.1 ha, hact ih.1 ha ih.2⟩
      | answer hr => exact ⟨M.respond_inv ih.1 hr, hanswer hr ih.2⟩
  -- `t` is the point at which the present segment began
  have key : ∀ {r : Run I (Point ι J I σ ε) ε α} {x : Except ε α} {q t : Point ι J I σ ε},
      Ends (surroundings M i) r x q → M.inv t → F t →
      Safe (M.contract i) r t (fun t x p => M.Kept i t p ∧ ending B E x p) → F q := by
    intro r x q t he
    induction he generalizing t with
    | done x s =>
      intro ht hf hs
      exact (hacts ht hs.1.acts hf).2
    | sync ho _ ih =>
      intro ht hf hs
      exact ih ht hf (hs.2 _ ho)
    | await hr _ ih =>
      intro ht hf hs
      obtain ⟨hinv, hcalled⟩ := hacts ht hs.1.acts hf
      obtain ⟨hinv', hfound⟩ := hrely hinv hr.1 hcalled
      exact ih hinv' hfound (hs.2 _ _ ⟨hinv', hr⟩)
  exact key hc hp hf (h.safe p p ⟨hp, .refl⟩ ha)

theorem ends_bind {H : Host I σ ε} {r : Run I σ ε α} {f : α → σ → Run I σ ε β} {x : Except ε β}
    {s : σ} (he : Ends H (r.bind f) x s) :
    (∃ a s₁, Ends H r (.ok a) s₁ ∧ Ends H (f a s₁) x s) ∨
      ∃ e, x = .error e ∧ Ends H r (.error e) s := by
  induction r with
  | done y s₁ =>
    cases y with
    | ok a => exact .inl ⟨a, s₁, .done _ _, he⟩
    | error e =>
      cases he
      exact .inr ⟨e, rfl, .done _ _⟩
  | sync c s₁ k ih =>
    cases he with
    | sync ho hk =>
      rcases ih _ hk with ⟨a, s₂, hfirst, hrest⟩ | ⟨e, rfl, hfirst⟩
      · exact .inl ⟨a, s₂, .sync ho hfirst, hrest⟩
      · exact .inr ⟨e, rfl, .sync ho hfirst⟩
  | await q s₁ k ih =>
    cases he with
    | await ha hk =>
      rcases ih _ _ hk with ⟨a, s₂, hfirst, hrest⟩ | ⟨e, rfl, hfirst⟩
      · exact .inl ⟨a, s₂, .await ha hfirst, hrest⟩
      · exact .inr ⟨e, rfl, .await ha hfirst⟩

theorem course_bind {m : Async I σ ε α} {k : α → Async I σ ε β} {x : Except ε β}
    (hc : Course M i (m >>= k) p x q) :
    (∃ a p₁, Course M i m p (.ok a) p₁ ∧ Course M i (k a) p₁ x q) ∨
      ∃ e, x = .error e ∧ Course M i m p (.error e) q := by
  have heq : recorded i ((m >>= k) p.1) p.2 =
      (recorded i (m p.1) p.2).bind fun a p => recorded i (k a p.1) p.2 :=
    recorded_bind i (m p.1) k p.2
  unfold Course at hc
  rw [heq] at hc
  exact ends_bind hc

theorem course_pure {a : α} {x : Except ε α} (hc : Course M i (pure a) p x q) :
    x = .ok a ∧ q = p := by
  cases hc
  exact ⟨rfl, rfl⟩

theorem course_read {f : σ → α} {x : Except ε α} (hc : Course M i (Async.read f) p x q) :
    x = .ok (f p.1) ∧ q = p := by
  cases hc
  exact ⟨rfl, rfl⟩

theorem course_ite {b : Prop} [Decidable b] {m n : Async I σ ε α} {x : Except ε α}
    (hc : Course M i (if b then m else n) p x q) :
    (b ∧ Course M i m p x q) ∨ (¬b ∧ Course M i n p x q) := by
  by_cases h : b
  · rw [if_pos h] at hc
    exact .inl ⟨h, hc⟩
  · rw [if_neg h] at hc
    exact .inr ⟨h, hc⟩

theorem course_choose {c : I.Choice} {x : Except ε (I.Outcome c)}
    (hc : Course M i (Async.choose c) p x q) :
    ∃ o, x = .ok o ∧ q = (p.1, .choice i c p.1 o :: p.2) := by
  cases hc with
  | sync _ hk =>
    cases hk
    exact ⟨_, rfl, rfl⟩

theorem course_call {q₀ : I.Query} {x : Except ε (I.Reply q₀)}
    (hc : Course M i (Async.call q₀) p x q) :
    ∃ p₁, M.rely i (p.1, .call i q₀ p.1 :: p.2) p₁ ∧ q = (p₁.1, .answer i q₀ x p₁.1 :: p₁.2) := by
  cases hc with
  | await hr hk =>
    cases hk
    exact ⟨_, hr.1, rfl⟩

abbrev seen (obs : Entry ι J I σ ε → Option O) (h : History ι J I σ ε) : List O :=
  h.filterMap obs

structure Blind (obs : Entry ι J I σ ε → Option O) : Prop where
  choice : ∀ i c s s' o, obs (.choice i c s o) = obs (.choice i c s' o)
  call : ∀ i q s s', obs (.call i q s) = obs (.call i q s')

def Silent (obs : Entry ι J I σ ε → Option O) (i : ι) : Run I σ ε α → Prop
  | .done .. => True
  | .sync c s k => ∀ o, obs (.choice i c s o) = none ∧ Silent obs i (k o)
  | .await q s k => obs (.call i q s) = none ∧
      ∀ a s', obs (.answer i q a s') = none ∧ Silent obs i (k a s')

def Quieted (obs : Entry ι J I σ ε → Option O) (i : ι) (m : Async I σ ε α) : Prop :=
  ∀ s, Silent obs i (m s)

variable {obs : Entry ι J I σ ε → Option O}

theorem silent_bind {r : Run I σ ε α} {f : α → σ → Run I σ ε β} (hr : Silent obs i r)
    (hf : ∀ a s, Silent obs i (f a s)) : Silent obs i (r.bind f) := by
  induction r with
  | done x s =>
    cases x with
    | ok a => exact hf a s
    | error e => exact trivial
  | sync c s k ih => exact fun o => ⟨(hr o).1, ih o (hr o).2⟩
  | await q s k ih => exact ⟨hr.1, fun a s' => ⟨(hr.2 a s').1, ih a s' (hr.2 a s').2⟩⟩

theorem silent_handle {r : Run I σ ε α} {f : ε → σ → Run I σ ε α} (hr : Silent obs i r)
    (hf : ∀ e s, Silent obs i (f e s)) : Silent obs i (r.handle f) := by
  induction r with
  | done x s =>
    cases x with
    | ok a => exact trivial
    | error e => exact hf e s
  | sync c s k ih => exact fun o => ⟨(hr o).1, ih o (hr o).2⟩
  | await q s k ih => exact ⟨hr.1, fun a s' => ⟨(hr.2 a s').1, ih a s' (hr.2 a s').2⟩⟩

theorem silent_transact (hobs : Blind obs) {restore : σ → σ → σ} {s₀ : σ} {r : Run I σ ε α}
    (hr : Silent obs i r) : Silent obs i (r.transact restore s₀) := by
  induction r with
  | done x s => cases x <;> exact trivial
  | sync c s k ih =>
    intro o
    rw [hobs.choice i c _ s o]
    exact ⟨(hr o).1, ih o (hr o).2⟩
  | await q s k ih =>
    refine ⟨?_, fun a s' => ⟨(hr.2 a s').1, ih a s' (hr.2 a s').2⟩⟩
    rw [hobs.call i q _ s]
    exact hr.1

theorem quieted_pure {a : α} : Quieted obs i (pure a : Async I σ ε α) := fun _ => trivial

theorem quieted_throw {e : ε} : Quieted obs i (throw e : Async I σ ε α) := fun _ => trivial

theorem quieted_read {f : σ → α} : Quieted obs i (Async.read f : Async I σ ε α) := fun _ => trivial

theorem quieted_modify {f : σ → σ} : Quieted obs i (Async.modify f : Async I σ ε Unit) :=
  fun _ => trivial

theorem quieted_attempt {f : σ → Except ε (α × σ)} :
    Quieted obs i (Async.attempt f : Async I σ ε α) := by
  intro s
  unfold Async.attempt
  rcases f s with e | a <;> exact trivial

theorem quieted_choose {c : I.Choice} (h : ∀ s o, obs (.choice i c s o) = none) :
    Quieted obs i (Async.choose c : Async I σ ε (I.Outcome c)) := fun s o => ⟨h s o, trivial⟩

theorem quieted_call {q : I.Query} (hcall : ∀ s, obs (.call i q s) = none)
    (hanswer : ∀ a s, obs (.answer i q a s) = none) :
    Quieted obs i (Async.call q : Async I σ ε (I.Reply q)) :=
  fun s => ⟨hcall s, fun a s' => ⟨hanswer a s', trivial⟩⟩

theorem Quieted.bind {m : Async I σ ε α} {k : α → Async I σ ε β} (hm : Quieted obs i m)
    (hk : ∀ a, Quieted obs i (k a)) : Quieted obs i (m >>= k) :=
  fun s => silent_bind (hm s) fun a s' => hk a s'

theorem Quieted.tryCatch {m : Async I σ ε α} {k : ε → Async I σ ε α} (hm : Quieted obs i m)
    (hk : ∀ e, Quieted obs i (k e)) : Quieted obs i (tryCatch m k) :=
  fun s => silent_handle (hm s) fun e s' => hk e s'

theorem Quieted.transaction (hobs : Blind obs) {restore : σ → σ → σ} {m : Async I σ ε α}
    (hm : Quieted obs i m) : Quieted obs i (Async.transaction restore m) :=
  fun s => silent_transact hobs (hm s)

theorem quieted_ite {b : Prop} [Decidable b] {m n : Async I σ ε α} (hm : Quieted obs i m)
    (hn : Quieted obs i n) : Quieted obs i (if b then m else n) := by
  by_cases h : b
  · rw [if_pos h]
    exact hm
  · rw [if_neg h]
    exact hn

theorem Quieted.course {m : Async I σ ε α} {x : Except ε α} (hm : Quieted obs i m)
    (hothers : ∀ {p q}, M.rely i p q → seen obs q.2 = seen obs p.2)
    (hc : Course M i m p x q) : seen obs q.2 = seen obs p.2 := by
  have key : ∀ (r : Run I σ ε α) (h : History ι J I σ ε) {x : Except ε α} {q : Point ι J I σ ε},
      Silent obs i r → Ends (surroundings M i) (recorded i r h) x q →
        seen obs q.2 = seen obs h := by
    intro r
    induction r with
    | done y s =>
      intro h x q _ he
      cases he
      rfl
    | sync c s k ih =>
      intro h x q hr he
      cases he with
      | sync _ hk =>
        rw [ih _ _ (hr _).2 hk, seen, List.filterMap_cons_none (hr _).1]
    | await c s k ih =>
      intro h x q hr he
      cases he with
      | await ha hk =>
        rw [ih _ _ _ (hr.2 _ _).2 hk, seen, List.filterMap_cons_none (hr.2 _ _).1]
        refine (hothers ha.1).trans ?_
        rw [seen, List.filterMap_cons_none hr.1]
  exact key _ _ (hm p.1) hc

end RecordedCourses
