import BertMMBot.AsyncProgram

/-! # Contracts for asynchronous programs

A contract says what a program may assume of its host and what it owes whenever it can be
observed. `Safe` is the weakest precondition of one program under a contract: its rules
follow the program text. `Ends` is the run of one program left alone with its host. -/
namespace AsyncContract

open AsyncProgram

variable {I : Interface} {σ ε α β : Type}

/-- Obligations relate the state at the start of the current segment, that is since the
last resumption, to the state at which the program can be stopped or suspends. -/
structure Contract (I : Interface) (σ ε : Type) where
  choose : (c : I.Choice) → σ → I.Outcome c → Prop
  stop : σ → σ → Prop
  suspend : I.Query → σ → σ → Prop
  resume : (q : I.Query) → σ → Except ε (I.Reply q) → σ → Prop

def Safe (Φ : Contract I σ ε) : Run I σ ε α → σ → (σ → Except ε α → σ → Prop) → Prop
  | .done r s, t, post => post t r s
  | .sync c s k, t, post => Φ.stop t s ∧ ∀ o, Φ.choose c s o → Safe Φ (k o) t post
  | .await q s k, t, post => Φ.suspend q t s ∧ ∀ a s', Φ.resume q s a s' → Safe Φ (k a s') s' post

variable {Φ : Contract I σ ε}

@[simp] theorem safe_done {r : Except ε α} {s t : σ} {post} :
    Safe Φ (.done r s : Run I σ ε α) t post ↔ post t r s := Iff.rfl

@[simp] theorem safe_sync {c s} {k : I.Outcome c → Run I σ ε α} {t post} :
    Safe Φ (.sync c s k) t post ↔
      Φ.stop t s ∧ ∀ o, Φ.choose c s o → Safe Φ (k o) t post := Iff.rfl

@[simp] theorem safe_await {q s} {k : Except ε (I.Reply q) → σ → Run I σ ε α} {t post} :
    Safe Φ (.await q s k) t post ↔
      Φ.suspend q t s ∧ ∀ a s', Φ.resume q s a s' → Safe Φ (k a s') s' post := Iff.rfl

/-- What is left to show after a part of a program has delivered its result. -/
def andThen (next : σ → α → σ → Prop) (fail : σ → ε → σ → Prop) :
    σ → Except ε α → σ → Prop
  | t, .ok a, s => next t a s
  | t, .error e, s => fail t e s

@[simp] theorem andThen_ok {next : σ → α → σ → Prop} {fail : σ → ε → σ → Prop} {t a s} :
    andThen next fail t (.ok a) s ↔ next t a s := Iff.rfl

@[simp] theorem andThen_error {next : σ → α → σ → Prop} {fail : σ → ε → σ → Prop} {t e s} :
    andThen next fail t (.error e) s ↔ fail t e s := Iff.rfl

theorem Safe.mono {r : Run I σ ε α} {t : σ} {post post' : σ → Except ε α → σ → Prop}
    (h : Safe Φ r t post) (hp : ∀ t r s, post t r s → post' t r s) : Safe Φ r t post' := by
  induction r generalizing t with
  | done r s => exact hp t r s h
  | sync c s k ih => exact ⟨h.1, fun o ho => ih o (h.2 o ho)⟩
  | await q s k ih => exact ⟨h.1, fun a s' ha => ih a s' (h.2 a s' ha)⟩

@[simp] theorem safe_bind {r : Run I σ ε α} {f : α → σ → Run I σ ε β} {t : σ} {post} :
    Safe Φ (r.bind f) t post ↔ Safe Φ r t
      (andThen (fun t a s => Safe Φ (f a s) t post) (fun t e s => post t (.error e) s)) := by
  induction r generalizing t with
  | done r s => cases r <;> exact Iff.rfl
  | sync c s k ih => exact and_congr_right fun _ => forall₂_congr fun o _ => ih o
  | await q s k ih => exact and_congr_right fun _ => forall₃_congr fun a s' _ => ih a s'

@[simp] theorem safe_handle {r : Run I σ ε α} {h : ε → σ → Run I σ ε α} {t : σ} {post} :
    Safe Φ (r.handle h) t post ↔ Safe Φ r t
      (andThen (fun t a s => post t (.ok a) s) (fun t e s => Safe Φ (h e s) t post)) := by
  induction r generalizing t with
  | done r s => cases r <;> exact Iff.rfl
  | sync c s k ih => exact and_congr_right fun _ => forall₂_congr fun o _ => ih o
  | await q s k ih => exact and_congr_right fun _ => forall₃_congr fun a s' _ => ih a s'

/-- Inside a transaction every observable point shows the state at its start. -/
def Contract.within (Φ : Contract I σ ε) (restore : σ → σ → σ) (s₀ : σ) : Contract I σ ε where
  choose c s o := Φ.choose c (restore s₀ s) o
  stop t s := Φ.stop t (restore s₀ s)
  suspend q t s := Φ.suspend q t (restore s₀ s)
  resume q s a s' := Φ.resume q (restore s₀ s) a s'

theorem safe_transact {restore : σ → σ → σ} {s₀ : σ} {r : Run I σ ε α} {t : σ} {post} :
    Safe Φ (r.transact restore s₀) t post ↔ Safe (Φ.within restore s₀) r t
      (andThen (fun t a s => post t (.ok a) s)
        (fun t e s => post t (.error e) (restore s₀ s))) := by
  induction r generalizing t with
  | done r s => cases r <;> exact Iff.rfl
  | sync c s k ih => exact and_congr_right fun _ => forall₂_congr fun o _ => ih o
  | await q s k ih => exact and_congr_right fun _ => forall₃_congr fun a s' _ => ih a s'

@[simp] theorem safe_ite {c : Prop} [Decidable c] {m n : Run I σ ε α} {t : σ} {post} :
    Safe Φ (if c then m else n) t post ↔ (c → Safe Φ m t post) ∧ (¬c → Safe Φ n t post) := by
  by_cases h : c <;> simp [h]

@[simp] theorem safe_read {f : σ → α} {s t : σ} {post} :
    Safe Φ ((Async.read f : Async I σ ε α) s) t post ↔ post t (.ok (f s)) s := Iff.rfl

@[simp] theorem safe_modify {f : σ → σ} {s t : σ} {post} :
    Safe Φ ((Async.modify f : Async I σ ε Unit) s) t post ↔ post t (.ok ()) (f s) := Iff.rfl

@[simp] theorem safe_choose {c : I.Choice} {s t : σ} {post} :
    Safe Φ ((Async.choose c : Async I σ ε (I.Outcome c)) s) t post ↔
      Φ.stop t s ∧ ∀ o, Φ.choose c s o → post t (.ok o) s := Iff.rfl

@[simp] theorem safe_call {q : I.Query} {s t : σ} {post} :
    Safe Φ ((Async.call q : Async I σ ε (I.Reply q)) s) t post ↔
      Φ.suspend q t s ∧ ∀ a s', Φ.resume q s a s' → post s' a s' := Iff.rfl

/-- The host a program is left alone with: the outcomes it may produce, and how it may
answer a call and change the state meanwhile. -/
structure Host (I : Interface) (σ ε : Type) where
  choose : (c : I.Choice) → σ → I.Outcome c → Prop
  respond : (q : I.Query) → σ → Except ε (I.Reply q) → σ → Prop

inductive Ends (H : Host I σ ε) : Run I σ ε α → Except ε α → σ → Prop where
  | done (r s) : Ends H (.done r s) r s
  | sync {c s k o r s'} : H.choose c s o → Ends H (k o) r s' → Ends H (.sync c s k) r s'
  | await {q s k a s₁ r s'} : H.respond q s a s₁ → Ends H (k a s₁) r s' →
      Ends H (.await q s k) r s'

/-- A transaction that throws restores its state. -/
theorem ends_transact_error {H : Host I σ ε} {restore : σ → σ → σ} {s₀ s' : σ}
    {r : Run I σ ε α} {e : ε} (h : Ends H (r.transact restore s₀) (.error e) s') :
    ∃ s, s' = restore s₀ s := by
  induction r with
  | done x s =>
    cases x with
    | error e =>
      cases h
      exact ⟨s, rfl⟩
    | ok a => cases h
  | sync c s k ih =>
    cases h with
    | sync _ hk => exact ih _ hk
  | await q s k ih =>
    cases h with
    | await _ hk => exact ih _ _ hk

/-- Whatever the host does, the program can only end in `post`. -/
def Yields (H : Host I σ ε) : Run I σ ε α → (Except ε α → σ → Prop) → Prop
  | .done r s, post => post r s
  | .sync c s k, post => ∀ o, H.choose c s o → Yields H (k o) post
  | .await q s k, post => ∀ a s', H.respond q s a s' → Yields H (k a s') post

section Yields

variable {H : Host I σ ε} {s : σ}

theorem Yields.ends {r : Run I σ ε α} {post : Except ε α → σ → Prop} {x : Except ε α}
    (h : Yields H r post) (he : Ends H r x s) : post x s := by
  induction he with
  | done r s => exact h
  | sync ho _ ih => exact ih (h _ ho)
  | await ha _ ih => exact ih (h _ _ ha)

theorem Yields.mono {r : Run I σ ε α} {post post' : Except ε α → σ → Prop} (h : Yields H r post)
    (hp : ∀ x s, post x s → post' x s) : Yields H r post' := by
  induction r with
  | done x s => exact hp x s h
  | sync c s k ih => exact fun o ho => ih o (h o ho)
  | await q s k ih => exact fun a s' ha => ih a s' (h a s' ha)

theorem Yields.and {r : Run I σ ε α} {post post' : Except ε α → σ → Prop} (h : Yields H r post)
    (h' : Yields H r post') : Yields H r fun x s => post x s ∧ post' x s := by
  induction r with
  | done x s => exact ⟨h, h'⟩
  | sync c s k ih => exact fun o ho => ih o (h o ho) (h' o ho)
  | await q s k ih => exact fun a s' ha => ih a s' (h a s' ha) (h' a s' ha)

/-- Nothing is lost: a program ends where it can end. -/
theorem yields_ends {r : Run I σ ε α} : Yields H r fun x s => Ends H r x s := by
  induction r with
  | done x s => exact .done x s
  | sync c s k ih => exact fun o ho => (ih o).mono fun x s' he => .sync ho he
  | await q s k ih => exact fun a s₁ ha => (ih a s₁).mono fun x s' he => .await ha he

theorem Yields.bind {r : Run I σ ε α} {f : α → σ → Run I σ ε β} {mid : Except ε α → σ → Prop}
    {post : Except ε β → σ → Prop} (h : Yields H r mid)
    (ok : ∀ a s, mid (.ok a) s → Yields H (f a s) post)
    (error : ∀ e s, mid (.error e) s → post (.error e) s) : Yields H (r.bind f) post := by
  induction r with
  | done x s =>
    cases x with
    | error e => exact error e s h
    | ok a => exact ok a s h
  | sync c s k ih => exact fun o ho => ih o (h o ho)
  | await q s k ih => exact fun a s' ha => ih a s' (h a s' ha)

theorem Yields.handle {r : Run I σ ε α} {f : ε → σ → Run I σ ε α} {mid : Except ε α → σ → Prop}
    {post : Except ε α → σ → Prop} (h : Yields H r mid)
    (ok : ∀ a s, mid (.ok a) s → post (.ok a) s)
    (error : ∀ e s, mid (.error e) s → Yields H (f e s) post) : Yields H (r.handle f) post := by
  induction r with
  | done x s =>
    cases x with
    | error e => exact error e s h
    | ok a => exact ok a s h
  | sync c s k ih => exact fun o ho => ih o (h o ho)
  | await q s k ih => exact fun a s' ha => ih a s' (h a s' ha)

/-- What the host can see of a transaction is the state at its start. -/
def Host.within (H : Host I σ ε) (restore : σ → σ → σ) (s₀ : σ) : Host I σ ε where
  choose c s o := H.choose c (restore s₀ s) o
  respond q s a s' := H.respond q (restore s₀ s) a s'

theorem Yields.transact {restore : σ → σ → σ} {s₀ : σ} {r : Run I σ ε α}
    {mid post : Except ε α → σ → Prop} (h : Yields (H.within restore s₀) r mid)
    (ok : ∀ a s, mid (.ok a) s → post (.ok a) s)
    (error : ∀ e s, mid (.error e) s → post (.error e) (restore s₀ s)) :
    Yields H (r.transact restore s₀) post := by
  induction r with
  | done x s =>
    cases x with
    | error e => exact error e s h
    | ok a => exact ok a s h
  | sync c s k ih => exact fun o ho => ih o (h o ho)
  | await q s k ih => exact fun a s' ha => ih a s' (h a s' ha)

/-- Whatever the host does, the program throws. -/
def Throws (H : Host I σ ε) (r : Run I σ ε α) : Prop := Yields H r fun x _ => ∃ e, x = .error e

theorem Throws.bind {r : Run I σ ε α} {f : α → σ → Run I σ ε β} (h : Throws H r) :
    Throws H (r.bind f) := by
  apply Yields.bind h
  · rintro a s ⟨e, he⟩
    cases he
  · intro e s _
    exact ⟨e, rfl⟩

theorem Throws.transact {restore : σ → σ → σ} {s₀ : σ} {r : Run I σ ε α}
    (h : Throws (H.within restore s₀) r) : Throws H (r.transact restore s₀) := by
  apply Yields.transact h
  · rintro a s ⟨e, he⟩
    cases he
  · intro e s _
    exact ⟨e, rfl⟩

/-- One pass of a loop, and the states around it. -/
structure Pass (β σ : Type) where
  item : β
  before : σ
  after : σ

/-- Passes that lead from one state to another. -/
def Linked : σ → List (Pass β σ) → σ → Prop
  | s, [], s' => s = s'
  | s, p :: ps, s' => p.before = s ∧ Linked p.after ps s'

/-- What every pass preserves holds before each of them and at the end. -/
theorem Linked.invariant {J : σ → Prop} {ps : List (Pass β σ)} {s' : σ} (h : Linked s ps s')
    (hs : J s) (step : ∀ p ∈ ps, J p.before → J p.after) : (∀ p ∈ ps, J p.before) ∧ J s' := by
  induction ps generalizing s with
  | nil =>
    cases h
    exact ⟨by simp, hs⟩
  | cons p ps ih =>
    obtain ⟨rfl, hrest⟩ := h
    obtain ⟨hbefore, hend⟩ := ih hrest (step p (List.mem_cons_self ..) hs)
      fun x hx => step x (List.mem_cons_of_mem p hx)
    exact ⟨List.forall_mem_cons.mpr ⟨hs, hbefore⟩, hend⟩

/-- A preorder that contains every pass relates the two ends. -/
theorem Linked.evolves {R : σ → σ → Prop} {ps : List (Pass β σ)} {s' : σ} (h : Linked s ps s')
    (refl : ∀ s, R s s) (trans : ∀ s t u, R s t → R t u → R s u)
    (step : ∀ p ∈ ps, R p.before p.after) : R s s' := by
  induction ps generalizing s with
  | nil =>
    cases h
    exact refl _
  | cons p ps ih =>
    obtain ⟨rfl, hrest⟩ := h
    exact trans _ _ _ (step p (List.mem_cons_self ..))
      (ih hrest fun x hx => step x (List.mem_cons_of_mem p hx))

/-- A loop whose body never throws makes one pass for each element. -/
theorem yields_forEach {f : β → Async I σ ε Unit} {A : List β → σ → Prop}
    {R : β → σ → σ → Prop}
    (body : ∀ x xs s, A (x :: xs) s → Yields H (f x s) fun r s' =>
      r = .ok () ∧ R x s s' ∧ A xs s') :
    ∀ xs s, A xs s → Yields H (Async.forEach xs f s) fun r s' => r = .ok () ∧
      ∃ ps, Linked s ps s' ∧ ps.map Pass.item = xs ∧ ∀ p ∈ ps,
        Ends H (f p.item p.before) (.ok ()) p.after ∧ R p.item p.before p.after := by
  intro xs
  induction xs with
  | nil => exact fun s _ => ⟨rfl, [], rfl, rfl, by simp⟩
  | cons x xs ih =>
    intro s h
    refine (yields_ends.and (body x xs s h)).bind ?_ fun e s₁ h₁ => by cases h₁.2.1
    rintro ⟨⟩ s₁ ⟨hends, -, hpass, hrest⟩
    refine (ih s₁ hrest).mono ?_
    rintro r s' ⟨hr, ps, hlinked, hitems, hps⟩
    refine ⟨hr, ⟨x, s, s₁⟩ :: ps, ⟨rfl, hlinked⟩, by simp [hitems], ?_⟩
    simpa using ⟨⟨hends, hpass⟩, hps⟩

end Yields

/-- Runs are finite, so a host that always answers brings every program to an end. -/
theorem ends_exists {H : Host I σ ε} (hc : ∀ c s, ∃ o, H.choose c s o)
    (hr : ∀ q s, ∃ a s', H.respond q s a s') (r : Run I σ ε α) : ∃ x s, Ends H r x s := by
  induction r with
  | done r s => exact ⟨r, s, .done r s⟩
  | sync c s k ih =>
    obtain ⟨o, ho⟩ := hc c s
    obtain ⟨x, s', h⟩ := ih o
    exact ⟨x, s', .sync ho h⟩
  | await q s k ih =>
    obtain ⟨a, s₁, ha⟩ := hr q s
    obtain ⟨x, s', h⟩ := ih a s₁
    exact ⟨x, s', .await ha h⟩

/-- A deterministic host, for evaluating a program. -/
structure Script (I : Interface) (σ ε : Type) where
  choose : (c : I.Choice) → σ → I.Outcome c
  respond : (q : I.Query) → σ → Except ε (I.Reply q) × σ

def Script.play (S : Script I σ ε) : Run I σ ε α → Except ε α × σ
  | .done r s => (r, s)
  | .sync c s k => S.play (k (S.choose c s))
  | .await q s k => S.play (k (S.respond q s).1 (S.respond q s).2)

/-- Whether every choice along the way is met in a state that `p` admits. -/
def Script.meets (S : Script I σ ε) (p : I.Choice → σ → Bool) : Run I σ ε α → Bool
  | .done _ _ => true
  | .sync c s k => p c s && S.meets p (k (S.choose c s))
  | .await q s k => S.meets p (k (S.respond q s).1 (S.respond q s).2)

theorem Script.meets_any (S : Script I σ ε) (r : Run I σ ε α) :
    S.meets (fun _ _ => true) r = true := by
  induction r with
  | done => rfl
  | sync c s k ih => exact ih _
  | await q s k ih => exact ih _ _

/-- The host may answer as the script does, at least in the states that `p` admits. -/
structure Script.Follows (S : Script I σ ε) (H : Host I σ ε) (p : I.Choice → σ → Bool) : Prop where
  choose : ∀ c s, p c s = true → H.choose c s (S.choose c s)
  respond : ∀ q s, H.respond q s (S.respond q s).1 (S.respond q s).2

theorem play_ends {H : Host I σ ε} {S : Script I σ ε} {p : I.Choice → σ → Bool}
    (h : S.Follows H p) {r : Run I σ ε α} (hm : S.meets p r = true) :
    Ends H r (S.play r).1 (S.play r).2 := by
  induction r with
  | done r s => exact .done r s
  | sync c s k ih =>
    simp only [Script.meets, Bool.and_eq_true] at hm
    exact .sync (h.choose c s hm.1) (ih _ hm.2)
  | await q s k ih => exact .await (h.respond q s) (ih _ _ hm)

/-- On to the next awaited call, or to the end. -/
def Script.settle (S : Script I σ ε) : Run I σ ε α → Run I σ ε α
  | .done r s => .done r s
  | .sync c s k => S.settle (k (S.choose c s))
  | .await q s k => .await q s k

def Script.answer (S : Script I σ ε) : Run I σ ε α → Run I σ ε α
  | .await q s k => S.settle (k (S.respond q s).1 (S.respond q s).2)
  | r => r

/-- Past `n` awaited calls. -/
def Script.awaits (S : Script I σ ε) (r : Run I σ ε α) : Nat → Run I σ ε α
  | 0 => S.settle r
  | n + 1 => S.answer (S.awaits r n)

theorem Script.meets_settle {S : Script I σ ε} {p : I.Choice → σ → Bool} {r : Run I σ ε α}
    (hm : S.meets p r = true) : S.meets p (S.settle r) = true := by
  induction r with
  | done => exact hm
  | sync c s k ih =>
    simp only [Script.meets, Bool.and_eq_true] at hm
    exact ih _ hm.2
  | await => exact hm

theorem Script.meets_awaits {S : Script I σ ε} {p : I.Choice → σ → Bool} {r : Run I σ ε α}
    (hm : S.meets p r = true) (n : Nat) : S.meets p (S.awaits r n) = true := by
  induction n with
  | zero => exact S.meets_settle hm
  | succ n ih =>
    rw [Script.awaits]
    cases hr : S.awaits r n with
    | done => rfl
    | sync => rw [hr] at ih; exact ih
    | await => rw [hr] at ih; exact S.meets_settle ih

theorem Script.settle_settled (S : Script I σ ε) (r : Run I σ ε α) : (S.settle r).Settled := by
  induction r with
  | done => trivial
  | sync c s k ih => exact ih _
  | await => trivial

end AsyncContract
