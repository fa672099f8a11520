import BertMMBot.AsyncContract

/-! # Wiring a program into a larger one

A wiring puts the state of an inner program inside an outer state and answers its calls with
outer programs. What an inner program may do is bounded by the choices it meets, the calls it
makes and a view of its state that it never changes; wiring preserves such bounds. -/
namespace AsyncWiring

open AsyncProgram AsyncContract

variable {I J : Interface} {σ τ ε α β κ : Type}

/-- Goes on with the result of a run, whether it is a value or an exception. -/
def settle : Run J τ ε β → (Except ε β → τ → Run J τ ε α) → Run J τ ε α
  | .done r s, f => f r s
  | .sync c s k, f => .sync c s fun o => settle (k o) f
  | .await q s k, f => .await q s fun a s' => settle (k a s') f

theorem settle_bind {γ : Type} (r : Run J τ ε γ) (f : Except ε γ → τ → Run J τ ε α)
    (g : α → τ → Run J τ ε β) : (settle r f).bind g = settle r fun x s => (f x s).bind g := by
  induction r with
  | done x s => rfl
  | sync c s k ih =>
    simp only [settle, Run.bind]
    congr 1
    funext o
    exact ih o
  | await q s k ih =>
    simp only [settle, Run.bind]
    congr 1
    funext a s'
    exact ih a s'

/-- Where the inner state lies in the outer one, and what stands for its choices and calls. -/
structure Wiring (I J : Interface) (σ τ ε : Type) where
  get : τ → σ
  set : σ → τ → τ
  choice : I.Choice → J.Choice
  outcome : (c : I.Choice) → J.Outcome (choice c) → I.Outcome c
  answer : (q : I.Query) → Async J τ ε (I.Reply q)
  get_set : ∀ s t, get (set s t) = s
  set_get : ∀ t, set (get t) t = t
  set_set : ∀ s s' t, set s (set s' t) = set s t

namespace Wiring

variable (W : Wiring I J σ τ ε)

def run : Run I σ ε α → τ → Run J τ ε α
  | .done r s, t => .done r (W.set s t)
  | .sync c s k, t => .sync (W.choice c) (W.set s t) fun o => run (k (W.outcome c o)) (W.set s t)
  | .await q s k, t => settle (W.answer q (W.set s t)) fun a t' => run (k a (W.get t')) t'

def lift (m : Async I σ ε α) : Async J τ ε α := fun t => W.run (m (W.get t)) t

theorem run_set (r : Run I σ ε α) (s : σ) (t : τ) : W.run r (W.set s t) = W.run r t := by
  cases r <;> simp only [run, W.set_set]

theorem run_bind (r : Run I σ ε α) (f : α → σ → Run I σ ε β) (t : τ) :
    W.run (r.bind f) t = (W.run r t).bind fun a t' => W.run (f a (W.get t')) t' := by
  induction r generalizing t with
  | done x s =>
    cases x with
    | error e => rfl
    | ok a =>
      simp only [Run.bind, run, W.get_set]
      exact (W.run_set (f a s) s t).symm
  | sync c s k ih =>
    simp only [Run.bind, run]
    congr 1
    funext o
    exact ih _ _
  | await q s k ih =>
    simp only [Run.bind, run, settle_bind]
    congr 1
    funext a t'
    exact ih a _ t'

theorem lift_pure (a : α) : W.lift (pure a : Async I σ ε α) = pure a := by
  funext t
  simp only [lift, pure_apply, run, W.set_get]

theorem lift_bind (m : Async I σ ε α) (k : α → Async I σ ε β) :
    W.lift (m >>= k) = W.lift m >>= fun a => W.lift (k a) := by
  funext t
  exact W.run_bind (m (W.get t)) (fun a s => k a s) t

theorem lift_read (f : σ → α) :
    W.lift (Async.read f : Async I σ ε α) = Async.read fun t => f (W.get t) := by
  funext t
  simp only [lift, Async.read, run, W.set_get]

theorem lift_ite {c : Prop} [Decidable c] (m n : Async I σ ε α) :
    W.lift (if c then m else n) = if c then W.lift m else W.lift n := by
  split <;> rfl

end Wiring

/-- What a program may meet, what it may call, and what it leaves as it is. -/
structure Bounds (I : Interface) (σ κ : Type) where
  choice : I.Choice → Prop
  call : I.Query → Prop
  view : σ → κ

/-- The view is `x` wherever the run can be observed, until its next awaited call is
answered. A run that must not wait makes no call at all. -/
def Bounded (B : Bounds I σ κ) (waits : Prop) (x : κ) : Run I σ ε α → Prop
  | .done _ s => B.view s = x
  | .sync c s k => B.choice c ∧ B.view s = x ∧ ∀ o, Bounded B waits x (k o)
  | .await q s k => waits ∧ B.call q ∧ B.view s = x ∧ ∀ a s', Bounded B waits (B.view s') (k a s')

/-- A program that stays within bounds from any state. -/
def Within (B : Bounds I σ κ) (waits : Prop) (m : Async I σ ε α) : Prop :=
  ∀ s, Bounded B waits (B.view s) (m s)

variable {B : Bounds I σ κ} {w : Prop} {x : κ}

theorem bounded_bind {r : Run I σ ε α} {f : α → σ → Run I σ ε β} (hr : Bounded B w x r)
    (hf : ∀ a s, Bounded B w (B.view s) (f a s)) : Bounded B w x (r.bind f) := by
  induction r generalizing x with
  | done y s =>
    cases y with
    | error e => exact hr
    | ok a =>
      rw [← show B.view s = x from hr]
      exact hf a s
  | sync c s k ih => exact ⟨hr.1, hr.2.1, fun o => ih o (hr.2.2 o)⟩
  | await q s k ih => exact ⟨hr.1, hr.2.1, hr.2.2.1, fun a s' => ih a s' (hr.2.2.2 a s')⟩

theorem bounded_handle {r : Run I σ ε α} {f : ε → σ → Run I σ ε α} (hr : Bounded B w x r)
    (hf : ∀ e s, Bounded B w (B.view s) (f e s)) : Bounded B w x (r.handle f) := by
  induction r generalizing x with
  | done y s =>
    cases y with
    | ok a => exact hr
    | error e =>
      rw [← show B.view s = x from hr]
      exact hf e s
  | sync c s k ih => exact ⟨hr.1, hr.2.1, fun o => ih o (hr.2.2 o)⟩
  | await q s k ih => exact ⟨hr.1, hr.2.1, hr.2.2.1, fun a s' => ih a s' (hr.2.2.2 a s')⟩

theorem bounded_settle {r : Run I σ ε α} {f : Except ε α → σ → Run I σ ε β} (hr : Bounded B w x r)
    (hf : ∀ a s, Bounded B w (B.view s) (f a s)) : Bounded B w x (settle r f) := by
  induction r generalizing x with
  | done y s =>
    rw [← show B.view s = x from hr]
    exact hf y s
  | sync c s k ih => exact ⟨hr.1, hr.2.1, fun o => ih o (hr.2.2 o)⟩
  | await q s k ih => exact ⟨hr.1, hr.2.1, hr.2.2.1, fun a s' => ih a s' (hr.2.2.2 a s')⟩

/-- A transaction that does not wait keeps the view if its body does. -/
theorem bounded_transact {restore : σ → σ → σ} {s₀ : σ} {r : Run I σ ε α}
    (hrestore : ∀ s, B.view s = x → B.view (restore s₀ s) = x) (hr : Bounded B False x r) :
    Bounded B w x (r.transact restore s₀) := by
  induction r with
  | done y s =>
    cases y with
    | ok a => exact hr
    | error e => exact hrestore s hr
  | sync c s k ih => exact ⟨hr.1, hrestore s hr.2.1, fun o => ih o (hr.2.2 o)⟩
  | await q s k ih => exact hr.1.elim

section Rules

@[simp] theorem within_pure (a : α) : Within B w (pure a : Async I σ ε α) := fun _ => rfl

@[simp] theorem within_throw (e : ε) : Within B w (throw e : Async I σ ε α) := fun _ => rfl

@[simp] theorem within_read (f : σ → α) : Within B w (Async.read f : Async I σ ε α) := fun _ => rfl

@[simp] theorem within_bind {m : Async I σ ε α} {k : α → Async I σ ε β} (hm : Within B w m)
    (hk : ∀ a, Within B w (k a)) : Within B w (m >>= k) :=
  fun s => bounded_bind (hm s) fun a s' => hk a s'

@[simp] theorem within_tryCatch {m : Async I σ ε α} {k : ε → Async I σ ε α} (hm : Within B w m)
    (hk : ∀ e, Within B w (k e)) : Within B w (tryCatch m k) :=
  fun s => bounded_handle (hm s) fun e s' => hk e s'

@[simp] theorem within_ite {c : Prop} [Decidable c] {m n : Async I σ ε α} (hm : c → Within B w m)
    (hn : ¬c → Within B w n) : Within B w (if c then m else n) := by
  by_cases hc : c
  · simpa only [if_pos hc] using hm hc
  · simpa only [if_neg hc] using hn hc

theorem within_modify {f : σ → σ} (hf : ∀ s, B.view (f s) = B.view s) :
    Within B w (Async.modify f : Async I σ ε Unit) := hf

theorem within_attempt {f : σ → Except ε (α × σ)}
    (hf : ∀ s a s', f s = .ok (a, s') → B.view s' = B.view s) :
    Within B w (Async.attempt f : Async I σ ε α) := by
  intro s
  simp only [Async.attempt]
  rcases hfs : f s with e | ⟨a, s'⟩
  · rfl
  · exact hf s a s' hfs

theorem within_choose {c : I.Choice} (hc : B.choice c) :
    Within B w (Async.choose c : Async I σ ε (I.Outcome c)) := fun _ => ⟨hc, rfl, fun _ => rfl⟩

theorem within_call {q : I.Query} (hw : w) (hq : B.call q) :
    Within B w (Async.call q : Async I σ ε (I.Reply q)) := fun _ => ⟨hw, hq, rfl, fun _ _ => rfl⟩

theorem within_transaction {restore : σ → σ → σ} {m : Async I σ ε α}
    (hrestore : ∀ s₀ s, B.view s = B.view s₀ → B.view (restore s₀ s) = B.view s₀)
    (hm : Within B False m) : Within B w (Async.transaction restore m) :=
  fun s => bounded_transact (hrestore s) (hm s)

@[simp] theorem within_forEach {f : β → Async I σ ε Unit} (hf : ∀ b, Within B w (f b))
    (bs : List β) : Within B w (Async.forEach bs f) := by
  induction bs with
  | nil => exact within_pure ()
  | cons b bs ih => exact within_bind (hf b) fun _ => ih

end Rules

/-- Every program is within the bounds that exclude nothing. -/
theorem within_any {C : Bounds I σ Unit} (hchoice : ∀ c, C.choice c) (hcall : ∀ q, C.call q)
    (m : Async I σ ε α) : Within C True m := by
  have key : ∀ (r : Run I σ ε α) (x : Unit), Bounded C True x r := by
    intro r
    induction r with
    | done y s => exact fun _ => rfl
    | sync c s k ih => exact fun x => ⟨hchoice c, rfl, fun o => ih o x⟩
    | await q s k ih => exact fun _ => ⟨trivial, hcall q, rfl, fun a s' => ih a s' _⟩
  exact fun s => key _ _

/-- Bounds may be widened, with a coarser view. -/
theorem Within.mono {lam : Type} {C : Bounds I σ lam} {m : Async I σ ε α} (hm : Within B w m)
    (hchoice : ∀ c, B.choice c → C.choice c) (hcall : ∀ q, B.call q → C.call q)
    (hview : ∀ s s', B.view s' = B.view s → C.view s' = C.view s) : Within C w m := by
  have key : ∀ (r : Run I σ ε α) (s₀ : σ), Bounded B w (B.view s₀) r →
      Bounded C w (C.view s₀) r := by
    intro r
    induction r with
    | done y s => exact fun s₀ hr => hview s₀ s hr
    | sync c s k ih =>
      exact fun s₀ hr => ⟨hchoice c hr.1, hview s₀ s hr.2.1, fun o => ih o s₀ (hr.2.2 o)⟩
    | await q s k ih =>
      exact fun s₀ hr => ⟨hr.1, hcall q hr.2.1, hview s₀ s hr.2.2.1,
        fun a s' => ih a s' s' (hr.2.2.2 a s')⟩
  exact fun s => key _ s (hm s)

/-- Wiring keeps a program within bounds that its choices and answers respect. -/
theorem within_lift {W : Wiring I J σ τ ε} {lam : Type} {C : Bounds J τ lam}
    (hchoice : ∀ c, B.choice c → C.choice (W.choice c))
    (hanswer : ∀ q, B.call q → Within C True (W.answer q))
    (hview : ∀ s t, B.view s = B.view (W.get t) → C.view (W.set s t) = C.view t)
    {m : Async I σ ε α} (hm : Within B w m) : Within C True (W.lift m) := by
  have key : ∀ (r : Run I σ ε α) (x : κ) (t : τ), Bounded B w x r → x = B.view (W.get t) →
      Bounded C True (C.view t) (W.run r t) := by
    intro r
    induction r with
    | done y s =>
      intro x t hr hx
      exact hview s t (Eq.trans hr hx)
    | sync c s k ih =>
      intro x t hr hx
      have hs := hview s t (hr.2.1.trans hx)
      refine ⟨hchoice c hr.1, hs, fun o => ?_⟩
      rw [← hs]
      refine ih _ x _ (hr.2.2 _) ?_
      rw [W.get_set]
      exact hr.2.1.symm
    | await q s k ih =>
      intro x t hr hx
      have hs := hview s t (hr.2.2.1.trans hx)
      have hans := hanswer q hr.2.1 (W.set s t)
      rw [hs] at hans
      exact bounded_settle hans fun a t' => ih a _ _ t' (hr.2.2.2 a _) rfl
  exact fun t => key _ _ t (hm (W.get t)) rfl

end AsyncWiring
