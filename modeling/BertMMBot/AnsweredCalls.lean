import BertMMBot.AsyncWiring

/-! # What a program makes of its answers

A program is followed together with an account of what its calls have been answered so far.
The account is no part of the program: it is what a bystander would write down. At each call
of the program the account so far decides whether the call is in order. -/
namespace AnsweredCalls

open AsyncProgram AsyncContract AsyncWiring

variable {I : Interface} {σ ε α β γ κ : Type}

structure Account (I : Interface) (ε γ : Type) where
  book : (q : I.Query) → Except ε (I.Reply q) → γ → γ
  inOrder : γ → I.Query → Prop

/-- Every call of the run is in order, whatever the answers and whatever the others do to the
state in the meantime. A run that ends, ends as `post` says. -/
def Accounted (A : Account I ε γ) (g : γ) : Run I σ ε α → (Except ε α → γ → Prop) → Prop
  | .done x _, post => post x g
  | .sync _ _ k, post => ∀ o, Accounted A g (k o) post
  | .await q _ k, post => A.inOrder g q ∧ ∀ a s, Accounted A (A.book q a g) (k a s) post

/-- From an account that meets `P`, the program returns with one that meets `B`. -/
def Follows (A : Account I ε γ) (P : γ → Prop) (m : Async I σ ε α) (B : α → γ → Prop) : Prop :=
  ∀ s g, P g → Accounted A g (m s) fun x g' => ∀ a, x = .ok a → B a g'

variable {A : Account I ε γ} {g : γ} {P : γ → Prop} {B : α → γ → Prop} {C : β → γ → Prop}

theorem Accounted.mono {r : Run I σ ε α} {post post' : Except ε α → γ → Prop}
    (hr : Accounted A g r post) (h : ∀ x g', post x g' → post' x g') : Accounted A g r post' := by
  induction r generalizing g with
  | done x s => exact h x g hr
  | sync c s k ih => exact fun o => ih o (hr o)
  | await q s k ih =>
    constructor
    · exact hr.1
    · exact fun a s' => ih a s' (hr.2 a s')

theorem accounted_bind {r : Run I σ ε α} {f : α → σ → Run I σ ε β}
    {post : Except ε α → γ → Prop} {post' : Except ε β → γ → Prop} (hr : Accounted A g r post)
    (hok : ∀ a s g', post (.ok a) g' → Accounted A g' (f a s) post')
    (herror : ∀ e g', post (.error e) g' → post' (.error e) g') :
    Accounted A g (r.bind f) post' := by
  induction r generalizing g with
  | done x s =>
    cases x with
    | ok a => exact hok a s g hr
    | error e => exact herror e g hr
  | sync c s k ih => exact fun o => ih o (hr o)
  | await q s k ih =>
    constructor
    · exact hr.1
    · exact fun a s' => ih a s' (hr.2 a s')

theorem accounted_handle {r : Run I σ ε α} {f : ε → σ → Run I σ ε α}
    {post post' : Except ε α → γ → Prop} (hr : Accounted A g r post)
    (hok : ∀ a g', post (.ok a) g' → post' (.ok a) g')
    (herror : ∀ e s g', post (.error e) g' → Accounted A g' (f e s) post') :
    Accounted A g (r.handle f) post' := by
  induction r generalizing g with
  | done x s =>
    cases x with
    | ok a => exact hok a g hr
    | error e => exact herror e s g hr
  | sync c s k ih => exact fun o => ih o (hr o)
  | await q s k ih =>
    constructor
    · exact hr.1
    · exact fun a s' => ih a s' (hr.2 a s')

theorem follows_pure {a : α} (h : ∀ g, P g → B a g) :
    Follows A P (pure a : Async I σ ε α) B := by
  intro s g hg a' heq
  cases heq
  exact h g hg

theorem follows_bind {m : Async I σ ε α} {k : α → Async I σ ε β} (hm : Follows A P m B)
    (hk : ∀ a, Follows A (B a) (k a) C) : Follows A P (m >>= k) C := by
  intro s g hg
  apply accounted_bind (hm s g hg)
  · exact fun a s' g' hb => hk a s' g' (hb a rfl)
  · intro e g' _ a heq
    cases heq

theorem follows_tryCatch {m : Async I σ ε α} {k : ε → Async I σ ε α} (hm : Follows A P m B)
    (hk : ∀ e, Follows A (fun _ => True) (k e) B) : Follows A P (tryCatch m k) B := by
  intro s g hg
  apply accounted_handle (hm s g hg)
  · exact fun a g' hb => hb
  · exact fun e s' g' _ => hk e s' g' trivial

theorem follows_ite {b : Prop} [Decidable b] {m n : Async I σ ε α} (hm : b → Follows A P m B)
    (hn : ¬b → Follows A P n B) : Follows A P (if b then m else n) B := by
  by_cases h : b
  · simpa only [if_pos h] using hm h
  · simpa only [if_neg h] using hn h

theorem follows_call {q : I.Query} {B : I.Reply q → γ → Prop} (hq : ∀ g, P g → A.inOrder g q)
    (h : ∀ g a, P g → B a (A.book q (.ok a) g)) :
    Follows A P (Async.call q : Async I σ ε (I.Reply q)) B := by
  intro s g hg
  constructor
  · exact hq g hg
  · intro x s' a heq
    subst heq
    exact h g a hg

theorem follows_within {D : Bounds I σ κ} {w : Prop} {m : Async I σ ε α} (hm : Within D w m)
    (h : ∀ g q, D.call q → A.inOrder g q) : Follows A P m fun _ _ => True := by
  have hrun : ∀ (r : Run I σ ε α) g x, Bounded D w x r → Accounted A g r fun _ _ => True := by
    intro r
    induction r with
    | done => exact fun g x _ => trivial
    | sync c s k ih => exact fun g x hr o => ih o g x (hr.2.2 o)
    | await q s k ih =>
      intro g x hr
      constructor
      · exact h g q hr.2.1
      · exact fun a s' => ih a s' _ _ (hr.2.2.2 a s')
  intro s g _
  apply (hrun (m s) g _ (hm s)).mono
  exact fun _ _ _ _ _ => trivial

def settled (B : α → γ → Prop) (E : γ → Prop) : Except ε α → γ → Prop
  | .ok a, g => B a g
  | .error _, g => E g

/-- From an account that meets `P`, the program returns with one that meets `B` and throws with
one that meets `E`. -/
def Settles (A : Account I ε γ) (P : γ → Prop) (m : Async I σ ε α) (B : α → γ → Prop)
    (E : γ → Prop) : Prop :=
  ∀ s g, P g → Accounted A g (m s) (settled B E)

variable {E F : γ → Prop}

theorem Settles.mono {P' : γ → Prop} {B' : α → γ → Prop} {m : Async I σ ε α}
    (hm : Settles A P m B E) (hP : ∀ g, P' g → P g) (hB : ∀ a g, B a g → B' a g)
    (hE : ∀ g, E g → F g) : Settles A P' m B' F := by
  intro s g hg
  apply (hm s g (hP g hg)).mono
  intro x g' hx
  cases x with
  | ok a => exact hB a g' hx
  | error e => exact hE g' hx

theorem settles_pure {a : α} (h : ∀ g, P g → B a g) :
    Settles A P (pure a : Async I σ ε α) B E := fun _ g hg => h g hg

theorem settles_throw {e : ε} (h : ∀ g, P g → E g) :
    Settles A P (throw e : Async I σ ε α) B E := fun _ g hg => h g hg

theorem settles_bind {m : Async I σ ε α} {k : α → Async I σ ε β} (hm : Settles A P m B E)
    (hk : ∀ a, Settles A (B a) (k a) C E) : Settles A P (m >>= k) C E := by
  intro s g hg
  apply accounted_bind (hm s g hg)
  · exact fun a s' g' hb => hk a s' g' hb
  · exact fun e g' he => he

theorem settles_tryCatch {m : Async I σ ε α} {k : ε → Async I σ ε α} (hm : Settles A P m B F)
    (hk : ∀ e, Settles A F (k e) B E) : Settles A P (tryCatch m k) B E := by
  intro s g hg
  apply accounted_handle (hm s g hg)
  · exact fun a g' hb => hb
  · exact fun e s' g' he => hk e s' g' he

theorem settles_ite {b : Prop} [Decidable b] {m n : Async I σ ε α}
    (hm : b → Settles A P m B E) (hn : ¬b → Settles A P n B E) :
    Settles A P (if b then m else n) B E := by
  by_cases h : b
  · simpa only [if_pos h] using hm h
  · simpa only [if_neg h] using hn h

theorem settles_choose {c : I.Choice} {B : I.Outcome c → γ → Prop} (h : ∀ g o, P g → B o g) :
    Settles A P (Async.choose c : Async I σ ε (I.Outcome c)) B E :=
  fun _ g hg o => h g o hg

theorem settles_call {q : I.Query} {B : I.Reply q → γ → Prop} (hq : ∀ g, P g → A.inOrder g q)
    (hok : ∀ g a, P g → B a (A.book q (.ok a) g))
    (herror : ∀ g e, P g → E (A.book q (.error e) g)) :
    Settles A P (Async.call q : Async I σ ε (I.Reply q)) B E := by
  intro s g hg
  constructor
  · exact hq g hg
  · intro x s'
    cases x with
    | ok a => exact hok g a hg
    | error e => exact herror g e hg

end AnsweredCalls
