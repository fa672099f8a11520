import Mathlib.Logic.Function.Basic

/-! # Single-threaded asynchronous programs

A program is a state transformer that may stop at two kinds of points: a synchronous
choice of its host (a statement that may fault, a clock reading), where no other program
runs, and an awaited call, where the state may change before the answer arrives.
Runs are finite trees; an unbounded loop is one job after another. -/
namespace AsyncProgram

/-- The two alphabets through which programs talk to their host. -/
structure Interface where
  Choice : Type
  Outcome : Choice → Type
  Query : Type
  Reply : Query → Type

/-- `sync` carries the state that survives if the host stops there. An awaited call is
answered by a value or a rejection, together with the state found on resumption. -/
inductive Run (I : Interface) (σ ε α : Type) where
  | done (r : Except ε α) (s : σ)
  | sync (c : I.Choice) (s : σ) (k : I.Outcome c → Run I σ ε α)
  | await (q : I.Query) (s : σ) (k : Except ε (I.Reply q) → σ → Run I σ ε α)

variable {I : Interface} {σ ε α β : Type}

namespace Run

def bind : Run I σ ε α → (α → σ → Run I σ ε β) → Run I σ ε β
  | .done (.ok a) s, f => f a s
  | .done (.error e) s, _ => .done (.error e) s
  | .sync c s k, f => .sync c s fun o => (k o).bind f
  | .await q s k, f => .await q s fun a s' => (k a s').bind f

def handle : Run I σ ε α → (ε → σ → Run I σ ε α) → Run I σ ε α
  | .done (.ok a) s, _ => .done (.ok a) s
  | .done (.error e) s, h => h e s
  | .sync c s k, h => .sync c s fun o => (k o).handle h
  | .await q s k, h => .await q s fun a s' => (k a s').handle h

/-- All-or-nothing execution: an exception, or a stop in the middle, restores `s₀`. -/
def transact (restore : σ → σ → σ) (s₀ : σ) : Run I σ ε α → Run I σ ε α
  | .done (.ok a) s => .done (.ok a) s
  | .done (.error e) s => .done (.error e) (restore s₀ s)
  | .sync c s k => .sync c (restore s₀ s) fun o => (k o).transact restore s₀
  | .await q s k => .await q (restore s₀ s) fun a s' => (k a s').transact restore s₀

/-- The state at which a run is standing. -/
def state : Run I σ ε α → σ
  | .done _ s => s
  | .sync _ s _ => s
  | .await _ s _ => s

/-- Synchronous points are passed without letting another program in. -/
def Settled : Run I σ ε α → Prop
  | .sync .. => False
  | _ => True

def parked : Run I σ ε α → Option (Run I σ ε α)
  | .await q s k => some (.await q s k)
  | _ => none

end Run

def Async (I : Interface) (σ ε α : Type) := σ → Run I σ ε α

instance : Monad (Async I σ ε) where
  pure a := fun s => .done (.ok a) s
  bind m f := fun s => (m s).bind f

instance : MonadExceptOf ε (Async I σ ε) where
  throw e := fun s => .done (.error e) s
  tryCatch m h := fun s => (m s).handle h

namespace Async

def read (f : σ → α) : Async I σ ε α := fun s => .done (.ok (f s)) s

def modify (f : σ → σ) : Async I σ ε Unit := fun s => .done (.ok ()) (f s)

def choose (c : I.Choice) : Async I σ ε (I.Outcome c) := fun s => .sync c s fun o => .done (.ok o) s

def call (q : I.Query) : Async I σ ε (I.Reply q) := fun s => .await q s .done

/-- A pure state transition that may raise, leaving the state as it was. -/
def attempt (f : σ → Except ε (α × σ)) : Async I σ ε α := fun s =>
  match f s with
  | .ok (a, s') => .done (.ok a) s'
  | .error e => .done (.error e) s

def transaction (restore : σ → σ → σ) (m : Async I σ ε α) : Async I σ ε α :=
  fun s => (m s).transact restore s

def forEach : List β → (β → Async I σ ε Unit) → Async I σ ε Unit
  | [], _ => pure ()
  | x :: xs, f => do f x; forEach xs f

theorem forEach_map {γ : Type} (g : γ → β) (xs : List γ) (f : β → Async I σ ε Unit) :
    forEach (xs.map g) f = forEach xs fun x => f (g x) := by
  induction xs with
  | nil => rfl
  | cons x xs ih => simp [forEach, ih]

end Async

section Unfolding

variable (s : σ)

@[simp] theorem pure_apply (a : α) : (pure a : Async I σ ε α) s = .done (.ok a) s := rfl
@[simp] theorem bind_apply (m : Async I σ ε α) (f : α → Async I σ ε β) :
    (m >>= f) s = (m s).bind f := rfl
@[simp] theorem throw_apply (e : ε) : (throw e : Async I σ ε α) s = .done (.error e) s := rfl
@[simp] theorem tryCatch_apply (m : Async I σ ε α) (h : ε → Async I σ ε α) :
    (tryCatch m h) s = (m s).handle h := rfl
@[simp] theorem ite_apply {c : Prop} [Decidable c] (m n : Async I σ ε α) :
    (if c then m else n) s = if c then m s else n s := by split <;> rfl

end Unfolding

theorem Run.bind_assoc {γ : Type} (r : Run I σ ε α) (f : α → σ → Run I σ ε β)
    (g : β → σ → Run I σ ε γ) : (r.bind f).bind g = r.bind fun a s => (f a s).bind g := by
  induction r with
  | done x s => cases x <;> rfl
  | sync c s k ih =>
    simp only [Run.bind]
    congr 1
    funext o
    exact ih o
  | await q s k ih =>
    simp only [Run.bind]
    congr 1
    funext a s'
    exact ih a s'

theorem async_bind_assoc {γ : Type} (m : Async I σ ε α) (f : α → Async I σ ε β) (g : β → Async I σ ε γ) :
    m >>= f >>= g = m >>= fun a => f a >>= g := by
  funext s
  exact (m s).bind_assoc _ _

end AsyncProgram
