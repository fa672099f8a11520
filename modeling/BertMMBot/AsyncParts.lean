import BertMMBot.RecordedTriples

/-! # Programs made of parts

A program that is put together from certain parts has every property that they have and the
combinators keep. Three such properties: what its stretches may do to the state, that it cannot
tell two states apart, and that it leaves an assertion of a machine standing. -/
namespace AsyncParts

open AsyncProgram AsyncContract

variable {I : Interface} {σ ε α β : Type}

def Gives (P : α → Prop) : Run I σ ε α → Prop
  | .done (.ok a) _ => P a
  | .done (.error _) _ => True
  | .sync _ _ k => ∀ o, Gives P (k o)
  | .await _ _ k => ∀ a s', Gives P (k a s')

theorem gives_any (r : Run I σ ε α) : Gives (fun _ => True) r := by
  induction r with
  | done x s => cases x <;> trivial
  | sync c s k ih => exact fun o => ih o
  | await q s k ih => exact fun a s' => ih a s'

def Still : Run I σ ε α → Prop
  | .done .. => True
  | .sync _ _ k => ∀ o, Still (k o)
  | .await .. => False

theorem still_bind {r : Run I σ ε α} {f : α → σ → Run I σ ε β} (hr : Still r)
    (hf : ∀ a s, Still (f a s)) : Still (r.bind f) := by
  induction r with
  | done x s =>
    cases x with
    | ok a => exact hf a s
    | error e => trivial
  | sync c s k ih => exact fun o => ih o (hr o)
  | await q s k ih => exact hr.elim

/-- Put together from parts. Of a value that passes between two of them no more is known than
that the former gives it. -/
inductive Made (part : (α : Type) → Async I σ ε α → Prop) : {α : Type} → Async I σ ε α → Prop where
  | part {α : Type} {m : Async I σ ε α} : part α m → Made part m
  | pure {α : Type} (a : α) : Made part (Pure.pure a : Async I σ ε α)
  | throw {α : Type} (e : ε) : Made part (MonadExcept.throw e : Async I σ ε α)
  | bind {α β : Type} {m : Async I σ ε α} {k : α → Async I σ ε β} {P : α → Prop} :
      Made part m → (∀ s, Gives P (m s)) → (∀ a, P a → Made part (k a)) → Made part (m >>= k)
  | tryCatch {α : Type} {m : Async I σ ε α} {k : ε → Async I σ ε α} :
      Made part m → (∀ e, Made part (k e)) → Made part (tryCatch m k)

variable {part part' : (α : Type) → Async I σ ε α → Prop}

theorem Made.seq {m : Async I σ ε α} {k : α → Async I σ ε β} (hm : Made part m)
    (hk : ∀ a, Made part (k a)) : Made part (m >>= k) :=
  .bind hm (fun s => gives_any (m s)) fun a _ => hk a

theorem made_ite {c : Prop} [Decidable c] {m n : Async I σ ε α} (hm : c → Made part m)
    (hn : ¬c → Made part n) : Made part (if c then m else n) := by
  by_cases hc : c
  · simpa only [if_pos hc] using hm hc
  · simpa only [if_neg hc] using hn hc

/-- From the state in which it began or was last resumed, a run gets to each point at which it
can be observed by `step`. -/
def Along (step : σ → σ → Prop) (s₀ : σ) : Run I σ ε α → Prop
  | .done _ s => step s₀ s
  | .sync _ s k => step s₀ s ∧ ∀ o, Along step s₀ (k o)
  | .await _ s k => step s₀ s ∧ ∀ a s', Along step s' (k a s')

def Treads (step : σ → σ → Prop) (m : Async I σ ε α) : Prop := ∀ s, Along step s (m s)

section Treads

variable {step : σ → σ → Prop} [IsTrans σ step] {s₀ s : σ}

theorem Along.from_earlier {r : Run I σ ε α} (hs : step s₀ s)
    (h : Along step s r) : Along step s₀ r := by
  induction r with
  | done x s' => exact trans_of step hs h
  | sync c s' k ih => exact ⟨trans_of step hs h.1, fun o => ih o (h.2 o)⟩
  | await q s' k ih => exact ⟨trans_of step hs h.1, h.2⟩

theorem along_bind {r : Run I σ ε α} {f : α → σ → Run I σ ε β} {P : α → Prop}
    (hr : Along step s₀ r) (hgives : Gives P r) (hf : ∀ a s, P a → Along step s (f a s)) :
    Along step s₀ (r.bind f) := by
  induction r generalizing s₀ with
  | done x s =>
    cases x with
    | ok a => exact (hf a s hgives).from_earlier hr
    | error e => exact hr
  | sync c s k ih => exact ⟨hr.1, fun o => ih o (hr.2 o) (hgives o)⟩
  | await q s k ih => exact ⟨hr.1, fun a s' => ih a s' (hr.2 a s') (hgives a s')⟩

theorem along_handle {r : Run I σ ε α} {f : ε → σ → Run I σ ε α}
    (hr : Along step s₀ r) (hf : ∀ e s, Along step s (f e s)) : Along step s₀ (r.handle f) := by
  induction r generalizing s₀ with
  | done x s =>
    cases x with
    | ok a => exact hr
    | error e => exact (hf e s).from_earlier hr
  | sync c s k ih => exact ⟨hr.1, fun o => ih o (hr.2 o)⟩
  | await q s k ih => exact ⟨hr.1, fun a s' => ih a s' (hr.2 a s')⟩

omit [IsTrans σ step] in
theorem along_transact {restore : σ → σ → σ} {r : Run I σ ε α}
    (hrestore : ∀ s, step s₀ s → step s₀ (restore s₀ s)) (hstill : Still r)
    (hr : Along step s₀ r) : Along step s₀ (r.transact restore s₀) := by
  induction r with
  | done x s =>
    cases x with
    | ok a => exact hr
    | error e => exact hrestore s hr
  | sync c s k ih => exact ⟨hrestore s hr.1, fun o => ih o (hstill o) (hr.2 o)⟩
  | await q s k ih => exact hstill.elim

theorem made_treads (refl : ∀ s, step s s)
    (hpart : ∀ {α : Type} {m : Async I σ ε α}, part α m → Treads step m) {m : Async I σ ε α}
    (h : Made part m) : Treads step m := by
  induction h with
  | part hm => exact hpart hm
  | pure a => exact fun s => refl s
  | throw e => exact fun s => refl s
  | bind _ hgives _ ihm ihk =>
    exact fun s => along_bind (ihm s) (hgives s) fun a s' ha => ihk a ha s'
  | tryCatch _ _ ihm ihk => exact fun s => along_handle (ihm s) fun e s' => ihk e s'

end Treads

/-- The same choices, the same calls and the same result in both runs, in states that agree. -/
inductive Lockstep (R : σ → σ → Prop) : Run I σ ε α → Run I σ ε α → Prop where
  | done {x s t} : R s t → Lockstep R (.done x s) (.done x t)
  | sync {c s t k k'} : R s t → (∀ o, Lockstep R (k o) (k' o)) →
      Lockstep R (.sync c s k) (.sync c t k')
  | await {q s t k k'} : R s t → (∀ a s' t', R s' t' → Lockstep R (k a s') (k' a t')) →
      Lockstep R (.await q s k) (.await q t k')

def Oblivious (R : σ → σ → Prop) (m : Async I σ ε α) : Prop :=
  ∀ s t, R s t → Lockstep R (m s) (m t)

section Lockstep

variable {R : σ → σ → Prop}

theorem Lockstep.bind {r r' : Run I σ ε α} {f f' : α → σ → Run I σ ε β} {P : α → Prop}
    (h : Lockstep R r r') (hgives : Gives P r)
    (hf : ∀ a s t, P a → R s t → Lockstep R (f a s) (f' a t)) :
    Lockstep R (r.bind f) (r'.bind f') := by
  induction h with
  | @done x s t hst =>
    cases x with
    | ok a => exact hf a s t hgives hst
    | error e => exact .done hst
  | sync hst _ ih => exact .sync hst fun o => ih o (hgives o)
  | await hst _ ih => exact .await hst fun a s' t' hst' => ih a s' t' hst' (hgives a s')

theorem Lockstep.handle {r r' : Run I σ ε α} {f f' : ε → σ → Run I σ ε α} (h : Lockstep R r r')
    (hf : ∀ e s t, R s t → Lockstep R (f e s) (f' e t)) :
    Lockstep R (r.handle f) (r'.handle f') := by
  induction h with
  | @done x s t hst =>
    cases x with
    | ok a => exact .done hst
    | error e => exact hf e s t hst
  | sync hst _ ih => exact .sync hst ih
  | await hst _ ih => exact .await hst ih

theorem Lockstep.transact {restore : σ → σ → σ} {s₀ t₀ : σ} {r r' : Run I σ ε α}
    (hrestore : ∀ s t, R s t → R (restore s₀ s) (restore t₀ t)) (h : Lockstep R r r') :
    Lockstep R (r.transact restore s₀) (r'.transact restore t₀) := by
  induction h with
  | @done x s t hst =>
    cases x with
    | ok a => exact .done hst
    | error e => exact .done (hrestore _ _ hst)
  | sync hst _ ih => exact .sync (hrestore _ _ hst) ih
  | await hst _ ih => exact .await (hrestore _ _ hst) ih

theorem oblivious_read {f : σ → α} (hf : ∀ s t, R s t → f s = f t) :
    Oblivious R (Async.read f : Async I σ ε α) := by
  intro s t hst
  simp only [Async.read, hf s t hst]
  exact .done hst

theorem oblivious_bind {m : Async I σ ε α} {k : α → Async I σ ε β} (hm : Oblivious R m)
    (hk : ∀ a, Oblivious R (k a)) : Oblivious R (m >>= k) :=
  fun s t hst => (hm s t hst).bind (gives_any (m s)) fun a s' t' _ hst' => hk a s' t' hst'

theorem made_oblivious
    (hpart : ∀ {α : Type} {m : Async I σ ε α}, part α m → Oblivious R m) {m : Async I σ ε α}
    (h : Made part m) : Oblivious R m := by
  induction h with
  | part hm => exact hpart hm
  | pure a => exact fun s t hst => .done hst
  | throw e => exact fun s t hst => .done hst
  | bind _ hgives _ ihm ihk =>
    exact fun s t hst => (ihm s t hst).bind (hgives s) fun a s' t' ha hst' => ihk a ha s' t' hst'
  | tryCatch _ _ ihm ihk =>
    exact fun s t hst => (ihm s t hst).handle fun e s' t' hst' => ihk e s' t' hst'

theorem Lockstep.ends {H : Host I σ ε} {r r' : Run I σ ε α} {x : Except ε α} {s' : σ}
    (hchoose : ∀ c s t o, R s t → H.choose c s o → H.choose c t o)
    (hrespond : ∀ q s t a s', R s t → H.respond q s a s' → ∃ t', H.respond q t a t' ∧ R s' t')
    (h : Lockstep R r r') (he : Ends H r x s') : ∃ t', Ends H r' x t' ∧ R s' t' := by
  induction he generalizing r' with
  | done x s =>
    cases h with
    | @done _ _ t hst => exact ⟨t, .done x t, hst⟩
  | sync ho _ ih =>
    cases h with
    | sync hst hk =>
      obtain ⟨t', hends, hst'⟩ := ih (hk _)
      exact ⟨t', .sync (hchoose _ _ _ _ hst ho) hends, hst'⟩
  | await hr _ ih =>
    cases h with
    | await hst hk =>
      obtain ⟨t₁, hr', hst₁⟩ := hrespond _ _ _ _ _ hst hr
      obtain ⟨t', hends, hst'⟩ := ih (hk _ _ _ hst₁)
      exact ⟨t', .await hr' hends, hst'⟩

end Lockstep

section Machine

open AsyncRecords RecordedTriples

variable {ι J : Type} {H : Host I σ ε} {M : Machine J I σ ε ι H} {i : ι}
  {A E : Point ι J I σ ε → Prop} {B : α → Point ι J I σ ε → Prop} {P : α → Prop}
  {m : Async I σ ε α}

theorem triple_gives (h : Triple M i A m B E) (hgives : ∀ s, Gives P (m s)) :
    Triple M i A m (fun a p => P a ∧ B a p) E := by
  have key : ∀ (r : Run I σ ε α) (h : History ι J I σ ε) (t : Point ι J I σ ε), Gives P r →
      Safe (M.contract i) (recorded i r h) t (fun t x p => M.Kept i t p ∧ ending B E x p) →
      Safe (M.contract i) (recorded i r h) t fun t x p =>
        M.Kept i t p ∧ ending (fun a p => P a ∧ B a p) E x p := by
    intro r
    induction r with
    | done x s =>
      intro h t hg hs
      cases x with
      | ok a => exact ⟨hs.1, hg, hs.2⟩
      | error e => exact hs
    | sync c s k ih => exact fun h t hg hs => ⟨hs.1, fun o ho => ih o _ t (hg o) (hs.2 o ho)⟩
    | await q s k ih =>
      exact fun h t hg hs => ⟨hs.1, fun a p ha => ih a p.1 _ p (hg a p.1) (hs.2 a p ha)⟩
  exact ⟨fun t p ht ha => key (m p.1) p.2 t (hgives p.1) (h.safe t p ht ha)⟩

theorem made_keeps (hpart : ∀ {α : Type} {m : Async I σ ε α}, part α m → Keeps M i A m)
    (h : Made part m) : Keeps M i A m := by
  induction h with
  | part hm => exact hpart hm
  | pure a => exact keeps_pure
  | throw e => exact keeps_throw
  | bind _ hgives _ ihm ihk =>
    exact Triple.bind (triple_gives ihm hgives) fun a => triple_of_fact fun ha => ihk a ha
  | tryCatch _ _ ihm ihk => exact Keeps.tryCatch ihm ihk

end Machine

end AsyncParts
