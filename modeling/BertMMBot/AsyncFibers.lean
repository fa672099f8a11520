import BertMMBot.AsyncContract
import Mathlib.Logic.Relation

/-! # Cooperative fibers over one state

Each fiber runs one job at a time. Control changes hands only at awaited calls, and the
host may stop at any observable point, which drops every fiber and restarts the state.
A discipline is a rely/guarantee argument: one proof per job gives every interleaving. -/
namespace AsyncFibers

open AsyncProgram AsyncContract

variable {ι σ ε : Type} {I : Interface}

structure System (ι : Type) (I : Interface) (σ ε : Type) where
  job : ι → Async I σ ε Unit → Prop
  host : Host I σ ε
  restart : σ → σ

structure Config (ι : Type) (I : Interface) (σ ε : Type) where
  state : σ
  fibers : ι → Option (Run I σ ε Unit)

def idle (s : σ) : Config ι I σ ε := ⟨s, fun _ => none⟩

/-- A stretch of one program between two observable points. -/
inductive Segment (H : Host I σ ε) : Run I σ ε Unit → Run I σ ε Unit → Prop where
  | refl (r) : Segment H r r
  | sync {c s k o r} : H.choose c s o → Segment H (k o) r → Segment H (.sync c s k) r

inductive Activates (S : System ι I σ ε) (c : Config ι I σ ε) (i : ι) :
    Run I σ ε Unit → Prop where
  | start {m} : c.fibers i = none → S.job i m → Activates S c i (m c.state)
  | resume {q s k a s'} : c.fibers i = some (.await q s k) →
      S.host.respond q c.state a s' → Activates S c i (k a s')

inductive Step [DecidableEq ι] (S : System ι I σ ε) : Config ι I σ ε → Config ι I σ ε → Prop where
  | run {c i r r'} : Activates S c i r → Segment S.host r r' → r'.Settled →
      Step S c ⟨r'.state, Function.update c.fibers i r'.parked⟩
  | stop {c i r r'} : Activates S c i r → Segment S.host r r' →
      Step S c (idle (S.restart r'.state))
  | stopIdle {c} : Step S c (idle (S.restart c.state))

def Execution [DecidableEq ι] (S : System ι I σ ε) := Relation.ReflTransGen (Step S)

/-- What can be seen, by a stop or by another fiber, when one fiber goes on from `c`. -/
def Observes (S : System ι I σ ε) (c : Config ι I σ ε) (s : σ) : Prop :=
  ∃ i r r', Activates S c i r ∧ Segment S.host r r' ∧ r'.state = s

/-- Fiber `i` guarantees `guar i` on each of its segments and relies on `rely i` for what
happens between two of them. -/
structure Discipline (S : System ι I σ ε) where
  Inv : σ → Prop
  guar : ι → σ → σ → Prop
  rely : ι → σ → σ → Prop
  rely_refl : ∀ i s, rely i s s
  rely_trans : ∀ i s t u, rely i s t → rely i t u → rely i s u
  guar_rely : ∀ i j s t, i ≠ j → Inv s → guar i s t → rely j s t
  respond_inv : ∀ q s a t, Inv s → S.host.respond q s a t → Inv t
  respond_rely : ∀ i q s a t, Inv s → S.host.respond q s a t → rely i s t
  restart_inv : ∀ s, Inv s → Inv (S.restart s)

variable {S : System ι I σ ε}

namespace Discipline

variable (D : Discipline S)

def contract (i : ι) : Contract I σ ε where
  choose := S.host.choose
  stop t s := D.Inv s ∧ D.guar i t s
  suspend _ t s := D.Inv s ∧ D.guar i t s
  resume q s a s' := D.Inv s' ∧ D.rely i s s' ∧ ∃ s₁, S.host.respond q s₁ a s'

/-- What a job owes at its end, whatever its result. -/
def owed (i : ι) (t : σ) (_ : Except ε Unit) (s : σ) : Prop := D.Inv s ∧ D.guar i t s

def JobsSafe : Prop :=
  ∀ i m, S.job i m → ∀ s, D.Inv s → Safe (D.contract i) (m s) s (D.owed i)

structure Holds (c : Config ι I σ ε) : Prop where
  inv : D.Inv c.state
  parked : ∀ i r, c.fibers i = some r → ∃ q s k, r = .await q s k ∧ D.rely i s c.state ∧
    ∀ a s', (D.contract i).resume q s a s' → Safe (D.contract i) (k a s') s' (D.owed i)

end Discipline

variable {D : Discipline S}

theorem safe_segment {Φ : Contract I σ ε} {H : Host I σ ε} (hc : Φ.choose = H.choose)
    {r r' : Run I σ ε Unit} {t : σ} {post} (h : Safe Φ r t post) (hs : Segment H r r') :
    Safe Φ r' t post := by
  induction hs with
  | refl => exact h
  | sync ho _ ih => exact ih (h.2 _ (by rw [hc]; exact ho))

theorem safe_observed {i : ι} {r : Run I σ ε Unit} {t : σ}
    (h : Safe (D.contract i) r t (D.owed i)) : D.Inv r.state ∧ D.guar i t r.state := by
  cases r with
  | done x s => exact h
  | sync c s k => exact h.1
  | await q s k => exact h.1

/-- The state a fiber starts a segment from, and the safety of that segment. -/
theorem activates_safe (hj : D.JobsSafe) {c : Config ι I σ ε} (hc : D.Holds c) {i : ι}
    {r : Run I σ ε Unit} (ha : Activates S c i r) :
    ∃ t, D.Inv t ∧ (t = c.state ∨ ∃ q a, S.host.respond q c.state a t) ∧
      Safe (D.contract i) r t (D.owed i) := by
  cases ha with
  | start hi hm => exact ⟨c.state, hc.inv, .inl rfl, hj i _ hm _ hc.inv⟩
  | @resume q s k a s' hi hr =>
    obtain ⟨q', s₀, k', he, hrely, hk⟩ := hc.parked i _ hi
    cases he
    have hinv := D.respond_inv q c.state a s' hc.inv hr
    have hback := D.respond_rely i q c.state a s' hc.inv hr
    exact ⟨s', hinv, .inr ⟨q, a, hr⟩,
      hk a s' ⟨hinv, D.rely_trans i _ _ _ hrely hback, c.state, hr⟩⟩

/-- Between gaining control and any observable point a fiber keeps its guarantee. -/
theorem observes_guar (hj : D.JobsSafe) {c : Config ι I σ ε} (hc : D.Holds c) {s : σ}
    (ho : Observes S c s) :
    ∃ i t, (t = c.state ∨ ∃ q a, S.host.respond q c.state a t) ∧ D.guar i t s := by
  obtain ⟨i, r, r', ha, hs, rfl⟩ := ho
  obtain ⟨t, _, ht, hsafe⟩ := activates_safe hj hc ha
  exact ⟨i, t, ht, (safe_observed (safe_segment rfl hsafe hs)).2⟩

theorem origin_rely {c : Config ι I σ ε} (hc : D.Holds c) {t : σ}
    (ht : t = c.state ∨ ∃ q a, S.host.respond q c.state a t) (j : ι) : D.rely j c.state t := by
  rcases ht with rfl | ⟨q, a, hr⟩
  · exact D.rely_refl j _
  · exact D.respond_rely j q _ a t hc.inv hr

theorem idle_holds {s : σ} (h : D.Inv s) : D.Holds (idle s) where
  inv := h
  parked := by intro i r hr; cases hr

variable [DecidableEq ι]

theorem step_preserves_holds (hj : D.JobsSafe) {c c' : Config ι I σ ε} (hc : D.Holds c)
    (st : Step S c c') : D.Holds c' := by
  cases st with
  | @run i r r' ha hs hset =>
    obtain ⟨t, htinv, ht, hsafe⟩ := activates_safe hj hc ha
    have hr' := safe_segment rfl hsafe hs
    obtain ⟨hinv, hguar⟩ := safe_observed hr'
    refine ⟨hinv, ?_⟩
    intro j x hx
    by_cases hji : j = i
    · subst j
      simp only [Function.update_self] at hx
      cases r' with
      | done x s => cases hx
      | sync c s k => cases hset
      | await q s k =>
        cases hx
        exact ⟨q, s, k, rfl, D.rely_refl i s, hr'.2⟩
    · simp only [Function.update_of_ne hji] at hx
      obtain ⟨q, s, k, he, hrely, hk⟩ := hc.parked j x hx
      have hmid := origin_rely hc ht j
      have hend := D.guar_rely i j t r'.state (Ne.symm hji) htinv hguar
      exact ⟨q, s, k, he, D.rely_trans j _ _ _ hrely (D.rely_trans j _ _ _ hmid hend), hk⟩
  | stop ha hs =>
    obtain ⟨t, _, _, hsafe⟩ := activates_safe hj hc ha
    exact idle_holds (D.restart_inv _ (safe_observed (safe_segment rfl hsafe hs)).1)
  | stopIdle => exact idle_holds (D.restart_inv _ hc.inv)

theorem execution_preserves_holds (hj : D.JobsSafe) {c c' : Config ι I σ ε} (hc : D.Holds c)
    (ex : Execution S c c') : D.Holds c' := by
  induction ex with
  | refl => exact hc
  | tail _ st ih => exact step_preserves_holds hj ih st

/-- A preorder that contains every guarantee, every answer and every restart relates the
two ends of any execution. -/
theorem step_evolves (hj : D.JobsSafe) {E : σ → σ → Prop} (refl : ∀ s, E s s)
    (trans : ∀ s t u, E s t → E t u → E s u)
    (guar : ∀ i s t, D.Inv s → D.guar i s t → E s t)
    (respond : ∀ q s a t, D.Inv s → S.host.respond q s a t → E s t)
    (restart : ∀ s, D.Inv s → E s (S.restart s))
    {c c' : Config ι I σ ε} (hc : D.Holds c) (st : Step S c c') : E c.state c'.state := by
  have origin : ∀ t, (t = c.state ∨ ∃ q a, S.host.respond q c.state a t) → E c.state t := by
    rintro t (rfl | ⟨q, a, hr⟩)
    · exact refl _
    · exact respond q _ a t hc.inv hr
  cases st with
  | run ha hs =>
    obtain ⟨t, hti, ht, hsafe⟩ := activates_safe hj hc ha
    exact trans _ _ _ (origin t ht)
      (guar _ _ _ hti (safe_observed (safe_segment rfl hsafe hs)).2)
  | stop ha hs =>
    obtain ⟨t, hti, ht, hsafe⟩ := activates_safe hj hc ha
    obtain ⟨hinv, hguar⟩ := safe_observed (safe_segment rfl hsafe hs)
    exact trans _ _ _ (trans _ _ _ (origin t ht) (guar _ _ _ hti hguar)) (restart _ hinv)
  | stopIdle => exact restart _ hc.inv

theorem execution_evolves (hj : D.JobsSafe) {E : σ → σ → Prop} (refl : ∀ s, E s s)
    (trans : ∀ s t u, E s t → E t u → E s u)
    (guar : ∀ i s t, D.Inv s → D.guar i s t → E s t)
    (respond : ∀ q s a t, D.Inv s → S.host.respond q s a t → E s t)
    (restart : ∀ s, D.Inv s → E s (S.restart s))
    {c c' : Config ι I σ ε} (hc : D.Holds c) (ex : Execution S c c') :
    E c.state c'.state := by
  induction ex with
  | refl => exact refl _
  | tail ex st ih =>
    exact trans _ _ _ ih (step_evolves hj refl trans guar respond restart
      (execution_preserves_holds hj hc ex) st)

omit [DecidableEq ι] in
theorem Segment.trans {H : Host I σ ε} {r r' r'' : Run I σ ε Unit}
    (h : Segment H r r') (k : Segment H r' r'') : Segment H r r'' := by
  induction h with
  | refl => exact k
  | sync ho _ ih => exact .sync ho (ih k)

theorem activated_reaches {c : Config ι I σ ε} {i : ι} {r r₀ : Run I σ ε Unit}
    {x : Except ε Unit} {s' : σ} (he : Ends S.host r x s') (ha : Activates S c i r₀)
    (hs : Segment S.host r₀ r) : Execution S c ⟨s', Function.update c.fibers i none⟩ := by
  induction he generalizing c r₀ with
  | done r s => exact .single (.run ha hs trivial)
  | sync ho _ ih => exact ih ha (hs.trans (.sync ho (.refl _)))
  | @await q s k a s₁ r s' hr _ ih =>
    let c₁ : Config ι I σ ε := ⟨s, Function.update c.fibers i (some (.await q s k))⟩
    have hpark : Step S c c₁ := .run ha hs trivial
    have hpend : c₁.fibers i = some (.await q s k) := Function.update_self ..
    have hrest := ih (.resume hpend hr) (.refl _)
    simp only [c₁, Function.update_idem] at hrest
    exact .head hpark hrest

/-- A job left alone runs to its end as a sequence of steps. -/
theorem job_reaches {i : ι} {m : Async I σ ε Unit} (hm : S.job i m) {s s' : σ}
    {x : Except ε Unit} (he : Ends S.host (m s) x s') : Execution S (idle s) (idle s') := by
  have h := activated_reaches he (.start (c := idle s) rfl hm) (.refl _)
  have hidle : Function.update (idle s : Config ι I σ ε).fibers i none = fun _ => none :=
    Function.update_eq_self i _
  rwa [hidle] at h

/-- One job and the answers it gets. -/
structure Episode (I : Interface) (σ ε : Type) where
  job : Async I σ ε Unit
  script : Script I σ ε

def Episode.play (e : Episode I σ ε) (s : σ) : σ := (e.script.play (e.job s)).2

def playAll (es : List (Episode I σ ε)) (s : σ) : σ := es.foldl (fun s e => e.play s) s

/-- The system has the job, and its host may answer like this in the states `p` admits. -/
structure Episode.Allowed (S : System ι I σ ε) (p : I.Choice → σ → Bool) (e : Episode I σ ε) :
    Prop where
  job : ∃ i, S.job i e.job
  follows : e.script.Follows S.host p

def Episode.meets (p : I.Choice → σ → Bool) (e : Episode I σ ε) (s : σ) : Bool :=
  e.script.meets p (e.job s)

def meetsAll (p : I.Choice → σ → Bool) : List (Episode I σ ε) → σ → Bool
  | [], _ => true
  | e :: es, s => e.meets p s && meetsAll p es (e.play s)

theorem meetsAll_any (es : List (Episode I σ ε)) (s : σ) : meetsAll (fun _ _ => true) es s = true := by
  induction es generalizing s with
  | nil => rfl
  | cons e es ih =>
    simp only [meetsAll, Bool.and_eq_true]
    exact ⟨e.script.meets_any _, ih _⟩

variable {p : I.Choice → σ → Bool} {e : Episode I σ ε}

omit [DecidableEq ι] in
theorem settle_segment (h : e.Allowed S p) {r : Run I σ ε Unit} (hm : e.script.meets p r = true) :
    Segment S.host r (e.script.settle r) := by
  induction r with
  | done => exact .refl _
  | sync c s k ih =>
    simp only [Script.meets, Bool.and_eq_true] at hm
    exact .sync (h.follows.choose c s hm.1) (ih _ hm.2)
  | await => exact .refl _

theorem awaits_settled (e : Episode I σ ε) (s : σ) (n : Nat) :
    (e.script.awaits (e.job s) n).Settled := by
  induction n with
  | zero => exact e.script.settle_settled _
  | succ n ih =>
    rw [Script.awaits]
    cases hr : e.script.awaits (e.job s) n with
    | done => trivial
    | sync => rw [hr] at ih; exact ih.elim
    | await => exact e.script.settle_settled _

theorem waiting_activates (h : e.Allowed S p) (i : ι) (fibers : ι → Option (Run I σ ε Unit))
    (q : I.Query) (s : σ) (k : Except ε (I.Reply q) → σ → Run I σ ε Unit) :
    Activates S ⟨s, Function.update fibers i (some (.await q s k))⟩ i
      (k (e.script.respond q s).1 (e.script.respond q s).2) :=
  .resume (Function.update_self (f := fibers) ..) (h.follows.respond q s)

/-- A job left alone can be found waiting at each of its awaited calls. -/
theorem awaits_reaches (h : e.Allowed S p) {i : ι} (hi : S.job i e.job) {s : σ}
    (hm : e.meets p s = true) (n : Nat) :
    Execution S (idle s) ⟨(e.script.awaits (e.job s) n).state,
      Function.update (fun _ => none) i (e.script.awaits (e.job s) n).parked⟩ := by
  induction n with
  | zero => exact .single (.run (.start rfl hi) (settle_segment h hm) (awaits_settled e s 0))
  | succ n ih =>
    have hset := awaits_settled e s (n + 1)
    have hmeets := Script.meets_awaits hm n
    rw [Script.awaits] at hset ⊢
    cases hr : e.script.awaits (e.job s) n with
    | done => rw [hr] at ih; exact ih
    | sync => rw [hr] at ih; exact ih
    | await q s₁ k =>
      rw [hr] at ih hset hmeets
      refine ih.tail ?_
      have hstep := Step.run (waiting_activates h i (fun _ => none) q s₁ k)
        (settle_segment h hmeets) hset
      rwa [Function.update_idem] at hstep

/-- What the next stretch of a waiting job leads to can be observed. -/
theorem awaits_observes (h : e.Allowed S p) {s : σ} (hm : e.meets p s = true) (n : Nat)
    (hp : (e.script.awaits (e.job s) n).parked.isSome) :
    ∃ c, Execution S (idle s) c ∧ c.state = (e.script.awaits (e.job s) n).state ∧
      Observes S c (e.script.awaits (e.job s) (n + 1)).state := by
  obtain ⟨i, hi⟩ := h.job
  refine ⟨_, awaits_reaches h hi hm n, rfl, i, ?_⟩
  have hmeets := Script.meets_awaits hm n
  rw [Script.awaits]
  cases hr : e.script.awaits (e.job s) n with
  | done => rw [hr] at hp; cases hp
  | sync => rw [hr] at hp; cases hp
  | await q s₁ k =>
    rw [hr] at hmeets
    exact ⟨_, _, waiting_activates h i _ q s₁ k, settle_segment h hmeets, rfl⟩

/-- Jobs played one after the other make an execution. -/
theorem playAll_reaches {es : List (Episode I σ ε)} (h : ∀ e ∈ es, e.Allowed S p) {s : σ}
    (hm : meetsAll p es s = true) : Execution S (idle s) (idle (playAll es s)) := by
  induction es generalizing s with
  | nil => exact .refl
  | cons e es ih =>
    simp only [meetsAll, Bool.and_eq_true] at hm
    obtain ⟨⟨i, hi⟩, hf⟩ := h e (List.mem_cons_self ..)
    have hfirst := job_reaches hi (play_ends hf hm.1)
    exact hfirst.trans (ih (fun x hx => h x (List.mem_cons_of_mem e hx)) hm.2)

end AsyncFibers
