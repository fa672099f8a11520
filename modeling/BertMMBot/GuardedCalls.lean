import BertMMBot.RecordedOutcomes

/-! # Calls and choices that need a reason

A guard says what a fiber must have on record of its own before it makes a call, or a choice. If
every job does only what its guard allows, every call and every choice in the record of an
execution, however the fibers take turns, was allowed when it was made. -/
namespace GuardedCalls

open AsyncProgram AsyncContract AsyncFibers AsyncRecords AsyncWiring RecordedTriples
open RecordedOutcomes

variable {ι J σ ε κ α : Type} {I : Interface}

/-- What a fiber may choose and call after its own part of the record. -/
structure Guard (ι J : Type) (I : Interface) (σ ε : Type) where
  choice : ι → History ι J I σ ε → I.Choice → Prop
  call : ι → History ι J I σ ε → I.Query → Prop

/-- Only calls need a reason. -/
def callGuard (G : ι → History ι J I σ ε → I.Query → Prop) : Guard ι J I σ ε :=
  ⟨fun _ _ _ => True, G⟩

/-- What lines within the bounds leave standing. -/
structure Lasting (B : Bounds I σ κ) (i : ι) (P : History ι J I σ ε → Prop) : Prop where
  choice : ∀ {c s o l}, B.choice c → P l → P (.choice i c s o :: l)
  call : ∀ {q s l}, B.call q → P l → P (.call i q s :: l)
  answer : ∀ {q a s l}, B.call q → P l → P (.answer i q a s :: l)

theorem lasting_true {B : Bounds I σ κ} :
    Lasting B i fun _ : History ι J I σ ε => True :=
  ⟨fun _ _ => trivial, fun _ _ => trivial, fun _ _ => trivial⟩

variable {G : Guard ι J I σ ε} {H : Host I σ ε} {i : ι} {s s' : σ} {h l : History ι J I σ ε}
  {e : Entry ι J I σ ε} {p q : Point ι J I σ ε}

section Guarded

variable [DecidableEq ι]

def Guarded (G : Guard ι J I σ ε) (h : History ι J I σ ε) : Entry ι J I σ ε → Prop
  | .choice i c _ _ => G.choice i (own i h) c
  | .call i q _ => G.call i (own i h) q
  | _ => True

def EachGuarded (G : Guard ι J I σ ε) (h : History ι J I σ ε) : Prop :=
  ∀ newer e older, h = newer ++ e :: older → Guarded G older e

theorem eachGuarded_nil : EachGuarded G ([] : History ι J I σ ε) := by
  intro newer e older hsplit
  simp at hsplit

theorem EachGuarded.cons (hh : EachGuarded G h) (he : Guarded G h e) : EachGuarded G (e :: h) := by
  intro newer e' older hsplit
  cases newer with
  | nil =>
    obtain ⟨rfl, rfl⟩ := List.cons.inj hsplit
    exact he
  | cons x newer =>
    obtain ⟨rfl, rfl⟩ := List.cons.inj hsplit
    exact hh newer e' older rfl

inductive Act (G : Guard ι J I σ ε) : ι → Point ι J I σ ε → Point ι J I σ ε → Prop where
  | tell {i : ι} {s : σ} {h : History ι J I σ ε} (e : Entry ι J I σ ε) : e.fiber = some i →
      Guarded G h e → Act G i (s, h) (s, e :: h)
  | aside {i : ι} {s s' : σ} {h : History ι J I σ ε} : Act G i (s, h) (s', h)

def guardMachine (G : Guard ι J I σ ε) (H : Host I σ ε) : Machine J I σ ε ι H where
  act := Act G
  inv p := EachGuarded G p.2
  act_inv := by
    intro i p q hp ha
    cases ha with
    | tell e _ he => exact hp.cons he
    | aside => exact hp
  respond_inv hp _ := hp

theorem own_disturbed (hd : (guardMachine G H).Disturbs i p q) : own i q.2 = own i p.2 := by
  cases hd with
  | answer => rfl
  | other hj hact =>
    cases hact with
    | tell e he => exact own_other he (Ne.symm hj)
    | aside => rfl

theorem own_rely (h : (guardMachine G H).rely i p q) : own i q.2 = own i p.2 :=
  rely_holds (A := fun q => own i q.2 = own i p.2) (fun hd ha => (own_disturbed hd).trans ha) h rfl

/-- Something about a fiber's own part. -/
abbrev Recalls (i : ι) (P : History ι J I σ ε → Prop) (p : Point ι J I σ ε) : Prop := P (own i p.2)

theorem lasting_admits {B : Bounds I σ κ} {P : History ι J I σ ε → Prop} (hP : Lasting B i P)
    (hchoice : ∀ l c, B.choice c → P l → G.choice i l c)
    (hcall : ∀ l q, B.call q → P l → G.call i l q) :
    Admits (guardMachine G H) i B (Recalls i P) where
  local_ _ _ hp := ⟨.single .aside, hp⟩
  choice hc _ _ hp := by
    refine ⟨.single (.tell _ rfl (hchoice _ _ hc hp)), ?_⟩
    rw [Recalls, own_choice]
    exact hP.choice hc hp
  call hq _ hp := by
    refine ⟨.single (.tell _ rfl (hcall _ _ hq hp)), ?_⟩
    rw [Recalls, own_call]
    exact hP.call hq hp
  answer hq _ hp := by
    refine ⟨.single (.tell _ rfl trivial), ?_⟩
    rw [Recalls, own_answer]
    exact hP.answer hq hp
  rely hd hp := by
    rwa [Recalls, own_disturbed hd]

/-- A program within bounds that does what is allowed keeps what it does not touch. -/
theorem lasting_keeps {B : Bounds I σ κ} {w : Prop} {P : History ι J I σ ε → Prop}
    {m : Async I σ ε α} (hP : Lasting B i P) (hchoice : ∀ l c, B.choice c → P l → G.choice i l c)
    (hcall : ∀ l q, B.call q → P l → G.call i l q) (hm : Within B w m) :
    Keeps (guardMachine G H) i (Recalls i P) m :=
  triple_within (lasting_admits hP hchoice hcall) hm

/-- A fiber of which nothing is asked may do what it wants. -/
theorem unguarded_keeps (hchoice : ∀ l c, G.choice i l c) (hcall : ∀ l q, G.call i l q)
    (m : Async I σ ε α) :
    Keeps (guardMachine G H) i (Recalls i fun _ => True) m := by
  have hany : Within (⟨fun _ => True, fun _ => True, fun _ => ()⟩ : Bounds I σ Unit) True m :=
    within_any (fun _ => trivial) (fun _ => trivial) m
  exact lasting_keeps lasting_true (fun l c _ _ => hchoice l c) (fun l q _ _ => hcall l q) hany

/-- The fiber stands in the state of its latest line. -/
def Faces (i : ι) (p : Point ι J I σ ε) : Prop := ∃ e l, own i p.2 = e :: l ∧ e.state = p.1

/-- A choice, with what its outcome adds to the record. -/
theorem triple_chosen {c : I.Choice} {P : History ι J I σ ε → Prop}
    {Q : I.Outcome c → History ι J I σ ε → Prop} {E : Point ι J I σ ε → Prop}
    (hchoice : ∀ l, P l → G.choice i l c) (h : ∀ l s o, P l → Q o (.choice i c s o :: l)) :
    Triple (guardMachine G H) i (Recalls i P) (Async.choose c : Async I σ ε (I.Outcome c))
      (fun o p => Faces i p ∧ Recalls i (Q o) p) E := by
  apply triple_choose
  intro s l o _ hp _
  refine ⟨.single (.tell _ rfl (hchoice _ hp)), ⟨_, _, own_choice, rfl⟩, ?_⟩
  rw [Recalls, own_choice]
  exact h _ _ _ hp

/-- One call that is allowed, with what its answer adds to the record. -/
theorem triple_allowed {q : I.Query} {P E : History ι J I σ ε → Prop}
    {Q : I.Reply q → History ι J I σ ε → Prop} (hcall : ∀ l, P l → G.call i l q)
    (hok : ∀ l s s' a, P l → Q a (.answer i q (.ok a) s' :: .call i q s :: l))
    (herror : ∀ l s s' e, P l → E (.answer i q (.error e) s' :: .call i q s :: l)) :
    Triple (guardMachine G H) i (Recalls i P) (Async.call q : Async I σ ε (I.Reply q))
      (fun a p => Faces i p ∧ Recalls i (Q a) p) (Recalls i E) := by
  apply triple_call
  · exact fun _ _ _ hp => .single (.tell _ rfl (hcall _ hp))
  · intro s h s' h' a hp hrely _
    have hown : own i h' = .call i q s :: own i h := (own_rely hrely).trans own_call
    refine ⟨.single (.tell _ rfl trivial), ?_⟩
    cases a with
    | ok a =>
      refine ⟨⟨_, _, own_answer, rfl⟩, ?_⟩
      change Q a (own i (.answer i q (.ok a) s' :: h'))
      rw [own_answer, hown]
      exact hok _ _ _ _ hp
    | error e =>
      change E (own i (.answer i q (.error e) s' :: h'))
      rw [own_answer, hown]
      exact herror _ _ _ _ hp

section Executions

variable {jobs : Jobs ι J I σ ε} {restart : σ → σ}

theorem guarded_stop (restart : σ → σ) (s : σ) (h : History ι J I σ ε)
    (hh : (guardMachine G H).inv (s, h)) :
    (guardMachine G H).inv (restart s, .stop s :: h) := EachGuarded.cons hh trivial

/-- Every call and choice on record was allowed, if every job does only what is allowed. -/
theorem execution_guarded {c : Config ι I (Point ι J I σ ε) ε}
    (hjobs : ∀ j s h, Triple (guardMachine G H) (jobs.fiber j)
      (fun p => p = (s, .start (jobs.fiber j) j s :: h)) (jobs.program j) (fun _ _ => True)
      fun _ => True)
    (ex : Execution (jobs.recordedSystem H restart) (idle (s, [])) c) :
    EachGuarded G c.state.2 := by
  have hsafe : ((guardMachine G H).discipline jobs (guarded_stop restart)).JobsSafe := by
    rintro i m ⟨j, rfl, rfl⟩ p hp
    have hstart : ∀ s h, (guardMachine G H).act (jobs.fiber j) (s, h)
        (s, .start (jobs.fiber j) j s :: h) := fun s h => Act.tell _ rfl trivial
    exact triple_job hstart (hjobs j) hp
  have hidle : ((guardMachine G H).discipline jobs (guarded_stop restart)).Inv (s, []) :=
    eachGuarded_nil
  exact (execution_preserves_holds hsafe (idle_holds hidle) ex).inv

end Executions

end Guarded

end GuardedCalls
