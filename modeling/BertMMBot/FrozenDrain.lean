import BertMMBot.PauseFlag
import BertMMBot.PlayedJournals
import BertMMBot.GuardedCalls

/-! # Payouts of a frozen vault

A tick looks at the kill switch when it begins, and at the pause flag right after the
rebalancer. A drain that passes both takes up and pays its whole queue; none begins while the
vault is frozen, and none in a tick that found the kill switch. -/
namespace FrozenDrain

open AsyncProgram AsyncContract AsyncFibers AsyncRecords AsyncWiring
open RecordedTriples RecordedOutcomes GuardedCalls VaultTypes VaultProgram DepositorStore
open VaultJournal
open VaultRuntime (BotConfig)
open VaultDiscipline (Environment Quiet)
open LedgerMachine (Fiber)
open MeteoraPosition (Venue)
open PauseFlag (Bystander frozen)
open PlayedRuns (Scene plainVenue plainConfig oneSol)
open PlayedJournals

variable {venue : Venue} {cfg : BotConfig} {H : VaultHost} {w : World}
  {h l newer older : Journal} {p : JournalPoint} {e : Line} {α : Type} {x serving : Prop}
  {killed : Bool}

/-- The tick looked at the kill switch, and found it like this each time. -/
structure Observed (killed : Bool) (l : Journal) : Prop where
  looked : ∃ w, (.choice .main Choice.killSwitch w killed : Line) ∈ l
  only : ∀ w o, (.choice .main Choice.killSwitch w o : Line) ∈ l → o = killed

/-- The tick went on after the rebalancer with nothing that halts its drain. -/
def Open (l₀ : Journal) : Prop :=
  ∃ l w₁ rest, l₀ = l ++ .answer .main Query.rebalanceStage (.ok true) w₁ :: rest ∧
    isVaultPaused w₁.db = false ∧ isDegraded w₁.db = false ∧ Observed false rest

/-- The part of a fiber that is at a tick. -/
def Ticking (l : Journal) : Prop := ∃ w, .start .main .tick w ∈ l

/-- The main loop is at a tick. -/
def AtTick (h : Journal) : Prop := Ticking (own .main h)

/-- The main loop takes up a row of the queue, or makes a transfer for one. -/
inductive Serves : Line → Prop where
  | takesUp (id : ℕ) (w : World) (o : Option Thrown) :
      Serves (.choice .main (Choice.statement (.setWithdrawalProcessing id)) w o)
  | transfers (destination : Address) (sol bert : ℤ) (w : World) :
      Serves (.call .main (Query.executeTransfer destination sol bert) w)

def gateGuard : Guard Fiber Job vaultInterface World Thrown where
  choice i l c := ∀ id, c = Choice.statement (.setWithdrawalProcessing id) → i = .main →
    Ticking l → Open l
  call i l q := ∀ destination sol bert, q = Query.executeTransfer destination sol bert →
    i = .main → Ticking l → Open l

abbrev gateMachine (H : VaultHost) : Machine Job vaultInterface World Thrown Fiber H :=
  guardMachine gateGuard H

def reserved : Choice → Bool
  | .statement (.setWithdrawalProcessing _) => true
  | .killSwitch => true
  | _ => false

/-- Only a program that may serve the queue takes up rows or pays. -/
def serveBounds (serving : Prop) : Bounds vaultInterface World Unit where
  choice c := reserved c = true → serving
  call q := LoopBounds.withheld q = true → serving
  view _ := ()

theorem of_room {m : Vault α} (hm : Within (LoopBounds.loopRoom serving) x m) :
    Within (serveBounds serving) x m := by
  refine hm.mono ?_ (fun _ hq => hq) fun _ _ _ => rfl
  intro c hc hreserved
  cases c with
  | statement st =>
    cases st with
    | setWithdrawalProcessing id => exact hc
    | _ => cases hreserved
  | killSwitch => exact hc
  | _ => cases hreserved

theorem Observed.cons (hl : Observed killed l)
    (he : ∀ w o, e ≠ .choice .main Choice.killSwitch w o) : Observed killed (e :: l) where
  looked := by
    obtain ⟨w, hmem⟩ := hl.looked
    exact ⟨w, List.mem_cons_of_mem _ hmem⟩
  only := by
    intro w o hmem
    rcases List.mem_cons.mp hmem with heq | hin
    · exact absurd heq.symm (he w o)
    · exact hl.only w o hin

theorem observed_lasting : Lasting (serveBounds False) .main (Observed killed) where
  choice hc hl := by
    apply hl.cons
    intro w o heq
    cases heq
    exact hc rfl
  call _ hl := hl.cons fun _ _ heq => by cases heq
  answer _ hl := hl.cons fun _ _ heq => by cases heq

def Unlooked (l : Journal) : Prop := ∀ w o, (.choice .main Choice.killSwitch w o : Line) ∉ l

theorem unlooked_start : Unlooked [.start .main .tick w] := by
  intro w o hmem
  cases List.mem_singleton.mp hmem

theorem Unlooked.look (hl : Unlooked l) :
    Observed killed (.choice .main Choice.killSwitch w killed :: l) where
  looked := ⟨w, List.mem_cons_self ..⟩
  only := by
    intro w' o hmem
    rcases List.mem_cons.mp hmem with heq | hin
    · cases heq
      rfl
    · exact absurd hin (hl w' o)

theorem Open.cons (hl : Open l) : Open (e :: l) := by
  obtain ⟨newer, w₁, rest, rfl, hopen⟩ := hl
  exact ⟨e :: newer, w₁, rest, rfl, hopen⟩

theorem open_lasting : Lasting (serveBounds serving) .main Open where
  choice _ hl := hl.cons
  call _ hl := hl.cons
  answer _ hl := hl.cons

theorem idle_keeps {P : Journal → Prop} (hP : Lasting (serveBounds False) .main P) {m : Vault α}
    (hm : Within (LoopBounds.loopRoom False) x m) :
    Keeps (gateMachine H) .main (Recalls .main P) m := by
  apply lasting_keeps hP _ _ (of_room hm)
  · rintro _ _ hc _ id rfl
    exact (hc rfl).elim
  · rintro _ _ hq _ _ _ _ rfl
    exact (hq rfl).elim

theorem serving_keeps {m : Vault α} (hm : Within (serveBounds True) x m) :
    Keeps (gateMachine H) .main (Recalls .main Open) m :=
  lasting_keeps open_lasting (fun _ _ _ hopen _ _ _ _ => hopen)
    (fun _ _ _ hopen _ _ _ _ _ _ => hopen) hm

def Rebalanced (killed goesOn : Bool) (p : JournalPoint) : Prop :=
  ∃ rest, own .main p.2 = .answer .main Query.rebalanceStage (.ok goesOn) p.1 :: rest ∧
    Observed killed rest

theorem drainUnlessHalted_triple {drain : Vault Unit}
    (hdrain : Within (serveBounds True) True drain) :
    Triple (gateMachine H) .main (Rebalanced killed true)
      (VaultRuntime.drainUnlessHalted drain killed) (fun _ _ => True) fun _ => True := by
  apply Triple.bind (B := fun paused p => isVaultPaused p.1.db = paused ∧ Rebalanced killed true p)
  · exact triple_read fun _ _ ha => ⟨rfl, ha⟩
  · intro paused
    apply Triple.bind (B := fun degraded p => isDegraded p.1.db = degraded ∧
      isVaultPaused p.1.db = paused ∧ Rebalanced killed true p)
    · exact triple_read fun _ _ ha => ⟨rfl, ha⟩
    · intro degraded
      apply triple_ite
      · intro _
        exact triple_pure fun _ _ => trivial
      · intro hrun
        simp only [not_or, Bool.not_eq_true] at hrun
        obtain ⟨rfl, rfl, rfl⟩ := hrun
        have hserves : Keeps (gateMachine H) .main (Recalls .main Open)
            (VaultRuntime.swallow drain) :=
          serving_keeps (within_tryCatch hdrain fun _ => within_pure ())
        refine hserves.mono ?_ (fun _ _ _ => trivial) fun _ _ => trivial
        rintro p ⟨hdegraded, hpaused, rest, hown, hobserved⟩
        exact ⟨[], p.1, rest, hown, hpaused, hdegraded, hobserved⟩

theorem rebalanceStage_triple : Triple (gateMachine H) .main (Recalls .main (Observed killed))
    (Async.call (I := vaultInterface) Query.rebalanceStage : Vault Bool)
    (fun goesOn => Rebalanced killed goesOn) fun _ => True := by
  refine Triple.mono (triple_allowed (I := vaultInterface) (q := Query.rebalanceStage)
    (P := Observed killed) (E := fun _ => True)
    (Q := fun (goesOn : Bool) l => ∃ w rest,
      l = .answer .main Query.rebalanceStage (.ok goesOn) w :: rest ∧ Observed killed rest)
    ?_ ?_ ?_) (fun _ hp => hp) ?_ fun _ _ => trivial
  · intro _ _ _ _ _ heq
    cases heq
  · intro l w w' goesOn hobserved
    exact ⟨w', _, rfl, hobserved.cons fun _ _ heq => by cases heq⟩
  · exact fun _ _ _ _ _ => trivial
  · rintro goesOn p ⟨⟨e, l, hown, hstate⟩, w, rest, hown', hobserved⟩
    obtain ⟨rfl, rfl⟩ := List.cons.inj (hown.symm.trans hown')
    obtain rfl : w = p.1 := hstate
    exact ⟨_, hown', hobserved⟩

theorem tick_triple : Triple (gateMachine H) .main (Recalls .main Unlooked)
    (VaultRuntime.tick venue cfg) (fun _ _ => True) fun _ => True := by
  have hobserved : ∀ {α : Type} {m : Vault α} (killed : Bool),
      Within (LoopBounds.loopRoom False) True m →
      Triple (gateMachine H) .main (Recalls .main (Observed killed)) m
        (fun _ => Recalls .main (Observed killed)) fun _ => True := by
    intro α m killed hm
    exact (idle_keeps observed_lasting hm).mono (fun _ hp => hp) (fun _ _ hp => hp)
      fun _ _ => trivial
  apply Triple.bind (B := fun _ => Recalls .main Unlooked)
  · refine (triple_chosen (I := vaultInterface) (c := Choice.clock) (P := Unlooked)
      (Q := fun _ => Unlooked) ?_ ?_).mono (fun _ hp => hp) (fun _ _ hp => hp.2) fun _ hp => hp
    · intro _ _ _ heq
      cases heq
    · intro l w o hl w' o' hmem
      rcases List.mem_cons.mp hmem with heq | hin
      · cases heq
      · exact hl w' o' hin
  intro tickStart
  apply Triple.bind (B := fun (killed : Bool) => Recalls .main (Observed killed))
  · refine (triple_chosen (I := vaultInterface) (c := Choice.killSwitch) (P := Unlooked)
      (Q := fun (killed : Bool) => Observed killed) ?_ ?_).mono (fun _ hp => hp)
      (fun _ _ hp => hp.2) fun _ hp => hp
    · intro _ _ _ heq
      cases heq
    · exact fun _ _ _ hl => hl.look
  intro killed
  apply Triple.bind (hobserved killed (LoopBounds.within_readOracle _ tickStart))
  intro _
  apply Triple.bind (hobserved killed (LoopBounds.within_runVaultPreRebalance cfg.bertMint))
  intro _
  apply Triple.bind rebalanceStage_triple
  intro (goesOn : Bool)
  cases goesOn with
  | false => exact triple_pure fun _ _ => trivial
  | true =>
    apply Triple.bind (drainUnlessHalted_triple
      (of_room (LoopBounds.within_drain venue cfg.minSolFloorLamports)))
    intro _
    have hactivate : Within (LoopBounds.loopRoom False) True
        (VaultRuntime.swallow VaultRuntime.activateWhitelists) :=
      LoopBounds.within_swallow LoopBounds.within_activateWhitelists
    exact idle_keeps lasting_true hactivate

theorem outOfTick_lasting : Lasting (serveBounds serving) .main fun l => ¬ Ticking l := by
  have hcons : ∀ {e : Line} {l : Journal}, e.isStart = false → ¬ Ticking l → ¬ Ticking (e :: l) := by
    rintro e l hs hl ⟨w, hmem⟩
    rcases List.mem_cons.mp hmem with rfl | hin
    · cases hs
    · exact hl ⟨w, hin⟩
  exact ⟨fun _ => hcons rfl, fun _ => hcons rfl, fun _ => hcons rfl⟩

theorem job_triple (j : Job) (w : World) (h : Journal) :
    Triple (gateMachine H) j.fiber (fun p => p = (w, .start j.fiber j w :: h))
      (j.program venue cfg) (fun _ _ => True) fun _ => True := by
  have haside : ∀ {i : Fiber}, i ≠ .main → ∀ m : Vault Unit, Triple (gateMachine H) i
      (fun p => p = (w, .start i j w :: h)) m (fun _ _ => True) fun _ => True := by
    intro i hi m
    refine (unguarded_keeps ?_ ?_ m).mono (fun _ _ => trivial) (fun _ _ hp => hp) fun _ hp => hp
    · exact fun _ _ _ _ hmain => absurd hmain hi
    · exact fun _ _ _ _ _ _ hmain => absurd hmain hi
  cases j with
  | tick =>
    refine tick_triple.mono ?_ (fun _ _ hp => hp) fun _ hp => hp
    rintro _ rfl
    rw [Recalls, Job.fiber, own_start]
    exact unlooked_start
  | drain =>
    have hserves : Keeps (gateMachine H) .main (Recalls .main fun l => ¬ Ticking l)
        (WithdrawalExecutor.drain (WithdrawalExecutor.hostDeps cfg.minSolFloorLamports)) := by
      refine lasting_keeps outOfTick_lasting ?_ ?_
        (of_room (LoopBounds.within_drainOf (LoopBounds.footed_hostDeps cfg.minSolFloorLamports)))
      · exact fun _ _ _ hout _ _ _ htick => absurd htick hout
      · exact fun _ _ _ hout _ _ _ _ _ htick => absurd htick hout
    refine hserves.mono ?_ (fun _ _ _ => trivial) fun _ _ => trivial
    rintro _ rfl ⟨w, htick⟩
    rw [Job.fiber, own_start] at htick
    cases List.mem_singleton.mp htick
  | message msg => exact haside (fun hmain => by cases hmain) _
  | button msg => exact haside (fun hmain => by cases hmain) _
  | bootstrap b => exact haside (fun hmain => by cases hmain) _

theorem served_open (hj : Journaled venue cfg H p) (hsplit : p.2 = newer ++ e :: older)
    (he : Serves e) (htick : AtTick older) : Open (own .main older) := by
  obtain ⟨chain, c, ex, rfl⟩ := hj
  have hguarded : EachGuarded gateGuard c.state.2 := execution_guarded job_triple ex
  have he' := hguarded newer e older hsplit
  cases he with
  | takesUp id w o => exact he' id rfl rfl htick
  | transfers destination sol bert w => exact he' destination sol bert rfl rfl htick

/-- The drain of the tick was begun right after the rebalancer answered in this state. -/
structure BegunAt (cfg : BotConfig) (h : Journal) (w₁ : World) (before : Journal) : Prop where
  passed : ∃ between, h = between ++ .answer .main Query.rebalanceStage (.ok true) w₁ :: before
  sameTick : ∃ l, own .main h =
    l ++ .answer .main Query.rebalanceStage (.ok true) w₁ :: own .main before
  live : Observed false (own .main before)
  unfrozen : frozen cfg before = false
  unpaused : isVaultPaused w₁.db = false
  healthy : isDegraded w₁.db = false

/-- Every row that a tick takes up, and every payout it makes, belongs to a drain that was begun
while the vault was not frozen, in a tick that did not find the kill switch. -/
theorem served_begun_unfrozen {env : Bystander} (hj : Journaled venue cfg env.host p)
    (hsplit : p.2 = newer ++ e :: older) (he : Serves e) (htick : AtTick older) :
    ∃ w₁ before, BegunAt cfg older w₁ before := by
  obtain ⟨l, w₁, rest, hown, hpaused, hdegraded, hlive⟩ := served_open hj hsplit he htick
  obtain ⟨between, before, hbefore, rfl⟩ := own_split hown rfl
  have hever : frozen cfg before = true → isVaultPaused w₁.db = true := by
    apply (PauseFlag.journaled_frozen hj).ever (newer ++ e :: between)
      (.answer .main Query.rebalanceStage (.ok true) w₁) before
    rw [hsplit, hbefore]
    simp
  refine ⟨w₁, before, ⟨between, hbefore⟩, ⟨l, hown⟩, hlive, ?_, hpaused, hdegraded⟩
  by_contra hfrozen
  have hset := hever (Bool.not_eq_false _ ▸ hfrozen)
  rw [hpaused] at hset
  cases hset

/-- The host that may do anything quiet but set flags. -/
def plainBystander : Bystander where
  host := ⟨fun _ _ _ => True, fun _ w _ w' => Quiet w w' ∧ w'.db.flags = w.db.flags⟩
  quiet := And.left
  flag h := congrFun h.2 vaultPausedFlag

theorem plays_bystander : Plays plainBystander.host := by
  intro sc
  refine ⟨fun _ _ _ => trivial, fun q w => ⟨sc.quiet q w, ?_⟩⟩
  cases q with
  | executeTransfer destination sol bert =>
    simp only [Scene.script, Scene.respond]
    cases PlayedRuns.sent sol bert w.chain <;> rfl
  | _ => rfl

def startsTick (h : Journal) : Bool :=
  (own .main h).any fun e => match e with
    | .start .main .tick _ => true
    | _ => false

theorem startsTick_atTick (hs : startsTick h = true) : AtTick h := by
  obtain ⟨e, hmem, hstart⟩ := List.any_eq_true.mp hs
  split at hstart
  · next w => exact ⟨w, hmem⟩
  · cases hstart

def endsPaying : Journal → Bool
  | .call .main (Query.executeTransfer _ _ _) _ :: older => startsTick older
  | _ => false

theorem endsPaying_call (he : endsPaying h = true) : ∃ destination sol bert w older,
    h = .call .main (Query.executeTransfer destination sol bert) w :: older ∧ AtTick older := by
  unfold endsPaying at he
  split at he
  · next destination sol bert w older =>
    exact ⟨destination, sol, bert, w, older, rfl, startsTick_atTick he⟩
  · cases he

def endsTakingUp : Journal → Bool
  | .choice .main (Choice.statement (.setWithdrawalProcessing _)) _ _ :: older => startsTick older
  | _ => false

theorem endsTakingUp_choice (he : endsTakingUp h = true) : ∃ id w o older,
    h = .choice .main (Choice.statement (.setWithdrawalProcessing id)) w o :: older ∧
      AtTick older := by
  unfold endsTakingUp at he
  split at he
  · next id w o older => exact ⟨id, w, o, older, rfl, startsTick_atTick he⟩
  · cases he

/-- A tick takes up the row of a withdrawal and pays it. -/
theorem served_begun_unfrozen_withdrawing :
    (∃ newer id w o older, (withdrawing.point plainVenue plainConfig oneSol).2 =
      newer ++ .choice .main (Choice.statement (.setWithdrawalProcessing id)) w o :: older ∧
      ∃ w₁ before, BegunAt plainConfig older w₁ before) ∧
    ∃ newer destination sol bert w older, (withdrawing.point plainVenue plainConfig oneSol).2 =
      newer ++ .call .main (Query.executeTransfer destination sol bert) w :: older ∧
      ∃ w₁ before, BegunAt plainConfig older w₁ before := by
  have htaken : (withdrawing.point plainVenue plainConfig oneSol).2.tails.any endsTakingUp =
      true := by decide +kernel
  have hpaid : (withdrawing.point plainVenue plainConfig oneSol).2.tails.any endsPaying =
      true := by decide +kernel
  constructor
  · obtain ⟨newer, rest, hsplit, he⟩ := tails_split htaken
    obtain ⟨id, w, o, older, rfl, htick⟩ := endsTakingUp_choice he
    exact ⟨newer, id, w, o, older, hsplit,
      served_begun_unfrozen (plays_bystander.journaled _ _ _ _) hsplit (.takesUp id w o) htick⟩
  · obtain ⟨newer, rest, hsplit, he⟩ := tails_split hpaid
    obtain ⟨destination, sol, bert, w, older, rfl, htick⟩ := endsPaying_call he
    exact ⟨newer, destination, sol, bert, w, older, hsplit, served_begun_unfrozen
      (plays_bystander.journaled _ _ _ _) hsplit (.transfers destination sol bert w) htick⟩

/-- The operator pauses the vault, and then a tick finds an inflow. -/
def pausing : JournaledRun :=
  (PlayedRuns.founding.1, .bootstrap ⟨1, 100⟩) :: (settlingIn ++
    [told 2050000 "/pausevault" 1, ticked PlayedRuns.depositTick.1])

def endsSweepingFrozen : Journal → Bool
  | .call .main (Query.submitTx _) _ :: older => frozen plainConfig older
  | _ => false

theorem swept_frozen : ∃ p newer ixs w older,
    Journaled plainVenue plainConfig plainBystander.host p ∧
      p.2 = newer ++ .call .main (Query.submitTx ixs) w :: older ∧
        frozen plainConfig older = true := by
  have hany : (pausing.point plainVenue plainConfig oneSol).2.tails.any endsSweepingFrozen =
      true := by decide +kernel
  obtain ⟨newer, rest, hsplit, he⟩ := tails_split hany
  unfold endsSweepingFrozen at he
  split at he
  · next ixs w older =>
    exact ⟨_, newer, ixs, w, older, plays_bystander.journaled _ _ _ _, hsplit, he⟩
  · cases he

end FrozenDrain
