import BertMMBot.DegradedGate

/-! # The drawdown breaker

The liquidation value is compared with the value of the position at the prices of the same
tick. What the position was worth when it was opened plays no part: a loss since then stops a
rebalance only if the two valuations of the moment are far enough apart. -/
namespace DrawdownBreaker

open AsyncProgram AsyncContract AsyncRecords RecordedTriples RecordedOutcomes
open VaultTypes VaultProgram BotProgram Rebalancer MainLoop MakerBounds PlayedBot DegradedGate
open MeteoraPosition (Venue PositionSnapshot positionSnapshot)

def simulateClose (v : Venue) (activePrice : ℚ) (solUsd : ℚ) (pos : OnchainPosition) :
    SimulatedClose where
  effectivePriceUsd :=
    if 0 < solUsd then
      if v.bertIsX then activePrice * solUsd
      else if 0 < activePrice then solUsd / activePrice else 0
    else 0
  bertOut := if v.bertIsX then pos.totalXAmount + pos.feeX else pos.totalYAmount + pos.feeY
  solOut := if v.bertIsX then pos.totalYAmount + pos.feeY else pos.totalXAmount + pos.feeX

/-- The two ends of a price path: the position when it was opened, as a tick reads it later, and
as the simulation of its close reads it then. -/
structure PricePath where
  venue : Venue
  opened : OnchainPosition
  openedSolUsd : ℚ
  current : OnchainPosition
  mid : MidPrice
  closing : OnchainPosition
  activePrice : ℚ

def PricePath.snapshot (path : PricePath) : PositionSnapshot :=
  positionSnapshot path.venue path.mid.solUsd path.current

def PricePath.simulated (path : PricePath) : SimulatedClose :=
  simulateClose path.venue path.activePrice path.mid.solUsd path.closing

/-- The value at the opening. -/
def PricePath.entryUsd (path : PricePath) : ℚ :=
  (positionSnapshot path.venue path.openedSolUsd path.opened).totalValueUsd

def PricePath.markUsd (path : PricePath) : ℚ := path.snapshot.totalValueUsd

def PricePath.liquidationUsd (path : PricePath) : ℚ :=
  effectiveValueUsd path.simulated path.mid.solUsd

def threshold (config : BotConfig) : ℚ := 1 - config.maxDrawdownPct / 100

/-- The comparison that the rebalancer makes. -/
def Trips (config : BotConfig) (path : PricePath) : Prop :=
  0 < path.markUsd ∧ path.liquidationUsd / path.markUsd < threshold config

/-- No close, the flag written, and the rebalance skipped. -/
def Halts (r : RebalanceResult) (lines : BotHistory Unit Unit) (b : BotWorld) : Prop :=
  r.kind = .skipped ∧ lines.any closeSubmitted = false ∧ lines.any flagWritten = true ∧
    (Uncleared lines → degraded b = true)

variable {config : BotConfig} {path : PricePath} {H : BotHost} {cause : Cause} {b : BotWorld}

/-- The venue reports the simulated close. -/
def Reports (H : BotHost) (path : PricePath) : Prop :=
  ∀ b a b', H.respond (.simulateClose path.snapshot.nftMint path.mid.solUsd) b a b' →
    a = .ok path.simulated

abbrev Point := BotPoint Unit Unit

def NoClose (p : Point) : Prop := p.2.any closeSubmitted = false

def Fresh (p : Point) : Prop := (Before [] p ∧ NoClose p) ∧ p.2.any flagWritten = false

def Tripped (p : Point) : Prop := Halted [] p ∧ NoClose p

theorem NoClose.tell {b b' : BotWorld} {h : BotHistory Unit Unit} {e : BotEntry Unit Unit}
    (hp : NoClose (b, h)) (he : closeSubmitted e = false) : NoClose (b', e :: h) := by
  unfold NoClose at hp ⊢
  rw [List.any_cons, he, hp]
  rfl

theorem Fresh.tell {b b' : BotWorld} {h : BotHistory Unit Unit} {e : BotEntry Unit Unit}
    (hp : Fresh (b, h)) (hclose : closeSubmitted e = false) (hflag : flagWritten e = false) :
    Fresh (b', e :: h) := by
  obtain ⟨⟨hbefore, hnone⟩, hunset⟩ := hp
  refine ⟨⟨hbefore.tell hflag hclose, hnone.tell hclose⟩, ?_⟩
  rw [List.any_cons, hflag, hunset]
  rfl

theorem fresh_start (b : BotWorld) : Fresh (b, []) :=
  ⟨⟨⟨⟨[], rfl, rfl⟩, ⟨rfl, obedient_nil⟩⟩, rfl⟩, rfl⟩

theorem outcome_simulated (hR : Reports H path) {E : Point → Prop} :
    Outcome H () Fresh ((hostRebalancer config).venue.simulateClose path.snapshot.nftMint
      path.mid.solUsd) (fun sim p => sim = path.simulated ∧ Fresh p) E := by
  apply outcome_call
  intro b h b' a hp ha
  obtain rfl := hR b a b' ha
  refine ⟨rfl, ?_⟩
  have hcalled : Fresh (b, .call () (.simulateClose path.snapshot.nftMint path.mid.solUsd) b :: h) :=
    hp.tell rfl rfl
  exact hcalled.tell rfl rfl

theorem outcome_setDegraded_noClose : Outcome H () NoClose (setDegraded true) (fun _ => NoClose)
    NoClose := by
  intro b h hp o _
  cases o with
  | none => exact hp.tell rfl
  | some e => exact hp.tell rfl

theorem outcome_notify_noClose (detail : Detail) (sig : Option Signature) :
    Outcome H () NoClose (notify .critical (.rebalance detail sig)) (fun _ => NoClose) NoClose := by
  have hpost : Outcome H () NoClose (ask (.post .critical (.rebalance detail sig)))
      (fun _ => NoClose) NoClose := by
    apply outcome_call
    intro b h b' a hp _
    have hcalled : NoClose (b, .call () (.post .critical (.rebalance detail sig)) b :: h) :=
      hp.tell rfl
    cases a with
    | ok a => exact hcalled.tell rfl
    | error e => exact hcalled.tell rfl
  apply hpost.tryCatch
  intro e
  exact outcome_pure fun p hp => hp

theorem outcome_tripBreaker (hH : FlagWrites H) (detail : Detail) :
    Outcome H () Fresh (tripBreaker detail)
      (fun r p => (∃ res, r = some res ∧ res.kind = .skipped) ∧ Tripped p) (fun _ => False) := by
  have hset : Outcome H () Fresh (setDegraded true) (fun _ => Tripped) (fun _ => False) :=
    ((outcome_setDegraded hH).and outcome_setDegraded_noClose).mono
      (fun p hp => ⟨hp.1.1.closed, hp.1.2⟩) (fun _ _ hp => hp) fun _ hp => hp.1
  apply hset.bind
  intro _
  have hnotify : Outcome H () Tripped (notify .critical (.rebalance detail none)) (fun _ => Tripped)
      (fun _ => False) :=
    ((outcome_notify halted_undisturbed _ _).and (outcome_notify_noClose detail none)).mono
      (fun _ hp => hp) (fun _ _ hp => hp) fun _ hp => hp.1
  apply hnotify.bind
  intro _
  exact outcome_pure fun p hp => ⟨⟨_, rfl, rfl⟩, hp⟩

theorem outcome_drawdownBreaker_trips (hH : FlagWrites H) (hR : Reports H path)
    (ht : Trips config path) :
    Outcome H () Fresh (drawdownBreaker (hostRebalancer config) path.mid (some path.snapshot))
      (fun r p => (∃ res, r = some res ∧ res.kind = .skipped) ∧ Tripped p) (fun _ => False) := by
  apply Outcome.tryCatch (D := fun _ => False)
  · apply (outcome_simulated hR).bind
    intro sim
    apply outcome_of_fact
    rintro rfl
    apply outcome_ite
    · exact fun _ => outcome_tripBreaker hH _
    · exact fun hnot => absurd ht hnot
  · exact fun e b h hp => hp.elim

theorem outcome_drawdownBreaker_passes (hR : Reports H path) (ht : ¬Trips config path) :
    Outcome H () Fresh (drawdownBreaker (hostRebalancer config) path.mid (some path.snapshot))
      (fun r p => r = none ∧ Fresh p) (fun _ => False) := by
  apply Outcome.tryCatch (D := fun _ => False)
  · apply (outcome_simulated hR).bind
    intro sim
    apply outcome_of_fact
    rintro rfl
    apply outcome_ite
    · exact fun htrip => absurd htrip ht
    · exact fun _ => outcome_pure fun p hp => ⟨rfl, hp⟩
  · exact fun e b h hp => hp.elim

variable {α β : Type} {A : Point → Prop}

def NotSkipped : Staged α → Point → Prop
  | .ok _, _ => True
  | .error r, _ => r.kind ≠ .skipped

abbrev Anywhere : Point → Prop := fun _ => True

theorem outcome_any (m : Process α) : Outcome H () A m (fun _ => Anywhere) Anywhere := by
  intro b h _
  refine Yields.mono yields_ends ?_
  intro x p _
  cases x <;> trivial

theorem outcome_any_bind {m : Process α} {k : α → Process β} {B : β → Point → Prop}
    (h : ∀ a, Outcome H () Anywhere (k a) B Anywhere) : Outcome H () A (m >>= k) B Anywhere :=
  (outcome_any m).bind h

theorem outcome_stage {m : Process (Staged α)} {k : Thrown → Process (Staged α)}
    (hm : Outcome H () Anywhere m NotSkipped Anywhere)
    (hk : ∀ e, Outcome H () Anywhere (k e) NotSkipped Anywhere) :
    Outcome H () Anywhere (tryCatch m k) NotSkipped Anywhere := hm.tryCatch hk

theorem outcome_reportFailure_failed (detail : Detail) :
    Outcome H () Anywhere (reportFailure detail : Process (Staged α)) NotSkipped Anywhere :=
  outcome_any_bind fun _ => outcome_pure fun _ _ => by simp [NotSkipped, failed]

theorem outcome_degrade_failed (detail : Detail) (closeSig : Option Signature) :
    Outcome H () Anywhere (degrade detail closeSig : Process (Staged α)) NotSkipped Anywhere :=
  outcome_any_bind fun _ => outcome_any_bind fun _ => outcome_pure fun _ _ => by
    simp [NotSkipped, failed]

theorem outcome_handed {m : Process α} :
    Outcome H () Anywhere (do return .ok (← m) : Process (Staged α)) NotSkipped Anywhere :=
  outcome_any_bind fun _ => outcome_pure fun _ _ => trivial

variable (deps : RebalancerDeps) (current : Option PositionSnapshot)

theorem outcome_closePosition_failed :
    Outcome H () Anywhere (closePosition deps current) NotSkipped Anywhere := by
  cases current with
  | none => exact outcome_pure fun _ _ => trivial
  | some current =>
    have hbuild : Outcome H () Anywhere (buildClose deps current.nftMint) NotSkipped Anywhere :=
      outcome_stage outcome_handed fun e => outcome_reportFailure_failed _
    apply hbuild.bind
    intro built
    cases built with
    | error r => exact outcome_pure fun _ hp => hp
    | ok close =>
      have hsubmit : Outcome H () Anywhere (submitClose deps close) NotSkipped Anywhere :=
        outcome_stage outcome_handed fun e => outcome_reportFailure_failed _
      apply hsubmit.bind
      intro submitted
      cases submitted with
      | error r => exact outcome_pure fun _ hp => hp
      | ok sig => exact outcome_any_bind fun _ => outcome_pure fun _ _ => trivial

theorem outcome_reopen_done (now : ℤ) (mid : MidPrice) (cause : Cause) (closeSig : Option Signature) :
    Outcome H () Anywhere (reopen deps now mid current cause closeSig)
      (fun r _ => r.kind ≠ .skipped) Anywhere := by
  apply outcome_any_bind
  intro _
  have hsize : Outcome H () Anywhere (sizePosition deps mid closeSig) NotSkipped Anywhere :=
    outcome_stage (outcome_any_bind fun _ => outcome_any_bind fun _ => outcome_handed)
      fun e => outcome_degrade_failed _ _
  apply hsize.bind
  intro sized
  cases sized with
  | error r => exact outcome_pure fun _ hp => hp
  | ok sizing =>
    have hopen : Outcome H () Anywhere (openPosition deps mid (newRange deps mid) sizing closeSig)
        NotSkipped Anywhere :=
      outcome_stage outcome_handed fun e => outcome_degrade_failed _ _
    apply hopen.bind
    intro opened
    cases opened with
    | error r => exact outcome_pure fun _ hp => hp
    | ok opened =>
      have hpersist : Outcome H () Anywhere (persist deps now (newRange deps mid) current
          opened.nftMint cause) NotSkipped Anywhere := by
        apply outcome_ite
        · exact fun _ => outcome_pure fun _ _ => trivial
        · intro _
          exact outcome_stage (outcome_any_bind fun _ => outcome_pure fun _ _ => trivial)
            fun e => outcome_any_bind fun _ => outcome_degrade_failed _ _
      apply hpersist.bind
      intro persisted
      cases persisted with
      | error r => exact outcome_pure fun _ hp => hp
      | ok _ => exact outcome_any_bind fun _ => outcome_pure fun _ _ => by simp

theorem outcome_rebalanceChecked (now : ℤ) (mid : MidPrice) (cause : Cause) :
    Outcome H () Fresh (rebalanceChecked deps now mid current cause)
      (fun r p => r.kind = .skipped → p.2.any flagWritten = false) Anywhere := by
  apply Outcome.bind (B := fun _ => Fresh)
  · exact outcome_read fun _ hp => hp
  intro today
  apply outcome_ite
  · exact fun _ => outcome_pure fun p hp _ => hp.2
  · intro _
    apply ((outcome_closePosition_failed deps current).mono (fun _ _ => trivial) (fun _ _ hp => hp)
      fun _ hp => hp).bind
    intro closed
    cases closed with
    | error r => exact outcome_pure fun _ hp hskipped => absurd hskipped hp
    | ok closeSig =>
      exact (outcome_reopen_done deps current now mid cause closeSig).mono (fun _ _ => trivial)
        (fun _ _ hp hskipped => absurd hskipped hp) fun _ hp => hp

theorem outcome_now : Outcome H () Fresh now (fun _ => Fresh) Anywhere :=
  outcome_choose fun _ _ _ hp _ => hp.tell rfl rfl

theorem Tripped.halts {p : Point} {r : RebalanceResult} (hp : Tripped p) (hr : r.kind = .skipped) :
    Halts r p.2 p.1 := by
  obtain ⟨⟨⟨later, line, older, hsplit, hline, hkept⟩, -⟩, hnone⟩ := hp
  refine ⟨hr, hnone, ?_, fun hchain => ?_⟩
  · rw [hsplit]
    simp [hline]
  · unfold Uncleared at hchain
    rw [hsplit] at hchain
    exact (hkept hchain.left_of_append).2

theorem trips_halts (hH : FlagWrites H) (hR : Reports H path) (ht : Trips config path) :
    Outcome H () Fresh (executeRebalance (hostRebalancer config) path.mid (some path.snapshot) cause)
      (fun r p => Halts r p.2 p.1) Anywhere := by
  apply outcome_now.bind
  intro now
  apply ((outcome_drawdownBreaker_trips hH hR ht).mono (fun _ hp => hp) (fun _ _ hp => hp)
    fun _ hp => hp.elim).bind
  intro tripped
  apply outcome_of_fact
  rintro ⟨r, rfl, hr⟩
  exact outcome_pure fun p hp => hp.halts hr

theorem passes_not_halts (hR : Reports H path) (ht : ¬Trips config path) :
    Outcome H () Fresh (executeRebalance (hostRebalancer config) path.mid (some path.snapshot) cause)
      (fun r p => ¬Halts r p.2 p.1) Anywhere := by
  apply outcome_now.bind
  intro now
  apply ((outcome_drawdownBreaker_passes hR ht).mono (fun _ hp => hp) (fun _ _ hp => hp)
    fun _ hp => hp.elim).bind
  intro tripped
  apply outcome_of_fact
  rintro rfl
  apply (outcome_rebalanceChecked _ _ _ _ _).mono (fun _ hp => hp) _ fun _ hp => hp
  intro r p hp hhalts
  have hunset := hp hhalts.1
  rw [hhalts.2.2.1] at hunset
  cases hunset

/-- A liquidation value too far below the value at the opening stops the rebalance if and only if
it is not that low, or is as far below the value of the same moment. -/
theorem drawdown_halts_iff (hH : FlagWrites H) (path : PricePath) (hR : Reports H path)
    (config : BotConfig) (cause : Cause) (b b' : BotWorld) (x : Except Thrown RebalanceResult)
    (lines : BotHistory Unit Unit)
    (hends : Ends (recordedHost H) (recorded () (executeRebalance (hostRebalancer config) path.mid
      (some path.snapshot) cause b) []) x (b', lines)) :
    ∃ r, x = .ok r ∧ ((path.liquidationUsd < threshold config * path.entryUsd → Halts r lines b') ↔
      threshold config * path.entryUsd ≤ path.liquidationUsd ∨ Trips config path) := by
  have hreturns := (outcome_executeRebalance config hH).ends (fresh_start b).1.1 hends
  cases x with
  | error e => exact hreturns.elim
  | ok r =>
    refine ⟨r, rfl, ?_⟩
    by_cases ht : Trips config path
    · have hhalts : Halts r lines b' := (trips_halts hH hR ht).ends (fresh_start b) hends
      exact iff_of_true (fun _ => hhalts) (.inr ht)
    · have hnot : ¬Halts r lines b' := (passes_not_halts hR ht).ends (fresh_start b) hends
      constructor
      · intro hclaim
        left
        by_contra hlow
        exact hnot (hclaim (not_le.mp hlow))
      · rintro (hhigh | htrips) hlow
        · exact absurd hlow (not_lt.mpr hhigh)
        · exact absurd htrips ht

def flatPool : Venue := ⟨true, 1, fun _ _ => 1 / 100⟩

def holding : OnchainPosition where
  publicKey := "a"
  lowerBinId := 0
  upperBinId := 0
  totalXAmount := 1000000000
  totalYAmount := 10000000000
  feeX := 0
  feeY := 0

/-- 1000 BERT and 10 SOL at 100 USD for one SOL, and the same at 50. -/
def halved : PricePath where
  venue := flatPool
  opened := holding
  openedSolUsd := 100
  current := holding
  mid := ⟨100, 1 / 2, 50, 0, []⟩
  closing := holding
  activePrice := 1 / 100

def closingScene : BotScene where
  vault := { clock := 1000 }

def closingRespond (path : PricePath) (q : BotQuery) (b : BotWorld) :
    Except Thrown q.Reply × BotWorld :=
  match q with
  | .simulateClose _ _ => (.ok path.simulated, b)
  | q => closingScene.respond q b

def closingHost (path : PricePath) : BotHost where
  choose c b o := o = closingScene.choose c b
  respond q b a b' := (a, b') = closingRespond path q b

def closingScript (path : PricePath) : Script botInterface Point Thrown where
  choose c p := closingScene.choose c p.1
  respond q p := ((closingRespond path q p.1).1, (closingRespond path q p.1).2, p.2)

theorem closingHost_reports (path : PricePath) : Reports (closingHost path) path :=
  fun _ _ _ ha => congrArg Prod.fst ha

theorem closingHost_writes (path : PricePath) : FlagWrites (closingHost path) := fun _ _ ho => ho

def closingRun (path : PricePath) : Run botInterface Point Thrown RebalanceResult :=
  recorded () (executeRebalance (hostRebalancer playedConfig) path.mid (some path.snapshot)
    (.decided .triggersCleared) (botWith [positionAt "a"] (some (storedAs "a")))) []

def closed (path : PricePath) : Except Thrown RebalanceResult × Point :=
  (closingScript path).play (closingRun path)

theorem closed_ends (path : PricePath) : Ends (recordedHost (closingHost path)) (closingRun path)
    (closed path).1 ((closed path).2.1, (closed path).2.2) := by
  have hfollows : (closingScript path).Follows (recordedHost (closingHost path))
      fun _ _ => true := ⟨fun _ _ _ => rfl, fun _ _ => ⟨rfl, rfl⟩⟩
  exact play_ends hfollows (Script.meets_any _ _)

/-- The position has lost half its value, and is closed all the same. -/
theorem halved_closes : halved.entryUsd = 2000 ∧ halved.liquidationUsd = 1000 ∧
    halved.liquidationUsd < threshold playedConfig * halved.entryUsd ∧
    Ends (recordedHost (closingHost halved)) (closingRun halved) (closed halved).1
      ((closed halved).2.1, (closed halved).2.2) ∧
    (closed halved).1.toOption.map RebalanceResult.kind = some .ok ∧
    (closed halved).2.2.any closeSubmitted = true ∧ degraded (closed halved).2.1 = false := by
  refine ⟨?_, ?_, ?_, closed_ends halved, ?_, ?_, ?_⟩
  · decide +kernel
  · decide +kernel
  · decide +kernel
  · decide +kernel
  · decide +kernel
  · decide +kernel

def slipped : PricePath := { halved with mid := ⟨100, 1, 100, 0, []⟩, activePrice := 1 / 1000 }

theorem drawdown_halts_iff_slipped : Trips playedConfig slipped ∧
    ∃ r, (closed slipped).1 = .ok r ∧
      ((slipped.liquidationUsd < threshold playedConfig * slipped.entryUsd →
          Halts r (closed slipped).2.2 (closed slipped).2.1) ↔
        threshold playedConfig * slipped.entryUsd ≤ slipped.liquidationUsd ∨
          Trips playedConfig slipped) := by
  constructor
  · unfold Trips
    decide +kernel
  · exact drawdown_halts_iff (closingHost_writes slipped) slipped (closingHost_reports slipped)
      playedConfig _ _ _ _ _ (closed_ends slipped)

end DrawdownBreaker
