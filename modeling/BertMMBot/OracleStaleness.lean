import BertMMBot.PlayedBot

/-! # The staleness guard

A tick hands the strategy the mid it has just computed, stamped with its own start, or no mid at
all. Neither is ever stale: however long the oracle has been silent, the strategy holds and
nobody is alerted. -/
namespace OracleStaleness

open AsyncProgram AsyncContract
open VaultTypes VaultProgram BotProgram Rebalancer Strategy MainLoop
open MeteoraPosition (PositionSnapshot)
open PlayedBot

inductive Turn where
  | skips
  | opens (mid : MidPrice)
  | decides (s : BotState)

variable (deps : MainDeps) (cfg : MainConfig)

/-- The tick between the oracle and the strategy. -/
def afterOracle (tickStart : ℤ) (killed : Bool) (mid : Option MidPrice) : Process Turn := do
  vaultPreRebalance deps cfg
  let stored ← getCurrentPosition
  match ← readTracked deps mid stored with
  | .rpcFailed => return .skips
  | .position p => do
    let s ← readBot (readState tickStart killed mid p)
    match initialMid stored s with
    | some mid => return .opens mid
    | none => return .decides s

def proceed : Turn → Process Unit
  | .skips => writeHeartbeat
  | .opens mid => do
    openInitial deps cfg mid
    writeHeartbeat
  | .decides s => decideAndAct deps cfg s

theorem tickBody_turns (tickStart : ℤ) :
    tickBody deps cfg tickStart = (do
      let killed ← killSwitchTripped deps cfg
      let mid ← readOracle cfg tickStart
      let turn ← afterOracle deps cfg tickStart killed mid
      proceed deps cfg turn) := by
  unfold tickBody afterOracle
  simp only [async_bind_assoc]
  congr 1
  funext killed
  congr 1
  funext mid
  congr 1
  funext _
  congr 1
  funext stored
  congr 1
  funext tracked
  cases tracked with
  | rpcFailed => rfl
  | position p =>
    funext b
    change ((match initialMid stored (readState tickStart killed mid p b) with
      | some mid => (do
          openInitial deps cfg mid
          writeHeartbeat : Process Unit)
      | none => decideAndAct deps cfg (readState tickStart killed mid p b)) b) =
      (((match initialMid stored (readState tickStart killed mid p b) with
        | some mid => pure (.opens mid)
        | none => pure (.decides (readState tickStart killed mid p b)) : Process Turn) >>=
          proceed deps cfg) b)
    cases initialMid stored (readState tickStart killed mid p b) <;> rfl

def decisionOf : Turn → Option Decision
  | .decides s => some (Strategy.decide s (strategyParams cfg.maker))
  | _ => none

/-- What a tick got from the oracle, and what was decided on it. -/
structure TickRecord where
  start : ℤ
  mid : Option MidPrice
  decision : Option Decision

variable {deps cfg}

/-- Ticks one after the other, newest first, each with a host of its own. A tick can throw before
its oracle is read and after; in between anything can happen to the state. -/
inductive Ticks (deps : MainDeps) (cfg : MainConfig) : List TickRecord → BotWorld → Prop where
  | begun {b : BotWorld} : Ticks deps cfg [] b
  | blind {b b' : BotWorld} {rs : List TickRecord} {H : BotHost} {t : ℤ} {e : Thrown} :
      Ticks deps cfg rs b →
      Ends H ((killSwitchTripped deps cfg >>= fun _ => readOracle cfg t) b) (.error e) b' →
      Ticks deps cfg (⟨t, none, none⟩ :: rs) b'
  | broken {b b₁ b₂ b' : BotWorld} {rs : List TickRecord} {H : BotHost} {t : ℤ} {killed : Bool}
      {mid : Option MidPrice} {e : Thrown} :
      Ticks deps cfg rs b → Ends H (killSwitchTripped deps cfg b) (.ok killed) b₁ →
      Ends H (readOracle cfg t b₁) (.ok mid) b₂ →
      Ends H (afterOracle deps cfg t killed mid b₂) (.error e) b' →
      Ticks deps cfg (⟨t, mid, none⟩ :: rs) b'
  | passed {b b₁ b₂ b₃ b' : BotWorld} {rs : List TickRecord} {H : BotHost} {t : ℤ} {killed : Bool}
      {mid : Option MidPrice} {turn : Turn} {x : Except Thrown Unit} :
      Ticks deps cfg rs b → Ends H (killSwitchTripped deps cfg b) (.ok killed) b₁ →
      Ends H (readOracle cfg t b₁) (.ok mid) b₂ →
      Ends H (afterOracle deps cfg t killed mid b₂) (.ok turn) b₃ →
      Ends H (proceed deps cfg turn b₃) x b' →
      Ticks deps cfg (⟨t, mid, decisionOf cfg turn⟩ :: rs) b'
  | meanwhile {b b' : BotWorld} {rs : List TickRecord} :
      Ticks deps cfg rs b → Ticks deps cfg rs b'

def lastTrusted (rs : List TickRecord) : Option ℤ := (rs.find? fun r => r.mid.isSome).map TickRecord.start

def limitMs (cfg : MainConfig) : ℤ := cfg.maker.oracleStaleMinutes * minuteMs

/-- The last mid is older than the limit. -/
def Stale (cfg : MainConfig) (now : ℤ) (rs : List TickRecord) : Prop :=
  ∃ last, lastTrusted rs = some last ∧ limitMs cfg < now - last

def Fresh (cfg : MainConfig) (now : ℤ) (rs : List TickRecord) : Prop :=
  ∃ last, lastTrusted rs = some last ∧ now - last ≤ limitMs cfg

def PausesStale (r : TickRecord) : Prop := ∃ minutes, r.decision = some (.pause (.oracleStale minutes))

/-- The newest tick pauses for staleness if the last mid is too old, and only then. -/
def Guarded (cfg : MainConfig) (r : TickRecord) (rs : List TickRecord) : Prop :=
  (Stale cfg r.start (r :: rs) → PausesStale r) ∧ (Fresh cfg r.start (r :: rs) → ¬PausesStale r)

variable {t : ℤ} {mid : Option MidPrice} {killed : Bool} {b b' : BotWorld} {H : BotHost}
  {rs : List TickRecord} {r : TickRecord}

theorem computeTrustedMid_ts {samples : List PriceSample} {solUsd bps : ℚ} {m : MidPrice}
    (h : VaultRuntime.computeTrustedMid samples solUsd t bps = some m) : m.ts = t := by
  unfold VaultRuntime.computeTrustedMid at h
  split at h
  next => cases h
  next =>
    dsimp only at h
    split at h
    next => cases h
    next =>
      cases h
      rfl

theorem readOracle_stamped : Yields H (readOracle cfg t b) fun x _ =>
    ∀ mid, x = .ok mid → ∀ m ∈ mid, m.ts = t := by
  intro a b' _
  cases a with
  | error e => exact nofun
  | ok samples =>
    intro mid hmid m hm
    have hcomputed : VaultRuntime.computeTrustedMid samples (VaultRuntime.quotedSolUsd samples) t
        cfg.maker.oracleDivergenceBps = mid := Except.ok.inj hmid
    exact computeTrustedMid_ts (hcomputed.trans hm)

theorem decideInPosition_not_pause {s : BotState} {params : StrategyParams} {price : MidPrice}
    {position : PositionSnapshot} {reason : Reason} :
    decideInPosition s params price position ≠ .pause reason := by
  unfold decideInPosition decideLimited
  intro h
  split at h
  next => cases h
  next =>
    dsimp only at h
    split at h
    next => cases h
    next =>
      split at h
      next => cases h
      next =>
        split at h
        next => cases h
        next => split at h <;> cases h

theorem decide_not_stale {s : BotState} {params : StrategyParams} (hs : ∀ m ∈ s.price, m.ts = s.now)
    (minutes : ℤ) : Strategy.decide s params ≠ .pause (.oracleStale minutes) := by
  unfold Strategy.decide
  intro h
  split at h
  next => cases h
  next =>
    split at h
    next => cases h
    next =>
      split at h
      next => cases h
      next price hprice =>
        have hfresh : isStale s params price = false := by
          have hnonneg : 0 ≤ params.oracleStaleMinutes * minuteMs := by
            unfold minuteMs
            positivity
          rw [isStale, hs price hprice, sub_self]
          exact decide_eq_false (not_lt.mpr hnonneg)
        rw [if_neg (Bool.eq_false_iff.mp hfresh)] at h
        split at h
        next => cases h
        next => exact decideInPosition_not_pause h

def Shows (t : ℤ) (mid : Option MidPrice) (x : Except Thrown Turn) : Prop :=
  ∀ s, x = .ok (.decides s) → s.price = mid ∧ s.now = t

theorem shows_error (e : Thrown) : Shows t mid (.error e) := by
  intro s hs
  cases hs

theorem shows_bind {α : Type} (m : Process α) {k : α → Process Turn}
    (h : ∀ a b₁, Yields H (k a b₁) fun x _ => Shows t mid x) :
    Yields H ((m >>= k) b) fun x _ => Shows t mid x :=
  Yields.bind yields_ends (fun a b₁ _ => h a b₁) fun e _ _ => shows_error e

theorem afterOracle_state :
    Yields H (afterOracle deps cfg t killed mid b) fun x _ => Shows t mid x := by
  unfold afterOracle
  refine shows_bind _ fun _ b₁ => shows_bind _ fun stored b₂ => shows_bind _ fun tracked b₃ => ?_
  cases tracked with
  | rpcFailed =>
    intro s hs
    cases hs
  | position p =>
    change Yields H ((match initialMid stored (readState t killed mid p b₃) with
      | some mid => pure (.opens mid)
      | none => pure (.decides (readState t killed mid p b₃)) : Process Turn) b₃) _
    cases initialMid stored (readState t killed mid p b₃) with
    | some mid =>
      intro s hs
      cases hs
    | none =>
      intro s hs
      cases hs
      exact ⟨rfl, rfl⟩

theorem passed_not_stale {b₁ b₂ b₃ : BotWorld} {turn : Turn}
    (horacle : Ends H (readOracle cfg t b₁) (.ok mid) b₂)
    (hturn : Ends H (afterOracle deps cfg t killed mid b₂) (.ok turn) b₃) :
    ¬PausesStale ⟨t, mid, decisionOf cfg turn⟩ := by
  rintro ⟨minutes, hdecision⟩
  have hstamped := readOracle_stamped.ends horacle mid rfl
  have hshows := afterOracle_state.ends hturn
  cases turn with
  | skips => cases hdecision
  | opens mid => cases hdecision
  | decides s =>
    obtain ⟨hprice, hnow⟩ := hshows s rfl
    refine decide_not_stale ?_ minutes (Option.some.inj hdecision)
    rw [hprice, hnow]
    exact hstamped

theorem undecided_not_stale : ¬PausesStale ⟨t, mid, none⟩ := by
  rintro ⟨minutes, hdecision⟩
  cases hdecision

theorem ticks_never_pause (h : Ticks deps cfg rs b) : ∀ r ∈ rs, ¬PausesStale r := by
  induction h with
  | begun => simp
  | meanwhile _ ih => exact ih
  | blind _ _ ih => exact List.forall_mem_cons.mpr ⟨undecided_not_stale, ih⟩
  | broken _ _ _ _ ih => exact List.forall_mem_cons.mpr ⟨undecided_not_stale, ih⟩
  | passed _ _ horacle hturn _ ih =>
    exact List.forall_mem_cons.mpr ⟨passed_not_stale horacle hturn, ih⟩

/-- The guard holds in every tick of a run if and only if no tick finds the last mid too old. -/
theorem staleness_guarded_iff (deps : MainDeps) (cfg : MainConfig) (rs : List TickRecord)
    (b : BotWorld) (h : Ticks deps cfg rs b) :
    (∀ newer r older, rs = newer ++ r :: older → Guarded cfg r older) ↔
      ∀ newer r older, rs = newer ++ r :: older → ¬Stale cfg r.start (r :: older) := by
  have hnever := ticks_never_pause h
  constructor
  · intro hguarded newer r older hsplit hstale
    have hmem : r ∈ rs := by
      rw [hsplit]
      simp
    exact hnever r hmem ((hguarded newer r older hsplit).1 hstale)
  · intro hfresh newer r older hsplit
    have hmem : r ∈ rs := by
      rw [hsplit]
      simp
    exact ⟨fun hstale => absurd hstale (hfresh newer r older hsplit), fun _ => hnever r hmem⟩

def tickScene (t : ℤ) (up : Bool) : BotScene where
  vault := {
    clock := t
    samples := if up then [⟨"dexscreener", 2, 100, 50, t⟩, ⟨"jupiter", 2, 100, 50, t⟩] else [] }

def tracking : BotWorld := botWith [positionAt "a"] (some (storedAs "a"))

def tickDeps : MainDeps := MakerBounds.hostDeps blindLibrary flatVenue

def trackedPosition : PositionSnapshot := (tickScene 0 true).snapshot (positionAt "a")

/-- What the strategy is asked in a tick that starts with these worlds. -/
def askedState (t : ℤ) (mid : Option MidPrice) (b : BotWorld) : BotState :=
  readState t false mid (some trackedPosition) b

def afterLook (t : ℤ) (up : Bool) : BotWorld :=
  ((tickScene t up).script.play (readOracle playedMain t tracking)).2

theorem played_tick (t : ℤ) (up : Bool) (mid : Option MidPrice) (d : Decision)
    (h : Ticks tickDeps playedMain rs b)
    (hmid : ((tickScene t up).script.play (readOracle playedMain t tracking)).1 = .ok mid)
    (hturn : ((tickScene t up).script.play
      (afterOracle tickDeps playedMain t false mid (afterLook t up))).1 =
        .ok (.decides (askedState t mid (afterLook t up))))
    (hd : Strategy.decide (askedState t mid (afterLook t up)) (strategyParams playedMain.maker) = d) :
    Ticks tickDeps playedMain (⟨t, mid, some d⟩ :: rs) tracking := by
  have hkilled : ((tickScene t up).script.play (killSwitchTripped tickDeps playedMain tracking)) =
      (.ok false, tracking) := rfl
  have hkill := (tickScene t up).ends (killSwitchTripped tickDeps playedMain) tracking
  have hlook := (tickScene t up).ends (readOracle playedMain t) tracking
  have hafter := (tickScene t up).ends (afterOracle tickDeps playedMain t false mid) (afterLook t up)
  rw [hkilled] at hkill
  rw [hmid] at hlook
  rw [hturn] at hafter
  subst hd
  exact .meanwhile (.passed (.meanwhile h) hkill hlook hafter ((tickScene t up).ends _ _))

def steadyMid : MidPrice := ⟨50, 2, 100, 0, ["dexscreener", "jupiter"]⟩

theorem steady_tick : Ticks tickDeps playedMain [⟨0, some steadyMid, some (.hold .priceInRange)⟩]
    tracking := by
  have hbegun : Ticks tickDeps playedMain [] tracking := .begun
  exact played_tick 0 true (some steadyMid) (.hold .priceInRange) hbegun (by decide +kernel) rfl
    (by decide +kernel)

theorem silent_tick : Ticks tickDeps playedMain
    [⟨600000, none, some (.hold .oracleReturnedNull)⟩,
      ⟨0, some steadyMid, some (.hold .priceInRange)⟩] tracking :=
  played_tick 600000 false none (.hold .oracleReturnedNull) steady_tick (by decide +kernel) rfl
    (by decide +kernel)

/-- Ten minutes after the last mid, where five are too many, the strategy holds. -/
theorem stale_tick_holds : ∃ b rs r, Ticks tickDeps playedMain (r :: rs) b ∧
    Stale playedMain r.start (r :: rs) ∧ r.decision = some (.hold .oracleReturnedNull) ∧
    ¬Guarded playedMain r rs := by
  have hstale : Stale playedMain 600000 [⟨600000, none, some (.hold .oracleReturnedNull)⟩,
      ⟨0, some steadyMid, some (.hold .priceInRange)⟩] := ⟨0, rfl, by decide⟩
  refine ⟨_, _, _, silent_tick, hstale, rfl, ?_⟩
  intro hguarded
  exact ticks_never_pause silent_tick _ (List.mem_cons_self ..) (hguarded.1 hstale)

def shortSilence : List TickRecord :=
  [⟨60000, none, some (.hold .oracleReturnedNull)⟩,
    ⟨0, some steadyMid, some (.hold .priceInRange)⟩]

theorem short_silence : Ticks tickDeps playedMain shortSilence tracking :=
  played_tick 60000 false none (.hold .oracleReturnedNull) steady_tick (by decide +kernel) rfl
    (by decide +kernel)

theorem staleness_guarded_iff_steady :
    (∀ newer r older, shortSilence = newer ++ r :: older → Guarded playedMain r older) ↔
      ∀ newer r older, shortSilence = newer ++ r :: older →
        ¬Stale playedMain r.start (r :: older) :=
  staleness_guarded_iff tickDeps playedMain _ tracking short_silence

end OracleStaleness
