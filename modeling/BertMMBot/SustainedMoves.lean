import BertMMBot.OracleStaleness

/-! # Out of range for how long

A position is to be moved only after the price has been outside its range for some minutes. The
strategy counts samples where minutes are meant: when the loop samples more often than once a
minute, a few seconds of samples may be enough. -/
namespace SustainedMoves

open AsyncProgram AsyncContract
open VaultTypes VaultProgram BotProgram Rebalancer Strategy MainLoop VaultRuntime
open MeteoraPosition (PositionSnapshot PositionRange)
open OracleStaleness PlayedBot

section Decision

variable {s : BotState} {params : StrategyParams} {price : MidPrice}
  {position : PositionSnapshot} {reason : Reason} {newCenterUsd : ℚ}

theorem not_inRange_of_any {samples : List MidPrice} {range : PositionRange}
    (h : (samples.any fun m => inRange range m.bertUsd) = false) :
    ∀ m ∈ samples, inRange range m.bertUsd = false := by
  intro m hm
  exact List.any_eq_false.mp h m hm |> Bool.eq_false_iff.mpr

/-- A rebalance is decided on a price out of range, on as many samples as there are minutes to
wait, and on nothing but samples out of range. -/
theorem decide_rebalance_samples
    (h : Strategy.decide s params = .rebalance reason newCenterUsd) :
    ∃ price position, s.price = some price ∧ s.position = some position ∧
      inRange position.range price.bertUsd = false ∧
      params.sustainedMinutes ≤ (recentSamples s params).length ∧
      ∀ m ∈ recentSamples s params, inRange position.range m.bertUsd = false := by
  unfold Strategy.decide at h
  split at h
  · cases h
  split at h
  · cases h
  split at h
  · cases h
  next price hprice =>
  split at h
  · cases h
  split at h
  · cases h
  next position hposition =>
  unfold decideInPosition at h
  split at h
  · cases h
  next hout =>
  simp only [] at h
  split at h
  · cases h
  next henough =>
  split at h
  · cases h
  next hall =>
  refine ⟨price, position, hprice, hposition, ?_, not_lt.mp henough, ?_⟩
  · exact Bool.eq_false_iff.mpr hout
  · exact not_inRange_of_any (Bool.eq_false_iff.mpr hall)

/-- Nothing but its samples keeps the strategy from deciding so. -/
structure Unhindered (s : BotState) (params : StrategyParams) (price : MidPrice)
    (position : PositionSnapshot) : Prop where
  running : s.killSwitchTripped = false ∧ s.degraded = false
  priced : s.price = some price
  fresh : price.ts = s.now
  placed : s.position = some position
  rested : s.lastRebalanceAt = none
  budget : s.rebalancesToday < params.maxRebalancesPerDay

/-- The strategy may rebalance: it is running on a price that is not stale, the last rebalance is
long enough ago, and the day has one left. -/
structure Ready (s : BotState) (params : StrategyParams) (price : MidPrice)
    (position : PositionSnapshot) : Prop where
  running : s.killSwitchTripped = false ∧ s.degraded = false
  priced : s.price = some price
  fresh : isStale s params price = false
  placed : s.position = some position
  rested : ∀ last ∈ s.lastRebalanceAt, last + params.minRebalanceIntervalMin * minuteMs ≤ s.now
  budget : s.rebalancesToday < params.maxRebalancesPerDay

theorem Unhindered.ready (hs : Unhindered s params price position) :
    Ready s params price position := by
  refine ⟨hs.running, hs.priced, ?_, hs.placed, ?_, hs.budget⟩
  · have hnonneg : 0 ≤ params.oracleStaleMinutes * minuteMs := by
      unfold minuteMs
      positivity
    rw [isStale, hs.fresh, sub_self]
    exact decide_eq_false (not_lt.mpr hnonneg)
  · rw [hs.rested]
    intro last hlast
    cases hlast

theorem Ready.decideLimited (hs : Ready s params price position) :
    Strategy.decideLimited s params price.bertUsd = .rebalance .triggersCleared price.bertUsd := by
  have hcooled : (s.lastRebalanceAt.filter fun last =>
      minutesSince s.now last < params.minRebalanceIntervalMin) = none := by
    apply Option.filter_eq_none_iff.mpr
    intro last hlast
    have hlate := hs.rested last hlast
    have hint : (params.minRebalanceIntervalMin : ℤ) * minuteMs ≤ s.now - last := by omega
    have hminutes : (params.minRebalanceIntervalMin : ℚ) ≤ minutesSince s.now last := by
      rw [minutesSince, le_div_iff₀ (by norm_num [minuteMs])]
      exact_mod_cast hint
    simpa using hminutes
  have hbudget := hs.budget
  unfold Strategy.decideLimited
  rw [hcooled]
  exact if_neg (by omega)

theorem Ready.decide_rebalances (hs : Ready s params price position)
    (hout : inRange position.range price.bertUsd = false)
    (henough : params.sustainedMinutes ≤ (recentSamples s params).length)
    (hall : ∀ m ∈ recentSamples s params, inRange position.range m.bertUsd = false) :
    Strategy.decide s params = .rebalance .triggersCleared price.bertUsd := by
  have hany : ((recentSamples s params).any fun m => inRange position.range m.bertUsd) = false :=
    List.any_eq_false.mpr fun m hm => Bool.eq_false_iff.mp (hall m hm)
  unfold Strategy.decide
  rw [hs.running.1, hs.running.2, hs.priced, hs.placed]
  simp only [Bool.false_eq_true, if_false, hs.fresh]
  unfold decideInPosition
  simp only [hout, Bool.false_eq_true, if_false, hany, if_neg (not_lt.mpr henough),
    hs.decideLimited]

end Decision

def history (b : BotWorld) : List MidPrice := b.world.memory.priceHistory

/-- When the loop asked the oracle, and what it was told. -/
structure Look where
  start : ℤ
  mid : Option MidPrice

variable {cfg : MainConfig} {looks : List Look} {b b' : BotWorld} {mid : Option MidPrice} {t : ℤ}

/-- The looks since the process was started, newest first. Other than by a look the history of
prices does not change. -/
inductive Looks (cfg : MainConfig) : List Look → BotWorld → Prop where
  | started {b : BotWorld} : history b = [] → Looks cfg [] b
  | looked {b b' : BotWorld} {looks : List Look} {H : BotHost} {t : ℤ} {mid : Option MidPrice} :
      Looks cfg looks b →
      (∀ s a s', H.respond (.vault .fetchAllSources) s a s' → history s' = history s) →
      Ends H (readOracle cfg t b) (.ok mid) b' → Looks cfg (⟨t, mid⟩ :: looks) b'
  | meanwhile {b b' : BotWorld} {looks : List Look} :
      Looks cfg looks b → history b' = history b → Looks cfg looks b'

def mids (looks : List Look) : List MidPrice := looks.filterMap Look.mid

def kept (looks : List Look) : List MidPrice := (mids looks).take maxHistorySamples

theorem dropLast_cons_take {α : Type} {n : ℕ} (a : α) (as : List α) (hfull : n + 1 ≤ as.length) :
    (a :: as.take (n + 1)).dropLast = (a :: as).take (n + 1) := by
  rw [List.dropLast_eq_take, List.length_cons, List.length_take, Nat.min_eq_left hfull,
    Nat.add_sub_cancel, List.take_succ_cons, List.take_succ_cons, List.take_take,
    Nat.min_eq_left (Nat.le_succ n)]

theorem observed_history (p : MidPrice) (ps : List MidPrice) (hist : List MidPrice)
    (hhist : hist = (ps.take maxHistorySamples).reverse) :
    (if maxHistorySamples < (hist ++ [p]).length then (hist ++ [p]).tail else hist ++ [p]) =
      ((p :: ps).take maxHistorySamples).reverse := by
  subst hhist
  rw [← List.reverse_cons, List.length_reverse, List.length_cons, List.length_take,
    List.tail_reverse]
  by_cases hfull : maxHistorySamples ≤ ps.length
  · rw [Nat.min_eq_left hfull, if_pos (Nat.lt_succ_self _)]
    exact congrArg List.reverse (dropLast_cons_take p ps hfull)
  · have hshort : ps.length + 1 ≤ maxHistorySamples := by omega
    rw [Nat.min_eq_right (by omega), if_neg (by omega), List.take_of_length_le (by omega),
      List.take_of_length_le (by simpa using hshort)]

theorem readOracle_history {H : BotHost}
    (hH : ∀ s a s', H.respond (.vault .fetchAllSources) s a s' → history s' = history s)
    (hhist : history b = (kept looks).reverse) :
    Yields H (readOracle cfg t b) fun x b' => ∀ mid, x = .ok mid →
      history b' = (kept (⟨t, mid⟩ :: looks)).reverse ∧ ∀ m ∈ mid, m.ts = t := by
  intro a b₁ hanswer
  have hsame := hH _ _ _ hanswer
  cases a with
  | error e => exact nofun
  | ok samples =>
    intro mid hmid
    have hcomputed : VaultRuntime.computeTrustedMid samples (quotedSolUsd samples) t
        cfg.maker.oracleDivergenceBps = mid := Except.ok.inj hmid
    constructor
    · cases mid with
      | none =>
        rw [hcomputed]
        exact hsame.trans hhist
      | some p =>
        rw [hcomputed]
        exact observed_history p (mids looks) _ (hsame.trans hhist)
    · intro m hm
      exact computeTrustedMid_ts (hcomputed.trans hm)

theorem looks_history (h : Looks cfg looks b) :
    history b = (kept looks).reverse ∧ ∀ l ∈ looks, ∀ m ∈ l.mid, m.ts = l.start := by
  induction h with
  | started hempty =>
    constructor
    · exact hempty
    · simp
  | looked _ hkeeps hread ih =>
    obtain ⟨hhist, hstamped⟩ := (readOracle_history hkeeps ih.1).ends hread _ rfl
    constructor
    · exact hhist
    · exact List.forall_mem_cons.mpr ⟨hstamped, ih.2⟩
  | meanwhile _ hsame ih =>
    constructor
    · exact hsame.trans ih.1
    · exact ih.2

def cutoff (cfg : MainConfig) (now : ℤ) : ℤ := now - cfg.maker.sustainedMinutes * minuteMs

/-- The samples go back far enough, and all that count are out of range. -/
structure Evidence (cfg : MainConfig) (s : BotState) : Prop where
  reaches_back : ∃ m ∈ s.priceHistory, m.ts ≤ cutoff cfg s.now
  outside : ∀ m ∈ s.priceHistory, cutoff cfg s.now ≤ m.ts → ∀ position ∈ s.position,
    inRange position.range m.bertUsd = false

def Sustained (cfg : MainConfig) (s : BotState) : Prop :=
  ∀ reason newCenterUsd,
    Strategy.decide s (strategyParams cfg.maker) = .rebalance reason newCenterUsd → Evidence cfg s

/-- After this look at the oracle no position, at whatever range and after whatever rebalances,
is moved without evidence. -/
def NeverHasty (cfg : MainConfig) (t : ℤ) (mid : Option MidPrice) (b : BotWorld) : Prop :=
  ∀ killed position b', history b' = history b → Sustained cfg (readState t killed mid position b')

/-- A mid that the loop still has is as old as the move has to be. -/
def ReachesBack (cfg : MainConfig) (t : ℤ) (looks : List Look) : Prop :=
  ∃ m ∈ kept looks, m.ts ≤ cutoff cfg t

/-- Fewer mids than minutes. -/
def Sparse (cfg : MainConfig) (t : ℤ) (looks : List Look) : Prop :=
  ((kept looks).filter fun m => cutoff cfg t ≤ m.ts).length < cfg.maker.sustainedMinutes

theorem recentSamples_length (s : BotState) (hhist : s.priceHistory = (kept looks).reverse) :
    (recentSamples s (strategyParams cfg.maker)).length =
      ((kept looks).filter fun m => cutoff cfg s.now ≤ m.ts).length := by
  unfold recentSamples
  rw [hhist, List.filter_reverse, List.length_reverse]
  rfl

theorem exists_range_above (price : MidPrice) (samples : List MidPrice) :
    ∃ range : PositionRange, inRange range price.bertUsd = false ∧
      ∀ m ∈ samples, inRange range m.bertUsd = false := by
  have hbound : ∃ bound : ℚ, ∀ m ∈ price :: samples, m.bertUsd < bound := by
    induction price :: samples with
    | nil => exact ⟨0, by simp⟩
    | cons m ms ih =>
      obtain ⟨bound, hms⟩ := ih
      refine ⟨max bound (m.bertUsd + 1), List.forall_mem_cons.mpr ⟨?_, ?_⟩⟩
      · exact lt_max_of_lt_right (lt_add_one _)
      · exact fun m' hm' => lt_max_of_lt_left (hms m' hm')
  obtain ⟨bound, hbelow⟩ := hbound
  have hout : ∀ m ∈ price :: samples, inRange ⟨bound, bound, bound, 0⟩ m.bertUsd = false := by
    intro m hm
    have hlt := hbelow m hm
    exact decide_eq_false fun hin => absurd hin.1 (not_le.mpr hlt)
  refine ⟨⟨bound, bound, bound, 0⟩, hout _ (List.mem_cons_self ..), ?_⟩
  exact fun m hm => hout m (List.mem_cons_of_mem _ hm)

def unhindered (b : BotWorld) : BotWorld :=
  { b with
    world := b.world.withDb { b.world.db with flags := fun _ => none }
    rebalanceLog := [] }

theorem unhindered_asked (hcap : 0 < cfg.maker.maxRebalancesPerDay) {price : MidPrice}
    (hts : price.ts = t) (position : PositionSnapshot) :
    Unhindered (readState t false (some price) (some position) (unhindered b))
      (strategyParams cfg.maker) price position where
  running := ⟨rfl, rfl⟩
  priced := rfl
  fresh := hts
  placed := rfl
  rested := rfl
  budget := hcap

/-- In every run of the loop, whatever its gaps: after a look at the oracle every rebalance rests
on minutes of evidence exactly when the oracle had no mid, or when the mids that are left reach
back that far, or when there are too few of them. -/
theorem sustained_iff (cfg : MainConfig) (t : ℤ) (mid : Option MidPrice) (looks : List Look)
    (b : BotWorld) (hcap : 0 < cfg.maker.maxRebalancesPerDay)
    (h : Looks cfg (⟨t, mid⟩ :: looks) b) :
    NeverHasty cfg t mid b ↔
      mid = none ∨ ReachesBack cfg t (⟨t, mid⟩ :: looks) ∨ Sparse cfg t (⟨t, mid⟩ :: looks) := by
  obtain ⟨hhist, hstamped⟩ := looks_history h
  constructor
  · intro hnever
    cases mid with
    | none => exact .inl rfl
    | some price =>
      right
      by_contra hcond
      rw [not_or] at hcond
      obtain ⟨hback, hdense⟩ := hcond
      obtain ⟨range, hout, hall⟩ := exists_range_above price (history b)
      have hts : price.ts = t := hstamped _ (List.mem_cons_self ..) price rfl
      have hasked := unhindered_asked (b := b) hcap hts ⟨"", range, 0, 0, 0, 0, 0⟩
      have henough : cfg.maker.sustainedMinutes ≤ (recentSamples
          (readState t false (some price) (some ⟨"", range, 0, 0, 0, 0, 0⟩) (unhindered b))
          (strategyParams cfg.maker)).length := by
        rw [recentSamples_length _ hhist]
        exact not_lt.mp hdense
      have hdecide := hasked.ready.decide_rebalances hout henough fun m hm =>
        hall m (List.mem_filter.mp hm).1
      obtain ⟨m, hm, hold⟩ := (hnever false _ (unhindered b) rfl _ _ hdecide).reaches_back
      have hmem : m ∈ history b := hm
      rw [hhist, List.mem_reverse] at hmem
      exact hback ⟨m, hmem, hold⟩
  · intro hcond killed position b' hsame reason newCenterUsd hdecide
    obtain ⟨price, pos, hprice, hpos, -, henough, hall⟩ := decide_rebalance_samples hdecide
    have hasked : (readState t killed mid position b').priceHistory =
        (kept (⟨t, mid⟩ :: looks)).reverse := hsame.trans hhist
    constructor
    · rcases hcond with hnull | ⟨m, hm, hold⟩ | hsparse
      · subst hnull
        cases hprice
      · refine ⟨m, ?_, hold⟩
        rw [hasked]
        exact List.mem_reverse.mpr hm
      · rw [recentSamples_length _ hasked] at henough
        exact absurd henough (not_le.mpr hsparse)
    · intro m hm hrecent position' hposition'
      rw [hpos] at hposition'
      cases hposition'
      exact hall m (List.mem_filter.mpr ⟨hm, decide_eq_true hrecent⟩)

/-- Two minutes to wait, and six samples in each of them. -/
def fastMain : MainConfig :=
  { playedMain with maker := { playedConfig with sustainedMinutes := 2, pollIntervalSec := 10 } }

def aboveRange (t : ℤ) : BotScene where
  vault := { clock := t, samples := [⟨"dexscreener", 5, 100, 20, t⟩, ⟨"jupiter", 5, 100, 20, t⟩] }

def midAbove (t : ℤ) : MidPrice := ⟨20, 5, 100, t, ["dexscreener", "jupiter"]⟩

def lookAt (t : ℤ) (b : BotWorld) : BotWorld :=
  ((aboveRange t).script.play (readOracle fastMain t b)).2

theorem look_at (h : Looks fastMain looks b)
    (hmid : ((aboveRange t).script.play (readOracle fastMain t b)).1 = .ok (some (midAbove t))) :
    Looks fastMain (⟨t, some (midAbove t)⟩ :: looks) (lookAt t b) := by
  have hends := (aboveRange t).ends (readOracle fastMain t) b
  rw [hmid] at hends
  apply Looks.looked h _ hends
  intro s a s' hanswer
  cases hanswer
  rfl

theorem first_look : Looks fastMain [⟨0, some (midAbove 0)⟩] (lookAt 0 tracking) := by
  apply look_at
  · exact .started rfl
  · decide +kernel

theorem second_look : Looks fastMain [⟨10000, some (midAbove 10000)⟩, ⟨0, some (midAbove 0)⟩]
    (lookAt 10000 (lookAt 0 tracking)) :=
  look_at first_look (by decide +kernel)

/-- What the strategy is asked after the second look. -/
def askedSecond : BotState :=
  readState 10000 false (some (midAbove 10000)) (some trackedPosition)
    (lookAt 10000 (lookAt 0 tracking))

/-- Ten seconds of samples move the position, where two minutes are asked for. -/
theorem moved_after_ten_seconds : ∃ looks b, Looks fastMain looks b ∧
    ∃ H b' reason newCenterUsd,
      Ends H (afterOracle tickDeps fastMain 10000 false (some (midAbove 10000)) b)
        (.ok (.decides askedSecond)) b' ∧
      Strategy.decide askedSecond (strategyParams fastMain.maker) =
        .rebalance reason newCenterUsd ∧
      ¬Evidence fastMain askedSecond := by
  have hturn : ((aboveRange 10000).script.play (afterOracle tickDeps fastMain 10000 false
      (some (midAbove 10000)) (lookAt 10000 (lookAt 0 tracking)))).1 =
        .ok (.decides askedSecond) := rfl
  have hafter := (aboveRange 10000).ends
    (afterOracle tickDeps fastMain 10000 false (some (midAbove 10000)))
    (lookAt 10000 (lookAt 0 tracking))
  rw [hturn] at hafter
  refine ⟨_, _, second_look, _, _, .triggersCleared, 5, hafter, by decide +kernel, ?_⟩
  intro hevidence
  obtain ⟨m, hm, hold⟩ := hevidence.reaches_back
  revert hm hold
  revert m
  decide +kernel

theorem sustained_iff_fast :
    NeverHasty fastMain 10000 (some (midAbove 10000)) (lookAt 10000 (lookAt 0 tracking)) ↔
      some (midAbove 10000) = none ∨
        ReachesBack fastMain 10000 [⟨10000, some (midAbove 10000)⟩, ⟨0, some (midAbove 0)⟩] ∨
        Sparse fastMain 10000 [⟨10000, some (midAbove 10000)⟩, ⟨0, some (midAbove 0)⟩] :=
  sustained_iff fastMain 10000 _ _ _ (by decide) second_look

end SustainedMoves
