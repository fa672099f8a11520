import BertMMBot.SustainedMoves

/-! # The range and the price of SOL

A position lies between two bins, whose prices are in SOL. The client quotes them in USD at the
SOL price of the moment, and the strategy compares them with samples that were quoted at the SOL
prices of their own moments. The two agree as long as the price of SOL stands still. -/
namespace RangeUnits

open VaultTypes Strategy MeteoraPosition SustainedMoves

variable {venue : Venue} {pos : OnchainPosition} {solUsd solNow : ℚ} {m : MidPrice}
  {s : BotState} {params : StrategyParams} {now : ℤ} {path : List (ℤ × ℚ)}

def binBounds (venue : Venue) (pos : OnchainPosition) : ℚ × ℚ := rangeBounds venue pos 1

/-- The sample lies between the bins, at the SOL price it was quoted with. -/
def InBins (venue : Venue) (pos : OnchainPosition) (m : MidPrice) : Prop :=
  (binBounds venue pos).1 ≤ m.bertUsd / m.solUsd ∧ m.bertUsd / m.solUsd ≤ (binBounds venue pos).2

/-- Prices of bins are positive. -/
def Priced (venue : Venue) (pos : OnchainPosition) : Prop :=
  0 < venue.getPriceOfBinByBinId pos.lowerBinId venue.binStep ∧
    0 < venue.getPriceOfBinByBinId pos.upperBinId venue.binStep

theorem mul_swap (a b : ℚ) (hsol : 0 < solUsd) :
    (if b * solUsd < a * solUsd then (b * solUsd, a * solUsd) else (a * solUsd, b * solUsd)) =
      ((if b < a then (b, a) else (a, b)).1 * solUsd, (if b < a then (b, a) else (a, b)).2 * solUsd) := by
  by_cases h : b < a
  · rw [if_pos h, if_pos (mul_lt_mul_of_pos_right h hsol)]
  · rw [if_neg h, if_neg (not_lt.mpr (mul_le_mul_of_nonneg_right (not_lt.mp h) hsol.le))]

theorem rangeBounds_scale (venue : Venue) (pos : OnchainPosition) (hsol : 0 < solUsd) :
    rangeBounds venue pos solUsd =
      ((binBounds venue pos).1 * solUsd, (binBounds venue pos).2 * solUsd) := by
  have hquote : ∀ price : ℚ, (if 0 < price then solUsd / price else 0) =
      (if 0 < price then 1 / price else 0) * solUsd := by
    intro price
    split
    · ring
    · ring
  unfold binBounds rangeBounds
  cases venue.bertIsX with
  | true =>
    simp only [if_true, mul_one]
    exact mul_swap _ _ hsol
  | false =>
    simp only [Bool.false_eq_true, if_false, hquote]
    exact mul_swap _ _ hsol

theorem binBounds_le : (binBounds venue pos).1 ≤ (binBounds venue pos).2 := by
  have hsorted : ∀ bounds : ℚ × ℚ,
      (if bounds.2 < bounds.1 then (bounds.2, bounds.1) else bounds).1 ≤
        (if bounds.2 < bounds.1 then (bounds.2, bounds.1) else bounds).2 := by
    intro bounds
    split
    · next h => exact h.le
    · next h => exact not_lt.mp h
  exact hsorted _

theorem binBounds_pos (hpriced : Priced venue pos) : 0 < (binBounds venue pos).1 := by
  have hlow := hpriced.1
  have hhigh := hpriced.2
  have hswap : ∀ a b : ℚ, 0 < a → 0 < b → 0 < (if b < a then (b, a) else (a, b)).1 := by
    intro a b ha hb
    split
    · exact hb
    · exact ha
  unfold binBounds rangeBounds
  cases venue.bertIsX with
  | true =>
    apply hswap
    · exact mul_pos hlow one_pos
    · exact mul_pos hhigh one_pos
  | false =>
    simp only [Bool.false_eq_true, if_false, if_pos hlow, if_pos hhigh]
    apply hswap
    · exact div_pos one_pos hhigh
    · exact div_pos one_pos hlow

theorem inRange_iff (hsol : 0 < solUsd) (bertUsd : ℚ) :
    inRange (positionRange venue pos solUsd) bertUsd = true ↔
      (binBounds venue pos).1 * solUsd ≤ bertUsd ∧ bertUsd ≤ (binBounds venue pos).2 * solUsd := by
  unfold inRange positionRange
  rw [rangeBounds_scale venue pos hsol]
  exact decide_eq_true_iff

theorem inRange_iff_inBins (hsol : 0 < m.solUsd) :
    inRange (positionRange venue pos m.solUsd) m.bertUsd = true ↔ InBins venue pos m := by
  rw [inRange_iff hsol]
  unfold InBins
  rw [le_div_iff₀ hsol, div_le_iff₀ hsol]

def solPath (samples : List MidPrice) : List (ℤ × ℚ) := samples.map fun m => (m.ts, m.solUsd)

/-- The strategy is asked about the position, read at the SOL price of the moment. The samples
it is shown were taken along the path, the last of them now. -/
structure Along (venue : Venue) (pos : OnchainPosition) (path : List (ℤ × ℚ)) (now : ℤ)
    (solNow : ℚ) (s : BotState) : Prop where
  asked : s.now = now
  history : solPath s.priceHistory = path
  price : s.price = s.priceHistory.getLast?
  position : s.position = some (positionSnapshot venue solNow pos)

def Moves (s : BotState) (params : StrategyParams) : Prop :=
  ∃ reason newCenterUsd, Strategy.decide s params = .rebalance reason newCenterUsd

/-- The decision is about BERT in SOL. -/
structure UnitFree (venue : Venue) (pos : OnchainPosition) (params : StrategyParams)
    (s : BotState) : Prop where
  outside : Moves s params → ∀ m ∈ recentSamples s params, ¬InBins venue pos m
  steady : (∀ m ∈ s.priceHistory, InBins venue pos m) → (∀ p ∈ s.price, InBins venue pos p) →
    ¬Moves s params

def pathCutoff (params : StrategyParams) (now : ℤ) : ℤ := now - params.sustainedMinutes * minuteMs

def recentPath (params : StrategyParams) (now : ℤ) (path : List (ℤ × ℚ)) : List (ℤ × ℚ) :=
  path.filter fun q => pathCutoff params now ≤ q.1

theorem solPath_recent (hs : Along venue pos path now solNow s) :
    solPath (recentSamples s params) = recentPath params now path := by
  unfold recentPath solPath recentSamples pathCutoff
  rw [← hs.history, ← hs.asked, solPath, List.filter_map]
  rfl

theorem along_price (hlast : path.getLast? = some (now, solNow))
    (hs : Along venue pos path now solNow s) {p : MidPrice} (hp : s.price = some p) :
    p.ts = now ∧ p.solUsd = solNow := by
  rw [hs.price] at hp
  rw [← hs.history, solPath, List.getLast?_map, hp] at hlast
  cases hlast
  exact ⟨rfl, rfl⟩

theorem inBins_stays (hnow : 0 < solNow) (hlast : path.getLast? = some (now, solNow))
    (hs : Along venue pos path now solNow s) (hin : ∀ p ∈ s.price, InBins venue pos p) :
    ¬Moves s params := by
  rintro ⟨reason, newCenterUsd, hdecide⟩
  obtain ⟨price, position, hprice, hposition, hout, -, -⟩ := decide_rebalance_samples hdecide
  have hsol := (along_price hlast hs hprice).2
  have hinside := hin price hprice
  rw [hs.position] at hposition
  cases hposition
  rw [← inRange_iff_inBins (hsol ▸ hnow), hsol] at hinside
  exact absurd hinside (Bool.eq_false_iff.mp hout)

theorem steady_path_outside (hnow : 0 < solNow) (hs : Along venue pos path now solNow s)
    (hpath : ∀ q ∈ recentPath params now path, q.2 = solNow) (hmoves : Moves s params) :
    ∀ m ∈ recentSamples s params, ¬InBins venue pos m := by
  obtain ⟨reason, newCenterUsd, hdecide⟩ := hmoves
  obtain ⟨price, position, -, hposition, -, -, hall⟩ := decide_rebalance_samples hdecide
  rw [hs.position] at hposition
  cases hposition
  intro m hm hin
  have hmem : (m.ts, m.solUsd) ∈ recentPath params now path := by
    rw [← solPath_recent hs]
    exact List.mem_map_of_mem hm
  have hsol : m.solUsd = solNow := hpath _ hmem
  rw [← inRange_iff_inBins (hsol ▸ hnow), hsol] at hin
  exact absurd hin (Bool.eq_false_iff.mp (hall m hm))

def above (venue : Venue) (pos : OnchainPosition) (solNow : ℚ) : ℚ :=
  (binBounds venue pos).2 * solNow + 1

/-- At another price of SOL, the bin that has been left behind in USD. -/
def leftBehind (venue : Venue) (pos : OnchainPosition) (solNow sol : ℚ) : ℚ :=
  if solNow < sol then (binBounds venue pos).2 * sol else (binBounds venue pos).1 * sol

/-- BERT in USD: between the bins at the moments of `q`, above them at all others. -/
def bertAlong (venue : Venue) (pos : OnchainPosition) (solNow : ℚ) (q q' : ℤ × ℚ) : ℚ :=
  if q' = q then leftBehind venue pos solNow q.2 else above venue pos solNow

def sampleAt (bertUsd : ℚ) (q : ℤ × ℚ) : MidPrice := ⟨0, bertUsd, q.2, q.1, []⟩

def strayed (venue : Venue) (pos : OnchainPosition) (path : List (ℤ × ℚ)) (now : ℤ) (solNow : ℚ)
    (q : ℤ × ℚ) : BotState where
  price := (path.map fun q' => sampleAt (bertAlong venue pos solNow q q') q').getLast?
  priceHistory := path.map fun q' => sampleAt (bertAlong venue pos solNow q q') q'
  position := some (positionSnapshot venue solNow pos)
  lastRebalanceAt := none
  rebalancesToday := 0
  killSwitchTripped := false
  degraded := false
  now := now

theorem strayed_along (q : ℤ × ℚ) :
    Along venue pos path now solNow (strayed venue pos path now solNow q) where
  asked := rfl
  history := by
    unfold strayed solPath
    rw [List.map_map]
    exact List.map_id _
  price := rfl
  position := rfl

theorem above_out (hnow : 0 < solNow) :
    inRange (positionRange venue pos solNow) (above venue pos solNow) = false := by
  rw [Bool.eq_false_iff, Ne, inRange_iff hnow, not_and_or]
  right
  exact not_le.mpr (lt_add_one _)

theorem leftBehind_out (hpriced : Priced venue pos) (hnow : 0 < solNow) {sol : ℚ}
    (hne : sol ≠ solNow) :
    inRange (positionRange venue pos solNow) (leftBehind venue pos solNow sol) = false := by
  have hlow := binBounds_pos hpriced
  have hhigh : 0 < (binBounds venue pos).2 := hlow.trans_le binBounds_le
  rw [Bool.eq_false_iff, Ne, inRange_iff hnow, not_and_or]
  unfold leftBehind
  by_cases h : solNow < sol
  · right
    rw [if_pos h]
    exact not_le.mpr (mul_lt_mul_of_pos_left h hhigh)
  · left
    rw [if_neg h]
    exact not_le.mpr (mul_lt_mul_of_pos_left (lt_of_le_of_ne (not_lt.mp h) hne) hlow)

theorem leftBehind_inBins {ts : ℤ} {sol : ℚ} (hsol : 0 < sol) :
    InBins venue pos (sampleAt (leftBehind venue pos solNow sol) (ts, sol)) := by
  have hle : (binBounds venue pos).1 ≤ (binBounds venue pos).2 := binBounds_le
  unfold InBins sampleAt leftBehind
  dsimp only
  by_cases h : solNow < sol
  · rw [if_pos h, mul_div_cancel_right₀ _ hsol.ne']
    exact ⟨hle, le_rfl⟩
  · rw [if_neg h, mul_div_cancel_right₀ _ hsol.ne']
    exact ⟨le_rfl, hle⟩

theorem strayed_price (hlast : path.getLast? = some (now, solNow)) {q : ℤ × ℚ}
    (hne : q.2 ≠ solNow) : (strayed venue pos path now solNow q).price =
      some (sampleAt (above venue pos solNow) (now, solNow)) := by
  have hother : (now, solNow) ≠ q := by
    intro heq
    subst heq
    exact hne rfl
  unfold strayed
  rw [List.getLast?_map, hlast, Option.map_some, bertAlong, if_neg hother]

theorem strayed_moves (hpriced : Priced venue pos) (hnow : 0 < solNow)
    (hlast : path.getLast? = some (now, solNow)) (hcap : 0 < params.maxRebalancesPerDay)
    {q : ℤ × ℚ} (hne : q.2 ≠ solNow)
    (henough : params.sustainedMinutes ≤ (recentPath params now path).length) :
    Moves (strayed venue pos path now solNow q) params := by
  have hlength : (solPath (recentSamples (strayed venue pos path now solNow q) params)).length =
      (recentPath params now path).length := congrArg List.length (solPath_recent (strayed_along q))
  have hasked : Unhindered (strayed venue pos path now solNow q) params
      (sampleAt (above venue pos solNow) (now, solNow)) (positionSnapshot venue solNow pos) :=
    ⟨⟨rfl, rfl⟩, strayed_price hlast hne, rfl, rfl, rfl, hcap⟩
  refine ⟨_, _, hasked.ready.decide_rebalances (above_out hnow) ?_ ?_⟩
  · rw [← hlength, solPath, List.length_map] at henough
    exact henough
  · intro m hm
    obtain ⟨q', -, rfl⟩ := List.mem_map.mp (List.mem_filter.mp hm).1
    change inRange (positionRange venue pos solNow) (bertAlong venue pos solNow q q') = false
    unfold bertAlong
    split
    · exact leftBehind_out hpriced hnow hne
    · exact above_out hnow

/-- Along a path of the price of SOL the decision is about BERT in SOL, whatever BERT does,
exactly when SOL stood still in the minutes that count, or when these hold too few samples. -/
theorem unit_free_iff (venue : Venue) (pos : OnchainPosition) (params : StrategyParams)
    (path : List (ℤ × ℚ)) (now : ℤ) (solNow : ℚ) (hpriced : Priced venue pos)
    (hcap : 0 < params.maxRebalancesPerDay) (hpath : ∀ q ∈ path, 0 < q.2)
    (hlast : path.getLast? = some (now, solNow)) :
    (∀ s, Along venue pos path now solNow s → UnitFree venue pos params s) ↔
      (∀ q ∈ recentPath params now path, q.2 = solNow) ∨
        (recentPath params now path).length < params.sustainedMinutes := by
  have hnow : 0 < solNow := hpath _ (List.mem_of_getLast? hlast)
  constructor
  · intro hfree
    by_contra hcond
    rw [not_or, not_lt] at hcond
    obtain ⟨hmoved, henough⟩ := hcond
    push Not at hmoved
    obtain ⟨q, hq, hne⟩ := hmoved
    have hfound := hfree _ (strayed_along q)
    have hmem : sampleAt (leftBehind venue pos solNow q.2) q ∈
        recentSamples (strayed venue pos path now solNow q) params := by
      have hin := List.mem_filter.mp hq
      apply List.mem_filter.mpr
      constructor
      · apply List.mem_map.mpr
        refine ⟨q, hin.1, ?_⟩
        rw [bertAlong, if_pos rfl]
      · exact hin.2
    exact hfound.outside (strayed_moves hpriced hnow hlast hcap hne henough) _ hmem
      (leftBehind_inBins (hpath q (List.mem_filter.mp hq).1))
  · intro hcond s hs
    constructor
    · rcases hcond with hsteady | hshort
      · exact steady_path_outside hnow hs hsteady
      · rintro ⟨reason, newCenterUsd, hdecide⟩
        obtain ⟨_, _, -, -, -, henough, -⟩ := decide_rebalance_samples hdecide
        have hlength : (solPath (recentSamples s params)).length =
            (recentPath params now path).length := congrArg List.length (solPath_recent hs)
        rw [solPath, List.length_map] at hlength
        omega
    · intro _ hin
      exact inBins_stays hnow hlast hs hin

/-- Two bins, of 1/64 and of 1/32 SOL for a BERT. -/
def twoBins : Venue := ⟨true, 1, fun id _ => if id ≤ 0 then 1 / 64 else 1 / 32⟩

def acrossBins : OnchainPosition where
  publicKey := "a"
  lowerBinId := 0
  upperBinId := 1
  totalXAmount := 0
  totalYAmount := 0
  feeX := 0
  feeY := 0

def halvingPath : List (ℤ × ℚ) := [(0, 100), (10000, 50)]

def solHalved : BotState where
  price := some ⟨25, 2, 50, 10000, []⟩
  priceHistory := [⟨50, 2, 100, 0, []⟩, ⟨25, 2, 50, 10000, []⟩]
  position := some (positionSnapshot twoBins 50 acrossBins)
  lastRebalanceAt := none
  rebalancesToday := 0
  killSwitchTripped := false
  degraded := false
  now := 10000

theorem solHalved_along : Along twoBins acrossBins halvingPath 10000 50 solHalved :=
  ⟨rfl, rfl, rfl, rfl⟩

/-- The first sample lay between the bins, and counts as out of range. -/
theorem inside_counts_as_outside : ∃ s, Along twoBins acrossBins halvingPath 10000 50 s ∧
    Moves s (MainLoop.strategyParams fastMain.maker) ∧
    ∃ m ∈ recentSamples s (MainLoop.strategyParams fastMain.maker), InBins twoBins acrossBins m := by
  refine ⟨solHalved, solHalved_along, ⟨.triggersCleared, 2, by decide +kernel⟩,
    ⟨50, 2, 100, 0, []⟩, by decide +kernel, ?_⟩
  unfold InBins
  decide +kernel

theorem unit_free_iff_halving :
    (∀ s, Along twoBins acrossBins halvingPath 10000 50 s →
      UnitFree twoBins acrossBins (MainLoop.strategyParams fastMain.maker) s) ↔
      (∀ q ∈ recentPath (MainLoop.strategyParams fastMain.maker) 10000 halvingPath, q.2 = 50) ∨
        (recentPath (MainLoop.strategyParams fastMain.maker) 10000 halvingPath).length <
          (MainLoop.strategyParams fastMain.maker).sustainedMinutes := by
  apply unit_free_iff
  · constructor <;> decide +kernel
  · decide +kernel
  · decide +kernel
  · rfl

end RangeUnits
