import BertMMBot.Binary64
import BertMMBot.MeteoraPosition

/-! # Strategy and reconciliation

What the main loop decides from one reading of its state, and how a stored position is
compared with the chain when the bot starts. Reasons carry the numbers their text shows. -/
namespace Strategy

open VaultTypes MeteoraPosition

/-- A number printed with a fixed count of decimals: its sign and its digits. -/
structure Fixed where
  negative : Bool
  digits : ℕ
  deriving DecidableEq, Repr

/-- The digits are those of the double, and of two numbers as near to it the greater one. -/
def toFixed (decimals : ℕ) (x : ℚ) : Fixed :=
  let d := Binary64.nearest x
  ⟨decide (d < 0), ⌊|d| * 10 ^ decimals + 1 / 2⌋₊⟩

-- 87 s are 1.45 minutes, and the double next to that is a little less
example : toFixed 1 (87000 / 60000) = ⟨false, 14⟩ := by decide +kernel

/-- `Math.round` -/
def round (x : ℚ) : ℤ := ⌊x + 1 / 2⌋

structure BotState where
  price : Option MidPrice
  priceHistory : List MidPrice
  position : Option PositionSnapshot
  lastRebalanceAt : Option ℤ
  rebalancesToday : ℕ
  killSwitchTripped : Bool
  degraded : Bool
  now : ℤ

structure StrategyParams where
  rangeWidthPct : ℚ
  sustainedMinutes : ℕ
  minRebalanceIntervalMin : ℕ
  maxRebalancesPerDay : ℕ
  oracleStaleMinutes : ℕ
  pollIntervalSec : ℕ
  deriving DecidableEq, Repr

inductive Reason where
  | killSwitchTripped
  | degradedFlagSet
  | oracleStale (minutes : ℤ)
  | oracleReturnedNull
  | noPositionYet
  | priceInRange
  | notEnoughHistory
  | notSustained
  | cooldownActive (sinceMin : Fixed) (minRebalanceIntervalMin : ℕ)
  | dailyCapReached (rebalancesToday maxRebalancesPerDay : ℕ)
  | triggersCleared
  deriving DecidableEq, Repr

inductive Decision where
  | hold (reason : Reason)
  | rebalance (reason : Reason) (newCenterUsd : ℚ)
  | pause (reason : Reason)
  | alertOnly (reason : Reason)
  deriving DecidableEq, Repr

def minuteMs : ℤ := 60000

/-- Minutes from `ts` to `now`. -/
def minutesSince (now ts : ℤ) : ℚ := (now - ts : ℤ) / (minuteMs : ℚ)

def isStale (state : BotState) (params : StrategyParams) (price : MidPrice) : Bool :=
  params.oracleStaleMinutes * minuteMs < state.now - price.ts

def inRange (range : PositionRange) (bertUsd : ℚ) : Bool :=
  range.lowerBertUsd ≤ bertUsd ∧ bertUsd ≤ range.upperBertUsd

/-- The samples that decide whether the price has been out of range for long enough. -/
def recentSamples (state : BotState) (params : StrategyParams) : List MidPrice :=
  state.priceHistory.filter fun s => state.now - params.sustainedMinutes * minuteMs ≤ s.ts

/-- With a sustained move out of range, the rate limits decide. -/
def decideLimited (state : BotState) (params : StrategyParams) (currentPrice : ℚ) : Decision :=
  match state.lastRebalanceAt.filter fun last =>
      minutesSince state.now last < params.minRebalanceIntervalMin with
  | some last =>
    .alertOnly (.cooldownActive (toFixed 1 (minutesSince state.now last))
      params.minRebalanceIntervalMin)
  | none =>
    if params.maxRebalancesPerDay ≤ state.rebalancesToday then
      .alertOnly (.dailyCapReached state.rebalancesToday params.maxRebalancesPerDay)
    else .rebalance .triggersCleared currentPrice

def decideInPosition (state : BotState) (params : StrategyParams) (price : MidPrice)
    (position : PositionSnapshot) : Decision :=
  if inRange position.range price.bertUsd then .hold .priceInRange
  else
    let recent := recentSamples state params
    if recent.length < params.sustainedMinutes then .hold .notEnoughHistory
    else if recent.any fun s => inRange position.range s.bertUsd then .hold .notSustained
    else decideLimited state params price.bertUsd

def decide (state : BotState) (params : StrategyParams) : Decision :=
  if state.killSwitchTripped then .pause .killSwitchTripped
  else if state.degraded then .pause .degradedFlagSet
  else
    match state.price with
    | none => .hold .oracleReturnedNull
    | some price =>
      if isStale state params price then
        .pause (.oracleStale (round (minutesSince state.now price.ts)))
      else
        match state.position with
        | none => .hold .noPositionYet
        | some position => decideInPosition state params price position

variable {state : BotState} {params : StrategyParams} {price : MidPrice}
  {position : PositionSnapshot} {reason : Reason} {newCenterUsd : ℚ}

theorem decideLimited_rebalance {currentPrice : ℚ}
    (h : decideLimited state params currentPrice = .rebalance reason newCenterUsd) :
    (∀ last ∈ state.lastRebalanceAt,
      last + params.minRebalanceIntervalMin * minuteMs ≤ state.now) ∧
    state.rebalancesToday < params.maxRebalancesPerDay := by
  unfold decideLimited at h
  split at h
  · cases h
  · next hnone =>
    by_cases hcap : params.maxRebalancesPerDay ≤ state.rebalancesToday
    · rw [if_pos hcap] at h
      cases h
    · refine ⟨?_, by omega⟩
      intro last hlast
      have hlate : ¬minutesSince state.now last < params.minRebalanceIntervalMin := by
        simpa using Option.filter_eq_none_iff.mp hnone last hlast
      have hdiv := not_lt.mp hlate
      rw [minutesSince, le_div_iff₀ (by norm_num [minuteMs])] at hdiv
      have hint : (params.minRebalanceIntervalMin : ℤ) * minuteMs ≤ state.now - last := by
        exact_mod_cast hdiv
      omega

/-- What a decision to rebalance requires. -/
theorem decide_rebalance (h : decide state params = .rebalance reason newCenterUsd) :
    state.killSwitchTripped = false ∧ state.degraded = false ∧ state.price.isSome ∧
      state.position.isSome ∧
      (∀ last ∈ state.lastRebalanceAt,
        last + params.minRebalanceIntervalMin * minuteMs ≤ state.now) ∧
      state.rebalancesToday < params.maxRebalancesPerDay := by
  unfold decide at h
  split at h
  · cases h
  next hkill =>
  split at h
  · cases h
  next hdegraded =>
  split at h
  · cases h
  next price hprice =>
  split at h
  · cases h
  split at h
  · cases h
  next position hposition =>
  unfold decideInPosition at h
  split at h
  · cases h
  simp only [] at h
  split at h
  · cases h
  split at h
  · cases h
  have hlimits := decideLimited_rebalance h
  exact ⟨by simpa using hkill, by simpa using hdegraded, by simp [hprice], by simp [hposition],
    hlimits⟩

inductive Mismatch where
  | chainOnly
  | stateOnly
  | nftMintDiffers (stored chain : String)
  | lowerPriceDiffers (stored chain : ℚ)
  | upperPriceDiffers
  deriving DecidableEq, Repr

inductive ReconcileResult where
  | okEmpty
  | okMatch
  | mismatch (reason : Mismatch)
  deriving DecidableEq, Repr

/-- Within ten percent of the larger of the two. -/
def approxEqual (a b : ℚ) : Bool :=
  if a = 0 ∧ b = 0 then true
  else if a = 0 ∨ b = 0 then false
  else |a - b| / max |a| |b| < 1 / 10

def reconcile (stored : Option StoredPosition) (onchain : Option PositionSnapshot) :
    ReconcileResult :=
  match stored, onchain with
  | none, none => .okEmpty
  | none, some _ => .mismatch .chainOnly
  | some _, none => .mismatch .stateOnly
  | some s, some p =>
    if s.nftMint ≠ p.nftMint then .mismatch (.nftMintDiffers s.nftMint p.nftMint)
    else if approxEqual s.lowerUsd p.range.lowerBertUsd = false then
      .mismatch (.lowerPriceDiffers s.lowerUsd p.range.lowerBertUsd)
    else if approxEqual s.upperUsd p.range.upperBertUsd = false then .mismatch .upperPriceDiffers
    else .okMatch

end Strategy
