import BertMMBot.RaydiumClient
import BertMMBot.RestingRange
import Mathlib.Algebra.Order.SuccPred
import Mathlib.Data.Int.ConditionallyCompleteOrder
import Mathlib.Data.Int.SuccPred
import Mathlib.Data.Nat.Find

/-! # Positions on Raydium

The client of the other venue. The bounds of a position are ticks, at multiples of a spacing, and
the pool is sorted by mint; what a tick is worth, and what a position holds, is for the library
to say. A part of a position cannot be taken out here. -/
namespace RaydiumPositions

open VaultTypes ShareMath BotProgram PriceGrid
open MeteoraPosition (PositionRange PositionSnapshot)
open RaydiumClient (PoolInfo)

structure OwnerPosition where
  nftMint : String
  tickLower : ℤ
  tickUpper : ℤ
  liquidity : ℕ
  tokenFeesOwedA : ℕ
  tokenFeesOwedB : ℕ
  deriving DecidableEq, Repr

/-- What the client keeps of the pool, and the positions of its wallet. -/
structure PoolData where
  isBertMintA : Bool
  decimalsA : ℕ
  decimalsB : ℕ
  sqrtPriceX64 : ℕ
  ownerPositions : List OwnerPosition

/-- What comes out of a position, and what is left of it after slippage. -/
structure RemovedAmounts where
  amountA : ℕ
  amountB : ℕ
  amountSlippageA : ℕ
  amountSlippageB : ℕ

/-- The arithmetic of the library. Its two ways from liquidity to amounts are its own. -/
structure Sdk where
  getSqrtPriceX64FromTick : ℤ → ℕ
  sqrtPriceX64ToPrice : ℕ → ℕ → ℕ → ℚ
  getTickWithPriceAndTickspacing : ℚ → ℤ → ℕ → ℕ → ℤ
  getLiquidityFromTokenAmounts : ℕ → ℕ → ℕ → ℤ → ℤ → ℤ
  liquidityMathAmounts : ℕ → ℕ → ℕ → ℕ → ℕ × ℕ
  poolUtilsAmounts : PoolData → ℤ → ℤ → ℕ → ℚ → RemovedAmounts

def tickSpacing : ℤ := 120

def slippageBps : ℚ := 300

section Client

variable (sdk : Sdk) (pool : PoolData)

def tickPrice (tick : ℤ) : ℚ :=
  sdk.sqrtPriceX64ToPrice (sdk.getSqrtPriceX64FromTick tick) pool.decimalsA pool.decimalsB

def poolInfo : PoolInfo where
  isBertMintA := pool.isBertMintA
  poolPrice := sdk.sqrtPriceX64ToPrice pool.sqrtPriceX64 pool.decimalsA pool.decimalsB

def findOwnerPosition (nftMint : String) : Option OwnerPosition :=
  pool.ownerPositions.find? fun p => p.nftMint = nftMint

def requireOwnerPosition (nftMint message : String) : Except Thrown OwnerPosition :=
  match findOwnerPosition pool nftMint with
  | some pos => .ok pos
  | none => .error (.error message)

def rangeBounds (pos : OwnerPosition) (solUsd : ℚ) : ℚ × ℚ :=
  let priceLower := tickPrice sdk pool pos.tickLower
  let priceUpper := tickPrice sdk pool pos.tickUpper
  if pool.isBertMintA then (priceLower * solUsd, priceUpper * solUsd)
  else
    (if 0 < priceUpper then solUsd / priceUpper else 0,
      if 0 < priceLower then solUsd / priceLower else 0)

def positionRange (pos : OwnerPosition) (solUsd : ℚ) : PositionRange :=
  let bounds := rangeBounds sdk pool pos solUsd
  let centerBertUsd := (bounds.1 + bounds.2) / 2
  { lowerBertUsd := bounds.1
    upperBertUsd := bounds.2
    centerBertUsd
    widthPct := if 0 < centerBertUsd then (bounds.2 - bounds.1) / centerBertUsd * 100 else 0 }

def byToken (amounts : ℕ × ℕ) : ℕ × ℕ :=
  if pool.isBertMintA then amounts else (amounts.2, amounts.1)

def bertDecimals : ℕ := if pool.isBertMintA then pool.decimalsA else pool.decimalsB

def heldAmounts (pos : OwnerPosition) : ℕ × ℕ :=
  byToken pool (sdk.liquidityMathAmounts pool.sqrtPriceX64
    (sdk.getSqrtPriceX64FromTick pos.tickLower) (sdk.getSqrtPriceX64FromTick pos.tickUpper)
    pos.liquidity)

def positionSnapshot (solUsd : ℚ) (pos : OwnerPosition) : PositionSnapshot :=
  let range := positionRange sdk pool pos solUsd
  let held := heldAmounts sdk pool pos
  let fees := byToken pool (pos.tokenFeesOwedA, pos.tokenFeesOwedB)
  let bertValueUsd :=
    if 0 < range.centerBertUsd then held.1 / 10 ^ bertDecimals pool * range.centerBertUsd else 0
  let solValueUsd := if 0 < solUsd then held.2 / lamportsPerSol * solUsd else 0
  { nftMint := pos.nftMint
    range
    bertAmount := held.1
    solAmount := held.2
    uncollectedFeesBert := fees.1
    uncollectedFeesSol := fees.2
    totalValueUsd := bertValueUsd + solValueUsd }

def getPosition (nftMint : String) (solUsd : ℚ) : Option PositionSnapshot :=
  (findOwnerPosition pool nftMint).map (positionSnapshot sdk pool solUsd)

def quoted (bertUsd solUsd : ℚ) : ℚ :=
  if pool.isBertMintA then bertUsd / solUsd else solUsd / bertUsd

def usdToTick (bertUsd solUsd : ℚ) : Except Thrown ℤ :=
  if solUsd ≤ 0 ∨ bertUsd ≤ 0 then
    .error (.error s!"Invalid USD prices: bertUsd={bertUsd}, solUsd={solUsd}")
  else
    .ok (sdk.getTickWithPriceAndTickspacing (quoted pool bertUsd solUsd) tickSpacing
      pool.decimalsA pool.decimalsB)

structure OpenFromLiquidity where
  tickLower : ℤ
  tickUpper : ℤ
  liquidity : ℤ
  amountMaxA : ℤ
  amountMaxB : ℤ
  deriving DecidableEq, Repr

def amountMax (amount : ℤ) : ℤ := ⌈(amount : ℚ) * (1 + slippageBps / 10000)⌉

def buildOpenPositionTx (params : OpenPositionParams) : Except Thrown OpenFromLiquidity := do
  let tick1 ← usdToTick sdk pool params.lowerUsd params.solUsd
  let tick2 ← usdToTick sdk pool params.upperUsd params.solUsd
  let tickLower := min tick1 tick2
  let tickUpper := max tick1 tick2
  let amountA := if pool.isBertMintA then params.bertAmountRaw else params.solAmountLamports
  let amountB := if pool.isBertMintA then params.solAmountLamports else params.bertAmountRaw
  return {
    tickLower
    tickUpper
    liquidity := sdk.getLiquidityFromTokenAmounts pool.sqrtPriceX64
      (sdk.getSqrtPriceX64FromTick tickLower) (sdk.getSqrtPriceX64FromTick tickUpper) amountA amountB
    amountMaxA := amountMax amountA
    amountMaxB := amountMax amountB }

structure DecreaseLiquidity where
  ownerPosition : OwnerPosition
  closePosition : Bool
  liquidity : ℕ
  amountMinA : ℕ
  amountMinB : ℕ
  deriving DecidableEq, Repr

def removedAmounts (pos : OwnerPosition) : RemovedAmounts :=
  sdk.poolUtilsAmounts pool pos.tickLower pos.tickUpper pos.liquidity (slippageBps / 10000)

def expectedOut (pos : OwnerPosition) : ExpectedOut :=
  let amounts := removedAmounts sdk pool pos
  let out := byToken pool (amounts.amountA, amounts.amountB)
  ⟨out.1, out.2⟩

def buildClosePositionTx (nftMint : String) : Except Thrown (DecreaseLiquidity × ExpectedOut) := do
  let pos ← requireOwnerPosition pool nftMint
    s!"buildClosePositionTx: position not found for nftMint={nftMint}"
  let amounts := removedAmounts sdk pool pos
  return (⟨pos, true, pos.liquidity, amounts.amountSlippageA, amounts.amountSlippageB⟩,
    expectedOut sdk pool pos)

def buildPartialCloseTx (_positionId : String) (_needSolLamports _needBertRaw : ℤ) :
    Except Thrown Transaction :=
  .error (.error "UNIMPLEMENTED: partialClose not supported on Raydium client (MVP is Meteora-only)")

/-- The price of the pool in USD for a BERT, if any BERT comes out. -/
def effectivePriceUsd (bertOut : ℕ) (solUsd : ℚ) : ℚ :=
  if 0 < (bertOut : ℚ) / 10 ^ bertDecimals pool ∧ 0 < solUsd then
    let poolPrice := (poolInfo sdk pool).poolPrice
    if pool.isBertMintA then poolPrice * solUsd
    else if 0 < poolPrice then solUsd / poolPrice else 0
  else 0

def simulateClose (nftMint : String) (solUsd : ℚ) : Except Thrown SimulatedClose := do
  let pos ← requireOwnerPosition pool nftMint
    s!"simulateClose: position not found for nftMint={nftMint}"
  let out := expectedOut sdk pool pos
  return ⟨effectivePriceUsd sdk pool out.expectedBertOut solUsd, out.expectedBertOut,
    out.expectedSolOut⟩

end Client

section Grid

variable {K : Type*} [LinearOrder K] {g : ℤ → K} {price low high : K} {i k : ℤ}

/-- The price lies between the neighbours of a point of the grid. -/
def Beside (g : ℤ → K) (price : K) (i : ℤ) : Prop := g (i - 1) < price ∧ price < g (i + 1)

theorem beside_sorted {first last : ℤ} (hg : StrictMonoOn g (Set.Icc first last))
    (hi : i ∈ Set.Ioo first last) (hk : k ∈ Set.Ioo first last) (hlow : Beside g low i)
    (hhigh : Beside g high k) (hle : low ≤ high) :
    Beside g low (min i k) ∧ Beside g high (max i k) := by
  obtain ⟨hfirsti, hlasti⟩ := hi
  obtain ⟨hfirstk, hlastk⟩ := hk
  have hpoint : ∀ j, first ≤ j → j ≤ last → j ∈ Set.Icc first last := fun _ h h' => ⟨h, h'⟩
  by_cases hik : i ≤ k
  · rw [min_eq_left hik, max_eq_right hik]
    exact ⟨hlow, hhigh⟩
  · have hnext : i = k + 1 := by
      have hlt := (hg.lt_iff_lt (hpoint _ (by omega) (by omega))
        (hpoint _ (by omega) (by omega))).mp (hlow.1.trans (hle.trans_lt hhigh.2))
      omega
    subst hnext
    rw [min_eq_right (by omega), max_eq_left (by omega)]
    have hbelow : g k < low := by simpa using hlow.1
    constructor
    · refine ⟨?_, hle.trans_lt hhigh.2⟩
      exact (hg (hpoint _ (by omega) (by omega)) (hpoint _ (by omega) (by omega))
        (by omega)).trans hbelow
    · refine ⟨?_, hhigh.2.trans ?_⟩
      · rw [add_sub_cancel_right]
        exact hbelow.trans_le hle
      · exact hg (hpoint _ (by omega) (by omega)) (hpoint _ (by omega) (by omega)) (by omega)

end Grid

section Ticks

variable {sdk : Sdk} {pool : PoolData} {pos : OwnerPosition} {params : OpenPositionParams}
  {req : OpenFromLiquidity} {base solUsd openSolUsd bertUsd : ℚ} {first last i k : ℤ}

def spacedPrice (sdk : Sdk) (pool : PoolData) (k : ℤ) : ℚ := tickPrice sdk pool (tickSpacing * k)

/-- Between its first and its last tick that can be used, the prices of the library rise by no more
than `base` from one to the next, and a price that is not at the very ends is turned into one
beside it. -/
structure SpacedTicks (sdk : Sdk) (pool : PoolData) (base : ℚ) (first last : ℤ) : Prop where
  positive : ∀ k ∈ Set.Icc first last, 0 < spacedPrice sdk pool k
  rising : StrictMonoOn (spacedPrice sdk pool) (Set.Icc first last)
  step : ∀ k ∈ Set.Ico first last, spacedPrice sdk pool (k + 1) ≤ spacedPrice sdk pool k * base
  ticks : ∀ price ∈ Set.Ico (spacedPrice sdk pool (first + 1)) (spacedPrice sdk pool (last - 1)),
    ∃ k ∈ Set.Ioo first last, sdk.getTickWithPriceAndTickspacing price tickSpacing
      pool.decimalsA pool.decimalsB = tickSpacing * k ∧ Beside (spacedPrice sdk pool) price k

/-- The library has ticks around this price. -/
def Quotable (sdk : Sdk) (pool : PoolData) (first last : ℤ) (bertUsd solUsd : ℚ) : Prop :=
  quoted pool bertUsd solUsd ∈
    Set.Ico (spacedPrice sdk pool (first + 1)) (spacedPrice sdk pool (last - 1))

instance (sdk : Sdk) (pool : PoolData) (first last : ℤ) (bertUsd solUsd : ℚ) :
    Decidable (Quotable sdk pool first last bertUsd solUsd) :=
  inferInstanceAs (Decidable (_ ≤ _ ∧ _ < _))

def tickUsd (sdk : Sdk) (pool : PoolData) (k : ℤ) (solUsd : ℚ) : ℚ :=
  if pool.isBertMintA then spacedPrice sdk pool k * solUsd else solUsd / spacedPrice sdk pool k

theorem SpacedTicks.base_pos (h : SpacedTicks sdk pool base first last)
    (hk : k ∈ Set.Ioo first last) : 0 < base := by
  obtain ⟨hfirst, hlast⟩ := hk
  have hprice := h.positive k ⟨hfirst.le, hlast.le⟩
  have hnext := (h.positive (k + 1) ⟨by omega, hlast⟩).trans_le (h.step k ⟨hfirst.le, hlast⟩)
  exact pos_of_mul_pos_right hnext hprice.le

theorem tickUsd_drift (hprice : 0 < spacedPrice sdk pool k) (hopen : 0 < openSolUsd) :
    tickUsd sdk pool k solUsd = tickUsd sdk pool k openSolUsd * (solUsd / openSolUsd) := by
  unfold tickUsd
  split
  · field_simp
  · field_simp

theorem beside_oneStep (h : SpacedTicks sdk pool base first last) (hk : k ∈ Set.Ioo first last)
    (hopen : 0 < openSolUsd) (hbert : 0 < bertUsd)
    (hbeside : Beside (spacedPrice sdk pool) (quoted pool bertUsd openSolUsd) k) :
    Reconciliation.OneStep base bertUsd (tickUsd sdk pool k openSolUsd) := by
  have hbase := h.base_pos hk
  obtain ⟨hfirst, hlast⟩ := hk
  have hprice := h.positive k ⟨hfirst.le, hlast.le⟩
  have habove : quoted pool bertUsd openSolUsd < spacedPrice sdk pool k * base :=
    hbeside.2.trans_le (h.step k ⟨hfirst.le, hlast⟩)
  have hbelow : spacedPrice sdk pool k < quoted pool bertUsd openSolUsd * base := by
    have hstep := h.step (k - 1) ⟨by omega, by omega⟩
    rw [sub_add_cancel] at hstep
    exact hstep.trans_lt (mul_lt_mul_of_pos_right hbeside.1 hbase)
  unfold quoted at hbelow habove
  unfold Reconciliation.OneStep tickUsd
  cases hx : pool.isBertMintA with
  | true =>
    simp only [hx, if_true] at hbelow habove ⊢
    rw [div_mul_eq_mul_div, lt_div_iff₀ hopen] at hbelow
    rw [div_lt_iff₀ hopen] at habove
    constructor <;> linarith
  | false =>
    simp only [hx, Bool.false_eq_true, if_false] at hbelow habove ⊢
    rw [div_mul_eq_mul_div, lt_div_iff₀ hbert] at hbelow
    rw [div_lt_iff₀ hbert] at habove
    constructor
    · rw [div_mul_eq_mul_div, lt_div_iff₀ hprice]
      linarith
    · rw [div_lt_iff₀ hprice]
      linarith

/-- Which of the two ticks has the lower USD price depends on the order of the mints. -/
def lowTick (pool : PoolData) (i k : ℤ) : ℤ := if pool.isBertMintA then i else k

def highTick (pool : PoolData) (i k : ℤ) : ℤ := if pool.isBertMintA then k else i

theorem rangeBounds_spaced (hi : 0 < spacedPrice sdk pool i) (hk : 0 < spacedPrice sdk pool k)
    (hlower : pos.tickLower = tickSpacing * i) (hupper : pos.tickUpper = tickSpacing * k) :
    rangeBounds sdk pool pos solUsd = (tickUsd sdk pool (lowTick pool i k) solUsd,
      tickUsd sdk pool (highTick pool i k) solUsd) := by
  have hprice : ∀ k, tickPrice sdk pool (tickSpacing * k) = spacedPrice sdk pool k := fun _ => rfl
  unfold rangeBounds tickUsd lowTick highTick
  rw [hlower, hupper, hprice, hprice]
  cases hx : pool.isBertMintA with
  | true => simp
  | false => simp [hi, hk]

theorem usdToTick_ok {tick : ℤ} (h : usdToTick sdk pool bertUsd solUsd = .ok tick) :
    0 < solUsd ∧ 0 < bertUsd ∧ tick = sdk.getTickWithPriceAndTickspacing
      (quoted pool bertUsd solUsd) tickSpacing pool.decimalsA pool.decimalsB := by
  unfold usdToTick at h
  by_cases hbad : solUsd ≤ 0 ∨ bertUsd ≤ 0
  · rw [if_pos hbad] at h
    cases h
  · rw [if_neg hbad] at h
    rw [not_or, not_le, not_le] at hbad
    exact ⟨hbad.1, hbad.2, (Except.ok.inj h).symm⟩

theorem buildOpenPositionTx_ticks (hreq : buildOpenPositionTx sdk pool params = .ok req) :
    ∃ tick1 tick2, usdToTick sdk pool params.lowerUsd params.solUsd = .ok tick1 ∧
      usdToTick sdk pool params.upperUsd params.solUsd = .ok tick2 ∧
      req.tickLower = min tick1 tick2 ∧ req.tickUpper = max tick1 tick2 := by
  unfold buildOpenPositionTx at hreq
  cases h1 : usdToTick sdk pool params.lowerUsd params.solUsd with
  | error e =>
    rw [h1] at hreq
    cases hreq
  | ok tick1 =>
    cases h2 : usdToTick sdk pool params.upperUsd params.solUsd with
    | error e =>
      rw [h1, h2] at hreq
      cases hreq
    | ok tick2 =>
      rw [h1, h2] at hreq
      cases hreq
      exact ⟨tick1, tick2, rfl, rfl, rfl, rfl⟩

/-- The ticks of a new position, and how far their prices are from the requested ones. -/
structure Placed (sdk : Sdk) (pool : PoolData) (base : ℚ) (first last : ℤ)
    (params : OpenPositionParams) (req : OpenFromLiquidity) (i k : ℤ) : Prop where
  sol : 0 < params.solUsd
  inside : i ∈ Set.Ioo first last ∧ k ∈ Set.Ioo first last
  lower : req.tickLower = tickSpacing * i
  upper : req.tickUpper = tickSpacing * k
  lowerNear : Reconciliation.OneStep base params.lowerUsd
    (tickUsd sdk pool (lowTick pool i k) params.solUsd)
  upperNear : Reconciliation.OneStep base params.upperUsd
    (tickUsd sdk pool (highTick pool i k) params.solUsd)

theorem min_spaced (i k : ℤ) : min (tickSpacing * i) (tickSpacing * k) = tickSpacing * min i k :=
  (mul_min_of_nonneg i k (by decide : (0 : ℤ) ≤ tickSpacing)).symm

theorem max_spaced (i k : ℤ) : max (tickSpacing * i) (tickSpacing * k) = tickSpacing * max i k :=
  (mul_max_of_nonneg i k (by decide : (0 : ℤ) ≤ tickSpacing)).symm

theorem lowTick_mem {window : Set ℤ} (hi : i ∈ window) (hk : k ∈ window) :
    lowTick pool i k ∈ window := by
  unfold lowTick
  split
  · exact hi
  · exact hk

theorem highTick_mem {window : Set ℤ} (hi : i ∈ window) (hk : k ∈ window) :
    highTick pool i k ∈ window := by
  unfold highTick
  split
  · exact hk
  · exact hi

theorem beside_ordered (h : SpacedTicks sdk pool base first last) (hsol : 0 < params.solUsd)
    (hlow : 0 < params.lowerUsd) (hle : params.lowerUsd ≤ params.upperUsd)
    (hi : i ∈ Set.Ioo first last) (hk : k ∈ Set.Ioo first last)
    (hbesidei : Beside (spacedPrice sdk pool) (quoted pool params.lowerUsd params.solUsd) i)
    (hbesidek : Beside (spacedPrice sdk pool) (quoted pool params.upperUsd params.solUsd) k) :
    Beside (spacedPrice sdk pool) (quoted pool params.lowerUsd params.solUsd)
        (lowTick pool (min i k) (max i k)) ∧
      Beside (spacedPrice sdk pool) (quoted pool params.upperUsd params.solUsd)
        (highTick pool (min i k) (max i k)) := by
  unfold lowTick highTick
  cases hx : pool.isBertMintA with
  | true =>
    apply beside_sorted h.rising hi hk hbesidei hbesidek
    simp only [quoted, hx, if_true]
    exact div_le_div_of_nonneg_right hle hsol.le
  | false =>
    have hprices : quoted pool params.upperUsd params.solUsd ≤
        quoted pool params.lowerUsd params.solUsd := by
      simp only [quoted, hx, Bool.false_eq_true, if_false]
      exact div_le_div_of_nonneg_left hsol.le hlow hle
    have hsorted := beside_sorted h.rising hk hi hbesidek hbesidei hprices
    rw [min_comm, max_comm] at hsorted
    exact hsorted.symm

theorem opened_placed (h : SpacedTicks sdk pool base first last)
    (hreq : buildOpenPositionTx sdk pool params = .ok req)
    (hle : params.lowerUsd ≤ params.upperUsd)
    (hquotedLow : Quotable sdk pool first last params.lowerUsd params.solUsd)
    (hquotedUp : Quotable sdk pool first last params.upperUsd params.solUsd) :
    ∃ i k, Placed sdk pool base first last params req i k := by
  obtain ⟨tick1, tick2, h1, h2, hlower, hupper⟩ := buildOpenPositionTx_ticks hreq
  obtain ⟨hsol, hlow, rfl⟩ := usdToTick_ok h1
  obtain ⟨-, hup, rfl⟩ := usdToTick_ok h2
  obtain ⟨i, hinsidei, hi, hbesidei⟩ := h.ticks _ hquotedLow
  obtain ⟨k, hinsidek, hk, hbesidek⟩ := h.ticks _ hquotedUp
  rw [hi, hk, min_spaced] at hlower
  rw [hi, hk, max_spaced] at hupper
  have hmin : min i k ∈ Set.Ioo first last := min_rec' (· ∈ Set.Ioo first last) hinsidei hinsidek
  have hmax : max i k ∈ Set.Ioo first last := max_rec' (· ∈ Set.Ioo first last) hinsidei hinsidek
  obtain ⟨hbesideLow, hbesideHigh⟩ :=
    beside_ordered h hsol hlow hle hinsidei hinsidek hbesidei hbesidek
  exact ⟨min i k, max i k, hsol, ⟨hmin, hmax⟩, hlower, hupper,
    beside_oneStep h (lowTick_mem hmin hmax) hsol hlow hbesideLow,
    beside_oneStep h (highTick_mem hmin hmax) hsol hup hbesideHigh⟩

/-- What a later state of the pool reports of a position between these ticks. -/
def Reported (sdk : Sdk) (pool : PoolData) (nftMint : String) (req : OpenFromLiquidity)
    (solUsd : ℚ) (snapshot : PositionSnapshot) : Prop :=
  ∃ later : PoolData, ∃ pos : OwnerPosition, later.isBertMintA = pool.isBertMintA ∧
    later.decimalsA = pool.decimalsA ∧ later.decimalsB = pool.decimalsB ∧
    findOwnerPosition later nftMint = some pos ∧ pos.tickLower = req.tickLower ∧
    pos.tickUpper = req.tickUpper ∧ getPosition sdk later nftMint solUsd = some snapshot

theorem Placed.carried {nftMint : String} {snapshot : PositionSnapshot}
    (h : SpacedTicks sdk pool base first last)
    (hplaced : Placed sdk pool base first last params req i k)
    (hreported : Reported sdk pool nftMint req solUsd snapshot) :
    RestingRange.Carried base params.lowerUsd params.upperUsd (solUsd / params.solUsd)
      snapshot.range := by
  obtain ⟨later, pos, horder, hdecA, hdecB, hfound, hlower, hupper, hreported⟩ := hreported
  obtain ⟨hi, hk⟩ := hplaced.inside
  have hpositive : ∀ j ∈ Set.Ioo first last, 0 < spacedPrice sdk pool j :=
    fun j hj => h.positive j (Set.Ioo_subset_Icc_self hj)
  have hbounds : rangeBounds sdk later pos solUsd =
      (tickUsd sdk pool (lowTick pool i k) solUsd,
        tickUsd sdk pool (highTick pool i k) solUsd) := by
    have hsame : rangeBounds sdk later pos solUsd = rangeBounds sdk pool pos solUsd := by
      unfold rangeBounds tickPrice
      rw [horder, hdecA, hdecB]
    rw [hsame]
    exact rangeBounds_spaced (hpositive i hi) (hpositive k hk) (hlower.trans hplaced.lower)
      (hupper.trans hplaced.upper)
  unfold getPosition at hreported
  rw [hfound] at hreported
  cases hreported
  constructor
  · exact ⟨_, hplaced.lowerNear,
      (congrArg Prod.fst hbounds).trans
        (tickUsd_drift (hpositive _ (lowTick_mem hi hk)) hplaced.sol)⟩
  · exact ⟨_, hplaced.upperNear,
      (congrArg Prod.snd hbounds).trans
        (tickUsd_drift (hpositive _ (highTick_mem hi hk)) hplaced.sol)⟩

end Ticks

section Opened

open AsyncContract AsyncRecords TxSubmission Rebalancer StoredBounds RestingRange

variable {H : BotHost} {jito : Option JitoClient} {config : BotConfig} {mid : MidPrice}
  {row : StoredPosition}

/-- On this venue, too, what a rebalance has opened and stored is at rest from then on, up to the
spacing of the ticks, when the library has ticks around the bounds. -/
theorem spaced_rests (sdk : Sdk) (pool : PoolData) {base : ℚ} {first last : ℤ}
    (hticks : SpacedTicks sdk pool base first last) (hwidth : 0 ≤ config.rangeWidthPct)
    {current : Option PositionSnapshot} {cause : Cause} {b b' : BotWorld} {diary : Diary}
    {x : Except Thrown RebalanceResult}
    (hrun : Ends (recordedHost H) (recorded ()
      (executeRebalance (networkRebalancer jito config) mid current cause b) []) x (b', diary))
    (hrow : Stores diary row) :
    ∃ params, Built diary params row.nftMint ∧
      ∀ req, buildOpenPositionTx sdk pool params = .ok req →
        Quotable sdk pool first last params.lowerUsd params.solUsd →
        Quotable sdk pool first last params.upperUsd params.solUsd →
        ∀ s price snapshot, Judged s price snapshot →
        Reported sdk pool row.nftMint req price.solUsd snapshot →
        AtRest config base mid row s price snapshot := by
  obtain ⟨hlower, hupper, params, hbuilt, hasks⟩ := rebalance_paired hrun row hrow
  refine ⟨params, hbuilt, ?_⟩
  intro req hreq hquotedLow hquotedUp s price snapshot hs hreported
  obtain ⟨tick1, tick2, h1, h2, -⟩ := buildOpenPositionTx_ticks hreq
  obtain ⟨hbert, hle⟩ := asks_ordered hwidth hasks (usdToTick_ok h1).2.1 (usdToTick_ok h2).2.1
  obtain ⟨i, k, hplaced⟩ := opened_placed hticks hreq hle hquotedLow hquotedUp
  exact asks_atRest (hticks.base_pos hplaced.inside.1) hasks hlower hupper hplaced.sol hbert hs
    (hplaced.carried hticks hreported)

/-- What a bit of the tick does to the square root of the price. -/
def tickFactors : List ℕ :=
  [18445821805675395072, 18444899583751176192, 18443055278223355904, 18439367220385607680,
    18431993317065453568, 18417254355718170624, 18387811781193609216, 18329067761203558400,
    18212142134806163456, 17980523815641700352, 17526086738831433728, 16651378430235570176,
    15030750278694412288, 12247334978884435968, 8131365268886854656, 3584323654725218816,
    696457651848324352, 26294789957507116, 37481735321082]

def mulRightShift (value factor : ℕ) : ℕ := value * factor / 2 ^ 64

@[irreducible] def sqrtPriceX64 (tick : ℤ) : ℕ :=
  let ratio := tickFactors.zipIdx.foldl (fun ratio factor =>
    if tick.natAbs.testBit factor.2 then mulRightShift ratio factor.1 else ratio) (2 ^ 64)
  if 0 < tick then (2 ^ 128 - 1) / ratio else ratio

def x64Price (sqrtPrice decimalsA decimalsB : ℕ) : ℚ :=
  (sqrtPrice / 2 ^ 64) ^ 2 * (10 ^ decimalsA / 10 ^ decimalsB)

/-- Ticks above zero are rounded up to the spacing, if they are not on it. -/
def spacedTick (price : ℚ) (spacing : ℤ) (decimalsA decimalsB : ℕ) : ℤ :=
  let priceAt := fun tick => x64Price (sqrtPriceX64 tick) decimalsA decimalsB
  let k := Nat.findGreatest (fun k => priceAt (spacing * k) ≤ price) 400
  if price < priceAt (spacing * k + 1) then spacing * k else spacing * (k + 1)

def x64Sdk : Sdk where
  getSqrtPriceX64FromTick := sqrtPriceX64
  sqrtPriceX64ToPrice := x64Price
  getTickWithPriceAndTickspacing := spacedTick
  getLiquidityFromTokenAmounts _ _ _ amountA amountB := amountA + amountB
  liquidityMathAmounts _ _ _ liquidity := (liquidity, liquidity)
  poolUtilsAmounts _ _ _ liquidity _ := ⟨liquidity, liquidity, liquidity, liquidity⟩

def solFirst : PoolData := ⟨false, 9, 6, 0, []⟩

def x64Base : ℚ := 10121 / 10000

theorem sqrtPriceX64_steps : ∀ k ∈ List.range 400,
    0 < sqrtPriceX64 (tickSpacing * k) ∧
    sqrtPriceX64 (tickSpacing * k) < sqrtPriceX64 (tickSpacing * k + 1) ∧
    sqrtPriceX64 (tickSpacing * k + 1) < sqrtPriceX64 (tickSpacing * (k + 1)) ∧
    sqrtPriceX64 (tickSpacing * (k + 1)) ^ 2 * 10000 ≤
      sqrtPriceX64 (tickSpacing * k) ^ 2 * 10121 := by
  decide +kernel

theorem x64Price_lt {sqrtPrice sqrtPrice' : ℕ} (h : sqrtPrice < sqrtPrice') :
    x64Price sqrtPrice 9 6 < x64Price sqrtPrice' 9 6 := by
  have hlt : (sqrtPrice : ℚ) < sqrtPrice' := by exact_mod_cast h
  unfold x64Price
  gcongr

theorem spacedPrice_x64 (k : ℤ) :
    spacedPrice x64Sdk solFirst k = x64Price (sqrtPriceX64 (tickSpacing * k)) 9 6 := rfl

theorem x64_steps {k : ℤ} (hk : k ∈ Set.Ico 0 400) :
    0 < spacedPrice x64Sdk solFirst k ∧
    spacedPrice x64Sdk solFirst k < x64Price (sqrtPriceX64 (tickSpacing * k + 1)) 9 6 ∧
    x64Price (sqrtPriceX64 (tickSpacing * k + 1)) 9 6 < spacedPrice x64Sdk solFirst (k + 1) ∧
    spacedPrice x64Sdk solFirst (k + 1) ≤ spacedPrice x64Sdk solFirst k * x64Base := by
  obtain ⟨hfirst, hlast⟩ := hk
  lift k to ℕ using hfirst
  have hmem : k ∈ List.range 400 := List.mem_range.mpr (by omega)
  obtain ⟨hpos, hnext, hspaced, hstep⟩ := sqrtPriceX64_steps k hmem
  have hbase : (sqrtPriceX64 (tickSpacing * (k + 1)) : ℚ) ^ 2 * 10000 ≤
      (sqrtPriceX64 (tickSpacing * k) : ℚ) ^ 2 * 10121 := by exact_mod_cast hstep
  refine ⟨?_, x64Price_lt hnext, x64Price_lt hspaced, ?_⟩
  · rw [spacedPrice_x64, x64Price]
    positivity
  · rw [spacedPrice_x64, spacedPrice_x64, x64Price, x64Price, x64Base, div_pow, div_pow]
    linarith

theorem x64_rising : StrictMonoOn (spacedPrice x64Sdk solFirst) (Set.Icc 0 400) := by
  apply strictMonoOn_of_lt_add_one Set.ordConnected_Icc
  intro k _ hk hk'
  have hsteps := x64_steps ⟨hk.1, Int.lt_of_add_one_le hk'.2⟩
  exact hsteps.2.1.trans hsteps.2.2.1

theorem x64_ticks {price : ℚ} (hprice : price ∈ Set.Ico (spacedPrice x64Sdk solFirst (0 + 1))
    (spacedPrice x64Sdk solFirst (400 - 1))) :
    ∃ k ∈ Set.Ioo (0 : ℤ) 400, spacedTick price tickSpacing 9 6 = tickSpacing * k ∧
      Beside (spacedPrice x64Sdk solFirst) price k := by
  have hpoint : ∀ j : ℤ, 0 ≤ j → j ≤ 400 → j ∈ Set.Icc (0 : ℤ) 400 := fun _ h h' => ⟨h, h'⟩
  obtain ⟨k, hk⟩ : ∃ k, k = Nat.findGreatest
      (fun k => x64Price (sqrtPriceX64 (tickSpacing * k)) 9 6 ≤ price) 400 := ⟨_, rfl⟩
  have hone : 1 ≤ k := hk ▸ Nat.le_findGreatest (by decide) hprice.1
  have hreached : spacedPrice x64Sdk solFirst k ≤ price := by
    have hspec := Nat.findGreatest_spec
      (P := fun k : ℕ => x64Price (sqrtPriceX64 (tickSpacing * k)) 9 6 ≤ price)
      (by decide : 1 ≤ 400) hprice.1
    rwa [← hk] at hspec
  have hmax : k ≤ 400 := hk ▸ Nat.findGreatest_le 400
  have hlast : (k : ℤ) < 400 - 1 :=
    (x64_rising.lt_iff_lt (hpoint _ (by omega) (by omega)) (hpoint _ (by omega) (by omega))).mp
      (hreached.trans_lt hprice.2)
  have hbelow : price < spacedPrice x64Sdk solFirst (k + 1) := by
    have hnot := Nat.findGreatest_is_greatest
      (P := fun k : ℕ => x64Price (sqrtPriceX64 (tickSpacing * k)) 9 6 ≤ price)
      (by omega : _ < k + 1) (by omega : k + 1 ≤ 400)
    exact not_le.mp (by exact_mod_cast hnot)
  have hrise : ∀ j j' : ℤ, 0 ≤ j → j < j' → j' ≤ 400 →
      spacedPrice x64Sdk solFirst j < spacedPrice x64Sdk solFirst j' := fun j j' h h' h'' =>
    x64_rising (hpoint j h (by omega)) (hpoint j' (by omega) h'') h'
  have htick : spacedTick price tickSpacing 9 6 =
      if price < x64Price (sqrtPriceX64 (tickSpacing * k + 1)) 9 6 then tickSpacing * k
      else tickSpacing * (k + 1) := by
    unfold spacedTick
    dsimp only
    rw [← hk]
  rw [htick]
  by_cases hon : price < x64Price (sqrtPriceX64 (tickSpacing * k + 1)) 9 6
  · rw [if_pos hon]
    refine ⟨k, ⟨by omega, by omega⟩, rfl, ?_, hbelow⟩
    exact (hrise _ _ (by omega) (by omega) (by omega)).trans_le hreached
  · rw [if_neg hon]
    refine ⟨k + 1, ⟨by omega, by omega⟩, rfl, ?_, ?_⟩
    · rw [add_sub_cancel_right]
      exact (x64_steps ⟨by omega, by omega⟩).2.1.trans_le (not_lt.mp hon)
    · exact hbelow.trans (hrise _ _ (by omega) (by omega) (by omega))

theorem x64_spaced : SpacedTicks x64Sdk solFirst x64Base 0 400 where
  positive := by
    intro k hk
    by_cases hlast : k = 400
    · subst hlast
      exact (x64_steps (by decide : (0 : ℤ) ∈ Set.Ico 0 400)).1.trans
        (x64_rising (by decide) (by decide) (by decide))
    · exact (x64_steps ⟨hk.1, lt_of_le_of_ne hk.2 hlast⟩).1
  rising := x64_rising
  step := fun k hk => (x64_steps hk).2.2.2
  ticks := fun _ hprice => x64_ticks hprice

theorem spaced_rests_risen : ∃ req snapshot,
    buildOpenPositionTx x64Sdk solFirst openedParams = .ok req ∧
    Reported x64Sdk solFirst "new" req risen.solUsd snapshot ∧
    (∀ s, Judged s risen snapshot → ∀ params reason newCenterUsd,
      Strategy.decide s params ≠ .rebalance reason newCenterUsd) ∧
    Strategy.decide (leftBehind snapshot) (MainLoop.strategyParams PlayedBot.playedMain.maker) =
      .rebalance .triggersCleared soared.bertUsd := by
  have hstores : Stores (Reconciliation.openingScene.recording.play Reconciliation.opening).2.2
      Reconciliation.openedRow := by decide +kernel
  obtain ⟨params, hbuilt, hrests⟩ := spaced_rests x64Sdk solFirst x64_spaced
    (by norm_num [PlayedBot.playedConfig])
    (Reconciliation.openingScene.records Reconciliation.opening) hstores
  obtain rfl : params = openedParams := opening_built hbuilt
  have hreq : ∃ req, buildOpenPositionTx x64Sdk solFirst openedParams = .ok req := by
    unfold buildOpenPositionTx usdToTick
    rw [if_neg (by norm_num [openedParams]), if_neg (by norm_num [openedParams])]
    exact ⟨_, rfl⟩
  obtain ⟨req, hreq⟩ := hreq
  have hreported : Reported x64Sdk solFirst "new" req risen.solUsd (positionSnapshot x64Sdk
      { solFirst with ownerPositions := [⟨"new", req.tickLower, req.tickUpper, 0, 0, 0⟩] }
      risen.solUsd ⟨"new", req.tickLower, req.tickUpper, 0, 0, 0⟩) :=
    ⟨{ solFirst with ownerPositions := [⟨"new", req.tickLower, req.tickUpper, 0, 0, 0⟩] }, _, rfl,
      rfl, rfl, rfl, rfl, rfl, rfl⟩
  have hatRest := hrests req hreq (by decide +kernel) (by decide +kernel)
  refine ⟨req, _, hreq, hreported, ?_, ?_⟩
  · intro s hs
    have hfine : Fine { PlayedBot.playedConfig with rangeWidthPct := 200 / 3 } x64Base := by
      norm_num [Fine, x64Base]
    exact (hatRest s risen _ hs hreported).fresh hfine
      (by norm_num [atOpen, risen, Reconciliation.openingMid])
  · apply leftBehind_moves (hatRest _ soared _ (leftBehind_judged _) hreported).rests
    norm_num [x64Base]

end Opened

end RaydiumPositions
