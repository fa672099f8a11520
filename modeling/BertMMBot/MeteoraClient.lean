import BertMMBot.BotProgram
import BertMMBot.PrefixCover

/-! # The Meteora client

What the client asks the pool library for, computed from a fetched state of the pool. The
token order decides which side of the active bin holds which token, which way a price is
quoted and which token a swap sells. -/
namespace MeteoraClient

open VaultTypes ShareMath MeteoraPosition PrefixCover
open BotProgram (SimulatedClose ExpectedOut OpenPositionParams)

inductive Token where
  | sol
  | bert
  deriving DecidableEq, Repr

structure PositionBin where
  binId : ℤ
  positionXAmount : ℕ
  positionYAmount : ℕ
  deriving DecidableEq, Repr

structure PoolPosition extends OnchainPosition where
  positionBinData : List PositionBin
  deriving DecidableEq, Repr

/-- The price is in token Y per token X. -/
structure ActiveBin where
  binId : ℤ
  price : ℚ

/-- The state of the pool, and its library's way from a price to a bin. -/
structure Pool where
  venue : Venue
  activeBin : ActiveBin
  userPositions : List PoolPosition
  getBinIdFromPrice : ℚ → Bool → ℤ

variable (pool : Pool)

def tokenX : Token := if pool.venue.bertIsX then .bert else .sol

def tokenY : Token := if pool.venue.bertIsX then .sol else .bert

def findUserPosition (nftMint : String) : Option PoolPosition :=
  pool.userPositions.find? fun p => p.publicKey = nftMint

def requirePosition (nftMint message : String) : Except Thrown PoolPosition :=
  match findUserPosition pool nftMint with
  | some pos => .ok pos
  | none => .error (.error message)

def getPosition (nftMint : String) (solUsd : ℚ) : Option PositionSnapshot :=
  (findUserPosition pool nftMint).map fun pos => positionSnapshot pool.venue solUsd pos.toOnchainPosition

/-- `roundDown` asks for the bin at or below the price. -/
def usdToBinId (bertUsd solUsd : ℚ) (roundDown : Bool) : Except Thrown ℤ :=
  if solUsd ≤ 0 ∨ bertUsd ≤ 0 then
    .error (.error s!"Invalid USD prices: bertUsd={bertUsd}, solUsd={solUsd}")
  else
    let priceYPerX := if pool.venue.bertIsX then bertUsd / solUsd else solUsd / bertUsd
    .ok (pool.getBinIdFromPrice priceYPerX roundDown)

structure OpenRequest where
  minBinId : ℤ
  maxBinId : ℤ
  totalXAmount : ℤ
  totalYAmount : ℤ
  deriving DecidableEq, Repr

def buildOpenPositionTx (params : OpenPositionParams) : Except Thrown OpenRequest := do
  let minBinId ← usdToBinId pool params.lowerUsd params.solUsd true
  let maxBinId ← usdToBinId pool params.upperUsd params.solUsd false
  return {
    minBinId := min minBinId maxBinId
    maxBinId := max minBinId maxBinId
    totalXAmount := if pool.venue.bertIsX then params.bertAmountRaw else params.solAmountLamports
    totalYAmount := if pool.venue.bertIsX then params.solAmountLamports else params.bertAmountRaw }

structure RemoveLiquidity where
  position : String
  fromBinId : ℤ
  toBinId : ℤ
  bps : ℕ
  shouldClaimAndClose : Bool
  deriving DecidableEq, Repr

def fullBps : ℕ := 10000

def expectedOut (pos : PoolPosition) : ExpectedOut :=
  if pool.venue.bertIsX then ⟨pos.totalXAmount + pos.feeX, pos.totalYAmount + pos.feeY⟩
  else ⟨pos.totalYAmount + pos.feeY, pos.totalXAmount + pos.feeX⟩

def buildClosePositionTx (nftMint : String) : Except Thrown (RemoveLiquidity × ExpectedOut) := do
  let pos ← requirePosition pool nftMint
    s!"buildClosePositionTx: position not found for {nftMint}"
  return (⟨pos.publicKey, pos.lowerBinId, pos.upperBinId, fullBps, true⟩, expectedOut pool pos)

/-- The price of the active bin in USD for a BERT. -/
def effectivePriceUsd (solUsd : ℚ) : ℚ :=
  let priceYPerX := pool.activeBin.price
  if 0 < solUsd then
    if pool.venue.bertIsX then priceYPerX * solUsd
    else if 0 < priceYPerX then solUsd / priceYPerX else 0
  else 0

def simulateClose (nftMint : String) (solUsd : ℚ) : Except Thrown SimulatedClose := do
  let pos ← requirePosition pool nftMint s!"simulateClose: position not found for {nftMint}"
  let out := expectedOut pool pos
  return ⟨effectivePriceUsd pool solUsd, out.expectedBertOut, out.expectedSolOut⟩

/-- Nearest first. -/
def binsBelow (binData : List PositionBin) : List PositionBin :=
  (binData.filter fun b => b.binId < pool.activeBin.binId).insertionSort fun a b => b.binId ≤ a.binId

def binsAbove (binData : List PositionBin) : List PositionBin :=
  (binData.filter fun b => pool.activeBin.binId < b.binId).insertionSort fun a b => a.binId ≤ b.binId

/-- Below the active bin the position holds token Y, above it token X. -/
def binsHolding (binData : List PositionBin) : Token → List PositionBin
  | .sol => if pool.venue.bertIsX then binsBelow pool binData else binsAbove pool binData
  | .bert => if pool.venue.bertIsX then binsAbove pool binData else binsBelow pool binData

def amountField : Token → PositionBin → ℕ
  | .sol => if pool.venue.bertIsX then PositionBin.positionYAmount else PositionBin.positionXAmount
  | .bert => if pool.venue.bertIsX then PositionBin.positionXAmount else PositionBin.positionYAmount

def selectedBins (binData : List PositionBin) (token : Token) (need : ℤ) : List PositionBin :=
  if 0 < need then takeUntil (amountField pool token) need 0 (binsHolding pool binData token) else []

/-- The smallest range around the selected bins. -/
def sideRange (position : String) (side : List ℤ) : Option RemoveLiquidity := do
  let fromBinId ← side.min?
  let toBinId ← side.max?
  return ⟨position, fromBinId, toBinId, fullBps, false⟩

/-- One removal for each side with selected bins, the SOL side first. -/
def buildPartialCloseTx (positionId : String) (needSolLamports needBertRaw : ℤ) :
    Except Thrown (List RemoveLiquidity) := do
  let pos ← requirePosition pool positionId
    s!"buildPartialCloseTx: position {positionId} not found"
  let solSide := (selectedBins pool pos.positionBinData .sol needSolLamports).map PositionBin.binId
  let bertSide := (selectedBins pool pos.positionBinData .bert needBertRaw).map PositionBin.binId
  if solSide = [] ∧ bertSide = [] then
    .error (.error ("buildPartialCloseTx: no bins selected " ++
      "(need amounts may be 0 or position has no eligible bins)"))
  else
    return (sideRange pos.publicKey solSide).toList ++ (sideRange pos.publicKey bertSide).toList

structure SwapRequest where
  inToken : Token
  outToken : Token
  swapForY : Bool
  inAmount : ℤ
  deriving DecidableEq, Repr

/-- Zero for a pool without a price. -/
def bertPerSol : ℚ :=
  let priceYPerX := pool.activeBin.price
  if pool.venue.bertIsX then (if 0 < priceYPerX then 1 / priceYPerX else 0) else priceYPerX

/-- The BERT that is missing for the target ratio, or too much if negative. -/
def deltaBert (bertPerSol : ℚ) (haveBertRaw haveSolLamports : ℕ) (targetBertRatio : ℚ) : ℚ :=
  let bertHuman := haveBertRaw / rawPerBert
  let solHuman := haveSolLamports / lamportsPerSol
  let totalInBert := bertHuman + solHuman * bertPerSol
  totalInBert * targetBertRatio - bertHuman

/-- `none` is the empty transaction. -/
def buildSwapToRatioTx (haveBertRaw haveSolLamports : ℕ) (targetBertRatio : ℚ) :
    Option SwapRequest :=
  let delta := deltaBert (bertPerSol pool) haveBertRaw haveSolLamports targetBertRatio
  if bertPerSol pool ≤ 0 then none
  else if |delta| < 1 then none
  else if 0 < delta then
    some {
      inToken := if pool.venue.bertIsX then tokenY pool else tokenX pool
      outToken := if pool.venue.bertIsX then tokenX pool else tokenY pool
      swapForY := if pool.venue.bertIsX then false else true
      inAmount := Strategy.round (delta / bertPerSol pool * lamportsPerSol) }
  else
    some {
      inToken := if pool.venue.bertIsX then tokenX pool else tokenY pool
      outToken := if pool.venue.bertIsX then tokenY pool else tokenX pool
      swapForY := if pool.venue.bertIsX then true else false
      inAmount := Strategy.round (-delta * rawPerBert) }

/-- A bin step is in hundredths of a percent. -/
def stepBase (venue : Venue) : ℚ := 1 + venue.binStep / 10000

def ExactBins (venue : Venue) : Prop :=
  ∀ binId, venue.getPriceOfBinByBinId binId venue.binStep = stepBase venue ^ binId

theorem stepBase_pos (venue : Venue) : 0 < stepBase venue := by
  unfold stepBase
  positivity

end MeteoraClient
