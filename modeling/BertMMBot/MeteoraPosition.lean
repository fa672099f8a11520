import BertMMBot.ShareMath

/-! # Valuation of the liquidity position

The Meteora client reads amounts and bin bounds of the tracked position and prices its BERT
at the centre of the range. Bin prices come from the pool library. -/
namespace MeteoraPosition

open AsyncProgram VaultTypes VaultProgram ShareMath

/-- The pool: its token order, bin step, and the price of token Y per token X in a bin. -/
structure Venue where
  bertIsX : Bool
  binStep : ℕ
  getPriceOfBinByBinId : ℤ → ℕ → ℚ

structure PositionRange where
  lowerBertUsd : ℚ
  upperBertUsd : ℚ
  centerBertUsd : ℚ
  widthPct : ℚ
  deriving DecidableEq, Repr

structure PositionSnapshot where
  nftMint : String
  range : PositionRange
  bertAmount : ℕ
  solAmount : ℕ
  uncollectedFeesBert : ℕ
  uncollectedFeesSol : ℕ
  totalValueUsd : ℚ
  deriving DecidableEq, Repr

/-- USD prices of BERT at the two bounds, lower first. -/
def rangeBounds (v : Venue) (pos : OnchainPosition) (solUsd : ℚ) : ℚ × ℚ :=
  let lowerPriceYPerX := v.getPriceOfBinByBinId pos.lowerBinId v.binStep
  let upperPriceYPerX := v.getPriceOfBinByBinId pos.upperBinId v.binStep
  let bounds :=
    if v.bertIsX then (lowerPriceYPerX * solUsd, upperPriceYPerX * solUsd)
    else
      (if 0 < upperPriceYPerX then solUsd / upperPriceYPerX else 0,
        if 0 < lowerPriceYPerX then solUsd / lowerPriceYPerX else 0)
  if bounds.2 < bounds.1 then (bounds.2, bounds.1) else bounds

def positionRange (v : Venue) (pos : OnchainPosition) (solUsd : ℚ) : PositionRange :=
  let bounds := rangeBounds v pos solUsd
  let centerBertUsd := (bounds.1 + bounds.2) / 2
  { lowerBertUsd := bounds.1
    upperBertUsd := bounds.2
    centerBertUsd
    widthPct := if 0 < centerBertUsd then (bounds.2 - bounds.1) / centerBertUsd * 100 else 0 }

def bertAmount (v : Venue) (pos : OnchainPosition) : ℕ :=
  if v.bertIsX then pos.totalXAmount else pos.totalYAmount

def solAmount (v : Venue) (pos : OnchainPosition) : ℕ :=
  if v.bertIsX then pos.totalYAmount else pos.totalXAmount

def positionSnapshot (v : Venue) (solUsd : ℚ) (pos : OnchainPosition) : PositionSnapshot :=
  let range := positionRange v pos solUsd
  { nftMint := pos.publicKey
    range
    bertAmount := bertAmount v pos
    solAmount := solAmount v pos
    uncollectedFeesBert := if v.bertIsX then pos.feeX else pos.feeY
    uncollectedFeesSol := if v.bertIsX then pos.feeY else pos.feeX
    totalValueUsd := bertAmount v pos / rawPerBert * range.centerBertUsd +
      solAmount v pos / lamportsPerSol * solUsd }

def findPosition (nftMint : String) (userPositions : List OnchainPosition) :
    Option OnchainPosition :=
  userPositions.find? fun p => p.publicKey = nftMint

def getPosition (v : Venue) (nftMint : String) (solUsd : ℚ) : Vault (Option PositionSnapshot) := do
  let userPositions : List OnchainPosition ←
    Async.call (I := vaultInterface) Query.getPositionsByUserAndLbPair
  return (findPosition nftMint userPositions).map (positionSnapshot v solUsd)

end MeteoraPosition
