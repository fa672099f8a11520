import BertMMBot.MeteoraClient

/-! # The client does not depend on the token order

A pool and its mirror differ in which token comes first, so every bin id changes its sign and
every price becomes its reciprocal. The client makes the same of both. -/
namespace MirroredPool

open VaultTypes MeteoraClient PrefixCover
open MeteoraPosition (Venue bertAmount solAmount rangeBounds positionRange positionSnapshot)

variable {pool : Pool} {nftMint : String}

def mirrorBin (b : PositionBin) : PositionBin := ⟨-b.binId, b.positionYAmount, b.positionXAmount⟩

def mirrorPosition (pos : PoolPosition) : PoolPosition where
  publicKey := pos.publicKey
  totalXAmount := pos.totalYAmount
  totalYAmount := pos.totalXAmount
  feeX := pos.feeY
  feeY := pos.feeX
  lowerBinId := -pos.upperBinId
  upperBinId := -pos.lowerBinId
  positionBinData := pos.positionBinData.map mirrorBin

def mirrorVenue (venue : Venue) : Venue := { venue with bertIsX := !venue.bertIsX }

def mirrorPool (pool : Pool) : Pool where
  venue := mirrorVenue pool.venue
  activeBin := ⟨-pool.activeBin.binId, 1 / pool.activeBin.price⟩
  userPositions := pool.userPositions.map mirrorPosition
  getBinIdFromPrice := pool.getBinIdFromPrice

def mirrorRemoval (r : RemoveLiquidity) : RemoveLiquidity :=
  { r with fromBinId := -r.toBinId, toBinId := -r.fromBinId }

/-- The direction between X and Y turns round, the tokens stay. -/
def mirrorSwap (s : SwapRequest) : SwapRequest := { s with swapForY := !s.swapForY }

structure ExactPrices (pool : Pool) : Prop where
  bins : ExactBins pool.venue
  active : 0 < pool.activeBin.price

theorem findUserPosition_mirror : findUserPosition (mirrorPool pool) nftMint =
    (findUserPosition pool nftMint).map mirrorPosition := by
  unfold findUserPosition mirrorPool
  rw [List.find?_map]
  rfl

theorem requirePosition_mirror (message : String) :
    requirePosition (mirrorPool pool) nftMint message =
      (requirePosition pool nftMint message).map mirrorPosition := by
  unfold requirePosition
  rw [findUserPosition_mirror]
  cases findUserPosition pool nftMint <;> rfl

theorem amounts_mirror (pos : PoolPosition) :
    bertAmount (mirrorVenue pool.venue) (mirrorPosition pos).toOnchainPosition =
        bertAmount pool.venue pos.toOnchainPosition ∧
      solAmount (mirrorVenue pool.venue) (mirrorPosition pos).toOnchainPosition =
        solAmount pool.venue pos.toOnchainPosition := by
  unfold bertAmount solAmount mirrorVenue mirrorPosition
  cases pool.venue.bertIsX <;> exact ⟨rfl, rfl⟩

theorem rangeBounds_mirror (h : ExactPrices pool) (pos : PoolPosition) (solUsd : ℚ) :
    rangeBounds (mirrorVenue pool.venue) (mirrorPosition pos).toOnchainPosition solUsd =
      rangeBounds pool.venue pos.toOnchainPosition solUsd := by
  have hpos : ∀ binId : ℤ, 0 < stepBase pool.venue ^ binId :=
    fun binId => zpow_pos (stepBase_pos pool.venue) binId
  have hbins : ∀ binId, pool.venue.getPriceOfBinByBinId binId pool.venue.binStep =
    stepBase pool.venue ^ binId := h.bins
  have hmirror : ∀ binId, (mirrorVenue pool.venue).getPriceOfBinByBinId binId
      (mirrorVenue pool.venue).binStep = stepBase pool.venue ^ binId := h.bins
  unfold rangeBounds
  simp only [hbins, hmirror, hpos, if_true, mirrorPosition, zpow_neg, inv_pos, div_inv_eq_mul]
  cases hx : pool.venue.bertIsX with
  | false => simp only [mirrorVenue, hx, Bool.not_false, if_true, Bool.false_eq_true, if_false,
      div_eq_mul_inv, mul_comm]
  | true => simp only [mirrorVenue, hx, Bool.not_true, if_true, Bool.false_eq_true, if_false,
      mul_comm]

theorem positionSnapshot_mirror (h : ExactPrices pool) (pos : PoolPosition) (solUsd : ℚ) :
    positionSnapshot (mirrorVenue pool.venue) solUsd (mirrorPosition pos).toOnchainPosition =
      positionSnapshot pool.venue solUsd pos.toOnchainPosition := by
  have hfees : ∀ a b : ℕ, (if (mirrorVenue pool.venue).bertIsX then a else b) =
      if pool.venue.bertIsX then b else a := by
    intro a b
    unfold mirrorVenue
    cases pool.venue.bertIsX <;> rfl
  unfold positionSnapshot positionRange
  rw [rangeBounds_mirror h, (amounts_mirror pos).1, (amounts_mirror pos).2]
  simp only [hfees]
  rfl

theorem getPosition_mirror (h : ExactPrices pool) (nftMint : String) (solUsd : ℚ) :
    getPosition (mirrorPool pool) nftMint solUsd = getPosition pool nftMint solUsd := by
  unfold getPosition
  rw [findUserPosition_mirror, Option.map_map]
  congr 1
  funext pos
  exact positionSnapshot_mirror h pos solUsd

theorem expectedOut_mirror (pos : PoolPosition) :
    expectedOut (mirrorPool pool) (mirrorPosition pos) = expectedOut pool pos := by
  unfold expectedOut mirrorPool mirrorVenue mirrorPosition
  cases pool.venue.bertIsX <;> rfl

theorem buildClosePositionTx_mirror (nftMint : String) :
    buildClosePositionTx (mirrorPool pool) nftMint =
      (buildClosePositionTx pool nftMint).map fun close => (mirrorRemoval close.1, close.2) := by
  unfold buildClosePositionTx
  rw [requirePosition_mirror]
  cases requirePosition pool nftMint _ with
  | error e => rfl
  | ok pos =>
    change Except.ok _ = Except.ok _
    rw [expectedOut_mirror]
    rfl

theorem effectivePriceUsd_mirror (h : ExactPrices pool) (solUsd : ℚ) :
    effectivePriceUsd (mirrorPool pool) solUsd = effectivePriceUsd pool solUsd := by
  have hactive := h.active
  unfold effectivePriceUsd mirrorPool mirrorVenue
  cases pool.venue.bertIsX <;> simp [hactive, mul_comm, div_eq_mul_inv]

theorem simulateClose_mirror (h : ExactPrices pool) (nftMint : String) (solUsd : ℚ) :
    simulateClose (mirrorPool pool) nftMint solUsd = simulateClose pool nftMint solUsd := by
  unfold simulateClose
  rw [requirePosition_mirror, effectivePriceUsd_mirror h]
  cases requirePosition pool nftMint _ with
  | error e => rfl
  | ok pos =>
    change Except.ok _ = Except.ok _
    rw [expectedOut_mirror]

theorem map_sorted_up (bins : List PositionBin) :
    (bins.insertionSort fun a b => a.binId ≤ b.binId).map mirrorBin =
      (bins.map mirrorBin).insertionSort fun a b => b.binId ≤ a.binId := by
  apply List.map_insertionSort
  intro a _ b _
  simp [mirrorBin]

theorem map_sorted_down (bins : List PositionBin) :
    (bins.insertionSort fun a b => b.binId ≤ a.binId).map mirrorBin =
      (bins.map mirrorBin).insertionSort fun a b => a.binId ≤ b.binId := by
  apply List.map_insertionSort
  intro a _ b _
  simp [mirrorBin]

theorem binsBelow_mirror (bins : List PositionBin) :
    binsBelow (mirrorPool pool) (bins.map mirrorBin) = (binsAbove pool bins).map mirrorBin := by
  unfold binsBelow binsAbove
  rw [List.filter_map, map_sorted_up]
  simp [Function.comp_def, mirrorPool, mirrorBin]

theorem binsAbove_mirror (bins : List PositionBin) :
    binsAbove (mirrorPool pool) (bins.map mirrorBin) = (binsBelow pool bins).map mirrorBin := by
  unfold binsBelow binsAbove
  rw [List.filter_map, map_sorted_down]
  simp [Function.comp_def, mirrorPool, mirrorBin]

theorem binsHolding_mirror (bins : List PositionBin) (token : Token) :
    binsHolding (mirrorPool pool) (bins.map mirrorBin) token =
      (binsHolding pool bins token).map mirrorBin := by
  have hx : (mirrorPool pool).venue.bertIsX = !pool.venue.bertIsX := rfl
  cases token <;> simp only [binsHolding, hx, binsBelow_mirror, binsAbove_mirror] <;>
    cases pool.venue.bertIsX <;> rfl

theorem amountField_mirror (token : Token) (b : PositionBin) :
    amountField (mirrorPool pool) token (mirrorBin b) = amountField pool token b := by
  have hx : (mirrorPool pool).venue.bertIsX = !pool.venue.bertIsX := rfl
  cases token <;> simp only [amountField, hx] <;> cases pool.venue.bertIsX <;> rfl

theorem selectedBins_mirror (bins : List PositionBin) (token : Token) (need : ℤ) :
    selectedBins (mirrorPool pool) (bins.map mirrorBin) token need =
      (selectedBins pool bins token need).map mirrorBin := by
  unfold selectedBins
  split
  · rw [binsHolding_mirror, takeUntil_map]
    simp only [amountField_mirror]
  · rfl

theorem min?_map_neg (ids : List ℤ) : (ids.map Neg.neg).min? = ids.max?.map Neg.neg := by
  cases hmax : ids.max? with
  | none =>
    rw [List.max?_eq_none_iff.mp hmax]
    rfl
  | some hi =>
    obtain ⟨hmem, hle⟩ := List.max?_eq_some_iff.mp hmax
    refine List.min?_eq_some_iff.mpr ⟨List.mem_map_of_mem hmem, ?_⟩
    intro b hb
    obtain ⟨a, ha, rfl⟩ := List.mem_map.mp hb
    exact neg_le_neg (hle a ha)

theorem max?_map_neg (ids : List ℤ) : (ids.map Neg.neg).max? = ids.min?.map Neg.neg := by
  cases hmin : ids.min? with
  | none =>
    rw [List.min?_eq_none_iff.mp hmin]
    rfl
  | some lo =>
    obtain ⟨hmem, hle⟩ := List.min?_eq_some_iff.mp hmin
    refine List.max?_eq_some_iff.mpr ⟨List.mem_map_of_mem hmem, ?_⟩
    intro b hb
    obtain ⟨a, ha, rfl⟩ := List.mem_map.mp hb
    exact neg_le_neg (hle a ha)

theorem sideRange_mirror (position : String) (side : List PositionBin) :
    sideRange position ((side.map mirrorBin).map PositionBin.binId) =
      (sideRange position (side.map PositionBin.binId)).map mirrorRemoval := by
  have hneg : (side.map mirrorBin).map PositionBin.binId =
      (side.map PositionBin.binId).map Neg.neg := by
    simp [mirrorBin]
  unfold sideRange
  rw [hneg, min?_map_neg, max?_map_neg]
  cases (side.map PositionBin.binId).min? <;> cases (side.map PositionBin.binId).max? <;> rfl

theorem buildPartialCloseTx_mirror (positionId : String) (needSolLamports needBertRaw : ℤ) :
    buildPartialCloseTx (mirrorPool pool) positionId needSolLamports needBertRaw =
      (buildPartialCloseTx pool positionId needSolLamports needBertRaw).map
        (List.map mirrorRemoval) := by
  unfold buildPartialCloseTx
  rw [requirePosition_mirror]
  cases requirePosition pool positionId _ with
  | error e => rfl
  | ok pos =>
    change (if _ then _ else _) = Except.map _ (if _ then _ else _)
    simp only [mirrorPosition, selectedBins_mirror, sideRange_mirror, List.map_eq_nil_iff]
    split
    · rfl
    · change Except.ok _ = Except.ok _
      rw [List.map_append]
      cases sideRange pos.publicKey _ <;> cases sideRange pos.publicKey _ <;> rfl

theorem bertPerSol_mirror (h : ExactPrices pool) : bertPerSol (mirrorPool pool) = bertPerSol pool := by
  have hactive := h.active
  unfold bertPerSol mirrorPool mirrorVenue
  cases pool.venue.bertIsX <;> simp [hactive]

theorem buildSwapToRatioTx_mirror (h : ExactPrices pool) (haveBertRaw haveSolLamports : ℕ)
    (targetBertRatio : ℚ) :
    buildSwapToRatioTx (mirrorPool pool) haveBertRaw haveSolLamports targetBertRatio =
      (buildSwapToRatioTx pool haveBertRaw haveSolLamports targetBertRatio).map mirrorSwap := by
  have hx : (mirrorPool pool).venue.bertIsX = !pool.venue.bertIsX := rfl
  unfold buildSwapToRatioTx tokenX tokenY
  simp only [bertPerSol_mirror h, hx]
  split
  · rfl
  split
  · rfl
  split <;> cases pool.venue.bertIsX <;> rfl

/-- On a pool and on its mirror the client reads the same, expects the same, removes mirrored
bins and sells the same token in the same amount. -/
theorem mirror_agrees (pool : Pool) (h : ExactPrices pool) :
    (∀ nftMint solUsd, getPosition (mirrorPool pool) nftMint solUsd =
      getPosition pool nftMint solUsd) ∧
    (∀ nftMint, buildClosePositionTx (mirrorPool pool) nftMint =
      (buildClosePositionTx pool nftMint).map fun close => (mirrorRemoval close.1, close.2)) ∧
    (∀ nftMint solUsd, simulateClose (mirrorPool pool) nftMint solUsd =
      simulateClose pool nftMint solUsd) ∧
    (∀ positionId needSol needBert,
      buildPartialCloseTx (mirrorPool pool) positionId needSol needBert =
        (buildPartialCloseTx pool positionId needSol needBert).map (List.map mirrorRemoval)) ∧
    ∀ bertRaw solLamports ratio,
      buildSwapToRatioTx (mirrorPool pool) bertRaw solLamports ratio =
        (buildSwapToRatioTx pool bertRaw solLamports ratio).map mirrorSwap :=
  ⟨getPosition_mirror h, buildClosePositionTx_mirror, simulateClose_mirror h,
    buildPartialCloseTx_mirror, buildSwapToRatioTx_mirror h⟩

def exactPool : Pool where
  venue := ⟨true, 25, fun binId binStep => (1 + (binStep : ℚ) / 10000) ^ binId⟩
  activeBin := ⟨3, 1 / 5000⟩
  userPositions := [⟨⟨"a", 1000000, 1000000000, 0, 0, 2, 4⟩, [⟨2, 0, 500⟩, ⟨4, 700, 0⟩]⟩]
  getBinIdFromPrice _ _ := 0

theorem mirror_agrees_exact :
    getPosition (mirrorPool exactPool) "a" 100 = getPosition exactPool "a" 100 ∧
      buildPartialCloseTx (mirrorPool exactPool) "a" 100 0 =
        .ok [⟨"a", -2, -2, fullBps, false⟩] := by
  have h := mirror_agrees exactPool ⟨fun _ => rfl, by norm_num [exactPool]⟩
  refine ⟨h.1 "a" 100, ?_⟩
  rw [h.2.2.2.1 "a" 100 0]
  decide +kernel

end MirroredPool
