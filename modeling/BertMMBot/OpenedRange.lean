import BertMMBot.MeteoraClient
import BertMMBot.PriceGrid
import Mathlib.Data.Int.Log

/-! # The range of a new position

The bins of a new position are rounded outwards from the requested prices when BERT is token X.
In a pool of the other order the price of a bin falls as its BERT price rises, and the same
rounding goes inwards. -/
namespace OpenedRange

open VaultTypes MeteoraClient PriceGrid
open MeteoraPosition (Venue PositionRange rangeBounds positionRange)
open BotProgram (OpenPositionParams)

variable {pool : Pool} {params : OpenPositionParams} {pos : OnchainPosition} {base : ℚ}
  {lowerUsd upperUsd solUsd : ℚ}

/-- The library rounds to the grid of exact prices. -/
structure GridPrices (pool : Pool) : Prop where
  step : 0 < pool.venue.binStep
  bins : ExactBins pool.venue
  floor : ∀ price, 0 < price →
    FloorPoint (stepBase pool.venue) price (pool.getBinIdFromPrice price true)
  ceil : ∀ price, 0 < price →
    CeilPoint (stepBase pool.venue) price (pool.getBinIdFromPrice price false)

/-- The range holds the requested one, with less than a bin step to spare on either side. -/
structure Covers (base lowerUsd upperUsd : ℚ) (range : PositionRange) : Prop where
  lower : range.lowerBertUsd ≤ lowerUsd
  lowerNear : lowerUsd < range.lowerBertUsd * base
  upper : upperUsd ≤ range.upperBertUsd
  upperNear : range.upperBertUsd < upperUsd * base

/-- However the pool has moved since, the position that was opened is reported to cover what was
asked for. -/
def ReportedCovering (pool : Pool) (params : OpenPositionParams) : Prop :=
  ∀ req, buildOpenPositionTx pool params = .ok req → ∀ later nftMint pos snapshot,
    later.venue = pool.venue → findUserPosition later nftMint = some pos →
    pos.lowerBinId = req.minBinId → pos.upperBinId = req.maxBinId →
    getPosition later nftMint params.solUsd = some snapshot →
    Covers (stepBase pool.venue) params.lowerUsd params.upperUsd snapshot.range

/-- BERT comes first, or nothing is opened, or the requested bounds are prices of bins, or no
bin's price lies between them. -/
def Coverable (pool : Pool) (params : OpenPositionParams) : Prop :=
  pool.venue.bertIsX = true ∨ params.lowerUsd ≤ 0 ∨
    (OnGrid (stepBase pool.venue) (params.solUsd / params.lowerUsd) ∧
      OnGrid (stepBase pool.venue) (params.solUsd / params.upperUsd)) ∨
    ¬∃ binId : ℤ, params.solUsd / params.upperUsd ≤ stepBase pool.venue ^ binId ∧
      stepBase pool.venue ^ binId ≤ params.solUsd / params.lowerUsd

theorem GridPrices.one_lt (h : GridPrices pool) : 1 < stepBase pool.venue := by
  have hstep : (0 : ℚ) < pool.venue.binStep := by exact_mod_cast h.step
  unfold stepBase
  linarith [div_pos hstep (by norm_num : (0 : ℚ) < 10000)]

theorem rangeBounds_bertIsX (hbins : ExactBins pool.venue) (hbase : 1 < stepBase pool.venue)
    (hx : pool.venue.bertIsX = true) (hsol : 0 < solUsd) (hle : pos.lowerBinId ≤ pos.upperBinId) :
    rangeBounds pool.venue pos solUsd = (stepBase pool.venue ^ pos.lowerBinId * solUsd,
      stepBase pool.venue ^ pos.upperBinId * solUsd) := by
  have hmono := mul_le_mul_of_nonneg_right ((zpow_le_zpow_iff_right₀ hbase).mpr hle) hsol.le
  unfold rangeBounds
  simp only [hx, if_true, hbins _, if_neg (not_lt.mpr hmono)]

theorem rangeBounds_bertIsY (hbins : ExactBins pool.venue) (hbase : 1 < stepBase pool.venue)
    (hx : pool.venue.bertIsX = false) (hsol : 0 < solUsd) (hle : pos.lowerBinId ≤ pos.upperBinId) :
    rangeBounds pool.venue pos solUsd = (solUsd / stepBase pool.venue ^ pos.upperBinId,
      solUsd / stepBase pool.venue ^ pos.lowerBinId) := by
  have hpos : ∀ binId : ℤ, 0 < stepBase pool.venue ^ binId :=
    fun binId => zpow_pos (stepBase_pos pool.venue) binId
  have hmono := div_le_div_of_nonneg_left hsol.le (hpos pos.lowerBinId)
    ((zpow_le_zpow_iff_right₀ hbase).mpr hle)
  unfold rangeBounds
  simp only [hx, Bool.false_eq_true, if_false, hbins _, hpos, if_true, if_neg (not_lt.mpr hmono)]

theorem covers_bertIsX (hbins : ExactBins pool.venue) (hbase : 1 < stepBase pool.venue)
    (hx : pool.venue.bertIsX = true) (hsol : 0 < solUsd) (hle : pos.lowerBinId ≤ pos.upperBinId) :
    Covers (stepBase pool.venue) lowerUsd upperUsd (positionRange pool.venue pos solUsd) ↔
      FloorPoint (stepBase pool.venue) (lowerUsd / solUsd) pos.lowerBinId ∧
        CeilPoint (stepBase pool.venue) (upperUsd / solUsd) pos.upperBinId := by
  have hne := (stepBase_pos pool.venue).ne'
  have hlow : (positionRange pool.venue pos solUsd).lowerBertUsd =
      stepBase pool.venue ^ pos.lowerBinId * solUsd := by
    rw [positionRange, rangeBounds_bertIsX hbins hbase hx hsol hle]
  have hhigh : (positionRange pool.venue pos solUsd).upperBertUsd =
      stepBase pool.venue ^ pos.upperBinId * solUsd := by
    rw [positionRange, rangeBounds_bertIsX hbins hbase hx hsol hle]
  have hlower : stepBase pool.venue ^ pos.lowerBinId ≤ lowerUsd / solUsd ↔
      stepBase pool.venue ^ pos.lowerBinId * solUsd ≤ lowerUsd := le_div_iff₀ hsol
  have hlowerNear : lowerUsd / solUsd < stepBase pool.venue ^ (pos.lowerBinId + 1) ↔
      lowerUsd < stepBase pool.venue ^ pos.lowerBinId * solUsd * stepBase pool.venue := by
    rw [div_lt_iff₀ hsol, zpow_add_one₀ hne, mul_right_comm]
  have hupper : upperUsd / solUsd ≤ stepBase pool.venue ^ pos.upperBinId ↔
      upperUsd ≤ stepBase pool.venue ^ pos.upperBinId * solUsd := div_le_iff₀ hsol
  have hupperNear : stepBase pool.venue ^ (pos.upperBinId - 1) < upperUsd / solUsd ↔
      stepBase pool.venue ^ pos.upperBinId * solUsd < upperUsd * stepBase pool.venue := by
    rw [lt_div_iff₀ hsol, zpow_sub_one₀ hne, mul_right_comm, ← div_eq_mul_inv,
      div_lt_iff₀ (stepBase_pos pool.venue)]
  constructor
  · rintro ⟨h₁, h₂, h₃, h₄⟩
    rw [hlow] at h₁ h₂
    rw [hhigh] at h₃ h₄
    exact ⟨⟨hlower.mpr h₁, hlowerNear.mpr h₂⟩, ⟨hupperNear.mpr h₄, hupper.mpr h₃⟩⟩
  · rintro ⟨⟨h₁, h₂⟩, h₄, h₃⟩
    refine ⟨?_, ?_, ?_, ?_⟩
    · rw [hlow]
      exact hlower.mp h₁
    · rw [hlow]
      exact hlowerNear.mp h₂
    · rw [hhigh]
      exact hupper.mp h₃
    · rw [hhigh]
      exact hupperNear.mp h₄

theorem covers_bertIsY (hbins : ExactBins pool.venue) (hbase : 1 < stepBase pool.venue)
    (hx : pool.venue.bertIsX = false) (hsol : 0 < solUsd) (hlow₀ : 0 < lowerUsd)
    (hup₀ : 0 < upperUsd) (hle : pos.lowerBinId ≤ pos.upperBinId) :
    Covers (stepBase pool.venue) lowerUsd upperUsd (positionRange pool.venue pos solUsd) ↔
      FloorPoint (stepBase pool.venue) (solUsd / upperUsd) pos.lowerBinId ∧
        CeilPoint (stepBase pool.venue) (solUsd / lowerUsd) pos.upperBinId := by
  have hne := (stepBase_pos pool.venue).ne'
  have hpos : ∀ binId : ℤ, 0 < stepBase pool.venue ^ binId :=
    fun binId => zpow_pos (stepBase_pos pool.venue) binId
  have hlow : (positionRange pool.venue pos solUsd).lowerBertUsd =
      solUsd / stepBase pool.venue ^ pos.upperBinId := by
    rw [positionRange, rangeBounds_bertIsY hbins hbase hx hsol hle]
  have hhigh : (positionRange pool.venue pos solUsd).upperBertUsd =
      solUsd / stepBase pool.venue ^ pos.lowerBinId := by
    rw [positionRange, rangeBounds_bertIsY hbins hbase hx hsol hle]
  have hlower : solUsd / lowerUsd ≤ stepBase pool.venue ^ pos.upperBinId ↔
      solUsd / stepBase pool.venue ^ pos.upperBinId ≤ lowerUsd :=
    div_le_comm₀ hlow₀ (hpos _)
  have hlowerNear : stepBase pool.venue ^ (pos.upperBinId - 1) < solUsd / lowerUsd ↔
      lowerUsd < solUsd / stepBase pool.venue ^ pos.upperBinId * stepBase pool.venue := by
    rw [zpow_sub_one₀ hne, lt_div_comm₀ (by have := hpos pos.upperBinId; positivity) hlow₀]
    field_simp
  have hupper : stepBase pool.venue ^ pos.lowerBinId ≤ solUsd / upperUsd ↔
      upperUsd ≤ solUsd / stepBase pool.venue ^ pos.lowerBinId :=
    le_div_comm₀ (hpos _) hup₀
  have hupperNear : solUsd / upperUsd < stepBase pool.venue ^ (pos.lowerBinId + 1) ↔
      solUsd / stepBase pool.venue ^ pos.lowerBinId < upperUsd * stepBase pool.venue := by
    rw [zpow_add_one₀ hne, div_lt_iff₀ hup₀, div_lt_iff₀ (hpos _)]
    constructor <;> intro h <;> linarith
  constructor
  · rintro ⟨h₁, h₂, h₃, h₄⟩
    rw [hlow] at h₁ h₂
    rw [hhigh] at h₃ h₄
    exact ⟨⟨hupper.mpr h₃, hupperNear.mpr h₄⟩, ⟨hlowerNear.mpr h₂, hlower.mpr h₁⟩⟩
  · rintro ⟨⟨h₃, h₄⟩, h₂, h₁⟩
    refine ⟨?_, ?_, ?_, ?_⟩
    · rw [hlow]
      exact hlower.mp h₁
    · rw [hlow]
      exact hlowerNear.mp h₂
    · rw [hhigh]
      exact hupper.mp h₃
    · rw [hhigh]
      exact hupperNear.mp h₄

def quoted (pool : Pool) (bertUsd solUsd : ℚ) : ℚ :=
  if pool.venue.bertIsX then bertUsd / solUsd else solUsd / bertUsd

def lowerBin (pool : Pool) (params : OpenPositionParams) : ℤ :=
  pool.getBinIdFromPrice (quoted pool params.lowerUsd params.solUsd) true

def upperBin (pool : Pool) (params : OpenPositionParams) : ℤ :=
  pool.getBinIdFromPrice (quoted pool params.upperUsd params.solUsd) false

theorem usdToBinId_ok {bertUsd : ℚ} (hsol : 0 < solUsd) (hbert : 0 < bertUsd) (roundDown : Bool) :
    usdToBinId pool bertUsd solUsd roundDown =
      .ok (pool.getBinIdFromPrice (quoted pool bertUsd solUsd) roundDown) := by
  unfold usdToBinId quoted
  rw [if_neg (by rw [not_or, not_le, not_le]; exact ⟨hsol, hbert⟩)]

theorem buildOpenPositionTx_bins (hsol : 0 < params.solUsd) (hlow : 0 < params.lowerUsd)
    (hup : 0 < params.upperUsd) :
    ∃ req, buildOpenPositionTx pool params = .ok req ∧
      req.minBinId = min (lowerBin pool params) (upperBin pool params) ∧
      req.maxBinId = max (lowerBin pool params) (upperBin pool params) := by
  unfold buildOpenPositionTx
  rw [usdToBinId_ok hsol hlow, usdToBinId_ok hsol hup]
  exact ⟨_, rfl, rfl, rfl⟩

theorem buildOpenPositionTx_refused (hlow : params.lowerUsd ≤ 0) (req : OpenRequest) :
    buildOpenPositionTx pool params ≠ .ok req := by
  unfold buildOpenPositionTx usdToBinId
  rw [if_pos (.inr hlow)]
  intro h
  cases h

theorem reportedCovering_iff (hsol : 0 < params.solUsd) (hlow : 0 < params.lowerUsd)
    (hup : 0 < params.upperUsd) :
    ReportedCovering pool params ↔ ∀ pos : OnchainPosition,
      pos.lowerBinId = min (lowerBin pool params) (upperBin pool params) →
      pos.upperBinId = max (lowerBin pool params) (upperBin pool params) →
      Covers (stepBase pool.venue) params.lowerUsd params.upperUsd
        (positionRange pool.venue pos params.solUsd) := by
  obtain ⟨req, hreq, hmin, hmax⟩ := @buildOpenPositionTx_bins pool params hsol hlow hup
  constructor
  · intro h pos hlower hupper
    have hlater : findUserPosition { pool with userPositions := [⟨pos, []⟩] } pos.publicKey =
        some ⟨pos, []⟩ := by
      simp [findUserPosition]
    refine h req hreq { pool with userPositions := [⟨pos, []⟩] } pos.publicKey ⟨pos, []⟩
      (MeteoraPosition.positionSnapshot pool.venue params.solUsd pos) rfl hlater
      (hlower.trans hmin.symm) (hupper.trans hmax.symm) ?_
    unfold getPosition
    rw [hlater]
    rfl
  · intro h req' hreq' later nftMint pos snapshot hvenue hfound hlower hupper hreported
    obtain rfl : req = req' := Except.ok.inj (hreq.symm.trans hreq')
    unfold getPosition at hreported
    rw [hfound, hvenue] at hreported
    cases hreported
    exact h pos.toOnchainPosition (hlower.trans hmin) (hupper.trans hmax)

theorem reportedCovering_bertIsX (hgrid : GridPrices pool) (hx : pool.venue.bertIsX = true)
    (hsol : 0 < params.solUsd) (hlow : 0 < params.lowerUsd)
    (hlt : params.lowerUsd < params.upperUsd) : ReportedCovering pool params := by
  have hbase := hgrid.one_lt
  have hup := hlow.trans hlt
  have hq : ∀ bertUsd, quoted pool bertUsd params.solUsd = bertUsd / params.solUsd := fun bertUsd =>
    if_pos hx
  have hfloor := hgrid.floor (quoted pool params.lowerUsd params.solUsd)
    (by rw [hq]; exact div_pos hlow hsol)
  have hceil := hgrid.ceil (quoted pool params.upperUsd params.solUsd)
    (by rw [hq]; exact div_pos hup hsol)
  have hle : lowerBin pool params ≤ upperBin pool params := by
    refine (zpow_le_zpow_iff_right₀ hbase).mp (hfloor.1.trans (le_trans ?_ hceil.2))
    rw [hq, hq]
    exact div_le_div_of_nonneg_right hlt.le hsol.le
  rw [reportedCovering_iff hsol hlow hup]
  intro pos hlower hupper
  rw [min_eq_left hle] at hlower
  rw [max_eq_right hle] at hupper
  rw [covers_bertIsX hgrid.bins hbase hx hsol (by rw [hlower, hupper]; exact hle), hlower, hupper,
    ← hq, ← hq]
  exact ⟨hfloor, hceil⟩

theorem reportedCovering_bertIsY (hgrid : GridPrices pool) (hx : pool.venue.bertIsX = false)
    (hsol : 0 < params.solUsd) (hlow : 0 < params.lowerUsd)
    (hlt : params.lowerUsd < params.upperUsd) :
    ReportedCovering pool params ↔
      (OnGrid (stepBase pool.venue) (params.solUsd / params.lowerUsd) ∧
        OnGrid (stepBase pool.venue) (params.solUsd / params.upperUsd)) ∨
      ¬∃ binId : ℤ, params.solUsd / params.upperUsd ≤ stepBase pool.venue ^ binId ∧
        stepBase pool.venue ^ binId ≤ params.solUsd / params.lowerUsd := by
  have hbase := hgrid.one_lt
  have hup := hlow.trans hlt
  have hq : ∀ bertUsd, quoted pool bertUsd params.solUsd = params.solUsd / bertUsd := fun bertUsd =>
    if_neg (by rw [hx]; exact Bool.false_ne_true)
  have hfloor : FloorPoint (stepBase pool.venue) (params.solUsd / params.lowerUsd)
      (lowerBin pool params) := by
    rw [lowerBin, hq]
    exact hgrid.floor _ (div_pos hsol hlow)
  have hceil : CeilPoint (stepBase pool.venue) (params.solUsd / params.upperUsd)
      (upperBin pool params) := by
    rw [upperBin, hq]
    exact hgrid.ceil _ (div_pos hsol hup)
  have hprices : params.solUsd / params.upperUsd < params.solUsd / params.lowerUsd :=
    div_lt_div_of_pos_left hsol hlow hlt
  rw [reportedCovering_iff hsol hlow hup, ← exists_between_iff hbase hfloor hceil]
  by_cases hle : upperBin pool params ≤ lowerBin pool params
  · rw [min_eq_right hle, max_eq_left hle]
    have hcovers : ∀ pos : OnchainPosition, pos.lowerBinId = upperBin pool params →
        pos.upperBinId = lowerBin pool params →
        (Covers (stepBase pool.venue) params.lowerUsd params.upperUsd
            (positionRange pool.venue pos params.solUsd) ↔
          OnGrid (stepBase pool.venue) (params.solUsd / params.upperUsd) ∧
            OnGrid (stepBase pool.venue) (params.solUsd / params.lowerUsd)) := by
      intro pos hlower hupper
      rw [covers_bertIsY hgrid.bins hbase hx hsol hlow hup (by rw [hlower, hupper]; exact hle),
        hlower, hupper, hceil.floorPoint_iff hbase, hfloor.ceilPoint_iff hbase]
    constructor
    · intro h
      have hgridded := (hcovers ⟨"", 0, 0, 0, 0, upperBin pool params, lowerBin pool params⟩ rfl
        rfl).mp (h _ rfl rfl)
      exact .inl hgridded.symm
    · rintro (hgridded | hno) pos hlower hupper
      · exact (hcovers pos hlower hupper).mpr hgridded.symm
      · exact absurd hle hno
  · have hlt' : lowerBin pool params < upperBin pool params := not_le.mp hle
    rw [min_eq_left hlt'.le, max_eq_right hlt'.le]
    constructor
    · intro _
      exact .inr hle
    · intro _ pos hlower hupper
      rw [covers_bertIsY hgrid.bins hbase hx hsol hlow hup (by rw [hlower, hupper]; exact hlt'.le),
        hlower, hupper]
      have hfar : params.solUsd / params.lowerUsd < stepBase pool.venue ^ upperBin pool params := by
        by_contra hge
        exact hle ((hfloor.le_iff hbase).mpr (not_lt.mp hge))
      have hnear : stepBase pool.venue ^ lowerBin pool params < params.solUsd / params.upperUsd := by
        by_contra hge
        exact hle ((hceil.le_iff hbase).mpr (not_lt.mp hge))
      exact ⟨⟨hnear.le, hprices.trans hfloor.2⟩, ⟨hceil.1.trans hprices, hfar.le⟩⟩

/-- The reported range covers the requested one, and by less than a bin step, exactly when BERT
is token X or the rounding makes no difference. -/
theorem opened_range_covers_iff (pool : Pool) (params : OpenPositionParams)
    (hgrid : GridPrices pool) (hsol : 0 < params.solUsd)
    (hlt : params.lowerUsd < params.upperUsd) :
    ReportedCovering pool params ↔ Coverable pool params := by
  unfold Coverable
  by_cases hlow : params.lowerUsd ≤ 0
  · constructor
    · intro _
      exact .inr (.inl hlow)
    · intro _ req hreq
      exact absurd hreq (buildOpenPositionTx_refused hlow req)
  · have hlow' := not_le.mp hlow
    cases hx : pool.venue.bertIsX with
    | true =>
      have hcovering := reportedCovering_bertIsX hgrid hx hsol hlow' hlt
      exact ⟨fun _ => .inl rfl, fun _ => hcovering⟩
    | false =>
      rw [reportedCovering_bertIsY hgrid hx hsol hlow' hlt]
      simp [hlow]

/-- Neighbouring bins differ by a factor of two, and BERT is token Y. -/
def doublingPool : Pool where
  venue := ⟨false, 10000, fun binId _ => 2 ^ binId⟩
  activeBin := ⟨0, 1⟩
  userPositions := []
  getBinIdFromPrice price roundDown := if roundDown then Int.log 2 price else Int.clog 2 price

theorem doublingPool_grid : GridPrices doublingPool := by
  have hbase : stepBase doublingPool.venue = ((2 : ℕ) : ℚ) := by norm_num [stepBase, doublingPool]
  refine ⟨by decide, ?_, ?_, ?_⟩
  · intro binId
    rw [hbase]
    rfl
  · intro price hprice
    rw [hbase]
    exact ⟨Int.zpow_log_le_self (by norm_num) hprice, Int.lt_zpow_succ_log_self (by norm_num) price⟩
  · intro price hprice
    rw [hbase]
    exact ⟨Int.zpow_pred_clog_lt_self (by norm_num) hprice, Int.self_le_zpow_clog (by norm_num) price⟩

/-- Asked for 5 to 30 USD at 100 USD for a SOL, the position reaches from 6.25 to 25. -/
def askedRange : OpenPositionParams := ⟨5, 30, 0, 0, 100⟩

theorem opened_range_falls_short : ∃ req snapshot,
    buildOpenPositionTx doublingPool askedRange = .ok req ∧
    getPosition { doublingPool with
      userPositions := [⟨⟨"a", 0, 0, 0, 0, req.minBinId, req.maxBinId⟩, []⟩] } "a" 100 =
        some snapshot ∧
    askedRange.lowerUsd < snapshot.range.lowerBertUsd ∧
    snapshot.range.upperBertUsd < askedRange.upperUsd := by
  refine ⟨⟨2, 4, 0, 0⟩, _, by decide +kernel, rfl, ?_, ?_⟩
  · decide +kernel
  · decide +kernel

theorem opened_range_covers_iff_doubling :
    ReportedCovering doublingPool askedRange ↔ Coverable doublingPool askedRange :=
  opened_range_covers_iff doublingPool askedRange doublingPool_grid (by decide +kernel)
    (by decide +kernel)

end OpenedRange
