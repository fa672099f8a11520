import BertMMBot.Reconciliation
import BertMMBot.SustainedMoves
import Mathlib.Algebra.Order.Archimedean.Basic

/-! # How far the price may go

A rebalance asks for a range around the mid, the client rounds it to bins, and from then on the
strategy judges the price by the range that is reported at the SOL price of the day. The way
there and back costs at most a step on either side: well inside the requested range nothing is
moved, and well outside it everything is, whatever SOL has done in the meantime. -/
namespace RestingRange

open AsyncContract AsyncRecords TxSubmission
open VaultTypes BotProgram Rebalancer Strategy MeteoraClient
open MeteoraPosition (PositionRange PositionSnapshot)
open OpenedRange (GridPrices)
open Reconciliation StoredBounds SustainedMoves

variable {base lowerUsd upperUsd ratio openSolUsd usd : ℚ} {range : PositionRange}

def atOpen (openSolUsd solUsd bertUsd : ℚ) : ℚ := bertUsd * (openSolUsd / solUsd)

theorem atOpen_back {solUsd : ℚ} (hopen : 0 < openSolUsd) (hsol : 0 < solUsd) (bertUsd : ℚ) :
    atOpen openSolUsd solUsd bertUsd * (solUsd / openSolUsd) = bertUsd := by
  unfold atOpen
  field_simp

/-- The bounds were a step off the requested ones at most, and have moved by this much since. -/
structure Carried (base lowerUsd upperUsd ratio : ℚ) (range : PositionRange) : Prop where
  lower : ∃ reported, OneStep base lowerUsd reported ∧ range.lowerBertUsd = reported * ratio
  upper : ∃ reported, OneStep base upperUsd reported ∧ range.upperBertUsd = reported * ratio

def Within (base lowerUsd upperUsd usd : ℚ) : Prop := lowerUsd * base ≤ usd ∧ usd * base ≤ upperUsd

def Beyond (base lowerUsd upperUsd usd : ℚ) : Prop := usd * base ≤ lowerUsd ∨ upperUsd * base ≤ usd

theorem Carried.inRange (h : Carried base lowerUsd upperUsd ratio range) (hratio : 0 < ratio)
    (hbase : 0 < base) (hwithin : Within base lowerUsd upperUsd usd) :
    Strategy.inRange range (usd * ratio) = true := by
  obtain ⟨low, hlow, hlower⟩ := h.lower
  obtain ⟨high, hhigh, hupper⟩ := h.upper
  have hbelow : low ≤ usd := hlow.2.le.trans hwithin.1
  have habove : usd ≤ high := le_of_mul_le_mul_right (hwithin.2.trans hhigh.1.le) hbase
  unfold Strategy.inRange
  rw [hlower, hupper, decide_eq_true_iff]
  constructor
  · exact mul_le_mul_of_nonneg_right hbelow hratio.le
  · exact mul_le_mul_of_nonneg_right habove hratio.le

theorem Carried.outOfRange (h : Carried base lowerUsd upperUsd ratio range) (hratio : 0 < ratio)
    (hbase : 0 < base) (hbeyond : Beyond base lowerUsd upperUsd usd) :
    Strategy.inRange range (usd * ratio) = false := by
  obtain ⟨low, hlow, hlower⟩ := h.lower
  obtain ⟨high, hhigh, hupper⟩ := h.upper
  unfold Strategy.inRange
  rw [hlower, hupper, decide_eq_false_iff_not, not_and_or, not_le, not_le]
  rcases hbeyond with hbelow | habove
  · left
    have hlt : usd < low := lt_of_mul_lt_mul_right (hbelow.trans_lt hlow.1) hbase.le
    exact mul_lt_mul_of_pos_right hlt hratio
  · right
    exact mul_lt_mul_of_pos_right (hhigh.2.trans_le habove) hratio

section Decision

variable {s : BotState} {params : StrategyParams} {price : MidPrice} {snapshot : PositionSnapshot}

/-- The strategy judges this position by this price. -/
structure Judged (s : BotState) (price : MidPrice) (snapshot : PositionSnapshot) : Prop where
  priced : s.price = some price
  placed : s.position = some snapshot
  sol : 0 < price.solUsd

/-- Nothing is moved within the bounds; beyond them the position is moved as soon as there are
samples enough and the strategy may rebalance at all. -/
structure Rests (base lowerUsd upperUsd openSolUsd : ℚ) (s : BotState) (price : MidPrice)
    (snapshot : PositionSnapshot) : Prop where
  stays : ∀ params, Within base lowerUsd upperUsd (atOpen openSolUsd price.solUsd price.bertUsd) →
    ∀ reason newCenterUsd, Strategy.decide s params ≠ .rebalance reason newCenterUsd
  moves : ∀ params, Ready s params price snapshot →
    params.sustainedMinutes ≤ (recentSamples s params).length →
    (∀ m ∈ price :: recentSamples s params,
      Beyond base lowerUsd upperUsd (atOpen openSolUsd price.solUsd m.bertUsd)) →
    Strategy.decide s params = .rebalance .triggersCleared price.bertUsd

theorem Carried.rests (hbase : 0 < base) (hopen : 0 < openSolUsd) (hs : Judged s price snapshot)
    (h : Carried base lowerUsd upperUsd (price.solUsd / openSolUsd) snapshot.range) :
    Rests base lowerUsd upperUsd openSolUsd s price snapshot := by
  have hratio := div_pos hs.sol hopen
  constructor
  · intro params hwithin reason newCenterUsd hdecide
    obtain ⟨price', position, hprice, hposition, hout, -⟩ := decide_rebalance_samples hdecide
    obtain rfl : price = price' := Option.some.inj (hs.priced.symm.trans hprice)
    obtain rfl : snapshot = position := Option.some.inj (hs.placed.symm.trans hposition)
    have hin := h.inRange hratio hbase hwithin
    rw [atOpen_back hopen hs.sol, hout] at hin
    cases hin
  · intro params hready henough hbeyond
    have hout : ∀ m ∈ price :: recentSamples s params,
        Strategy.inRange snapshot.range m.bertUsd = false := by
      intro m hm
      have hfar := h.outOfRange hratio hbase (hbeyond m hm)
      rwa [atOpen_back hopen hs.sol] at hfar
    exact hready.decide_rebalances (hout price (List.mem_cons_self ..)) henough
      fun m hm => hout m (List.mem_cons_of_mem _ hm)

end Decision

section Opened

variable {H : BotHost} {jito : Option JitoClient} {config : BotConfig} {mid : MidPrice}
  {pool : Pool} {row : StoredPosition} {req : OpenRequest} {snapshot : PositionSnapshot}

theorem Bracketed.carried (hgrid : GridPrices pool) (hrow : Bracketed pool row openSolUsd req)
    {solUsd : ℚ} (hsol : 0 < solUsd)
    (hreported : Reported pool row.nftMint req.minBinId req.maxBinId solUsd snapshot) :
    Carried (stepBase pool.venue) row.lowerUsd row.upperUsd (solUsd / openSolUsd)
      snapshot.range := by
  obtain ⟨-, hlower, hupper⟩ := reported_bounds hgrid hsol hrow.ordered hreported
  constructor
  · exact ⟨_, hrow.lowerNear, hlower.trans (binUsd_drift pool.venue _ hrow.sol)⟩
  · exact ⟨_, hrow.upperNear, hupper.trans (binUsd_drift pool.venue _ hrow.sol)⟩

/-- A step is at most half the width of the range. -/
def Fine (config : BotConfig) (base : ℚ) : Prop := base ≤ 1 + config.rangeWidthPct / 200

theorem fine_within {deps : RebalancerDeps} (hbert : 0 ≤ mid.bertUsd) (hbase : 0 ≤ base)
    (hfine : Fine deps.config base) :
    Within base (newRange deps mid).lowerUsd (newRange deps mid).upperUsd mid.bertUsd := by
  have hupper : mid.bertUsd * base ≤ mid.bertUsd * (1 + deps.config.rangeWidthPct / 200) :=
    mul_le_mul_of_nonneg_left hfine hbert
  have hlower : mid.bertUsd * base * (1 - deps.config.rangeWidthPct / 200) ≤ mid.bertUsd := by
    have hscaled : 0 ≤ mid.bertUsd * base := mul_nonneg hbert hbase
    have hwidth : 1 - deps.config.rangeWidthPct / 200 ≤ 2 - base := by
      unfold Fine at hfine
      linarith
    have hsquare : mid.bertUsd * base * (2 - base) ≤ mid.bertUsd := by
      have hgap : 0 ≤ mid.bertUsd * (base - 1) ^ 2 := mul_nonneg hbert (sq_nonneg _)
      linarith [mul_comm mid.bertUsd base]
    exact (mul_le_mul_of_nonneg_left hwidth hscaled).trans hsquare
  unfold Within newRange
  constructor
  · linarith
  · linarith

theorem asks_ordered {deps : RebalancerDeps} {params : OpenPositionParams}
    (hwidth : 0 ≤ deps.config.rangeWidthPct) (hasks : AsksFor deps mid params)
    (hlow : 0 < params.lowerUsd) (hup : 0 < params.upperUsd) :
    0 < mid.bertUsd ∧ params.lowerUsd ≤ params.upperUsd := by
  rw [hasks.lower, newRange] at hlow ⊢
  rw [hasks.upper, newRange] at hup ⊢
  have hmid : 0 < mid.bertUsd := by linarith
  have hhalf : 0 ≤ mid.bertUsd * (deps.config.rangeWidthPct / 100) / 2 := by positivity
  exact ⟨hmid, by linarith⟩

/-- The position is at rest around the range of the row; and as long as BERT is worth as much in
SOL as it was to the rebalance, it is not moved again. -/
structure AtRest (config : BotConfig) (base : ℚ) (mid : MidPrice) (row : StoredPosition)
    (s : BotState) (price : MidPrice) (snapshot : PositionSnapshot) : Prop where
  rests : Rests base row.lowerUsd row.upperUsd mid.solUsd s price snapshot
  fresh : Fine config base → atOpen mid.solUsd price.solUsd price.bertUsd = mid.bertUsd →
    ∀ params reason newCenterUsd, Strategy.decide s params ≠ .rebalance reason newCenterUsd

theorem asks_atRest {deps : RebalancerDeps} {params : OpenPositionParams} {s : BotState}
    {price : MidPrice} (hbase : 0 < base) (hasks : AsksFor deps mid params)
    (hlower : row.lowerUsd = (newRange deps mid).lowerUsd)
    (hupper : row.upperUsd = (newRange deps mid).upperUsd) (hsol : 0 < params.solUsd)
    (hbert : 0 < mid.bertUsd) (hs : Judged s price snapshot)
    (hcarried : Carried base params.lowerUsd params.upperUsd (price.solUsd / params.solUsd)
      snapshot.range) : AtRest deps.config base mid row s price snapshot := by
  have hrests := hcarried.rests hbase hsol hs
  rw [hasks.sol, hasks.lower, hasks.upper, ← hlower, ← hupper] at hrests
  constructor
  · exact hrests
  · intro hfine hsame params'
    apply hrests.stays params'
    rw [hsame, hlower, hupper]
    exact fine_within hbert.le hbase.le hfine

/-- Whatever a rebalance has opened and stored is at rest from then on, whichever token the pool
has first, and whatever has become of SOL. -/
theorem opened_rests (pool : Pool) (hgrid : GridPrices pool) (hwidth : 0 ≤ config.rangeWidthPct)
    {current : Option PositionSnapshot} {cause : Cause} {b b' : BotWorld} {diary : Diary}
    {x : Except Thrown RebalanceResult}
    (hrun : Ends (recordedHost H) (recorded ()
      (executeRebalance (networkRebalancer jito config) mid current cause b) []) x (b', diary))
    (hrow : Stores diary row) :
    ∃ params, Built diary params row.nftMint ∧
      ∀ req, buildOpenPositionTx pool params = .ok req → ∀ s price snapshot,
        Judged s price snapshot →
        Reported pool row.nftMint req.minBinId req.maxBinId price.solUsd snapshot →
        AtRest config (stepBase pool.venue) mid row s price snapshot := by
  obtain ⟨hlower, hupper, params, hbuilt, hasks⟩ := rebalance_paired hrun row hrow
  refine ⟨params, hbuilt, ?_⟩
  intro req hreq s price snapshot hs hreported
  obtain ⟨hsol, hlow, hup⟩ := buildOpenPositionTx_positive hreq
  have hbracketed := asked_bracketed hgrid hwidth hasks hlower hupper hreq
  have hcarried := Bracketed.carried hgrid hbracketed hs.sol hreported
  rw [hlower, hupper, ← hasks.lower, ← hasks.upper] at hcarried
  exact asks_atRest (stepBase_pos pool.venue) hasks hlower hupper hsol
    (asks_ordered hwidth hasks hlow hup).1 hs hcarried

/-- A pool whose library rounds to exact prices, at any bin step. -/
noncomputable def gridPool (bertIsX : Bool) (binStep : ℕ) : Pool where
  venue := ⟨bertIsX, binStep, fun binId step => (1 + step / 10000 : ℚ) ^ binId⟩
  activeBin := ⟨0, 1⟩
  userPositions := []
  getBinIdFromPrice price roundDown := Classical.epsilon fun binId =>
    if roundDown then PriceGrid.FloorPoint (1 + binStep / 10000 : ℚ) price binId
    else PriceGrid.CeilPoint (1 + binStep / 10000 : ℚ) price binId

theorem gridPool_grid (bertIsX : Bool) {binStep : ℕ} (hstep : 0 < binStep) :
    GridPrices (gridPool bertIsX binStep) := by
  have hbase : (1 : ℚ) < 1 + binStep / 10000 := by
    have hpos : (0 : ℚ) < binStep := by exact_mod_cast hstep
    linarith [div_pos hpos (by norm_num : (0 : ℚ) < 10000)]
  refine ⟨hstep, fun _ => rfl, ?_, ?_⟩
  · intro price hprice
    obtain ⟨binId, hbelow, habove⟩ := exists_mem_Ico_zpow hprice hbase
    exact Classical.epsilon_spec ⟨binId, hbelow, habove⟩
  · intro price hprice
    obtain ⟨binId, hbelow, habove⟩ := exists_mem_Ioc_zpow hprice hbase
    have hceil : PriceGrid.CeilPoint (1 + binStep / 10000 : ℚ) price (binId + 1) :=
      ⟨by rwa [add_sub_cancel_right], habove⟩
    exact Classical.epsilon_spec
      (p := PriceGrid.CeilPoint (1 + binStep / 10000 : ℚ) price) ⟨binId + 1, hceil⟩

def openedParams : OpenPositionParams := ⟨25 / 4096, 25 / 2048, 0, 999999900, 100⟩

def risen : MidPrice := ⟨8192 * 100 / 75, 225 / 16384, 150, 0, []⟩

def soared : MidPrice := ⟨8192 * 200 / 75, 225 / 8192, 150, 600000, []⟩

/-- Ten minutes after it was opened, the position has been left behind for one. -/
def leftBehind (snapshot : PositionSnapshot) : BotState where
  price := some soared
  priceHistory := [{ soared with ts := 570000 }, soared]
  position := some snapshot
  lastRebalanceAt := some 0
  rebalancesToday := 1
  killSwitchTripped := false
  degraded := false
  now := 600000

theorem leftBehind_judged (snapshot : PositionSnapshot) :
    Judged (leftBehind snapshot) soared snapshot where
  priced := rfl
  placed := rfl
  sol := by norm_num [soared]

theorem leftBehind_ready (snapshot : PositionSnapshot) :
    Ready (leftBehind snapshot) (MainLoop.strategyParams PlayedBot.playedMain.maker) soared
      snapshot where
  running := ⟨rfl, rfl⟩
  priced := rfl
  fresh := rfl
  placed := rfl
  rested := by
    intro last hlast
    obtain rfl : 0 = last := Option.some.inj hlast
    exact (by decide : (0 : ℤ) + 5 * minuteMs ≤ 600000)
  budget := (by decide : 1 < 3)

theorem leftBehind_moves {snapshot : PositionSnapshot}
    (h : Rests base openedRow.lowerUsd openedRow.upperUsd openingMid.solUsd (leftBehind snapshot)
      soared snapshot) (hbase : base ≤ 3 / 2) :
    Strategy.decide (leftBehind snapshot) (MainLoop.strategyParams PlayedBot.playedMain.maker) =
      .rebalance .triggersCleared soared.bertUsd := by
  apply h.moves _ (leftBehind_ready snapshot)
  · exact (by decide +kernel : 1 ≤ [{ soared with ts := 570000 }, soared].length)
  · intro m hm
    have hprice : m.bertUsd = soared.bertUsd := by
      rcases List.mem_cons.mp hm with rfl | hrecent
      · rfl
      · have hall : ∀ m' ∈ [{ soared with ts := 570000 }, soared], m'.bertUsd = soared.bertUsd := by
          decide +kernel
        exact hall m (List.mem_filter.mp hrecent).1
    right
    rw [hprice]
    norm_num [atOpen, soared, openedRow, openingMid]
    linarith

theorem opening_built {params : OpenPositionParams} {nftMint : String}
    (h : Built (openingScene.recording.play opening).2.2 params nftMint) :
    params = openedParams := by
  have hall : (openingScene.recording.play opening).2.2.filterMap builtAs =
      [(openedParams, "new")] := by decide +kernel
  unfold Built at h
  rw [hall, List.mem_singleton] at h
  exact congrArg Prod.fst h

theorem opened_rests_risen : ∃ req snapshot,
    buildOpenPositionTx (gridPool true 100) openedParams = .ok req ∧
    Reported (gridPool true 100) "new" req.minBinId req.maxBinId risen.solUsd snapshot ∧
    (∀ s, Judged s risen snapshot → ∀ params reason newCenterUsd,
      Strategy.decide s params ≠ .rebalance reason newCenterUsd) ∧
    Strategy.decide (leftBehind snapshot) (MainLoop.strategyParams PlayedBot.playedMain.maker) =
      .rebalance .triggersCleared soared.bertUsd := by
  have hgrid : GridPrices (gridPool true 100) := gridPool_grid true (by decide)
  have hstores : Stores (openingScene.recording.play opening).2.2 openedRow := by decide +kernel
  obtain ⟨params, hbuilt, hrests⟩ := opened_rests (gridPool true 100) hgrid
    (by norm_num [PlayedBot.playedConfig]) (openingScene.records opening) hstores
  obtain rfl : params = openedParams := opening_built hbuilt
  obtain ⟨req, hreq, -⟩ := @OpenedRange.buildOpenPositionTx_bins (gridPool true 100)
    openedParams (by norm_num [openedParams]) (by norm_num [openedParams])
    (by norm_num [openedParams])
  have hreported : Reported (gridPool true 100) "new" req.minBinId req.maxBinId risen.solUsd
      (MeteoraPosition.positionSnapshot (gridPool true 100).venue risen.solUsd
        ⟨"new", 0, 0, 0, 0, req.minBinId, req.maxBinId⟩) :=
    ⟨{ gridPool true 100 with
      userPositions := [⟨⟨"new", 0, 0, 0, 0, req.minBinId, req.maxBinId⟩, []⟩] }, _, rfl, rfl, rfl,
      rfl, rfl⟩
  have hstep : MeteoraClient.stepBase (gridPool true 100).venue = 1 + (100 : ℕ) / 10000 := rfl
  refine ⟨req, _, hreq, hreported, ?_, ?_⟩
  · intro s hs
    have hfine : Fine { PlayedBot.playedConfig with rangeWidthPct := 200 / 3 }
        (MeteoraClient.stepBase (gridPool true 100).venue) := by
      rw [hstep]
      norm_num [Fine]
    exact (hrests req hreq s risen _ hs hreported).fresh hfine
      (by norm_num [atOpen, risen, openingMid])
  · apply leftBehind_moves (hrests req hreq _ soared _ (leftBehind_judged _) hreported).rests
    rw [hstep]
    norm_num

end Opened

end RestingRange
