import BertMMBot.OpenedRange
import BertMMBot.PlayedBot
import BertMMBot.StoredBounds

/-! # A stored position against the chain

The bounds of a position are stored in USD as they were asked for, and are quoted anew at the
SOL price of the day when the bot starts. They are compared with ten percent to spare, so a
position that nobody has touched is recognised while SOL has moved by less than that, up to the
rounding of a bin. -/
namespace Reconciliation

open AsyncProgram AsyncContract AsyncRecords AsyncWiring RecordedTriples RecordedOutcomes
open VaultTypes BotProgram Rebalancer Strategy MeteoraClient PriceGrid TxSubmission
open MeteoraPosition (Venue PositionSnapshot rangeBounds positionRange)
open OpenedRange (GridPrices)
open StoredBounds

/-- Less than ten percent of the larger lies between the two. -/
def Tolerated (a b : ℚ) : Prop := 9 * a < 10 * b ∧ 9 * b < 10 * a

instance (a b : ℚ) : Decidable (Tolerated a b) := inferInstanceAs (Decidable (_ ∧ _))

variable {a b base stored reported factor : ℚ}

theorem approxEqual_iff (ha : 0 < a) (hb : 0 < b) : approxEqual a b = true ↔ Tolerated a b := by
  have hmax : 0 < max a b := lt_max_of_lt_left ha
  have hunfold : approxEqual a b = true ↔ |a - b| < 1 / 10 * max a b := by
    unfold approxEqual
    rw [if_neg (fun h => ha.ne' h.1), if_neg (fun h => h.elim ha.ne' hb.ne'), abs_of_pos ha,
      abs_of_pos hb, decide_eq_true_eq, div_lt_iff₀ hmax]
  rw [hunfold]
  unfold Tolerated
  rcases le_total a b with hle | hle
  · rw [max_eq_right hle, abs_of_nonpos (by linarith)]
    constructor
    · intro h
      constructor <;> linarith
    · rintro ⟨_, h⟩
      linarith
  · rw [max_eq_left hle, abs_of_nonneg (by linarith)]
    constructor
    · intro h
      constructor <;> linarith
    · rintro ⟨h, _⟩
      linarith

/-- The reported bound is less than a bin step off the stored one. -/
def OneStep (base stored reported : ℚ) : Prop := stored < reported * base ∧ reported < stored * base

theorem OneStep.tolerated (h : OneStep base stored reported) (hreported : 0 < reported)
    (hstored : 0 < stored) (hlow : 9 * base ≤ 10 * factor) (hhigh : 9 * base * factor ≤ 10) :
    Tolerated stored (reported * factor) := by
  constructor
  · have hscaled : reported * (9 * base) ≤ reported * (10 * factor) :=
      mul_le_mul_of_nonneg_left hlow hreported.le
    linarith [h.1]
  · have hfactor : 0 < factor := by
      have hbase : 0 < base := by
        by_contra hneg
        have := mul_nonpos_of_nonneg_of_nonpos hreported.le (not_lt.mp hneg)
        linarith [h.1]
      linarith
    have hscaled : reported * factor < stored * base * factor :=
      mul_lt_mul_of_pos_right h.2 hfactor
    have hbound : stored * (9 * base * factor) ≤ stored * 10 :=
      mul_le_mul_of_nonneg_left hhigh hstored.le
    linarith

/-- The factor exceeds ten ninths by a step, one way or the other. -/
def Far (base factor : ℚ) : Prop := 10 * base ≤ 9 * factor ∨ 10 * base * factor ≤ 9

theorem OneStep.not_tolerated (h : OneStep base stored reported) (hreported : 0 < reported)
    (hstored : 0 < stored) (hfactor : 0 < factor) (hfar : Far base factor) :
    ¬Tolerated stored (reported * factor) := by
  rintro ⟨hbelow, habove⟩
  rcases hfar with hup | hdown
  · have hscaled : reported * (10 * base) ≤ reported * (9 * factor) :=
      mul_le_mul_of_nonneg_left hup hreported.le
    linarith [h.1]
  · have hscaled : reported * factor < stored * base * factor :=
      mul_lt_mul_of_pos_right h.2 hfactor
    have hbound : stored * (10 * base * factor) ≤ stored * 9 :=
      mul_le_mul_of_nonneg_left hdown hstored.le
    linarith

variable {pool : Pool} {pos : OnchainPosition} {params : OpenPositionParams} {req : OpenRequest}
  {solUsd openSolUsd : ℚ} {binId binId' : ℤ}

def binUsd (venue : Venue) (binId : ℤ) (solUsd : ℚ) : ℚ :=
  if venue.bertIsX then stepBase venue ^ binId * solUsd else solUsd / stepBase venue ^ binId

/-- Which bin has the lower USD price depends on the token order. -/
def lowBin (venue : Venue) (lower upper : ℤ) : ℤ := if venue.bertIsX then lower else upper

def highBin (venue : Venue) (lower upper : ℤ) : ℤ := if venue.bertIsX then upper else lower

def rise (venue : Venue) (bins : ℤ) : ℤ := if venue.bertIsX then bins else -bins

theorem binUsd_pos (venue : Venue) (binId : ℤ) (hsol : 0 < solUsd) :
    0 < binUsd venue binId solUsd := by
  have hpos := zpow_pos (stepBase_pos venue) binId
  unfold binUsd
  split
  · exact mul_pos hpos hsol
  · exact div_pos hsol hpos

theorem binUsd_moved (venue : Venue) (binId binId' : ℤ) (hopen : 0 < openSolUsd) :
    binUsd venue binId' solUsd = binUsd venue binId openSolUsd *
      (stepBase venue ^ rise venue (binId' - binId) * (solUsd / openSolUsd)) := by
  have hbase := stepBase_pos venue
  have hpos := zpow_pos hbase binId
  have hpos' := zpow_pos hbase binId'
  unfold binUsd rise
  split
  · rw [zpow_sub₀ hbase.ne']
    field_simp
  · rw [zpow_neg, zpow_sub₀ hbase.ne']
    field_simp

theorem rise_zero (venue : Venue) : rise venue 0 = 0 := by
  unfold rise
  split
  · rfl
  · exact neg_zero

theorem binUsd_drift (venue : Venue) (binId : ℤ) (hopen : 0 < openSolUsd) :
    binUsd venue binId solUsd = binUsd venue binId openSolUsd * (solUsd / openSolUsd) := by
  have hmoved : binUsd venue binId solUsd = binUsd venue binId openSolUsd *
      (stepBase venue ^ rise venue (binId - binId) * (solUsd / openSolUsd)) :=
    binUsd_moved venue binId binId hopen
  rw [sub_self, rise_zero, zpow_zero, one_mul] at hmoved
  exact hmoved

theorem abs_rise (venue : Venue) (bins : ℤ) : |rise venue bins| = |bins| := by
  unfold rise
  split
  · rfl
  · exact abs_neg bins

theorem rangeBounds_binUsd (hgrid : GridPrices pool) (hsol : 0 < solUsd)
    (hle : pos.lowerBinId ≤ pos.upperBinId) :
    rangeBounds pool.venue pos solUsd =
      (binUsd pool.venue (lowBin pool.venue pos.lowerBinId pos.upperBinId) solUsd,
        binUsd pool.venue (highBin pool.venue pos.lowerBinId pos.upperBinId) solUsd) := by
  cases hx : pool.venue.bertIsX with
  | true =>
    rw [OpenedRange.rangeBounds_bertIsX hgrid.bins hgrid.one_lt hx hsol hle]
    simp [binUsd, lowBin, highBin, hx]
  | false =>
    rw [OpenedRange.rangeBounds_bertIsY hgrid.bins hgrid.one_lt hx hsol hle]
    simp [binUsd, lowBin, highBin, hx]

theorem near_oneStep (hopen : 0 < openSolUsd) (hstored : 0 < stored)
    (hnear : Near (stepBase pool.venue) (OpenedRange.quoted pool stored openSolUsd) binId) :
    OneStep (stepBase pool.venue) stored (binUsd pool.venue binId openSolUsd) := by
  have hbase := stepBase_pos pool.venue
  have hpos := zpow_pos hbase binId
  obtain ⟨hbelow, habove⟩ := hnear
  rw [zpow_sub_one₀ hbase.ne'] at hbelow
  rw [zpow_add_one₀ hbase.ne'] at habove
  unfold OpenedRange.quoted at hbelow habove
  unfold OneStep binUsd
  cases hx : pool.venue.bertIsX with
  | true =>
    simp only [hx, if_true] at hbelow habove ⊢
    rw [lt_div_iff₀ hopen, ← div_eq_mul_inv, div_mul_eq_mul_div, div_lt_iff₀ hbase] at hbelow
    rw [div_lt_iff₀ hopen] at habove
    constructor <;> linarith
  | false =>
    simp only [hx, Bool.false_eq_true, if_false] at hbelow habove ⊢
    rw [lt_div_iff₀ hstored, ← div_eq_mul_inv, div_mul_eq_mul_div, div_lt_iff₀ hbase] at hbelow
    rw [div_lt_iff₀ hstored] at habove
    constructor
    · rw [div_mul_eq_mul_div, lt_div_iff₀ hpos]
      linarith
    · rw [div_lt_iff₀ hpos]
      linarith

theorem buildOpenPositionTx_positive (hreq : buildOpenPositionTx pool params = .ok req) :
    0 < params.solUsd ∧ 0 < params.lowerUsd ∧ 0 < params.upperUsd := by
  unfold buildOpenPositionTx usdToBinId at hreq
  by_cases hlow : params.solUsd ≤ 0 ∨ params.lowerUsd ≤ 0
  · rw [if_pos hlow] at hreq
    cases hreq
  · rw [if_neg hlow] at hreq
    by_cases hup : params.solUsd ≤ 0 ∨ params.upperUsd ≤ 0
    · rw [if_pos hup] at hreq
      cases hreq
    · rw [not_or, not_le, not_le] at hlow hup
      exact ⟨hlow.1, hlow.2, hup.2⟩

theorem opened_near (hgrid : GridPrices pool) (hreq : buildOpenPositionTx pool params = .ok req)
    (hle : params.lowerUsd ≤ params.upperUsd) :
    req.minBinId ≤ req.maxBinId ∧
      Near (stepBase pool.venue) (OpenedRange.quoted pool params.lowerUsd params.solUsd)
        (lowBin pool.venue req.minBinId req.maxBinId) ∧
      Near (stepBase pool.venue) (OpenedRange.quoted pool params.upperUsd params.solUsd)
        (highBin pool.venue req.minBinId req.maxBinId) := by
  obtain ⟨hsol, hlow, hup⟩ := buildOpenPositionTx_positive hreq
  obtain ⟨req', hreq', hmin, hmax⟩ := OpenedRange.buildOpenPositionTx_bins hsol hlow hup
  obtain rfl : req = req' := Except.ok.inj (hreq.symm.trans hreq')
  have hordered : req.minBinId ≤ req.maxBinId := by
    rw [hmin, hmax]
    exact min_le_max
  refine ⟨hordered, ?_⟩
  have hquoted : ∀ bertUsd, 0 < bertUsd → 0 < OpenedRange.quoted pool bertUsd params.solUsd := by
    intro bertUsd hbert
    unfold OpenedRange.quoted
    split
    · exact div_pos hbert hsol
    · exact div_pos hsol hbert
  have hfloor := hgrid.floor _ (hquoted _ hlow)
  have hceil := hgrid.ceil _ (hquoted _ hup)
  cases hx : pool.venue.bertIsX with
  | true =>
    have hprices : OpenedRange.quoted pool params.lowerUsd params.solUsd ≤
        OpenedRange.quoted pool params.upperUsd params.solUsd := by
      simp only [OpenedRange.quoted, hx, if_true]
      exact div_le_div_of_nonneg_right hle hsol.le
    obtain ⟨hbins, hnear, hnear'⟩ := near_outward hgrid.one_lt hfloor hceil hprices
    simp only [lowBin, highBin, hx, if_true, hmin, hmax, OpenedRange.lowerBin,
      OpenedRange.upperBin, min_eq_left hbins, max_eq_right hbins]
    exact ⟨hnear, hnear'⟩
  | false =>
    have hprices : OpenedRange.quoted pool params.upperUsd params.solUsd ≤
        OpenedRange.quoted pool params.lowerUsd params.solUsd := by
      simp only [OpenedRange.quoted, hx, Bool.false_eq_true, if_false]
      exact div_le_div_of_nonneg_left hsol.le hlow hle
    obtain ⟨hnear, hnear'⟩ := near_inward hgrid.one_lt hceil hfloor hprices
    simp only [lowBin, highBin, hx, Bool.false_eq_true, if_false, hmin, hmax]
    rw [min_comm, max_comm]
    exact ⟨hnear', hnear⟩

variable {row : StoredPosition} {snapshot opened : PositionSnapshot} {lower upper : ℤ}
  {nftMint : String}

/-- What a later state of the pool reports of a position with these bins. -/
def Reported (pool : Pool) (nftMint : String) (lower upper : ℤ) (solUsd : ℚ)
    (snapshot : PositionSnapshot) : Prop :=
  ∃ later : Pool, ∃ pos : PoolPosition, later.venue = pool.venue ∧
    findUserPosition later nftMint = some pos ∧ pos.lowerBinId = lower ∧
    pos.upperBinId = upper ∧ getPosition later nftMint solUsd = some snapshot

theorem reported_bounds (hgrid : GridPrices pool) (hsol : 0 < solUsd) (hle : lower ≤ upper)
    (h : Reported pool nftMint lower upper solUsd snapshot) :
    snapshot.nftMint = nftMint ∧
      snapshot.range.lowerBertUsd = binUsd pool.venue (lowBin pool.venue lower upper) solUsd ∧
      snapshot.range.upperBertUsd = binUsd pool.venue (highBin pool.venue lower upper) solUsd := by
  obtain ⟨later, pos, hvenue, hfound, rfl, rfl, hreported⟩ := h
  have hkey : pos.publicKey = nftMint := by
    unfold findUserPosition at hfound
    simpa using List.find?_some hfound
  unfold getPosition at hreported
  rw [hfound, hvenue] at hreported
  cases hreported
  have hbounds := @rangeBounds_binUsd pool pos.toOnchainPosition solUsd hgrid hsol hle
  refine ⟨hkey, ?_, ?_⟩
  · exact congrArg Prod.fst hbounds
  · exact congrArg Prod.snd hbounds

theorem reconcile_same (hmint : row.nftMint = snapshot.nftMint) :
    reconcile (some row) (some snapshot) =
      if approxEqual row.lowerUsd snapshot.range.lowerBertUsd = false then
        .mismatch (.lowerPriceDiffers row.lowerUsd snapshot.range.lowerBertUsd)
      else if approxEqual row.upperUsd snapshot.range.upperBertUsd = false then
        .mismatch .upperPriceDiffers
      else .okMatch := if_neg (not_not.mpr hmint)

theorem reconcile_okMatch_iff (hmint : row.nftMint = snapshot.nftMint) :
    reconcile (some row) (some snapshot) = .okMatch ↔
      approxEqual row.lowerUsd snapshot.range.lowerBertUsd = true ∧
        approxEqual row.upperUsd snapshot.range.upperBertUsd = true := by
  rw [reconcile_same hmint]
  cases approxEqual row.lowerUsd snapshot.range.lowerBertUsd <;>
    cases approxEqual row.upperUsd snapshot.range.upperBertUsd <;> simp

theorem reconcile_mismatch (hmint : row.nftMint = snapshot.nftMint)
    (h : reconcile (some row) (some snapshot) ≠ .okMatch) :
    ∃ reason, reconcile (some row) (some snapshot) = .mismatch reason := by
  rw [reconcile_same hmint] at h ⊢
  split_ifs at h ⊢
  · exact ⟨_, rfl⟩
  · exact ⟨_, rfl⟩
  · exact absurd rfl h

def move (openSolUsd solUsd : ℚ) : ℚ := max (solUsd / openSolUsd) (openSolUsd / solUsd)

theorem drift_back (hopen : 0 < openSolUsd) (hsol : 0 < solUsd) :
    openSolUsd / solUsd * (solUsd / openSolUsd) = 1 := by
  field_simp

theorem move_near (hbase : 0 < base) (hopen : 0 < openSolUsd) (hsol : 0 < solUsd)
    (h : 9 * base * move openSolUsd solUsd ≤ 10) :
    9 * base ≤ 10 * (solUsd / openSolUsd) ∧ 9 * base * (solUsd / openSolUsd) ≤ 10 := by
  have hdrift := div_pos hsol hopen
  constructor
  · have hback : 9 * base * (openSolUsd / solUsd) ≤ 10 := by
      refine le_trans ?_ h
      have hle : openSolUsd / solUsd ≤ move openSolUsd solUsd := le_max_right _ _
      gcongr
    have hscaled := mul_le_mul_of_nonneg_right hback hdrift.le
    rw [mul_assoc, drift_back hopen hsol, mul_one] at hscaled
    exact hscaled
  · refine le_trans ?_ h
    have hle : solUsd / openSolUsd ≤ move openSolUsd solUsd := le_max_left _ _
    gcongr

theorem move_far (hopen : 0 < openSolUsd) (hsol : 0 < solUsd)
    (h : 10 * base ≤ 9 * move openSolUsd solUsd) : Far base (solUsd / openSolUsd) := by
  unfold move at h
  rcases le_total (solUsd / openSolUsd) (openSolUsd / solUsd) with hle | hle
  · right
    rw [max_eq_right hle] at h
    have hscaled := mul_le_mul_of_nonneg_right h (div_pos hsol hopen).le
    rw [mul_assoc 9, drift_back hopen hsol, mul_one] at hscaled
    exact hscaled
  · left
    rw [max_eq_left hle] at h
    exact h

theorem bins_far {bins : ℤ} {n : ℕ} (hbase : 1 < base) (hopen : 0 < openSolUsd)
    (hsol : 0 < solUsd) (hbins : (n : ℤ) ≤ |bins|)
    (h : 10 * base * move openSolUsd solUsd ≤ 9 * base ^ n) :
    Far base (base ^ bins * (solUsd / openSolUsd)) := by
  have hbase₀ : 0 < base := zero_lt_one.trans hbase
  have hdrift := div_pos hsol hopen
  have hn : base ^ n = base ^ (n : ℤ) := (zpow_natCast base n).symm
  rcases le_abs.mp hbins with hup | hdown
  · left
    have hpow : base ^ n ≤ base ^ bins := by
      rw [hn]
      exact (zpow_le_zpow_iff_right₀ hbase).mpr hup
    have hback : 1 ≤ move openSolUsd solUsd * (solUsd / openSolUsd) := by
      rw [← drift_back hopen hsol]
      exact mul_le_mul_of_nonneg_right (le_max_right _ _) hdrift.le
    calc 10 * base ≤ 10 * base * (move openSolUsd solUsd * (solUsd / openSolUsd)) := by
          exact le_mul_of_one_le_right (by linarith) hback
      _ = 10 * base * move openSolUsd solUsd * (solUsd / openSolUsd) := by ring
      _ ≤ 9 * base ^ n * (solUsd / openSolUsd) := mul_le_mul_of_nonneg_right h hdrift.le
      _ ≤ 9 * base ^ bins * (solUsd / openSolUsd) := by gcongr
      _ = 9 * (base ^ bins * (solUsd / openSolUsd)) := by ring
  · right
    have hpow : base ^ n * base ^ bins ≤ 1 := by
      rw [hn, ← zpow_add₀ hbase₀.ne']
      exact zpow_le_one_of_nonpos₀ hbase.le (by omega)
    calc 10 * base * (base ^ bins * (solUsd / openSolUsd))
        ≤ 10 * base * (base ^ bins * move openSolUsd solUsd) := by
          have hmove : solUsd / openSolUsd ≤ move openSolUsd solUsd := le_max_left _ _
          have hbins₀ := zpow_pos hbase₀ bins
          gcongr
      _ = 10 * base * move openSolUsd solUsd * base ^ bins := by ring
      _ ≤ 9 * base ^ n * base ^ bins :=
          mul_le_mul_of_nonneg_right h (zpow_pos hbase₀ bins).le
      _ = 9 * (base ^ n * base ^ bins) := by ring
      _ ≤ 9 := by linarith

theorem reconcile_reported (hgrid : GridPrices pool) (hsol : 0 < solUsd) (hle : lower ≤ upper)
    (hlow : 0 < row.lowerUsd) (hup : 0 < row.upperUsd)
    (h : Reported pool row.nftMint lower upper solUsd snapshot) :
    reconcile (some row) (some snapshot) = .okMatch ↔
      Tolerated row.lowerUsd (binUsd pool.venue (lowBin pool.venue lower upper) solUsd) ∧
        Tolerated row.upperUsd (binUsd pool.venue (highBin pool.venue lower upper) solUsd) := by
  obtain ⟨hmint, hlower, hupper⟩ := reported_bounds hgrid hsol hle h
  rw [reconcile_okMatch_iff hmint.symm, hlower, hupper,
    approxEqual_iff hlow (binUsd_pos pool.venue _ hsol),
    approxEqual_iff hup (binUsd_pos pool.venue _ hsol)]

/-- How a stored position is found again, by the SOL price of the day and by its bins. -/
structure Found (pool : Pool) (row : StoredPosition) (openSolUsd : ℚ) (req : OpenRequest) :
    Prop where
  rounding : ∀ opened, Reported pool row.nftMint req.minBinId req.maxBinId openSolUsd opened →
    OneStep (stepBase pool.venue) row.lowerUsd opened.range.lowerBertUsd ∧
      OneStep (stepBase pool.venue) row.upperUsd opened.range.upperBertUsd
  unchanged : ∀ solUsd opened snapshot, 0 < solUsd →
    Reported pool row.nftMint req.minBinId req.maxBinId openSolUsd opened →
    Reported pool row.nftMint req.minBinId req.maxBinId solUsd snapshot →
    (reconcile (some row) (some snapshot) = .okMatch ↔
      Tolerated row.lowerUsd (opened.range.lowerBertUsd * (solUsd / openSolUsd)) ∧
        Tolerated row.upperUsd (opened.range.upperBertUsd * (solUsd / openSolUsd)))
  calm : ∀ solUsd snapshot, 0 < solUsd →
    Reported pool row.nftMint req.minBinId req.maxBinId solUsd snapshot →
    9 * stepBase pool.venue * move openSolUsd solUsd ≤ 10 →
    reconcile (some row) (some snapshot) = .okMatch
  moved : ∀ solUsd snapshot, 0 < solUsd →
    Reported pool row.nftMint req.minBinId req.maxBinId solUsd snapshot →
    10 * stepBase pool.venue ≤ 9 * move openSolUsd solUsd →
    ∃ reason, reconcile (some row) (some snapshot) = .mismatch reason
  rebinned : ∀ solUsd snapshot lower upper (n : ℕ), 0 < solUsd → lower ≤ upper →
    Reported pool row.nftMint lower upper solUsd snapshot →
    (n : ℤ) ≤ |lower - req.minBinId| ∨ (n : ℤ) ≤ |upper - req.maxBinId| →
    10 * stepBase pool.venue * move openSolUsd solUsd ≤ 9 * stepBase pool.venue ^ n →
    ∃ reason, reconcile (some row) (some snapshot) = .mismatch reason

structure Bracketed (pool : Pool) (row : StoredPosition) (openSolUsd : ℚ) (req : OpenRequest) :
    Prop where
  sol : 0 < openSolUsd
  lower : 0 < row.lowerUsd
  upper : 0 < row.upperUsd
  ordered : req.minBinId ≤ req.maxBinId
  lowerNear : OneStep (stepBase pool.venue) row.lowerUsd
    (binUsd pool.venue (lowBin pool.venue req.minBinId req.maxBinId) openSolUsd)
  upperNear : OneStep (stepBase pool.venue) row.upperUsd
    (binUsd pool.venue (highBin pool.venue req.minBinId req.maxBinId) openSolUsd)

section Found

variable (hgrid : GridPrices pool) (hrow : Bracketed pool row openSolUsd req)

include hgrid hrow

theorem Bracketed.not_match (hsol : 0 < solUsd) (hle : lower ≤ upper)
    (hreported : Reported pool row.nftMint lower upper solUsd snapshot)
    (hfar : Far (stepBase pool.venue) (stepBase pool.venue ^ rise pool.venue
        (lowBin pool.venue lower upper - lowBin pool.venue req.minBinId req.maxBinId) *
          (solUsd / openSolUsd)) ∨
      Far (stepBase pool.venue) (stepBase pool.venue ^ rise pool.venue
        (highBin pool.venue lower upper - highBin pool.venue req.minBinId req.maxBinId) *
          (solUsd / openSolUsd))) :
    ∃ reason, reconcile (some row) (some snapshot) = .mismatch reason := by
  have hbase := stepBase_pos pool.venue
  have hdrift := div_pos hsol hrow.sol
  have hfactor : ∀ bins : ℤ, 0 < stepBase pool.venue ^ bins * (solUsd / openSolUsd) :=
    fun bins => mul_pos (zpow_pos hbase bins) hdrift
  apply reconcile_mismatch (reported_bounds hgrid hsol hle hreported).1.symm
  rw [Ne, reconcile_reported hgrid hsol hle hrow.lower hrow.upper hreported,
    binUsd_moved pool.venue (lowBin pool.venue req.minBinId req.maxBinId) _ hrow.sol,
    binUsd_moved pool.venue (highBin pool.venue req.minBinId req.maxBinId)
      (highBin pool.venue lower upper) hrow.sol]
  rintro ⟨hlower, hupper⟩
  rcases hfar with hfar | hfar
  · exact hrow.lowerNear.not_tolerated (binUsd_pos _ _ hrow.sol) hrow.lower (hfactor _) hfar hlower
  · exact hrow.upperNear.not_tolerated (binUsd_pos _ _ hrow.sol) hrow.upper (hfactor _) hfar hupper

theorem Bracketed.found : Found pool row openSolUsd req where
  rounding := by
    intro opened hopened
    obtain ⟨-, hlower, hupper⟩ := reported_bounds hgrid hrow.sol hrow.ordered hopened
    rw [hlower, hupper]
    exact ⟨hrow.lowerNear, hrow.upperNear⟩
  unchanged := by
    intro solUsd opened snapshot hsol hopened hreported
    obtain ⟨-, hlower, hupper⟩ := reported_bounds hgrid hrow.sol hrow.ordered hopened
    rw [reconcile_reported hgrid hsol hrow.ordered hrow.lower hrow.upper hreported, hlower, hupper,
      ← binUsd_drift pool.venue _ hrow.sol, ← binUsd_drift pool.venue _ hrow.sol]
  calm := by
    intro solUsd snapshot hsol hreported hmove
    have hopen := hrow.sol
    obtain ⟨hlow, hhigh⟩ := move_near (stepBase_pos pool.venue) hopen hsol hmove
    have hdrifted : ∀ binId, binUsd pool.venue binId solUsd =
        binUsd pool.venue binId openSolUsd * (solUsd / openSolUsd) :=
      fun binId => binUsd_drift pool.venue binId hopen
    rw [reconcile_reported hgrid hsol hrow.ordered hrow.lower hrow.upper hreported,
      hdrifted (lowBin pool.venue req.minBinId req.maxBinId),
      hdrifted (highBin pool.venue req.minBinId req.maxBinId)]
    constructor
    · exact hrow.lowerNear.tolerated (binUsd_pos _ _ hopen) hrow.lower hlow hhigh
    · exact hrow.upperNear.tolerated (binUsd_pos _ _ hopen) hrow.upper hlow hhigh
  moved := by
    intro solUsd snapshot hsol hreported hmove
    apply hrow.not_match hgrid hsol hrow.ordered hreported
    left
    rw [sub_self, rise_zero, zpow_zero, one_mul]
    exact move_far hrow.sol hsol hmove
  rebinned := by
    intro solUsd snapshot lower upper n hsol hle hreported hbins hmove
    apply hrow.not_match hgrid hsol hle hreported
    have hfar : ∀ bins : ℤ, (n : ℤ) ≤ |bins| → Far (stepBase pool.venue)
        (stepBase pool.venue ^ rise pool.venue bins * (solUsd / openSolUsd)) := by
      intro bins hn
      apply bins_far hgrid.one_lt hrow.sol hsol _ hmove
      rw [abs_rise]
      exact hn
    unfold lowBin highBin
    cases hx : pool.venue.bertIsX with
    | true => exact hbins.imp (hfar _) (hfar _)
    | false => exact hbins.symm.imp (hfar _) (hfar _)

end Found

section Opened

open PlayedBot (BotScene playedConfig botWith)
open VaultRuntime (quotedSolUsd)

variable {H : BotHost} {jito : Option JitoClient} {config : BotConfig} {mid : MidPrice}

theorem asked_bracketed (hgrid : GridPrices pool) (hwidth : 0 ≤ config.rangeWidthPct)
    (hasks : AsksFor (networkRebalancer jito config) mid params)
    (hlower : row.lowerUsd = (newRange (networkRebalancer jito config) mid).lowerUsd)
    (hupper : row.upperUsd = (newRange (networkRebalancer jito config) mid).upperUsd)
    (hreq : buildOpenPositionTx pool params = .ok req) :
    Bracketed pool row params.solUsd req := by
  obtain ⟨hsol, hlow, hup⟩ := buildOpenPositionTx_positive hreq
  have hle : params.lowerUsd ≤ params.upperUsd := by
    rw [hasks.lower, newRange] at hlow
    rw [hasks.upper, newRange] at hup
    have hmid : 0 < mid.bertUsd := by linarith
    have hhalf : 0 ≤ mid.bertUsd * (config.rangeWidthPct / 100) / 2 := by positivity
    rw [hasks.lower, hasks.upper]
    change mid.bertUsd - mid.bertUsd * (config.rangeWidthPct / 100) / 2 ≤
      mid.bertUsd + mid.bertUsd * (config.rangeWidthPct / 100) / 2
    linarith
  obtain ⟨hordered, hnear, hnear'⟩ := opened_near hgrid hreq hle
  rw [← hasks.lower] at hlower
  rw [← hasks.upper] at hupper
  constructor
  · exact hsol
  · rw [hlower]
    exact hlow
  · rw [hupper]
    exact hup
  · exact hordered
  · rw [hlower]
    exact near_oneStep hsol hlow hnear
  · rw [hupper]
    exact near_oneStep hsol hup hnear'

/-- A position that a rebalance has opened and stored is matched while SOL has moved by less than
ten percent and a bin step, whatever is made of it in between; beyond that, or with bins that are
off by as much, it is not. A process that dies after storing the row leaves a diary that some
other host continues to an end. -/
theorem opened_found (pool : Pool) (hgrid : GridPrices pool) (hwidth : 0 ≤ config.rangeWidthPct)
    {current : Option PositionSnapshot} {cause : Cause} {b b' : BotWorld} {diary : Diary}
    {x : Except Thrown RebalanceResult}
    (hrun : Ends (recordedHost H) (recorded ()
      (executeRebalance (networkRebalancer jito config) mid current cause b) []) x (b', diary))
    (hrow : Stores diary row) :
    ∃ params, Built diary params row.nftMint ∧
      ∀ req, buildOpenPositionTx pool params = .ok req → Found pool row params.solUsd req := by
  obtain ⟨hlower, hupper, params, hbuilt, hasks⟩ := rebalance_paired hrun row hrow
  refine ⟨params, hbuilt, ?_⟩
  intro req hreq
  exact (asked_bracketed hgrid hwidth hasks hlower hupper hreq).found hgrid

def openingScene : BotScene where
  vault := { clock := 1000 }

def openingDeps : RebalancerDeps :=
  networkRebalancer none { playedConfig with rangeWidthPct := 200 / 3 }

/-- The range around this mid is a whole bin: BERT at 1/16384 to 1/8192 SOL. -/
def openingMid : MidPrice := ⟨8192 * 100 / 75, 75 / 8192, 100, 0, []⟩

def opening : Run botInterface DiaryPoint Thrown RebalanceResult :=
  recorded () (executeRebalance openingDeps openingMid none .initialOpen (botWith [] none)) []

def openedRow : StoredPosition := ⟨"new", 25 / 4096, 25 / 2048, 75 / 8192, 1000⟩

/-- The pool with the position in it, as the client asks for it: bins 13 and 14. -/
def openedPool : Pool :=
  { OpenedRange.doublingPool with userPositions := [⟨⟨"new", 0, 0, 0, 0, 13, 14⟩, []⟩] }

theorem opened_found_doubling : Stores (openingScene.recording.play opening).2.2 openedRow ∧
    ∃ params, Built (openingScene.recording.play opening).2.2 params openedRow.nftMint ∧
      ∀ req, buildOpenPositionTx OpenedRange.doublingPool params = .ok req →
        Found OpenedRange.doublingPool openedRow params.solUsd req := by
  have hstores : Stores (openingScene.recording.play opening).2.2 openedRow := by decide +kernel
  refine ⟨hstores, ?_⟩
  exact opened_found OpenedRange.doublingPool OpenedRange.doublingPool_grid
    (by norm_num [playedConfig]) (openingScene.records opening) hstores

/-- Opened at 100 USD for a SOL, the untouched position is refused at a restart that gets no
quote and falls back on 150. -/
theorem restart_refused : ∃ b' diary x params req snapshot reason,
    Ends (recordedHost openingScene.host) opening x (b', diary) ∧
    Stores diary openedRow ∧ Built diary params openedRow.nftMint ∧
    buildOpenPositionTx OpenedRange.doublingPool params = .ok req ∧
    Reported OpenedRange.doublingPool openedRow.nftMint req.minBinId req.maxBinId
      (quotedSolUsd []) snapshot ∧
    reconcile (some openedRow) (some snapshot) = .mismatch reason := by
  have hreported : Reported OpenedRange.doublingPool openedRow.nftMint 13 14 (quotedSolUsd [])
      (MeteoraPosition.positionSnapshot openedPool.venue (quotedSolUsd [])
        ⟨"new", 0, 0, 0, 0, 13, 14⟩) := ⟨openedPool, _, rfl, rfl, rfl, rfl, rfl⟩
  refine ⟨_, _, _, ⟨25 / 4096, 25 / 2048, 0, 999999900, 100⟩, ⟨13, 14, 999999900, 0⟩, _,
    .lowerPriceDiffers (25 / 4096) (75 / 8192), openingScene.records opening, ?_, ?_, ?_,
    hreported, ?_⟩
  · decide +kernel
  · decide +kernel
  · decide +kernel
  · decide +kernel

end Opened

end Reconciliation
