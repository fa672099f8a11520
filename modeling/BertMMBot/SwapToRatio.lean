import BertMMBot.RaydiumClient
import Mathlib.Tactic.FieldSimp
import Mathlib.Tactic.LinearCombination

/-! # Swapping to a ratio

What a swap is for: it sells the token that is overweight, no more of it than is there, and at
the quoted price leaves the ratio within one base unit of the target. -/
namespace SwapToRatio

open ShareMath MeteoraClient

variable {q ratio x : ℚ} {haveBertRaw haveSolLamports n : ℕ} {token : Token} {amount : ℤ}
  {pool : Pool} {ray : RaydiumClient.PoolInfo}

/-- The BERT that is missing for the target, from amounts in whole tokens. -/
def missing (q ratio bertHuman solHuman : ℚ) : ℚ :=
  (bertHuman + solHuman * q) * ratio - bertHuman

/-- The BERT missing after a swap of whole base units at the quoted price. -/
def missingAfter (q ratio : ℚ) (haveBertRaw haveSolLamports : ℕ) (amount : ℤ) : Token → ℚ
  | .sol => missing q ratio (haveBertRaw / rawPerBert + amount / lamportsPerSol * q)
      (haveSolLamports / lamportsPerSol - amount / lamportsPerSol)
  | .bert => missing q ratio (haveBertRaw / rawPerBert - amount / rawPerBert)
      (haveSolLamports / lamportsPerSol + amount / rawPerBert / q)

def baseUnit (q : ℚ) : Token → ℚ
  | .sol => q / lamportsPerSol
  | .bert => 1 / rawPerBert

def held (haveBertRaw haveSolLamports : ℕ) : Token → ℕ
  | .sol => haveSolLamports
  | .bert => haveBertRaw

structure Restores (q ratio : ℚ) (haveBertRaw haveSolLamports : ℕ) (token : Token) (amount : ℤ) :
    Prop where
  overweight : token = if 0 < deltaBert q haveBertRaw haveSolLamports ratio then .sol else .bert
  nonneg : 0 ≤ amount
  covered : amount ≤ held haveBertRaw haveSolLamports token
  restored : |missingAfter q ratio haveBertRaw haveSolLamports amount token| ≤ baseUnit q token

theorem round_nonneg (h : 0 ≤ x) : 0 ≤ Strategy.round x := by
  unfold Strategy.round
  exact Int.floor_nonneg.mpr (by linarith)

theorem round_le (h : x ≤ n) : Strategy.round x ≤ n := by
  have hlt : Strategy.round x < n + 1 := by
    unfold Strategy.round
    rw [Int.floor_lt]
    push_cast
    linarith
  omega

theorem abs_round_sub_le (x : ℚ) : |(Strategy.round x : ℚ) - x| ≤ 1 := by
  have hle := Int.floor_le (x + 1 / 2)
  have hlt := Int.lt_floor_add_one (x + 1 / 2)
  unfold Strategy.round
  rw [abs_le]
  constructor <;> linarith

theorem deltaBert_missing : deltaBert q haveBertRaw haveSolLamports ratio =
    missing q ratio (haveBertRaw / rawPerBert) (haveSolLamports / lamportsPerSol) := rfl

theorem missingAfter_sol : missingAfter q ratio haveBertRaw haveSolLamports amount .sol =
    deltaBert q haveBertRaw haveSolLamports ratio - amount / lamportsPerSol * q := by
  rw [deltaBert_missing]
  simp only [missingAfter, missing]
  ring

theorem missingAfter_bert (hq : 0 < q) :
    missingAfter q ratio haveBertRaw haveSolLamports amount .bert =
      deltaBert q haveBertRaw haveSolLamports ratio + amount / rawPerBert := by
  have hback : (amount : ℚ) / rawPerBert / q * q = amount / rawPerBert :=
    div_mul_cancel₀ _ hq.ne'
  rw [deltaBert_missing]
  simp only [missingAfter, missing]
  linear_combination ratio * hback

theorem restores_sol (hq : 0 < q) (hratio : ratio ≤ 1)
    (hdelta : 0 < deltaBert q haveBertRaw haveSolLamports ratio) :
    Restores q ratio haveBertRaw haveSolLamports .sol
      (Strategy.round (deltaBert q haveBertRaw haveSolLamports ratio / q * lamportsPerSol)) := by
  have hl := lamportsPerSol_pos
  have hr := rawPerBert_pos
  set delta := deltaBert q haveBertRaw haveSolLamports ratio with hdef
  have htotal : (0 : ℚ) ≤ haveBertRaw / rawPerBert + haveSolLamports / lamportsPerSol * q := by
    positivity
  have hmost : delta ≤ haveSolLamports / lamportsPerSol * q := by
    have hshare := mul_le_mul_of_nonneg_left hratio htotal
    rw [hdef, deltaBert_missing, missing]
    linarith
  have hcovered : delta / q * lamportsPerSol ≤ haveSolLamports := by
    rw [← le_div_iff₀ hl, div_le_iff₀ hq]
    exact hmost
  constructor
  · rw [← hdef, if_pos hdelta]
  · exact round_nonneg (by positivity)
  · exact round_le hcovered
  · rw [missingAfter_sol, ← hdef]
    have hexact : delta - Strategy.round (delta / q * lamportsPerSol) / lamportsPerSol * q =
        -((Strategy.round (delta / q * lamportsPerSol) - delta / q * lamportsPerSol) *
          (q / lamportsPerSol)) := by
      field_simp
      ring
    have hunit : 0 < q / lamportsPerSol := div_pos hq hl
    rw [hexact, abs_neg, abs_mul, abs_of_pos hunit]
    exact mul_le_of_le_one_left hunit.le (abs_round_sub_le _)

theorem restores_bert (hq : 0 < q) (hratio : 0 ≤ ratio)
    (hdelta : deltaBert q haveBertRaw haveSolLamports ratio ≤ 0) :
    Restores q ratio haveBertRaw haveSolLamports .bert
      (Strategy.round (-deltaBert q haveBertRaw haveSolLamports ratio * rawPerBert)) := by
  have hl := lamportsPerSol_pos
  have hr := rawPerBert_pos
  set delta := deltaBert q haveBertRaw haveSolLamports ratio with hdef
  have htotal : (0 : ℚ) ≤ haveBertRaw / rawPerBert + haveSolLamports / lamportsPerSol * q := by
    positivity
  have hmost : -delta ≤ haveBertRaw / rawPerBert := by
    have hshare := mul_nonneg htotal hratio
    rw [hdef, deltaBert_missing, missing]
    linarith
  have hcovered : -delta * rawPerBert ≤ haveBertRaw := by
    rw [← le_div_iff₀ hr]
    exact hmost
  constructor
  · rw [← hdef, if_neg (not_lt.mpr hdelta)]
  · exact round_nonneg (mul_nonneg (by linarith) hr.le)
  · exact round_le hcovered
  · rw [missingAfter_bert hq, ← hdef]
    have hexact : delta + Strategy.round (-delta * rawPerBert) / rawPerBert =
        (Strategy.round (-delta * rawPerBert) - -delta * rawPerBert) * (1 / rawPerBert) := by
      field_simp
      ring
    have hunit : 0 < 1 / rawPerBert := div_pos one_pos hr
    rw [hexact, abs_mul, abs_of_pos hunit]
    exact mul_le_of_le_one_left hunit.le (abs_round_sub_le _)

/-- Meteora leaves an imbalance of less than a BERT alone. -/
structure MeteoraRestores (pool : Pool) (haveBertRaw haveSolLamports : ℕ) (ratio : ℚ) : Prop where
  swaps : ∀ s, buildSwapToRatioTx pool haveBertRaw haveSolLamports ratio = some s →
    s.outToken ≠ s.inToken ∧ (s.swapForY = true ↔ s.inToken = tokenX pool) ∧
    Restores (bertPerSol pool) ratio haveBertRaw haveSolLamports s.inToken s.inAmount
  settled : buildSwapToRatioTx pool haveBertRaw haveSolLamports ratio = none →
    |deltaBert (bertPerSol pool) haveBertRaw haveSolLamports ratio| < 1

structure RaydiumRestores (ray : RaydiumClient.PoolInfo) (haveBertRaw haveSolLamports : ℕ)
    (ratio : ℚ) : Prop where
  swaps : ∀ s, RaydiumClient.buildSwapToRatioTx ray haveBertRaw haveSolLamports ratio = some s →
    Restores (RaydiumClient.bertPerSol ray) ratio haveBertRaw haveSolLamports s.inputMint s.amountIn
  settled : RaydiumClient.buildSwapToRatioTx ray haveBertRaw haveSolLamports ratio = none →
    deltaBert (RaydiumClient.bertPerSol ray) haveBertRaw haveSolLamports ratio = 0

/-- At one price both sell the same, if both sell. -/
def ClientsAgree (pool : Pool) (ray : RaydiumClient.PoolInfo) (haveBertRaw haveSolLamports : ℕ)
    (ratio : ℚ) : Prop :=
  bertPerSol pool = RaydiumClient.bertPerSol ray → ∀ s r,
    buildSwapToRatioTx pool haveBertRaw haveSolLamports ratio = some s →
    RaydiumClient.buildSwapToRatioTx ray haveBertRaw haveSolLamports ratio = some r →
    s.inToken = r.inputMint ∧ s.inAmount = r.amountIn

theorem bertPerSol_pos (hprice : 0 < pool.activeBin.price) : 0 < bertPerSol pool := by
  unfold bertPerSol
  cases pool.venue.bertIsX with
  | true => simp [hprice]
  | false => simpa using hprice

theorem raydium_bertPerSol_pos (hprice : 0 < ray.poolPrice) : 0 < RaydiumClient.bertPerSol ray := by
  unfold RaydiumClient.bertPerSol
  cases ray.isBertMintA with
  | true => simp [hprice]
  | false => simpa using hprice

theorem meteora_sells (hq : 0 < bertPerSol pool) :
    buildSwapToRatioTx pool haveBertRaw haveSolLamports ratio =
      if |deltaBert (bertPerSol pool) haveBertRaw haveSolLamports ratio| < 1 then none
      else if 0 < deltaBert (bertPerSol pool) haveBertRaw haveSolLamports ratio then
        some ⟨.sol, .bert, !pool.venue.bertIsX, Strategy.round
          (deltaBert (bertPerSol pool) haveBertRaw haveSolLamports ratio / bertPerSol pool *
            lamportsPerSol)⟩
      else
        some ⟨.bert, .sol, pool.venue.bertIsX, Strategy.round
          (-deltaBert (bertPerSol pool) haveBertRaw haveSolLamports ratio * rawPerBert)⟩ := by
  unfold buildSwapToRatioTx tokenX tokenY
  rw [if_neg (not_le.mpr hq)]
  cases pool.venue.bertIsX <;> rfl

theorem meteora_restores (hprice : 0 < pool.activeBin.price) (hratio : 0 ≤ ratio)
    (hratio' : ratio ≤ 1) (haveBertRaw haveSolLamports : ℕ) :
    MeteoraRestores pool haveBertRaw haveSolLamports ratio := by
  have hq := bertPerSol_pos hprice
  have hfirst : ∀ token, (token = tokenX pool ↔ (token = .bert ↔ pool.venue.bertIsX = true)) := by
    intro token
    unfold tokenX
    cases token <;> cases pool.venue.bertIsX <;> decide
  constructor
  · intro s hs
    rw [meteora_sells hq] at hs
    split at hs
    · cases hs
    split at hs
    · next hdelta =>
      cases hs
      refine ⟨nofun, ?_, restores_sol hq hratio' hdelta⟩
      rw [hfirst]
      cases pool.venue.bertIsX <;> simp
    · next hdelta =>
      cases hs
      refine ⟨nofun, ?_, restores_bert hq hratio (not_lt.mp hdelta)⟩
      rw [hfirst]
      cases pool.venue.bertIsX <;> simp
  · intro hnone
    rw [meteora_sells hq] at hnone
    split at hnone
    · next hsmall => exact hsmall
    · split at hnone <;> cases hnone

theorem raydium_restores_iff (hprice : 0 < ray.poolPrice) (hratio : 0 ≤ ratio)
    (hratio' : ratio ≤ 1) (haveBertRaw haveSolLamports : ℕ) :
    RaydiumRestores ray haveBertRaw haveSolLamports ratio ↔
      ray.isBertMintA = false ∨
        deltaBert (RaydiumClient.bertPerSol ray) haveBertRaw haveSolLamports ratio ≤ 0 := by
  have hq := raydium_bertPerSol_pos hprice
  have hbert : (if ray.isBertMintA then RaydiumClient.mintA ray else RaydiumClient.mintB ray) =
      .bert := by
    unfold RaydiumClient.mintA RaydiumClient.mintB
    cases ray.isBertMintA <;> rfl
  constructor
  · intro h
    by_contra hboth
    rw [not_or, not_le, Bool.not_eq_false] at hboth
    obtain ⟨hA, hdelta⟩ := hboth
    have hsold := h.swaps _ (if_pos hdelta)
    have hover := hsold.overweight
    rw [if_pos hdelta] at hover
    simp [RaydiumClient.mintA, hA] at hover
  · intro hside
    constructor
    · intro s hs
      unfold RaydiumClient.buildSwapToRatioTx at hs
      dsimp only at hs
      split at hs
      · next hdelta =>
        cases hs
        rcases hside with hB | hle
        · have hsol : RaydiumClient.mintA ray = .sol := by simp [RaydiumClient.mintA, hB]
          rw [hsol]
          exact restores_sol hq hratio' hdelta
        · exact absurd hdelta (not_lt.mpr hle)
      split at hs
      · next hdelta =>
        cases hs
        rw [hbert]
        exact restores_bert hq hratio hdelta.le
      · cases hs
    · intro hnone
      unfold RaydiumClient.buildSwapToRatioTx at hnone
      dsimp only at hnone
      split at hnone
      · cases hnone
      next hle =>
      split at hnone
      · cases hnone
      · next hge => linarith [not_lt.mp hle, not_lt.mp hge]

theorem clients_agree (hprice : 0 < pool.activeBin.price)
    (hray : RaydiumRestores ray haveBertRaw haveSolLamports ratio) :
    ClientsAgree pool ray haveBertRaw haveSolLamports ratio := by
  intro hsame s r hs hr
  have hover := (hray.swaps r hr).overweight
  rw [meteora_sells (bertPerSol_pos hprice), hsame] at hs
  unfold RaydiumClient.buildSwapToRatioTx at hr
  dsimp only at hr
  split at hs
  · cases hs
  split at hs
  · next hdelta =>
    rw [if_pos hdelta] at hr hover
    cases hs
    cases hr
    exact ⟨hover.symm, rfl⟩
  · next hdelta =>
    rw [if_neg hdelta] at hr hover
    cases hs
    split at hr
    · cases hr
      exact ⟨hover.symm, rfl⟩
    · cases hr

/-- Both clients sell the right token in the right amount, and the same, exactly when the Raydium
pool has SOL as mint A or no BERT is to be bought. -/
theorem swaps_to_ratio_iff (pool : Pool) (ray : RaydiumClient.PoolInfo)
    (haveBertRaw haveSolLamports : ℕ) (ratio : ℚ) (hprice : 0 < pool.activeBin.price)
    (hrayPrice : 0 < ray.poolPrice) (hratio : 0 ≤ ratio) (hratio' : ratio ≤ 1) :
    (MeteoraRestores pool haveBertRaw haveSolLamports ratio ∧
      RaydiumRestores ray haveBertRaw haveSolLamports ratio ∧
      ClientsAgree pool ray haveBertRaw haveSolLamports ratio) ↔
    (ray.isBertMintA = false ∨
      deltaBert (RaydiumClient.bertPerSol ray) haveBertRaw haveSolLamports ratio ≤ 0) := by
  rw [← raydium_restores_iff hrayPrice hratio hratio']
  constructor
  · intro h
    exact h.2.1
  · intro hray
    exact ⟨meteora_restores hprice hratio hratio' _ _, hray, clients_agree hprice hray⟩

/-- At 10000 BERT for a SOL, in a pool of either kind. -/
def tokenPool (bertFirst : Bool) : Pool where
  venue := ⟨bertFirst, 1, fun _ _ => 1⟩
  activeBin := ⟨0, if bertFirst then 1 / 10000 else 10000⟩
  userPositions := []
  getBinIdFromPrice _ _ := 0

def bertMintA : RaydiumClient.PoolInfo := ⟨true, 1 / 10000⟩

/-- Of two SOL and no BERT, one venue is to sell a SOL and the other a thousand BERT. -/
theorem raydium_sells_bert :
    RaydiumClient.buildSwapToRatioTx bertMintA 0 2000000000 (1 / 2) =
        some ⟨.bert, 1000000000⟩ ∧
      buildSwapToRatioTx (tokenPool true) 0 2000000000 (1 / 2) =
        some ⟨.sol, .bert, false, 1000000000⟩ ∧
      ¬RaydiumRestores bertMintA 0 2000000000 (1 / 2) := by
  have hray : RaydiumClient.buildSwapToRatioTx bertMintA 0 2000000000 (1 / 2) =
      some ⟨.bert, 1000000000⟩ := by decide +kernel
  refine ⟨hray, by decide +kernel, ?_⟩
  intro h
  have hover := (h.swaps _ hray).overweight
  revert hover
  decide +kernel

theorem swaps_to_ratio_iff_twoSol :
    (MeteoraRestores (tokenPool true) 0 2000000000 (1 / 2) ∧
      RaydiumRestores bertMintA 0 2000000000 (1 / 2) ∧
      ClientsAgree (tokenPool true) bertMintA 0 2000000000 (1 / 2)) ↔
    (bertMintA.isBertMintA = false ∨
      deltaBert (RaydiumClient.bertPerSol bertMintA) 0 2000000000 (1 / 2) ≤ 0) :=
  swaps_to_ratio_iff (tokenPool true) bertMintA 0 2000000000 (1 / 2) (by decide +kernel)
    (by decide +kernel) (by decide +kernel) (by decide +kernel)

end SwapToRatio
