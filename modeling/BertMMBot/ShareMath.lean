import BertMMBot.VaultProgram
import Mathlib.Tactic.Ring
import Mathlib.Tactic.Positivity
import Mathlib.Tactic.FieldSimp

/-! # Share and NAV arithmetic

Prices, shares and USD amounts are exact rationals. The only roundings are the two floors
that turn USD into lamports and raw token units. -/
namespace ShareMath

open VaultTypes VaultProgram

def lamportsPerSol : ℚ := 10 ^ 9
def rawPerBert : ℚ := 10 ^ 6

theorem lamportsPerSol_pos : 0 < lamportsPerSol := by norm_num [lamportsPerSol]

theorem rawPerBert_pos : 0 < rawPerBert := by norm_num [rawPerBert]

/-- 1 is the sentinel for an empty pool. -/
def computeNavPerShare (totalUsd totalShares : ℚ) : ℚ :=
  if totalShares ≤ 0 then 1 else totalUsd / totalShares

def computeSharesForDeposit (depositUsd navPerShare : ℚ) : Except Thrown ℚ :=
  if navPerShare ≤ 0 then .error (.error "computeSharesForDeposit: navPerShare must be > 0")
  else .ok (depositUsd / navPerShare)

structure FeeSplit where
  feeShares : ℚ
  netShares : ℚ

def splitFee (sharesBurned : ℚ) (feeBps : ℕ) : FeeSplit :=
  let feeShares := sharesBurned * ((feeBps : ℚ) / 10000)
  ⟨feeShares, sharesBurned - feeShares⟩

def usdForShares (netShares navPerShare : ℚ) : ℚ := netShares * navPerShare

structure TokenSplit where
  solLamports : ℤ
  bertRaw : ℤ
  deriving DecidableEq, Repr

def splitUsdIntoTokens (usd solFrac : ℚ) (mid : Mid) : Except Thrown TokenSplit :=
  if mid.solUsd ≤ 0 ∨ mid.bertUsd ≤ 0 then
    .error (.error "splitUsdIntoTokens: prices must be > 0")
  else
    .ok ⟨⌊usd * solFrac / mid.solUsd * lamportsPerSol⌋,
      ⌊usd * (1 - solFrac) / mid.bertUsd * rawPerBert⌋⟩

structure NavInputs where
  freeSolLamports : ℕ
  freeBertRaw : ℕ
  positionTotalValueUsd : ℚ
  uncollectedFeesBert : ℕ
  uncollectedFeesSol : ℕ
  mid : Mid

structure NavSnapshot where
  totalUsd : ℚ
  freeUsd : ℚ
  positionUsd : ℚ
  feesUsd : ℚ
  solFrac : ℚ

def computeNav (i : NavInputs) : NavSnapshot :=
  let freeSol := (i.freeSolLamports : ℚ) / lamportsPerSol
  let freeBert := (i.freeBertRaw : ℚ) / rawPerBert
  let feeBert := (i.uncollectedFeesBert : ℚ) / rawPerBert
  let feeSol := (i.uncollectedFeesSol : ℚ) / lamportsPerSol
  let freeUsd := freeSol * i.mid.solUsd + freeBert * i.mid.bertUsd
  let feesUsd := feeBert * i.mid.bertUsd + feeSol * i.mid.solUsd
  let positionUsd := i.positionTotalValueUsd
  -- the split follows the free wallet alone, as a proxy for the whole pool
  { totalUsd := freeUsd + positionUsd + feesUsd
    freeUsd, positionUsd, feesUsd
    solFrac := if 0 < freeUsd then freeSol * i.mid.solUsd / freeUsd else 1 / 2 }

/-- The USD value of token amounts at a mid. -/
def tokenUsd (mid : Mid) (solLamports bertRaw : ℚ) : ℚ :=
  solLamports / lamportsPerSol * mid.solUsd + bertRaw / rawPerBert * mid.bertUsd

/-- SOL kept back for gas and rent cannot be spent by users. -/
def spendable (reserveSolLamports solLamports : ℕ) : ℕ :=
  if reserveSolLamports < solLamports then solLamports - reserveSolLamports else 0

theorem computeNavPerShare_of_pos {totalUsd totalShares : ℚ} (h : 0 < totalShares) :
    computeNavPerShare totalUsd totalShares = totalUsd / totalShares := by
  simp [computeNavPerShare, not_le.mpr h]

theorem computeSharesForDeposit_ok {usd nav minted : ℚ}
    (h : computeSharesForDeposit usd nav = .ok minted) : 0 < nav ∧ minted = usd / nav := by
  unfold computeSharesForDeposit at h
  split at h
  · cases h
  · next hnav => exact ⟨not_le.mp hnav, (Except.ok.inj h).symm⟩

theorem splitUsdIntoTokens_ok {usd frac : ℚ} {mid : Mid} {s : TokenSplit}
    (h : splitUsdIntoTokens usd frac mid = .ok s) :
    0 < mid.solUsd ∧ 0 < mid.bertUsd ∧
      s.solLamports = ⌊usd * frac / mid.solUsd * lamportsPerSol⌋ ∧
      s.bertRaw = ⌊usd * (1 - frac) / mid.bertUsd * rawPerBert⌋ := by
  unfold splitUsdIntoTokens at h
  split at h
  · cases h
  · next hp =>
    rw [not_or, not_le, not_le] at hp
    obtain rfl := Except.ok.inj h
    exact ⟨hp.1, hp.2, rfl, rfl⟩

theorem tokenUsd_add (mid : Mid) (s b s' b' : ℚ) :
    tokenUsd mid (s + s') (b + b') = tokenUsd mid s b + tokenUsd mid s' b' := by
  simp only [tokenUsd]
  ring

theorem tokenUsd_sub (mid : Mid) (s b s' b' : ℚ) :
    tokenUsd mid (s - s') (b - b') = tokenUsd mid s b - tokenUsd mid s' b' := by
  simp only [tokenUsd]
  ring

def PositivePrice (mid : Mid) : Prop := 0 < mid.solUsd ∧ 0 < mid.bertUsd

theorem tokenUsd_nonneg {mid : Mid} (hs : 0 ≤ mid.solUsd) (hb : 0 ≤ mid.bertUsd) (s b : ℕ) :
    0 ≤ tokenUsd mid s b := by
  have := lamportsPerSol_pos
  have := rawPerBert_pos
  unfold tokenUsd
  positivity

/-- Without uncollected fees the total is the free value plus the position's. -/
theorem computeNav_totalUsd (sol bert : ℕ) (pos : ℚ) (mid : Mid) :
    (computeNav ⟨sol, bert, pos, 0, 0, mid⟩).totalUsd = tokenUsd mid sol bert + pos := by
  simp [computeNav, tokenUsd]

/-- The SOL share of the free value lies between nothing and all of it. -/
theorem computeNav_solFrac {i : NavInputs} (hs : 0 ≤ i.mid.solUsd) (hb : 0 ≤ i.mid.bertUsd) :
    0 ≤ (computeNav i).solFrac ∧ (computeNav i).solFrac ≤ 1 := by
  have hl := lamportsPerSol_pos
  have hr := rawPerBert_pos
  have hsol : 0 ≤ (i.freeSolLamports : ℚ) / lamportsPerSol * i.mid.solUsd :=
    mul_nonneg (by positivity) hs
  have hbert : 0 ≤ (i.freeBertRaw : ℚ) / rawPerBert * i.mid.bertUsd :=
    mul_nonneg (by positivity) hb
  simp only [computeNav]
  by_cases hfree : 0 < (i.freeSolLamports : ℚ) / lamportsPerSol * i.mid.solUsd +
      (i.freeBertRaw : ℚ) / rawPerBert * i.mid.bertUsd
  · rw [if_pos hfree]
    exact ⟨div_nonneg hsol hfree.le, (div_le_one hfree).mpr (by linarith)⟩
  · rw [if_neg hfree]
    norm_num

theorem spendable_low {reserve sol : ℕ} (h : sol < reserve) : spendable reserve sol = 0 :=
  if_neg (by omega)

theorem spendable_plus {reserve sol more : ℕ} (h : reserve ≤ sol) :
    spendable reserve (sol + more) = spendable reserve sol + more := by
  unfold spendable
  split_ifs <;> omega

theorem spendable_mono (reserve sol more : ℕ) :
    spendable reserve sol ≤ spendable reserve (sol + more) := by
  unfold spendable
  split_ifs <;> omega

theorem spendable_add (reserve sol more : ℕ) :
    spendable reserve (sol + more) ≤ spendable reserve sol + more := by
  unfold spendable
  split_ifs <;> omega

theorem spendable_sub {reserve sol sol' : ℕ} {need : ℤ} (hsol : (sol' : ℤ) = sol - need)
    (hneed : 0 ≤ need) (hle : need ≤ spendable reserve sol) :
    (spendable reserve sol' : ℤ) = spendable reserve sol - need := by
  unfold spendable at hle ⊢
  split at hle <;> split <;> omega

theorem splitUsdIntoTokens_nonneg {usd frac : ℚ} {mid : Mid} {s : TokenSplit}
    (h : splitUsdIntoTokens usd frac mid = .ok s) (husd : 0 ≤ usd) (hfrac : 0 ≤ frac)
    (hfrac' : frac ≤ 1) : 0 ≤ s.solLamports ∧ 0 ≤ s.bertRaw := by
  obtain ⟨hs, hb, hsol, hbert⟩ := splitUsdIntoTokens_ok h
  have hl := lamportsPerSol_pos
  have hr := rawPerBert_pos
  rw [hsol, hbert]
  have hrest : 0 ≤ 1 - frac := by linarith
  exact ⟨Int.floor_nonneg.mpr (by positivity), Int.floor_nonneg.mpr (by positivity)⟩

theorem tokenUsd_floor_le {mid : Mid} (hs : 0 ≤ mid.solUsd) (hb : 0 ≤ mid.bertUsd)
    (sol bert : ℚ) : tokenUsd mid ⌊sol⌋ ⌊bert⌋ ≤ tokenUsd mid sol bert := by
  have hl := lamportsPerSol_pos
  have hr := rawPerBert_pos
  have hsol := Int.floor_le sol
  have hbert := Int.floor_le bert
  unfold tokenUsd
  gcongr

/-- Rounding down costs less than a lamport and a raw unit of BERT. -/
theorem tokenUsd_sub_floor_lt {mid : Mid} (hprice : PositivePrice mid) (sol bert : ℚ) :
    tokenUsd mid sol bert - tokenUsd mid ⌊sol⌋ ⌊bert⌋ < tokenUsd mid 1 1 := by
  have hl := lamportsPerSol_pos
  have hr := rawPerBert_pos
  have hs := hprice.1
  have hb := hprice.2
  have hsol : sol - ⌊sol⌋ < 1 := by linarith [Int.lt_floor_add_one sol]
  have hbert : bert - ⌊bert⌋ < 1 := by linarith [Int.lt_floor_add_one bert]
  rw [← tokenUsd_sub]
  unfold tokenUsd
  gcongr

/-- Before they are rounded, the two parts are worth the amount to be split. -/
theorem tokenUsd_parts {mid : Mid} (hprice : PositivePrice mid) (usd frac : ℚ) :
    tokenUsd mid (usd * frac / mid.solUsd * lamportsPerSol)
      (usd * (1 - frac) / mid.bertUsd * rawPerBert) = usd := by
  have hl := lamportsPerSol_pos
  have hr := rawPerBert_pos
  obtain ⟨hs, hb⟩ := hprice
  unfold tokenUsd
  field_simp
  ring

/-- Two floors never pay more than the amount to be split. -/
theorem splitUsdIntoTokens_le {usd frac : ℚ} {mid : Mid} {s : TokenSplit}
    (h : splitUsdIntoTokens usd frac mid = .ok s) :
    tokenUsd mid s.solLamports s.bertRaw ≤ usd := by
  obtain ⟨hs, hb, hsol, hbert⟩ := splitUsdIntoTokens_ok h
  rw [hsol, hbert]
  exact (tokenUsd_floor_le hs.le hb.le _ _).trans_eq (tokenUsd_parts ⟨hs, hb⟩ usd frac)

/-- They keep back less than a lamport and a raw unit of BERT. -/
theorem splitUsdIntoTokens_gt {usd frac : ℚ} {mid : Mid} {s : TokenSplit}
    (h : splitUsdIntoTokens usd frac mid = .ok s) :
    usd - tokenUsd mid 1 1 < tokenUsd mid s.solLamports s.bertRaw := by
  obtain ⟨hs, hb, hsol, hbert⟩ := splitUsdIntoTokens_ok h
  have hlost := tokenUsd_sub_floor_lt ⟨hs, hb⟩ (usd * frac / mid.solUsd * lamportsPerSol)
    (usd * (1 - frac) / mid.bertUsd * rawPerBert)
  rw [tokenUsd_parts ⟨hs, hb⟩, ← hsol, ← hbert] at hlost
  linarith

end ShareMath
