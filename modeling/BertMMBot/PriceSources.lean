import BertMMBot.OracleCorroboration
import BertMMBot.TextInput

/-! # Where the samples come from

Three fetchers are asked at once, and whoever fails is left out. The venue's pool has no dollar
prices, so that a trusted mid rests on the two services: it is there exactly when both of them
quote and their quotes agree. -/
namespace PriceSources

open VaultTypes VaultRuntime OracleCorroboration

def bertMint : String := "HgBRWfYxEfvPhtqkaeymCQtHCrKE46qQ43pKe8HCpump"
def solMint : String := "So11111111111111111111111111111111111111112"
def solDecimals : ℕ := 9
def usdcDecimals : ℕ := 6

/-- A request that throws, or whose body cannot be read; another status than ok; or the body. -/
inductive Response (α : Type) where
  | failed
  | refused
  | body (a : α)

def Response.toOption {α : Type} : Response α → Option α
  | .body a => some a
  | _ => none

structure QuoteBody where
  outAmount : String

structure TokenPair where
  priceUsd : Option String
  priceNative : Option String
  baseToken : Option String
  quoteToken : Option String

structure TokensBody where
  pairs : List TokenPair

/-- What the fetchers meet in one round, and when each of them is done. -/
structure Answers where
  poolUp : Bool
  bertQuote : Response QuoteBody
  solQuote : Response QuoteBody
  tokens : Response TokensBody
  raydiumTs : ℤ
  jupiterTs : ℤ
  dexScreenerTs : ℤ

structure PoolPrices where
  bertUsd : ℚ
  solUsd : ℚ

/-- Both clients leave the dollar prices of a pool to the oracle. -/
def getPoolState (up : Bool) : Option PoolPrices := if up then some ⟨0, 0⟩ else none

def fetchRaydium (answers : Answers) : Option PriceSample := do
  let state ← getPoolState answers.poolUp
  if state.bertUsd ≤ 0 ∨ state.solUsd ≤ 0 then none
  else some ⟨"raydium", state.bertUsd, state.solUsd, state.solUsd / state.bertUsd, answers.raydiumTs⟩

def outAmount (decimals : ℕ) (quote : Response QuoteBody) : Option ℚ := do
  let data ← quote.toOption
  let amount ← TextInput.number data.outAmount
  Binary64.ofRat (amount / 10 ^ decimals)

def fetchJupiter (answers : Answers) : Option PriceSample := do
  let solOut ← outAmount solDecimals answers.bertQuote
  let solUsd ← outAmount usdcDecimals answers.solQuote
  let bertUsd ← Binary64.ofRat (solOut * solUsd)
  if bertUsd ≤ 0 ∨ solUsd ≤ 0 then none
  else some ⟨"jupiter", bertUsd, solUsd, if 0 < solUsd then solUsd / bertUsd else 0, answers.jupiterTs⟩

/-- The price of SOL in the pair, if it is one of BERT and SOL and the price is finite. -/
def nativeSolUsd (target : TokenPair) (bertUsd : ℚ) : ℚ :=
  match target.priceNative.bind TextInput.number with
  | none => 0
  | some priceNative =>
    if target.baseToken = some bertMint ∧ target.quoteToken = some solMint ∧ 0 < priceNative then
      (Binary64.ofRat (bertUsd / priceNative)).getD 0
    else if target.baseToken = some solMint ∧ target.quoteToken = some bertMint ∧
        0 < priceNative then
      (Binary64.ofRat (bertUsd * priceNative)).getD 0
    else 0

/-- An empty price is zero as a number, and no price either way. -/
def fetchDexScreener (answers : Answers) : Option PriceSample := do
  let data ← answers.tokens.toOption
  let target ← data.pairs.head?
  let priceUsd ← target.priceUsd
  let bertUsd ← TextInput.number priceUsd
  let native := nativeSolUsd target bertUsd
  let solUsd := if native ≤ 0 then 0 else native
  if bertUsd ≤ 0 then none
  else some ⟨"dexscreener", bertUsd, solUsd, if 0 < solUsd then solUsd / bertUsd else 0,
    answers.dexScreenerTs⟩

def fetchAllSources (answers : Answers) : List PriceSample :=
  [fetchRaydium answers, fetchJupiter answers, fetchDexScreener answers].filterMap id

variable {answers : Answers} {j d : PriceSample}

theorem fetchRaydium_none : fetchRaydium answers = none := by
  cases hup : answers.poolUp with
  | true => simp [fetchRaydium, getPoolState, hup]
  | false => simp [fetchRaydium, getPoolState, hup]

theorem fetchJupiter_some (h : fetchJupiter answers = some j) :
    j.source = "jupiter" ∧ 0 < j.bertUsd ∧ 0 < j.solUsd := by
  unfold fetchJupiter at h
  obtain ⟨solOut, -, h⟩ := Option.bind_eq_some_iff.mp h
  obtain ⟨solUsd, -, h⟩ := Option.bind_eq_some_iff.mp h
  obtain ⟨bertUsd, -, h⟩ := Option.bind_eq_some_iff.mp h
  split at h
  · cases h
  · next hpos =>
    rw [not_or, not_le, not_le] at hpos
    cases h
    exact ⟨rfl, hpos⟩

theorem fetchDexScreener_some (h : fetchDexScreener answers = some d) :
    d.source = "dexscreener" ∧ 0 < d.bertUsd ∧ 0 ≤ d.solUsd := by
  unfold fetchDexScreener at h
  obtain ⟨data, -, h⟩ := Option.bind_eq_some_iff.mp h
  obtain ⟨target, -, h⟩ := Option.bind_eq_some_iff.mp h
  obtain ⟨priceUsd, -, h⟩ := Option.bind_eq_some_iff.mp h
  obtain ⟨bertUsd, -, h⟩ := Option.bind_eq_some_iff.mp h
  simp only [] at h
  split at h
  · cases h
  · next hpos =>
    cases h
    refine ⟨rfl, not_le.mp hpos, ?_⟩
    simp only []
    split
    · exact le_rfl
    · next hnative => exact (not_le.mp hnative).le

theorem fetchAllSources_eq :
    fetchAllSources answers = (fetchJupiter answers).toList ++ (fetchDexScreener answers).toList := by
  rw [fetchAllSources, fetchRaydium_none]
  cases fetchJupiter answers with
  | none => cases fetchDexScreener answers <;> rfl
  | some j => cases fetchDexScreener answers <;> rfl

/-- The mid of two quotes; one without a price of SOL does not count for it. -/
def agreed (j d : PriceSample) (now : ℤ) : MidPrice :=
  let bertUsd := (j.bertUsd + d.bertUsd) / 2
  let solUsd := if d.solUsd = 0 then j.solUsd else (j.solUsd + d.solUsd) / 2
  ⟨solUsd / bertUsd, bertUsd, solUsd, now, [j.source, d.source]⟩

/-- Two quotes of BERT within so many basis points of the higher one. -/
def Agree (bps : ℚ) (j d : PriceSample) : Prop :=
  |j.bertUsd - d.bertUsd| ≤ bps / 10000 * max j.bertUsd d.bertUsd

instance {bps : ℚ} : Decidable (Agree bps j d) := inferInstanceAs (Decidable (_ ≤ _))

theorem sorted_pair {x y : ℚ} : [x, y].insertionSort (· ≤ ·) = [min x y, max x y] := by
  rcases le_or_gt x y with h | h
  · simp [List.insertionSort, h]
  · simp [List.insertionSort, h.le, not_le.mpr h]

theorem diverges_pair {bps x y : ℚ} (hx : 0 < x) :
    diverges (max x y - min x y) (max x y) bps = true ↔ bps / 10000 * max x y < |x - y| := by
  have hmax : 0 < max x y := lt_max_of_lt_left hx
  rw [diverges, if_neg hmax.ne', decide_eq_true_iff, max_sub_min_eq_abs',
    ← div_lt_iff₀ (by norm_num : (0 : ℚ) < 10000), lt_div_iff₀ hmax]

theorem solUsd_pair (hjsol : 0 < j.solUsd) (hdsol : 0 ≤ d.solUsd) :
    mean (([j, d].filter fun s => 0 < s.solUsd).map PriceSample.solUsd) =
      if d.solUsd = 0 then j.solUsd else (j.solUsd + d.solUsd) / 2 := by
  by_cases hzero : d.solUsd = 0
  · simp [mean, hjsol, hzero]
  · have hpos : 0 < d.solUsd := lt_of_le_of_ne hdsol (Ne.symm hzero)
    simp [mean, hjsol, hpos, hzero]

theorem computeTrustedMid_pair {fallback bps : ℚ} {now : ℤ} {m : MidPrice} (hj : 0 < j.bertUsd)
    (hjsol : 0 < j.solUsd) (hdsol : 0 ≤ d.solUsd) :
    computeTrustedMid [j, d] fallback now bps = some m ↔ Agree bps j d ∧ m = agreed j d now := by
  have hquoted : (([j, d].filter fun s => 0 < s.solUsd).map PriceSample.solUsd) ≠ [] := by
    simp [hjsol]
  have hmean : mean [min j.bertUsd d.bertUsd, max j.bertUsd d.bertUsd] =
      (j.bertUsd + d.bertUsd) / 2 := by
    simp [mean, min_add_max]
  have hcheck : diverges (max j.bertUsd d.bertUsd - min j.bertUsd d.bertUsd)
      (max j.bertUsd d.bertUsd) bps = true ↔ ¬Agree bps j d :=
    (diverges_pair hj).trans not_le.symm
  have hcomputed : computeTrustedMid [j, d] fallback now bps =
      if ¬Agree bps j d then none else some (agreed j d now) := by
    unfold computeTrustedMid
    rw [if_neg (by simp)]
    simp only [List.map_cons, List.map_nil, sorted_pair, List.length_cons, List.length_nil,
      List.getD_cons_zero, List.getD_cons_succ, hmean, if_neg hquoted, solUsd_pair hjsol hdsol]
    exact if_congr hcheck rfl rfl
  rw [hcomputed]
  by_cases hagree : Agree bps j d
  · simp [hagree, eq_comm]
  · simp [hagree]

/-- A trusted mid is there exactly when both services quote and their quotes agree. It is made of
these two quotes alone, whatever price of SOL the caller holds ready. -/
theorem trusted_mid_iff {fallback bps : ℚ} {now : ℤ} {m : MidPrice} :
    computeTrustedMid (fetchAllSources answers) fallback now bps = some m ↔
      ∃ j d, fetchJupiter answers = some j ∧ fetchDexScreener answers = some d ∧
        Agree bps j d ∧ m = agreed j d now := by
  rw [fetchAllSources_eq]
  cases hj : fetchJupiter answers with
  | none =>
    cases hd : fetchDexScreener answers with
    | none => simp [computeTrustedMid]
    | some d => simp [computeTrustedMid]
  | some j =>
    cases hd : fetchDexScreener answers with
    | none => simp [computeTrustedMid]
    | some d =>
      obtain ⟨-, hbert, hsol⟩ := fetchJupiter_some hj
      obtain ⟨-, -, hdsol⟩ := fetchDexScreener_some hd
      simpa using computeTrustedMid_pair hbert hsol hdsol

end PriceSources
