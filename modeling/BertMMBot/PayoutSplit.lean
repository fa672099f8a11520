import BertMMBot.NavAgreement

/-! # The split of a payout

A payout is split by the composition of the free wallet, which stands in for that of the whole
pool. So a row may be owed more of one token than wallet and position hold together. The exact
condition under which the amounts are there is also, but for a wallet below the gas reserve,
the one under which the executor finds its reserves. -/
namespace PayoutSplit

open AsyncProgram AsyncContract VaultTypes VaultProgram ShareMath WithdrawalExecutor
open DepositorStore DrainSemantics NavAgreement
open VaultDiscipline (outcome)

variable {reserve : ℕ} {mid : Mid} {bal held out : Balances} {total : ℚ} {row : WithdrawalRow}
  {p : Payout} {w w' : World} {R : ℤ → ℤ → Balances → Prop}

/-- A position at its market value. -/
def marked (mid : Mid) (held : Balances) : PositionValue :=
  ⟨tokenUsd mid held.solLamports held.bertRaw, tokenUsd mid held.solLamports 0,
    tokenUsd mid 0 held.bertRaw⟩

def freeUsd (reserve : ℕ) (mid : Mid) (bal : Balances) : ℚ :=
  tokenUsd mid (spendable reserve bal.solLamports) bal.bertRaw

def freeSolFrac (reserve : ℕ) (mid : Mid) (bal : Balances) : ℚ :=
  if 0 < freeUsd reserve mid bal then
    tokenUsd mid (spendable reserve bal.solLamports) 0 / freeUsd reserve mid bal
  else 1 / 2

/-- What the row is owed, with the position at its market value. -/
def owedUsd (reserve : ℕ) (mid : Mid) (bal held : Balances) (total : ℚ) (row : WithdrawalRow) : ℚ :=
  usdForShares (row.sharesBurned - row.feeShares)
    (computeNavPerShare (freeUsd reserve mid bal + tokenUsd mid held.solLamports held.bertRaw) total)

/-- Of neither token is owed the worth of all there is and one unit more. -/
structure Coverable (reserve : ℕ) (mid : Mid) (bal held : Balances) (total : ℚ)
    (row : WithdrawalRow) : Prop where
  sol : owedUsd reserve mid bal held total row * freeSolFrac reserve mid bal <
    tokenUsd mid (spendable reserve bal.solLamports + held.solLamports + 1) 0
  bert : owedUsd reserve mid bal held total row * (1 - freeSolFrac reserve mid bal) <
    tokenUsd mid 0 (bal.bertRaw + held.bertRaw + 1)

/-- The amounts are there, in the wallet and the position together. -/
structure Fits (reserve : ℕ) (bal held : Balances) (p : Payout) : Prop where
  sol : p.needSol ≤ spendable reserve bal.solLamports + held.solLamports
  bert : p.needBert ≤ bal.bertRaw + held.bertRaw

theorem executorNav_solFrac :
    (executorNav reserve mid bal (marked mid held)).solFrac = freeSolFrac reserve mid bal := by
  simp [executorNav, computeNav, freeSolFrac, freeUsd, tokenUsd]

theorem executorNav_totalUsd : (executorNav reserve mid bal (marked mid held)).totalUsd =
    freeUsd reserve mid bal + tokenUsd mid held.solLamports held.bertRaw :=
  computeNav_totalUsd _ _ _ _

theorem payout_marked (hmid : PositivePrice mid) :
    ∃ p, payout reserve mid bal (marked mid held) total row = .ok p ∧
      p.needSol = ⌊owedUsd reserve mid bal held total row * freeSolFrac reserve mid bal /
        mid.solUsd * lamportsPerSol⌋ ∧
      p.needBert = ⌊owedUsd reserve mid bal held total row * (1 - freeSolFrac reserve mid bal) /
        mid.bertUsd * rawPerBert⌋ := by
  have hprices : ¬(mid.solUsd ≤ 0 ∨ mid.bertUsd ≤ 0) := by
    rw [not_or, not_le, not_le]
    exact hmid
  simp only [payout, splitUsdIntoTokens, if_neg hprices, executorNav_solFrac, executorNav_totalUsd]
  exact ⟨_, rfl, rfl, rfl⟩

theorem floor_sol_le (hmid : PositivePrice mid) (usd : ℚ) (n : ℕ) :
    ⌊usd / mid.solUsd * lamportsPerSol⌋ ≤ (n : ℤ) ↔ usd < tokenUsd mid (n + 1) 0 := by
  have hprice := hmid.1
  have hunit := lamportsPerSol_pos
  rw [Int.floor_le_iff, ← lt_div_iff₀ hunit, div_lt_iff₀ hprice]
  simp [tokenUsd]

theorem floor_bert_le (hmid : PositivePrice mid) (usd : ℚ) (n : ℕ) :
    ⌊usd / mid.bertUsd * rawPerBert⌋ ≤ (n : ℤ) ↔ usd < tokenUsd mid 0 (n + 1) := by
  have hprice := hmid.2
  have hunit := rawPerBert_pos
  rw [Int.floor_le_iff, ← lt_div_iff₀ hunit, div_lt_iff₀ hprice]
  simp [tokenUsd]

theorem fits_iff (hmid : PositivePrice mid)
    (hp : payout reserve mid bal (marked mid held) total row = .ok p) :
    Fits reserve bal held p ↔ Coverable reserve mid bal held total row := by
  obtain ⟨q, hq, hsol, hbert⟩ : ∃ q, payout reserve mid bal (marked mid held) total row = .ok q ∧
      _ ∧ _ := payout_marked hmid
  cases hp.symm.trans hq
  have hs := floor_sol_le hmid (owedUsd reserve mid bal held total row * freeSolFrac reserve mid bal)
    (spendable reserve bal.solLamports + held.solLamports)
  have hb := floor_bert_le hmid
    (owedUsd reserve mid bal held total row * (1 - freeSolFrac reserve mid bal))
    (bal.bertRaw + held.bertRaw)
  push_cast at hs hb
  constructor
  · rintro ⟨hfs, hfb⟩
    rw [hsol] at hfs
    rw [hbert] at hfb
    exact ⟨hs.mp hfs, hb.mp hfb⟩
  · rintro ⟨hcs, hcb⟩
    constructor
    · rw [hsol]
      exact hs.mpr hcs
    · rw [hbert]
      exact hb.mpr hcb

/-- What `processRow` does up to the decision whether to pay. -/
def reserveRow (deps : ExecutorDeps) (mid : Mid) (row : WithdrawalRow) : Vault (Payout × Bool) := do
  let quote ← priceRow deps mid row
  let covered ← secureReserves deps quote.1 quote.2
  return (quote.2, covered)

theorem processRow_reserves (deps : ExecutorDeps) (now : ℤ) (mid : Mid) (row : WithdrawalRow) :
    processRow deps now mid row = (do
      let r ← reserveRow deps mid row
      if r.2 then settle deps now row r.1
      else failWithdrawal row.id "reserves_insufficient" now) := by
  rw [processRow_prices]
  unfold reserveRow
  simp only [async_bind_assoc]
  rfl

/-- A partial close releases what is asked for, as far as the position holds it. -/
structure Releases (held : Balances) (sol bert : ℤ) (out : Balances) : Prop where
  solAsked : min sol held.solLamports ≤ out.solLamports
  solHeld : out.solLamports ≤ held.solLamports
  bertAsked : min bert held.bertRaw ≤ out.bertRaw
  bertHeld : out.bertRaw ≤ held.bertRaw

def plus (bal out : Balances) : Balances :=
  ⟨bal.solLamports + out.solLamports, bal.bertRaw + out.bertRaw⟩

def received (w : World) (out : Balances) : World :=
  { w with chain := { w.chain with wallet := plus w.chain.wallet out } }

/-- The wallet is read off the chain, the position has its market value, and a partial close
brings what `R` allows. -/
def positionHost (mid : Mid) (held : Balances) (R : ℤ → ℤ → Balances → Prop) : VaultHost where
  choose _ _ _ := True
  respond
    | .getWalletBalances, w, a, w' => a = .ok (some w.chain.wallet) ∧ w' = w
    | .getPositionSnapshot, w, a, w' => a = .ok (some (marked mid held)) ∧ w' = w
    | .partialClose sol bert, w, a, w' => a = .ok () ∧ ∃ out, R sol bert out ∧ w' = received w out
    | _, _, _, _ => True

def solShort (reserve : ℕ) (bal : Balances) (p : Payout) : ℤ :=
  if (spendable reserve bal.solLamports : ℤ) < p.needSol then
    p.needSol - spendable reserve bal.solLamports else 0

def bertShort (bal : Balances) (p : Payout) : ℤ :=
  if (bal.bertRaw : ℤ) < p.needBert then p.needBert - bal.bertRaw else 0

/-- The free wallet covers the payout, or does so with what a partial close has brought. -/
def Secured (reserve : ℕ) (R : ℤ → ℤ → Balances → Prop) (bal : Balances) (p : Payout)
    (covered : Bool) : Prop :=
  covers reserve bal p = true ∧ covered = true ∨ covers reserve bal p = false ∧
    ∃ out, R (solShort reserve bal p) (bertShort bal p) out ∧
      covered = covers reserve (plus bal out) p

theorem shorts_of_uncovered (h : covers reserve bal p = false) :
    0 < solShort reserve bal p ∨ 0 < bertShort bal p := by
  unfold covers at h
  rw [decide_eq_false_iff_not, not_and_or, not_le, not_le] at h
  unfold solShort bertShort
  rcases h with h | h
  · rw [if_pos h]
    left
    omega
  · rw [if_pos h]
    right
    omega

theorem secureReserves_short (h : covers reserve bal p = false) :
    secureReserves (hostDeps reserve) bal p = (do
      (hostDeps reserve).partialClose (solShort reserve bal p) (bertShort bal p)
      let bal2 ← (hostDeps reserve).getWalletBalances
      let bal2 ← nonNull "solLamports" bal2
      return covers reserve bal2 p) := by
  have hcovers : ¬covers (hostDeps reserve).reserveSolLamports bal p = true := by
    rw [show (hostDeps reserve).reserveSolLamports = reserve from rfl, h]
    exact Bool.false_ne_true
  unfold secureReserves
  rw [if_neg hcovers]
  have hclose : closeShort (hostDeps reserve) (solShort reserve bal p) (bertShort bal p) =
      (hostDeps reserve).partialClose (solShort reserve bal p) (bertShort bal p) :=
    if_pos (shorts_of_uncovered h)
  rw [← hclose]
  rfl

theorem secureReserves_yields (p : Payout) :
    Yields (positionHost mid held R) (secureReserves (hostDeps reserve) w.chain.wallet p w)
      (outcome (fun covered _ => Secured reserve R w.chain.wallet p covered) fun _ => False) := by
  cases hshort : covers reserve w.chain.wallet p with
  | true =>
    unfold secureReserves
    apply yields_ite
    · intro hcovers
      exact yields_pure (.inl ⟨hshort, rfl⟩)
    · intro hcovers
      exact absurd hshort hcovers
  | false =>
    rw [secureReserves_short hshort]
    apply yields_bind (B := fun _ w' => ∃ out, R (solShort reserve w.chain.wallet p)
      (bertShort w.chain.wallet p) out ∧ w' = received w out)
    · apply yields_call
      · intro _ w' ha
        exact ha.2
      · intro e w' ha
        cases ha.1
    rintro _ w' ⟨out, hout, hw⟩
    subst w'
    apply yields_bind (B := fun bal2 w' => bal2 = some (plus w.chain.wallet out) ∧
      w' = received w out)
    · apply yields_call
      · intro bal2 w' ha
        exact ⟨Except.ok.inj ha.1, ha.2⟩
      · intro e w' ha
        cases ha.1
    rintro bal2 w' ⟨hbal, hw⟩
    subst w' bal2
    exact yields_pure (.inr ⟨hshort, out, hout, rfl⟩)

theorem reserveRow_yields
    (hp : payout reserve mid w.chain.wallet (marked mid held) (totalShares w.db) row = .ok p) :
    Yields (positionHost mid held R) (reserveRow (hostDeps reserve) mid row w)
      (outcome (fun r _ => r.1 = p ∧ Secured reserve R w.chain.wallet p r.2) fun _ => False) := by
  unfold reserveRow
  apply yields_bind (B := fun quote w' => quote = (w.chain.wallet, p) ∧ w' = w)
  · unfold priceRow
    apply yields_bind (B := fun bal w' => bal = some w.chain.wallet ∧ w' = w)
    · apply yields_call
      · intro bal w' ha
        exact ⟨Except.ok.inj ha.1, ha.2⟩
      · intro e w' ha
        cases ha.1
    rintro bal w' ⟨hbal, hw⟩
    subst w' bal
    apply yields_bind (B := fun pos w' => pos = some (marked mid held) ∧ w' = w)
    · apply yields_call
      · intro pos w' ha
        exact ⟨Except.ok.inj ha.1, ha.2⟩
      · intro e w' ha
        cases ha.1
    rintro pos w' ⟨hpos, hw⟩
    subst w' pos
    apply yields_bind (B := fun q w' => q = p ∧ w' = w)
    · apply yields_liftExcept
      · intro q hq
        exact ⟨Except.ok.inj (hq.symm.trans hp), rfl⟩
      · intro e he
        cases he.symm.trans hp
    rintro q w' ⟨hq, hw⟩
    subst w' q
    exact yields_pure ⟨rfl, rfl⟩
  · rintro quote w' ⟨hquote, hw⟩
    subst w' quote
    apply yields_bind (secureReserves_yields p)
    intro covered w' hsecured
    exact ⟨rfl, hsecured⟩

/-- The amounts are there and none of it has first to lift the wallet to the gas reserve. -/
structure Payable (reserve : ℕ) (mid : Mid) (bal held : Balances) (total : ℚ)
    (row : WithdrawalRow) : Prop where
  coverable : Coverable reserve mid bal held total row
  gas : bal.solLamports < reserve →
    owedUsd reserve mid bal held total row * freeSolFrac reserve mid bal < tokenUsd mid 1 0

theorem payable_iff (hmid : PositivePrice mid)
    (hp : payout reserve mid bal (marked mid held) total row = .ok p) :
    Payable reserve mid bal held total row ↔
      Fits reserve bal held p ∧ (bal.solLamports < reserve → p.needSol ≤ 0) := by
  obtain ⟨q, hq, hsol, -⟩ : ∃ q, payout reserve mid bal (marked mid held) total row = .ok q ∧
      _ ∧ _ := payout_marked hmid
  cases hp.symm.trans hq
  have hgas := floor_sol_le hmid
    (owedUsd reserve mid bal held total row * freeSolFrac reserve mid bal) 0
  rw [← hsol, Nat.cast_zero, Nat.cast_zero, zero_add] at hgas
  have hfits := fits_iff hmid hp
  constructor
  · rintro ⟨hcoverable, hreserve⟩
    exact ⟨hfits.mpr hcoverable, fun hlow => hgas.mpr (hreserve hlow)⟩
  · rintro ⟨hfit, hreserve⟩
    exact ⟨hfits.mp hfit, fun hlow => hgas.mp (hreserve hlow)⟩

theorem covers_iff :
    covers reserve bal p = true ↔
      p.needSol ≤ spendable reserve bal.solLamports ∧ p.needBert ≤ bal.bertRaw := by
  unfold covers
  rw [decide_eq_true_eq]

theorem covers_plus :
    covers reserve (plus bal out) p = true ↔
      p.needSol ≤ spendable reserve (bal.solLamports + out.solLamports) ∧
        p.needBert ≤ bal.bertRaw + out.bertRaw := by
  rw [covers_iff]
  rfl

theorem covers_of_fits (hfits : Fits reserve bal held p)
    (hgas : bal.solLamports < reserve → p.needSol ≤ 0)
    (hout : Releases held (solShort reserve bal p) (bertShort bal p) out) :
    covers reserve (plus bal out) p = true := by
  obtain ⟨hsol, hbert⟩ := hfits
  obtain ⟨hsolAsked, -, hbertAsked, -⟩ := hout
  rw [covers_plus]
  constructor
  · have hmono := spendable_mono reserve bal.solLamports out.solLamports
    unfold solShort at hsolAsked
    by_cases hshort : (spendable reserve bal.solLamports : ℤ) < p.needSol
    · rw [if_pos hshort] at hsolAsked
      by_cases hlow : bal.solLamports < reserve
      · have := hgas hlow
        omega
      · rw [spendable_plus (Nat.le_of_not_lt hlow)]
        push_cast
        omega
    · omega
  · unfold bertShort at hbertAsked
    by_cases hshort : (bal.bertRaw : ℤ) < p.needBert
    · rw [if_pos hshort] at hbertAsked
      omega
    · omega

theorem fits_of_covers (h : covers reserve bal p = true) :
    Fits reserve bal held p ∧ (bal.solLamports < reserve → p.needSol ≤ 0) := by
  obtain ⟨hsol, hbert⟩ := covers_iff.mp h
  refine ⟨⟨by omega, by omega⟩, ?_⟩
  intro hlow
  rw [spendable_low hlow] at hsol
  exact hsol

/-- The position releases just what is asked for, or all it holds. -/
def exactly (held : Balances) (sol bert : ℤ) (out : Balances) : Prop :=
  out = ⟨(min sol held.solLamports).toNat, (min bert held.bertRaw).toNat⟩

theorem solShort_nonneg (reserve : ℕ) (bal : Balances) (p : Payout) :
    0 ≤ solShort reserve bal p := by
  unfold solShort
  split <;> omega

theorem exactly_releases {sol bert : ℤ} (h : exactly held sol bert out) :
    Releases held sol bert out := by
  unfold exactly at h
  subst out
  constructor <;> dsimp only <;> omega

theorem exactly_asked {sol bert : ℤ} (hsol : 0 ≤ sol) (h : exactly held sol bert out) :
    (out.solLamports : ℤ) ≤ sol := by
  unfold exactly at h
  subst out
  dsimp only
  omega

theorem fits_of_exactly (hout : exactly held (solShort reserve bal p) (bertShort bal p) out)
    (h : covers reserve (plus bal out) p = true) :
    Fits reserve bal held p ∧ (bal.solLamports < reserve → p.needSol ≤ 0) := by
  obtain ⟨-, hsolHeld, -, hbertHeld⟩ : Releases held _ _ out := exactly_releases hout
  have hsolAsked := exactly_asked (solShort_nonneg reserve bal p) hout
  obtain ⟨hsol, hbert⟩ := covers_plus.mp h
  have hadd := spendable_add reserve bal.solLamports out.solLamports
  refine ⟨⟨by omega, by omega⟩, ?_⟩
  -- what is released goes into the gas reserve first, and no more is asked for
  intro hlow
  by_contra hneed
  have hless : spendable reserve (bal.solLamports + out.solLamports) < out.solLamports ∨
      out.solLamports = 0 := by
    unfold spendable
    split_ifs <;> omega
  unfold solShort at hsolAsked
  rw [spendable_low hlow] at hsolAsked hadd
  split_ifs at hsolAsked <;> omega

theorem exactly_ends {α : Type} {r : VaultRun α} {x : Except Thrown α}
    (h : Ends (positionHost mid held (exactly held)) r x w') :
    Ends (positionHost mid held (Releases held)) r x w' := by
  induction h with
  | done r s => exact .done r s
  | sync _ _ ih => exact .sync trivial ih
  | @await q w k a w₁ r w' ha _ ih =>
    refine .await ?_ ih
    cases q with
    | partialClose sol bert =>
      obtain ⟨hok, out, hout, hw⟩ := ha
      exact ⟨hok, out, exactly_releases hout, hw⟩
    | _ => exact ha

theorem exactly_responds (mid : Mid) (held : Balances) (q : Query) (w : World) :
    ∃ a w', (positionHost mid held (exactly held)).respond q w a w' := by
  cases q with
  | getWalletBalances => exact ⟨_, w, rfl, rfl⟩
  | getPositionSnapshot => exact ⟨_, w, rfl, rfl⟩
  | partialClose sol bert => exact ⟨_, _, rfl, _, rfl, rfl⟩
  | _ => exact ⟨.error (.other ""), w, trivial⟩

theorem secured_iff (hmid : PositivePrice mid)
    (hp : payout reserve mid w.chain.wallet (marked mid held) (totalShares w.db) row = .ok p) :
    (∀ x w', Ends (positionHost mid held (Releases held)) (reserveRow (hostDeps reserve) mid row w)
        x w' → x = .ok (p, true)) ↔
      Payable reserve mid w.chain.wallet held (totalShares w.db) row := by
  rw [payable_iff hmid hp]
  constructor
  · intro hall
    obtain ⟨x, w', hends⟩ : ∃ x w', Ends (positionHost mid held (exactly held))
        (reserveRow (hostDeps reserve) mid row w) x w' := by
      apply ends_exists
      · intro c w₁
        obtain ⟨o, -⟩ := steady_chooses ⟨none, none⟩ c w₁
        exact ⟨o, trivial⟩
      · exact exactly_responds mid held
    have hyields := (reserveRow_yields hp).ends hends
    rw [hall x w' (exactly_ends hends)] at hyields
    obtain ⟨-, ⟨hcovers, -⟩ | ⟨-, out, hout, hcovers⟩⟩ := hyields
    · exact fits_of_covers hcovers
    · exact fits_of_exactly hout hcovers.symm
  · rintro ⟨hfits, hgas⟩ x w' hends
    have hyields := (reserveRow_yields hp).ends hends
    cases x with
    | error e => exact hyields.elim
    | ok r =>
      obtain ⟨q, covered⟩ := r
      obtain ⟨rfl, ⟨-, hcovered⟩ | ⟨-, out, hout, hcovered⟩⟩ := hyields
      · cases hcovered
        rfl
      · cases hcovered.trans (covers_of_fits hfits hgas hout)
        rfl

theorem freeSolFrac_mem (hmid : PositivePrice mid) (reserve : ℕ) (bal : Balances) :
    0 ≤ freeSolFrac reserve mid bal ∧ freeSolFrac reserve mid bal ≤ 1 := by
  have hsame : (executorNav reserve mid bal (marked mid ⟨0, 0⟩)).solFrac =
      freeSolFrac reserve mid bal := executorNav_solFrac
  rw [← hsame]
  exact executorNav_solFrac_mem hmid.1.le hmid.2.le reserve bal _

theorem freeSol_usd (hmid : PositivePrice mid) (reserve : ℕ) (bal : Balances) :
    tokenUsd mid (spendable reserve bal.solLamports) 0 =
      freeSolFrac reserve mid bal * freeUsd reserve mid bal := by
  have hfree : freeUsd reserve mid bal = tokenUsd mid (spendable reserve bal.solLamports) 0 +
      tokenUsd mid 0 bal.bertRaw := by
    unfold freeUsd
    rw [← tokenUsd_add]
    simp
  have hsol := tokenUsd_nonneg hmid.1.le hmid.2.le (spendable reserve bal.solLamports) 0
  have hbert := tokenUsd_nonneg hmid.1.le hmid.2.le 0 bal.bertRaw
  rw [Nat.cast_zero] at hsol hbert
  unfold freeSolFrac
  by_cases hpos : 0 < freeUsd reserve mid bal
  · rw [if_pos hpos, div_mul_cancel₀ _ hpos.ne']
  · rw [if_neg hpos]
    linarith

theorem owedUsd_le (hmid : PositivePrice mid) (htotal : 0 < total)
    (hshares : row.sharesBurned - row.feeShares ≤ total) :
    owedUsd reserve mid bal held total row ≤
      freeUsd reserve mid bal + tokenUsd mid held.solLamports held.bertRaw := by
  have hfree : 0 ≤ freeUsd reserve mid bal := tokenUsd_nonneg hmid.1.le hmid.2.le _ _
  have hheld := tokenUsd_nonneg hmid.1.le hmid.2.le held.solLamports held.bertRaw
  unfold owedUsd usdForShares
  rw [computeNavPerShare_of_pos htotal, ← mul_div_assoc, div_le_iff₀ htotal, mul_comm]
  exact mul_le_mul_of_nonneg_left hshares (add_nonneg hfree hheld)

theorem coverable_of_sameMix (hmid : PositivePrice mid) (htotal : 0 < total)
    (hshares : row.sharesBurned - row.feeShares ≤ total)
    (hmix : tokenUsd mid held.solLamports 0 =
      freeSolFrac reserve mid bal * tokenUsd mid held.solLamports held.bertRaw) :
    Coverable reserve mid bal held total row := by
  have howed : owedUsd reserve mid bal held total row ≤ _ := owedUsd_le hmid htotal hshares
  obtain ⟨hfrac, hfrac'⟩ := freeSolFrac_mem hmid reserve bal
  have hfree := freeSol_usd hmid reserve bal
  have hunit : 0 < tokenUsd mid 1 0 ∧ 0 < tokenUsd mid 0 1 := by
    have hl := lamportsPerSol_pos
    have hr := rawPerBert_pos
    obtain ⟨hs, hb⟩ := hmid
    unfold tokenUsd
    constructor <;> simp <;> positivity
  have hsol : tokenUsd mid (spendable reserve bal.solLamports + held.solLamports + 1) 0 =
      tokenUsd mid (spendable reserve bal.solLamports) 0 + tokenUsd mid held.solLamports 0 +
        tokenUsd mid 1 0 := by
    unfold tokenUsd
    ring
  have hbert : tokenUsd mid 0 (bal.bertRaw + held.bertRaw + 1) =
      (freeUsd reserve mid bal - tokenUsd mid (spendable reserve bal.solLamports) 0) +
        (tokenUsd mid held.solLamports held.bertRaw - tokenUsd mid held.solLamports 0) +
        tokenUsd mid 0 1 := by
    unfold freeUsd tokenUsd
    ring
  constructor
  · have hshare := mul_le_mul_of_nonneg_right howed hfrac
    rw [hsol]
    linarith
  · have hshare := mul_le_mul_of_nonneg_right howed (sub_nonneg.mpr hfrac')
    rw [hbert]
    linarith

theorem payout_secured_iff (w : World) (held : Balances) (now : ℤ) (row : WithdrawalRow)
    (reserve : ℕ) (hmid : PositivePrice mid) :
    ∃ p, payout reserve mid w.chain.wallet (marked mid held) (totalShares w.db) row = .ok p ∧
      (Fits reserve w.chain.wallet held p ↔
        Coverable reserve mid w.chain.wallet held (totalShares w.db) row) ∧
      (processRow (hostDeps reserve) now mid row = do
        let r ← reserveRow (hostDeps reserve) mid row
        if r.2 then settle (hostDeps reserve) now row r.1
        else failWithdrawal row.id "reserves_insufficient" now) ∧
      ((∀ x w', Ends (positionHost mid held (Releases held))
          (reserveRow (hostDeps reserve) mid row w) x w' → x = .ok (p, true)) ↔
        Payable reserve mid w.chain.wallet held (totalShares w.db) row) := by
  obtain ⟨p, hp, -⟩ : ∃ p, payout reserve mid w.chain.wallet (marked mid held) (totalShares w.db)
      row = .ok p ∧ _ := payout_marked hmid
  exact ⟨p, hp, fits_iff hmid hp, processRow_reserves _ _ _ _, secured_iff hmid hp⟩

/-- A depositor takes out so many of 200 shares, at the usual fee. -/
def takenOut (sharesBurned feeShares : ℚ) : WithdrawalRow :=
  { id := 1, telegramId := 7, status := .processing, destination := "dest", sharesBurned, feeShares
    navPerShareAt := none, solLamportsOut := none, bertRawOut := none, txSig := none
    failureReason := none, queuedAt := 0, processedAt := none }

/-- The wallet has a SOL beyond its reserve, and the position as much again in BERT. -/
def solWallet : World :=
  (World.initial ⟨⟨1050000000, 0⟩, []⟩).withDb { Db.empty with shares := [⟨7, 200⟩] }

def bertHeld : Balances := ⟨0, 10000000000⟩

def evenMid : Mid := ⟨100, 1 / 100⟩

/-- Half of the pool can be taken out, all of it in SOL. -/
theorem payout_secured_iff_half : Fits 50000000 solWallet.chain.wallet bertHeld
      ⟨997 / 10, 1, 997 / 10, 997000000, 0⟩ ∧
    ∀ x w', Ends (positionHost evenMid bertHeld (Releases bertHeld))
      (reserveRow (hostDeps 50000000) evenMid (takenOut 100 (3 / 10)) solWallet) x w' →
      x = .ok (⟨997 / 10, 1, 997 / 10, 997000000, 0⟩, true) := by
  obtain ⟨p, hp, hfits, -, hsecured⟩ := @payout_secured_iff evenMid solWallet bertHeld 0
    (takenOut 100 (3 / 10)) 50000000 ⟨by norm_num [evenMid], by norm_num [evenMid]⟩
  have hpayout : payout 50000000 evenMid solWallet.chain.wallet (marked evenMid bertHeld)
      (totalShares solWallet.db) (takenOut 100 (3 / 10)) =
        .ok ⟨997 / 10, 1, 997 / 10, 997000000, 0⟩ := by decide +kernel
  cases hp.symm.trans hpayout
  have hcoverable : Coverable 50000000 evenMid solWallet.chain.wallet bertHeld
      (totalShares solWallet.db) (takenOut 100 (3 / 10)) :=
    ⟨by decide +kernel, by decide +kernel⟩
  exact ⟨hfits.mpr hcoverable, hsecured.mpr ⟨hcoverable, by decide +kernel⟩⟩

/-- The whole pool is split into SOL, and there is not so much. -/
theorem whole_pool_short :
    ¬∀ (reserve : ℕ) (mid : Mid) (bal held : Balances) (total : ℚ) (row : WithdrawalRow)
      (p : Payout), PositivePrice mid → row.sharesBurned - row.feeShares ≤ total →
      payout reserve mid bal (marked mid held) total row = .ok p → Fits reserve bal held p := by
  intro hall
  have hshort : payout 50000000 evenMid ⟨1050000000, 0⟩ (marked evenMid bertHeld) 200
      (takenOut 200 (3 / 5)) = .ok ⟨997 / 5, 1, 997 / 5, 1994000000, 0⟩ := by decide +kernel
  have hfits := hall _ _ _ _ _ _ _ ⟨by norm_num [evenMid], by norm_num [evenMid]⟩
    (by norm_num [takenOut]) hshort
  have hsol := hfits.sol
  norm_num [spendable, bertHeld] at hsol

end PayoutSplit
