import BertMMBot.NavAgreement

/-! # What the executor takes the holdings to be worth

The wallet is valued at the mid that the payout is converted with. The client of the pool is
told no BERT price: it values the BERT of a position at the centre of the position's range. -/
namespace MarkToMarket

open AsyncProgram AsyncContract VaultTypes VaultProgram DepositorStore ShareMath
open VaultDiscipline (outcome)
open WithdrawalExecutor DrainSemantics MeteoraPosition VaultRuntime NavAgreement

variable {venue : Venue} {floor : ℕ} {mid : Mid} {w : World} {H : VaultHost}

/-- What `processRow` reads before it computes the NAV. -/
def readHoldings (deps : ExecutorDeps) : Vault (Balances × PositionValue) := do
  let bal ← deps.getWalletBalances
  let pos ← deps.getPositionSnapshot
  let bal ← nonNull "solLamports" bal
  let pos ← nonNull "totalValueUsd" pos
  return (bal, pos)

theorem processRow_reads (deps : ExecutorDeps) (now : ℤ) (mid : Mid) (row : WithdrawalRow) :
    processRow deps now mid row = (do
      let holdings ← readHoldings deps
      let total ← readDb totalShares
      let p ← liftExcept (payout deps.reserveSolLamports mid holdings.1 holdings.2 total row)
      if ← secureReserves deps holdings.1 p then settle deps now row p
      else failWithdrawal row.id "reserves_insufficient" now) := by
  unfold processRow readHoldings
  simp only [async_bind_assoc]
  rfl

theorem readHoldings_yields (hH : H.respond = (still noOutage).respond)
    (hmid : lastMid w.memory = some mid) {B : Balances × PositionValue → World → Prop}
    {E : World → Prop} (hok : B (w.chain.wallet, ⟨positionUsd venue mid w, 0, 0⟩) w) :
    Yields H (readHoldings (executorDeps venue floor) w) (outcome B E) := by
  unfold readHoldings
  apply yields_bind (B := fun bal w' => bal = some w.chain.wallet ∧ w' = w)
  · apply wallet_yields hH
    · intro _
      exact ⟨rfl, rfl⟩
    · intro ho
      exact absurd rfl ho
  rintro bal w' ⟨hbal, hw⟩
  subst w' bal
  apply yields_bind (B := fun pos w' => pos = some ⟨positionUsd venue mid w, 0, 0⟩ ∧ w' = w)
  · apply getPositionSnapshot_yields hH hmid
    · intro _
      exact ⟨rfl, rfl⟩
    · intro ho
      exact absurd (fun _ => rfl) ho
  rintro pos w' ⟨hpos, hw⟩
  subst w' pos
  exact yields_pure hok

theorem readHoldings_ends (venue : Venue) (floor : ℕ) (hmid : lastMid w.memory = some mid) :
    ∃ w', Ends (still noOutage) (readHoldings (executorDeps venue floor) w)
      (.ok (w.chain.wallet, ⟨positionUsd venue mid w, 0, 0⟩)) w' := by
  obtain ⟨x, w', hends⟩ := steady_ends noOutage (readHoldings (executorDeps venue floor) w)
  have hy : Yields (steady noOutage) (readHoldings (executorDeps venue floor) w)
      (outcome (fun h _ => h = (w.chain.wallet, ⟨positionUsd venue mid w, 0, 0⟩))
        fun _ => False) := readHoldings_yields (steady_respond noOutage) hmid rfl
  have hx := hy.ends hends
  cases x with
  | ok h =>
    have heq : h = (w.chain.wallet, ⟨positionUsd venue mid w, 0, 0⟩) := hx
    subst heq
    exact ⟨w', still_mono hends⟩
  | error e => exact hx.elim

def onRecord (w : World) : Option OnchainPosition :=
  (getCurrentPosition w.db).bind fun p => findPosition p.nftMint w.chain.positions

def positionSol (venue : Venue) (w : World) : ℕ := ((onRecord w).map (solAmount venue)).getD 0

def positionBert (venue : Venue) (w : World) : ℕ := ((onRecord w).map (bertAmount venue)).getD 0

/-- The value of everything the vault can pay with. -/
def markToMarket (venue : Venue) (floor : ℕ) (mid : Mid) (w : World) : ℚ :=
  tokenUsd mid (spendable floor w.chain.wallet.solLamports + positionSol venue w)
    (w.chain.wallet.bertRaw + positionBert venue w)

/-- The middle between the two bounds of the range, in USD for a BERT. -/
def centreUsd (venue : Venue) (solUsd : ℚ) (pos : OnchainPosition) : ℚ :=
  ((rangeBounds venue pos solUsd).1 + (rangeBounds venue pos solUsd).2) / 2

/-- The position holds no BERT, or its range lies centred around the mid. -/
def Centred (venue : Venue) (mid : Mid) (w : World) : Prop :=
  ∀ pos, onRecord w = some pos →
    bertAmount venue pos = 0 ∨ centreUsd venue mid.solUsd pos = mid.bertUsd

theorem tracked_eq :
    tracked venue mid w = (onRecord w).map (positionSnapshot venue mid.solUsd) := by
  unfold tracked onRecord
  cases getCurrentPosition w.db <;> rfl

theorem positionUsd_eq : positionUsd venue mid w =
    tokenUsd mid (positionSol venue w) (positionBert venue w) +
      ((onRecord w).map fun pos => (bertAmount venue pos : ℚ) / rawPerBert *
        (centreUsd venue mid.solUsd pos - mid.bertUsd)).getD 0 := by
  unfold positionUsd positionSol positionBert
  rw [tracked_eq]
  cases onRecord w with
  | none => simp [tokenUsd]
  | some pos =>
    simp only [Option.map_some, Option.getD_some, positionSnapshot, positionRange, tokenUsd,
      centreUsd]
    ring

theorem centred_iff : Centred venue mid w ↔
    ((onRecord w).map fun pos => (bertAmount venue pos : ℚ) / rawPerBert *
      (centreUsd venue mid.solUsd pos - mid.bertUsd)).getD 0 = 0 := by
  have hraw : rawPerBert ≠ 0 := ne_of_gt rawPerBert_pos
  unfold Centred
  cases onRecord w with
  | none => simp
  | some pos => simp [hraw, sub_eq_zero]

theorem executorNav_total : (executorNav floor mid w.chain.wallet
      ⟨positionUsd venue mid w, 0, 0⟩).totalUsd =
    markToMarket venue floor mid w + ((onRecord w).map fun pos =>
      (bertAmount venue pos : ℚ) / rawPerBert *
        (centreUsd venue mid.solUsd pos - mid.bertUsd)).getD 0 := by
  rw [executorNav, computeNav_totalUsd, positionUsd_eq, markToMarket, tokenUsd_add]
  ring

/-- The NAV behind a payout is the value of all holdings at the mid of the payout, exactly when
the position holds no BERT or its range is centred around that mid. -/
theorem nav_marks_to_market_iff (hmid : lastMid w.memory = some mid) :
    (∀ now row, processRow (executorDeps venue floor) now mid row = (do
      let holdings ← readHoldings (executorDeps venue floor)
      let total ← readDb totalShares
      let p ← liftExcept (payout floor mid holdings.1 holdings.2 total row)
      if ← secureReserves (executorDeps venue floor) holdings.1 p then
        settle (executorDeps venue floor) now row p
      else failWithdrawal row.id "reserves_insufficient" now)) ∧
    ((∀ bal pos w', Ends (still noOutage) (readHoldings (executorDeps venue floor) w)
        (.ok (bal, pos)) w' →
      (executorNav floor mid bal pos).totalUsd = markToMarket venue floor mid w) ↔
    Centred venue mid w) := by
  refine ⟨fun now row => processRow_reads _ now mid row, ?_⟩
  rw [centred_iff]
  constructor
  · intro h
    obtain ⟨w', hends⟩ := readHoldings_ends venue floor hmid
    have htotal := h _ _ w' hends
    rw [executorNav_total] at htotal
    linarith
  · intro hcentred bal pos w' hends
    have hy : Yields (still noOutage) (readHoldings (executorDeps venue floor) w)
        (outcome (fun h _ => h = (w.chain.wallet, ⟨positionUsd venue mid w, 0, 0⟩))
          fun _ => False) := readHoldings_yields rfl hmid rfl
    have hread : (bal, pos) = (w.chain.wallet, ⟨positionUsd venue mid w, 0, 0⟩) := hy.ends hends
    cases hread
    rw [executorNav_total, hcentred, add_zero]

/-- The vault of two holders, whose position of one BERT earned nothing. -/
theorem nav_marks_to_market_iff_earning :
    lastMid earning.memory = some PlayedRuns.plainMid ∧
    ((∀ bal pos w', Ends (still noOutage) (readHoldings (executorDeps onePool 0) earning)
        (.ok (bal, pos)) w' → (executorNav 0 PlayedRuns.plainMid bal pos).totalUsd =
          markToMarket onePool 0 PlayedRuns.plainMid earning) ↔
      Centred onePool PlayedRuns.plainMid earning) := by
  have hmid : lastMid earning.memory = some PlayedRuns.plainMid := by decide +kernel
  exact ⟨hmid, (nav_marks_to_market_iff hmid).2⟩

/-- One bin at 0.0002 SOL for a BERT, twice the market price. -/
def farPool : Venue := ⟨true, 1, fun _ _ => 1 / 5000⟩

/-- A position holding one BERT in that bin is taken to be worth twice its value. -/
theorem nav_overstates_far_position : lastMid earning.memory = some PlayedRuns.plainMid ∧
    ∃ bal pos w', Ends (still noOutage) (readHoldings (executorDeps farPool 0) earning)
      (.ok (bal, pos)) w' ∧ (executorNav 0 PlayedRuns.plainMid bal pos).totalUsd ≠
        markToMarket farPool 0 PlayedRuns.plainMid earning := by
  have hmid : lastMid earning.memory = some PlayedRuns.plainMid := by decide +kernel
  obtain ⟨w', hends⟩ := readHoldings_ends farPool 0 hmid
  refine ⟨hmid, _, _, w', hends, ?_⟩
  rw [executorNav_total]
  intro h
  have hgap : ((onRecord earning).map fun pos => (bertAmount farPool pos : ℚ) / rawPerBert *
      (centreUsd farPool PlayedRuns.plainMid.solUsd pos -
        PlayedRuns.plainMid.bertUsd)).getD 0 ≠ 0 := by
    decide +kernel
  exact hgap (by linarith)

end MarkToMarket
