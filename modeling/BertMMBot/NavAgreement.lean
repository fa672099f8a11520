import BertMMBot.DrainSemantics
import BertMMBot.VaultJournal
import BertMMBot.PlayedRuns

/-! # The price of a request and the price of its payout

A withdrawal is turned into shares at the NAV of the depositor commands and back into USD at
the NAV of the executor. The first counts the uncollected fees and survives failing reads;
the second does neither. -/
namespace NavAgreement

open AsyncProgram AsyncContract VaultTypes VaultProgram DepositorStore ShareMath
open VaultDiscipline (outcome)
open WithdrawalExecutor DepositorCommands DrainSemantics MeteoraPosition VaultRuntime
open VaultJournal (order)

variable {α : Type} {venue : Venue} {cfg : BotConfig} {floor : ℕ} {mid : Mid}
  {w w' : World} {row : WithdrawalRow} {H : VaultHost}

/-- Which of the two reads of the chain throw. -/
structure Outage where
  wallet : Option Thrown
  positions : Option Thrown

def answerOf (fault : Option Thrown) (a : α) : Except Thrown α :=
  match fault with
  | some e => .error e
  | none => .ok a

/-- Every answer leaves the state alone, and the two reads answer as the outage says. -/
def still (o : Outage) : VaultHost where
  choose _ _ _ := True
  respond
    | .getWalletBalances, w, a, w' => a = answerOf o.wallet (some w.chain.wallet) ∧ w' = w
    | .getPositionsByUserAndLbPair, w, a, w' => a = answerOf o.positions w.chain.positions ∧ w' = w
    | _, w, _, w' => w' = w

def steady (o : Outage) : VaultHost where
  choose
    | .statement _, _, r => r = none
    | _, _, _ => True
  respond := (still o).respond

theorem steady_respond (o : Outage) : (steady o).respond = (still o).respond := rfl

theorem still_mono {r : VaultRun α} {x : Except Thrown α} (h : Ends (steady o) r x w) :
    Ends (still o) r x w := by
  induction h with
  | done r s => exact .done r s
  | sync _ _ ih => exact .sync trivial ih
  | await hr _ ih => exact .await hr ih

theorem still_responds (o : Outage) (q : Query) (w : World) :
    ∃ a w', (still o).respond q w a w' := by
  cases q with
  | getWalletBalances => exact ⟨_, w, rfl, rfl⟩
  | getPositionsByUserAndLbPair => exact ⟨_, w, rfl, rfl⟩
  | _ => exact ⟨.error (.other ""), w, rfl⟩

def walletUsd (floor : ℕ) (mid : Mid) (w : World) : ℚ :=
  tokenUsd mid (spendable floor w.chain.wallet.solLamports) w.chain.wallet.bertRaw

def tracked (venue : Venue) (mid : Mid) (w : World) : Option PositionSnapshot :=
  (getCurrentPosition w.db).bind fun p =>
    (findPosition p.nftMint w.chain.positions).map (positionSnapshot venue mid.solUsd)

def positionUsd (venue : Venue) (mid : Mid) (w : World) : ℚ :=
  ((tracked venue mid w).map PositionSnapshot.totalValueUsd).getD 0

def feesUsd (venue : Venue) (mid : Mid) (w : World) : ℚ :=
  ((tracked venue mid w).map fun p =>
    tokenUsd mid p.uncollectedFeesSol p.uncollectedFeesBert).getD 0

def requestTotal (venue : Venue) (floor : ℕ) (mid : Mid) (o : Outage) (w : World) : Option ℚ :=
  match o.wallet, o.positions with
  | some _, _ => (latestNavSnapshot w.db).map NavSnapshotRow.totalValueUsd
  | none, some _ => some (walletUsd floor mid w)
  | none, none => some (walletUsd floor mid w + positionUsd venue mid w + feesUsd venue mid w)

def requestNav (venue : Venue) (floor : ℕ) (o : Outage) (w : World) : Option Nav :=
  match lastMid w.memory with
  | none => snapshotFallback w.db
  | some mid => (requestTotal venue floor mid o w).map fun total => ⟨total, totalShares w.db⟩

theorem wallet_yields (hH : H.respond = (still o).respond)
    {B : Option Balances → World → Prop} {E : World → Prop}
    (hok : o.wallet = none → B (some w.chain.wallet) w) (herror : o.wallet ≠ none → E w) :
    Yields H (Async.call (I := vaultInterface) Query.getWalletBalances w) (outcome B E) := by
  apply yields_call
  · intro a w' ha
    rw [hH] at ha
    obtain ⟨ha, rfl⟩ := ha
    cases hw : o.wallet with
    | none =>
      rw [hw] at ha
      cases ha
      exact hok hw
    | some e =>
      rw [hw] at ha
      cases ha
  · intro e w' ha
    rw [hH] at ha
    obtain ⟨ha, rfl⟩ := ha
    apply herror
    intro hw
    rw [hw] at ha
    cases ha

theorem getPosition_yields (hH : H.respond = (still o).respond) {nftMint : String} {solUsd : ℚ}
    {B : Option PositionSnapshot → World → Prop} {E : World → Prop}
    (hok : o.positions = none →
      B ((findPosition nftMint w.chain.positions).map (positionSnapshot venue solUsd)) w)
    (herror : o.positions ≠ none → E w) :
    Yields H (getPosition venue nftMint solUsd w) (outcome B E) := by
  unfold getPosition
  apply yields_bind (B := fun positions w' => B ((findPosition nftMint positions).map
    (positionSnapshot venue solUsd)) w')
  · apply yields_call
    · intro a w' ha
      rw [hH] at ha
      obtain ⟨ha, rfl⟩ := ha
      cases hw : o.positions with
      | none =>
        rw [hw] at ha
        cases ha
        exact hok hw
      | some e =>
        rw [hw] at ha
        cases ha
    · intro e w' ha
      rw [hH] at ha
      obtain ⟨ha, rfl⟩ := ha
      apply herror
      intro hw
      rw [hw] at ha
      cases ha
  · intro positions w' hB
    exact yields_pure hB

def seenPosition (venue : Venue) (mid : Mid) (o : Outage) (w : World) : ℚ × ℕ × ℕ :=
  if o.positions = none then
    ((tracked venue mid w).map fun p =>
      (p.totalValueUsd, p.uncollectedFeesBert, p.uncollectedFeesSol)).getD (0, 0, 0)
  else (0, 0, 0)

theorem trackedPosition_yields (hH : H.respond = (still o).respond)
    {B : ℚ × ℕ × ℕ → World → Prop} {E : World → Prop} (h : B (seenPosition venue mid o w) w) :
    Yields H (trackedPosition venue (getCurrentPosition w.db) mid.solUsd w) (outcome B E) := by
  unfold seenPosition tracked at h
  cases hstored : getCurrentPosition w.db with
  | none =>
    rw [hstored] at h
    apply yields_pure
    simpa using h
  | some stored =>
    rw [hstored] at h
    unfold trackedPosition readPosition
    apply yields_tryCatch (D := fun w' => o.positions ≠ none ∧ w' = w)
    · apply yields_bind (B := fun pos w' => o.positions = none ∧ w' = w ∧
        pos = (findPosition stored.nftMint w.chain.positions).map (positionSnapshot venue mid.solUsd))
      · apply getPosition_yields hH
        · intro ho
          exact ⟨ho, rfl, rfl⟩
        · intro ho
          exact ⟨ho, rfl⟩
      · rintro pos w' ⟨ho, hw, hpos⟩
        subst w' pos
        apply yields_pure
        rw [if_pos ho] at h
        exact h
    · rintro e w' ⟨ho, hw⟩
      subst w'
      apply yields_pure
      rw [if_neg ho] at h
      exact h

theorem computeNav_request (ho : o.wallet = none) :
    some (computeNav ⟨spendable floor w.chain.wallet.solLamports, w.chain.wallet.bertRaw,
      (seenPosition venue mid o w).1, (seenPosition venue mid o w).2.1,
      (seenPosition venue mid o w).2.2, mid⟩).totalUsd = requestTotal venue floor mid o w := by
  unfold requestTotal seenPosition positionUsd feesUsd walletUsd
  rw [ho]
  cases o.positions with
  | some e => simp [computeNav, tokenUsd]
  | none =>
    cases tracked venue mid w with
    | none => simp [computeNav, tokenUsd]
    | some p =>
      simp only [computeNav, tokenUsd, Option.map_some, Option.getD_some, if_true]
      congr 1
      ring

theorem liveNav_yields (hH : H.respond = (still o).respond) {B : Option Nav → World → Prop}
    {E : World → Prop}
    (hok : o.wallet = none → B ((requestTotal venue floor mid o w).map fun total =>
      ⟨total, totalShares w.db⟩) w) (herror : o.wallet ≠ none → E w) :
    Yields H (liveNav venue floor mid w) (outcome B E) := by
  unfold liveNav
  apply yields_bind (B := fun bal w' => o.wallet = none ∧ bal = some w.chain.wallet ∧ w' = w)
  · apply wallet_yields hH
    · intro ho
      exact ⟨ho, rfl, rfl⟩
    · exact herror
  rintro bal w' ⟨ho, hbal, hw⟩
  subst w' bal
  apply yields_bind (B := fun bal w' => bal = w.chain.wallet ∧ w' = w)
  · exact yields_pure ⟨rfl, rfl⟩
  rintro bal w' ⟨hbal, hw⟩
  subst w' bal
  apply yields_bind (B := fun stored w' => stored = getCurrentPosition w.db ∧ w' = w)
  · exact yields_read ⟨rfl, rfl⟩
  rintro stored w' ⟨hstored, hw⟩
  subst w' stored
  apply yields_bind (B := fun pos w' => pos = seenPosition venue mid o w ∧ w' = w)
  · exact trackedPosition_yields hH ⟨rfl, rfl⟩
  rintro pos w' ⟨hpos, hw⟩
  subst w' pos
  apply yields_bind (B := fun total w' => total = totalShares w.db ∧ w' = w)
  · exact yields_read ⟨rfl, rfl⟩
  rintro total w' ⟨htotal, hw⟩
  subst w' total
  apply yields_pure
  have hB := hok ho
  rw [← computeNav_request ho] at hB
  exact hB

theorem requestNav_fallback (ho : o.wallet ≠ none) :
    requestNav venue floor o w = snapshotFallback w.db := by
  obtain ⟨e, he⟩ := Option.ne_none_iff_exists'.mp ho
  unfold requestNav requestTotal snapshotFallback
  rw [he]
  cases lastMid w.memory with
  | none => rfl
  | some mid => cases latestNavSnapshot w.db <;> rfl

theorem getNav_yields (hH : H.respond = (still o).respond) {B : Option Nav → World → Prop}
    {E : World → Prop} (h : B (requestNav venue floor o w) w) :
    Yields H (getNav venue floor w) (outcome B E) := by
  unfold getNav
  apply yields_tryCatch (D := fun w' => o.wallet ≠ none ∧ w' = w)
  · apply yields_bind (B := fun last w' => last = lastMid w.memory ∧ w' = w)
    · exact yields_read ⟨rfl, rfl⟩
    rintro last w' ⟨hlast, hw⟩
    subst w'
    cases last with
    | none =>
      apply yields_read
      unfold requestNav at h
      rw [← hlast] at h
      exact h
    | some mid =>
      apply liveNav_yields hH
      · intro _
        unfold requestNav at h
        rw [← hlast] at h
        exact h
      · intro ho
        exact ⟨ho, rfl⟩
  · rintro e w' ⟨ho, hw⟩
    subst w'
    apply yields_read
    rw [requestNav_fallback ho] at h
    exact h

def priceRow (deps : ExecutorDeps) (mid : Mid) (row : WithdrawalRow) :
    Vault (Balances × Payout) := do
  let bal ← deps.getWalletBalances
  let pos ← deps.getPositionSnapshot
  let bal ← nonNull "solLamports" bal
  let pos ← nonNull "totalValueUsd" pos
  let total ← readDb totalShares
  let p ← liftExcept (payout deps.reserveSolLamports mid bal pos total row)
  return (bal, p)

theorem processRow_prices (deps : ExecutorDeps) (now : ℤ) (mid : Mid) (row : WithdrawalRow) :
    processRow deps now mid row = (do
      let quote ← priceRow deps mid row
      if ← secureReserves deps quote.1 quote.2 then settle deps now row quote.2
      else failWithdrawal row.id "reserves_insufficient" now) := by
  unfold processRow priceRow
  simp only [async_bind_assoc]
  rfl

/-- Both reads of the executor succeed; without a position there is only one. -/
def Answered (o : Outage) (w : World) : Prop :=
  o.wallet = none ∧ (getCurrentPosition w.db ≠ none → o.positions = none)

theorem getPositionSnapshot_yields (hH : H.respond = (still o).respond)
    (hmid : lastMid w.memory = some mid) {B : Option PositionValue → World → Prop}
    {E : World → Prop}
    (hok : (getCurrentPosition w.db ≠ none → o.positions = none) →
      B (some ⟨positionUsd venue mid w, 0, 0⟩) w)
    (herror : ¬(getCurrentPosition w.db ≠ none → o.positions = none) → E w) :
    Yields H (getPositionSnapshot venue w) (outcome B E) := by
  unfold getPositionSnapshot
  apply yields_bind (B := fun stored w' => stored = getCurrentPosition w.db ∧ w' = w)
  · exact yields_read ⟨rfl, rfl⟩
  rintro stored w' ⟨hstored, hw⟩
  subst w'
  unfold positionUsd tracked at hok
  cases stored with
  | none =>
    rw [← hstored] at hok
    exact yields_pure (hok (fun hne => absurd rfl hne))
  | some stored =>
    rw [← hstored] at hok herror
    apply yields_bind (B := fun last w' => last = some mid ∧ w' = w)
    · exact yields_read ⟨hmid, rfl⟩
    rintro last w' ⟨hlast, hw⟩
    subst w' last
    apply yields_bind (B := fun pos w' => o.positions = none ∧ w' = w ∧
      pos = (findPosition stored.nftMint w.chain.positions).map (positionSnapshot venue mid.solUsd))
    · apply getPosition_yields hH
      · intro ho
        exact ⟨ho, rfl, rfl⟩
      · intro ho
        exact herror fun hall => ho (hall (Option.some_ne_none stored))
    · rintro pos w' ⟨ho, hw, hpos⟩
      subst w' pos
      exact yields_pure (hok fun _ => ho)

def priced (venue : Venue) (floor : ℕ) (mid : Mid) (w : World) (row : WithdrawalRow) :
    Except Thrown Payout :=
  payout floor mid w.chain.wallet ⟨positionUsd venue mid w, 0, 0⟩ (totalShares w.db) row

theorem priceRow_yields (hH : H.respond = (still o).respond) (hmid : lastMid w.memory = some mid)
    {B : Balances × Payout → World → Prop} {E : World → Prop}
    (hok : Answered o w → ∀ p, priced venue floor mid w row = .ok p → B (w.chain.wallet, p) w)
    (herror : ¬Answered o w → E w) (hthrow : ∀ e, priced venue floor mid w row = .error e → E w) :
    Yields H (priceRow (executorDeps venue floor) mid row w) (outcome B E) := by
  unfold priceRow
  apply yields_bind (B := fun bal w' => o.wallet = none ∧ bal = some w.chain.wallet ∧ w' = w)
  · apply wallet_yields hH
    · intro ho
      exact ⟨ho, rfl, rfl⟩
    · intro ho
      exact herror fun hall => ho hall.1
  rintro bal w' ⟨ho, hbal, hw⟩
  subst w' bal
  apply yields_bind (B := fun pos w' => Answered o w ∧
    pos = some ⟨positionUsd venue mid w, 0, 0⟩ ∧ w' = w)
  · apply getPositionSnapshot_yields hH hmid
    · intro hall
      exact ⟨⟨ho, hall⟩, rfl, rfl⟩
    · intro hall
      exact herror fun hboth => hall hboth.2
  rintro pos w' ⟨hanswered, hpos, hw⟩
  subst w' pos
  apply yields_bind (B := fun bal w' => bal = w.chain.wallet ∧ w' = w)
  · exact yields_pure ⟨rfl, rfl⟩
  rintro bal w' ⟨hbal, hw⟩
  subst w' bal
  apply yields_bind (B := fun pos w' => pos = ⟨positionUsd venue mid w, 0, 0⟩ ∧ w' = w)
  · exact yields_pure ⟨rfl, rfl⟩
  rintro pos w' ⟨hpos, hw⟩
  subst w' pos
  apply yields_bind (B := fun total w' => total = totalShares w.db ∧ w' = w)
  · exact yields_read ⟨rfl, rfl⟩
  rintro total w' ⟨htotal, hw⟩
  subst w' total
  apply yields_bind (B := fun p w' => priced venue floor mid w row = .ok p ∧ w' = w)
  · apply yields_liftExcept
    · intro p hp
      exact ⟨hp, rfl⟩
    · intro e he
      exact hthrow e he
  rintro p w' ⟨hp, hw⟩
  subst w'
  exact yields_pure (hok hanswered p hp)

theorem priced_ok {p : Payout} (h : priced venue floor mid w row = .ok p) :
    PositivePrice mid ∧
      p.navPerShare = computeNavPerShare (walletUsd floor mid w + positionUsd venue mid w)
        (totalShares w.db) ∧
      p.usdOwed = (row.sharesBurned - row.feeShares) * p.navPerShare := by
  obtain ⟨hnav, husd, hsplit⟩ := payout_ok h
  obtain ⟨hsol, hbert, -⟩ := splitUsdIntoTokens_ok hsplit
  refine ⟨⟨hsol, hbert⟩, ?_, husd⟩
  rw [hnav, executorNav, computeNav_totalUsd]
  rfl

theorem priced_of_positive (h : PositivePrice mid) : ∃ p, priced venue floor mid w row = .ok p := by
  obtain ⟨hsol, hbert⟩ := h
  have hsplit : ∀ usd frac, ∃ split, splitUsdIntoTokens usd frac mid = .ok split := by
    intro usd frac
    unfold splitUsdIntoTokens
    rw [if_neg (by rw [not_or, not_le, not_le]; exact ⟨hsol, hbert⟩)]
    exact ⟨_, rfl⟩
  unfold priced payout
  obtain ⟨split, hok⟩ := hsplit (usdForShares (row.sharesBurned - row.feeShares)
    (computeNavPerShare (executorNav floor mid w.chain.wallet
      ⟨positionUsd venue mid w, 0, 0⟩).totalUsd (totalShares w.db)))
    (executorNav floor mid w.chain.wallet ⟨positionUsd venue mid w, 0, 0⟩).solFrac
  simp only [hok, bind, Except.bind, pure, Except.pure]
  exact ⟨_, rfl⟩

/-- Nothing that either price depends on has changed. -/
structure Unmoved (w w' : World) : Prop where
  memory : w'.memory = w.memory
  chain : w'.chain = w.chain
  shares : w'.db.shares = w.db.shares
  positionState : w'.db.positionState = w.db.positionState

def navPerShareOf (nav : Nav) : ℚ := computeNavPerShare nav.totalUsd nav.totalShares

/-- The user has an address on file and the command has a NAV to go by. -/
def Accepted (venue : Venue) (cfg : BotConfig) (o : Outage) (u : TelegramId) (w : World)
    (nav : Nav) : Prop :=
  (∃ user, getUser u w.db = some user ∧ user.whitelistAddress.filter (· ≠ "") ≠ none) ∧
    requestNav venue cfg.minSolFloorLamports o w = some nav ∧ 0 < navPerShareOf nav

/-- The row that a request for `amountUsd` leaves in the queue. -/
structure Enqueued (cfg : BotConfig) (nav : Nav) (amountUsd : ℚ) (w : World)
    (row : WithdrawalRow) (w' : World) : Prop where
  shares : row.sharesBurned = amountUsd / navPerShareOf nav
  fee : row.feeShares = (splitFee row.sharesBurned cfg.commands.withdrawalFeeBps).feeShares
  withdrawals : w'.db.withdrawals = w.db.withdrawals ++ [row]
  unmoved : Unmoved w w'

/-- What a request comes to, where statements throw only if `faulty`. -/
def RequestEnds (venue : Venue) (cfg : BotConfig) (o : Outage) (u : TelegramId) (amountUsd : ℚ)
    (faulty : Prop) (w w' : World) : Prop :=
  (w'.db.withdrawals = w.db.withdrawals ∧ ((∀ nav, ¬Accepted venue cfg o u w nav) ∨ faulty)) ∨
    ∃ nav row, Accepted venue cfg o u w nav ∧ Enqueued cfg nav amountUsd w row w'

theorem reply_yields (hH : H.respond = (still o).respond) {chatId : ℤ} {notice : Notice}
    {B : Unit → World → Prop} {E : World → Prop} (hok : B () w) (herror : E w) :
    Yields H (reply chatId notice w) (outcome B E) := by
  apply yields_call
  · intro a w' ha
    rw [hH] at ha
    obtain rfl : w' = w := ha
    exact hok
  · intro e w' ha
    rw [hH] at ha
    obtain rfl : w' = w := ha
    exact herror

theorem enqueue_yields (hH : H.respond = (still o).respond) {faulty : Prop}
    (hfault : ∀ st w e, H.choose (.statement st) w (some e) → faulty) {user : UserRow}
    {destination : Address} {chatId : ℤ} {amountUsd : ℚ} {nav : Nav} {P : World → Prop}
    (hqueued : ∀ row w', Enqueued cfg nav amountUsd w row w' → P w')
    (hlost : ∀ w', w'.db.withdrawals = w.db.withdrawals → faulty → P w') :
    Yields H (enqueue (commandsDeps venue cfg) user destination chatId amountUsd
      (navPerShareOf nav) w) (outcome (fun _ w' => P w') P) := by
  unfold enqueue
  apply yields_bind (B := fun _ w' => w' = w)
  · exact yields_now fun _ => rfl
  rintro queuedAt w' hw
  subst w'
  apply yields_bind (B := fun _ w' => ∃ row, Enqueued cfg nav amountUsd w row w')
  · apply yields_statement_any
    · intro id db hdb
      cases hdb
      exact ⟨_, rfl, rfl, rfl, rfl, rfl, rfl, rfl⟩
    · intro e he
      cases he
    · intro e he
      exact hlost _ rfl (hfault _ _ e he)
  rintro id w₁ ⟨row, hrow⟩
  apply yields_bind (B := fun _ w' => w' = w₁)
  · exact yields_now fun _ => rfl
  rintro ms w' hw
  subst w'
  apply yields_bind (B := fun _ w' => P w')
  · apply yields_statement_any
    · intro _ db hdb
      cases hdb
      exact hqueued row _ ⟨hrow.shares, hrow.fee, hrow.withdrawals,
        ⟨hrow.unmoved.memory, hrow.unmoved.chain, hrow.unmoved.shares, hrow.unmoved.positionState⟩⟩
    · intro e he
      cases he
    · intro e _
      exact hqueued row _ ⟨hrow.shares, hrow.fee, hrow.withdrawals,
        ⟨hrow.unmoved.memory, hrow.unmoved.chain, hrow.unmoved.shares, hrow.unmoved.positionState⟩⟩
  · intro _ w₂ hP
    exact reply_yields hH hP hP

theorem doWithdraw_yields (hH : H.respond = (still o).respond) {faulty : Prop}
    (hfault : ∀ st w e, H.choose (.statement st) w (some e) → faulty) (u : TelegramId)
    (chatId : ℤ) (amountUsd : ℚ) :
    Yields H (doWithdraw (commandsDeps venue cfg) u chatId amountUsd w)
      (outcome (fun _ w' => RequestEnds venue cfg o u amountUsd faulty w w')
        fun w' => RequestEnds venue cfg o u amountUsd faulty w w') := by
  have hrefused : (∀ nav, ¬Accepted venue cfg o u w nav) →
      RequestEnds venue cfg o u amountUsd faulty w w := fun h => .inl ⟨rfl, .inl h⟩
  unfold doWithdraw
  apply yields_bind (B := fun user w' => user = getUser u w.db ∧ w' = w)
  · exact yields_read ⟨rfl, rfl⟩
  rintro found w' ⟨hfound, hw⟩
  subst w'
  apply yields_bind (B := fun user w' => getUser u w.db = some user ∧ w' = w)
  · apply yields_nonNull
    · intro user huser
      exact ⟨hfound.symm.trans huser, rfl⟩
    · intro hnone
      apply hrefused
      rintro nav ⟨⟨user, huser, -⟩, -⟩
      rw [← hfound, hnone] at huser
      cases huser
  rintro user w' ⟨huser, hw⟩
  subst w'
  cases hdest : user.whitelistAddress.filter (· ≠ "") with
  | none =>
    have hno : RequestEnds venue cfg o u amountUsd faulty w w := by
      apply hrefused
      rintro nav ⟨⟨user', huser', haddress⟩, -⟩
      rw [huser] at huser'
      cases huser'
      exact haddress hdest
    exact reply_yields hH hno hno
  | some destination =>
    apply yields_bind (B := fun nav w' => nav = requestNav venue cfg.minSolFloorLamports o w ∧ w' = w)
    · exact getNav_yields hH ⟨rfl, rfl⟩
    rintro found w' ⟨hnav, hw⟩
    subst w'
    cases found with
    | none =>
      have hno : RequestEnds venue cfg o u amountUsd faulty w w := by
        apply hrefused
        rintro nav ⟨-, hsome, -⟩
        rw [← hnav] at hsome
        cases hsome
      exact reply_yields hH hno hno
    | some nav =>
      apply yields_ite
      · intro hle
        have hno : RequestEnds venue cfg o u amountUsd faulty w w := by
          apply hrefused
          rintro nav' ⟨-, hsome, hpos⟩
          rw [← hnav] at hsome
          cases hsome
          exact absurd hle (not_le.mpr hpos)
        exact reply_yields hH hno hno
      · intro hpos
        have haccepted : Accepted venue cfg o u w nav :=
          ⟨⟨user, huser, by rw [hdest]; exact Option.some_ne_none _⟩, hnav.symm, not_le.mp hpos⟩
        apply enqueue_yields hH hfault
        · intro row w' hrow
          exact .inr ⟨nav, row, haccepted, hrow⟩
        · intro w' hsame hfaulty
          exact .inl ⟨hsame, .inr hfaulty⟩

/-- A withdrawal that is asked for and paid while nothing changes is worth what was asked
for, less the fee: the command and the executor find the same NAV per share. -/
def Agrees (venue : Venue) (cfg : BotConfig) (request execution : Outage) (w : World) : Prop :=
  ∀ (u : TelegramId) (chatId : ℤ) (amountUsd : ℚ) (x : Except Thrown Unit) (nav : Nav)
    (w₀ w₁ w₂ w₃ : World) (row row' : WithdrawalRow) (mid : Mid) (bal : Balances) (p : Payout),
    Ends (still request) (getNav venue cfg.minSolFloorLamports w) (.ok (some nav)) w₀ →
    Ends (still request) (doWithdraw (commandsDeps venue cfg) u chatId amountUsd w) x w₁ →
    w₁.db.withdrawals = w.db.withdrawals ++ [row] →
    Unmoved w₁ w₂ → order row' = order row → lastMid w₂.memory = some mid →
    Ends (still execution) (priceRow (executorDeps venue cfg.minSolFloorLamports) mid row' w₂)
      (.ok (bal, p)) w₃ →
    p.navPerShare = navPerShareOf nav ∧
      p.usdOwed = amountUsd * (1 - (cfg.commands.withdrawalFeeBps : ℚ) / 10000)

/-- Someone has an address to withdraw to. -/
def Addressed (w : World) : Prop :=
  ∃ u user, getUser u w.db = some user ∧ user.whitelistAddress.filter (· ≠ "") ≠ none

/-- Whatever the command goes by has the value of the wallet and the position. -/
def Matched (venue : Venue) (floor : ℕ) (mid : Mid) (o : Outage) (w : World) : Prop :=
  match o.wallet, o.positions with
  | some _, _ => ∀ snap, latestNavSnapshot w.db = some snap → 0 < snap.totalValueUsd →
      snap.totalValueUsd = walletUsd floor mid w + positionUsd venue mid w
  | none, some _ => 0 < walletUsd floor mid w → positionUsd venue mid w = 0
  | none, none => 0 < walletUsd floor mid w + positionUsd venue mid w + feesUsd venue mid w →
      feesUsd venue mid w = 0

theorem matched_iff : Matched venue floor mid o w ↔
    ∀ total, requestTotal venue floor mid o w = some total → 0 < total →
      total = walletUsd floor mid w + positionUsd venue mid w := by
  unfold Matched requestTotal
  cases o.wallet with
  | some e =>
    simp only [Option.map_eq_some_iff]
    constructor
    · rintro h total ⟨snap, hsnap, rfl⟩ hpos
      exact h snap hsnap hpos
    · intro h snap hsnap hpos
      exact h _ ⟨snap, hsnap, rfl⟩ hpos
  | none =>
    cases o.positions with
    | some e => simp
    | none => simp

theorem Unmoved.trans {w'' : World} (h : Unmoved w w') (h' : Unmoved w' w'') : Unmoved w w'' :=
  ⟨h'.memory.trans h.memory, h'.chain.trans h.chain, h'.shares.trans h.shares,
    h'.positionState.trans h.positionState⟩

theorem Unmoved.refl (w : World) : Unmoved w w := ⟨rfl, rfl, rfl, rfl⟩

theorem Unmoved.totalShares (h : Unmoved w w') : totalShares w'.db = totalShares w.db := by
  unfold DepositorStore.totalShares
  rw [h.shares]

theorem Unmoved.holdings (h : Unmoved w w') :
    walletUsd floor mid w' + positionUsd venue mid w' =
      walletUsd floor mid w + positionUsd venue mid w := by
  unfold walletUsd positionUsd tracked getCurrentPosition
  rw [h.chain, h.positionState]

theorem Unmoved.answered (h : Unmoved w w') : Answered o w' ↔ Answered o w := by
  unfold Answered getCurrentPosition
  rw [h.positionState]

theorem getNav_ends {nav : Option Nav}
    (h : Ends (still o) (getNav venue floor w) (.ok nav) w') : nav = requestNav venue floor o w :=
  (getNav_yields (B := fun nav _ => nav = requestNav venue floor o w) (E := fun _ => False)
    rfl rfl).ends h

theorem doWithdraw_ends {u : TelegramId} {chatId : ℤ} {amountUsd : ℚ} {x : Except Thrown Unit}
    (h : Ends (still o) (doWithdraw (commandsDeps venue cfg) u chatId amountUsd w) x w')
    (hrow : w'.db.withdrawals = w.db.withdrawals ++ [row]) :
    ∃ nav, Accepted venue cfg o u w nav ∧ Enqueued cfg nav amountUsd w row w' := by
  have hends : RequestEnds venue cfg o u amountUsd True w w' := by
    have hy : Yields (still o) (doWithdraw (commandsDeps venue cfg) u chatId amountUsd w)
        (outcome (fun _ w' => RequestEnds venue cfg o u amountUsd True w w')
          fun w' => RequestEnds venue cfg o u amountUsd True w w') :=
      doWithdraw_yields rfl (fun _ _ _ _ => trivial) u chatId amountUsd
    have hx := hy.ends h
    cases x with
    | ok a => exact hx
    | error e => exact hx
  rcases hends with ⟨hsame, -⟩ | ⟨nav, row', haccepted, henqueued⟩
  · rw [hsame] at hrow
    simp at hrow
  · have heq := henqueued.withdrawals.symm.trans hrow
    obtain rfl : row' = row := by simpa using heq
    exact ⟨nav, haccepted, henqueued⟩

theorem priceRow_ends {bal : Balances} {p : Payout} (hmid : lastMid w.memory = some mid)
    (h : Ends (still o) (priceRow (executorDeps venue floor) mid row w) (.ok (bal, p)) w') :
    Answered o w ∧ priced venue floor mid w row = .ok p := by
  have hy : Yields (still o) (priceRow (executorDeps venue floor) mid row w)
      (outcome (fun x _ => Answered o w ∧ priced venue floor mid w row = .ok x.2)
        fun _ => True) := by
    apply priceRow_yields rfl hmid
    · intro hanswered p hp
      exact ⟨hanswered, hp⟩
    · intro _
      trivial
    · intro _ _
      trivial
  exact hy.ends h

theorem owed_of_price {nav : Nav} {amountUsd : ℚ} {p : Payout} {w₁ : World} {row' : WithdrawalRow}
    (henqueued : Enqueued cfg nav amountUsd w row w₁) (hpos : 0 < navPerShareOf nav)
    (horder : order row' = order row) (hprice : p.navPerShare = navPerShareOf nav)
    (howed : p.usdOwed = (row'.sharesBurned - row'.feeShares) * p.navPerShare) :
    p.usdOwed = amountUsd * (1 - (cfg.commands.withdrawalFeeBps : ℚ) / 10000) := by
  have hshares : row'.sharesBurned = row.sharesBurned := congrArg VaultJournal.Order.sharesBurned horder
  have hfee : row'.feeShares = row.feeShares := congrArg VaultJournal.Order.feeShares horder
  have hne : navPerShareOf nav ≠ 0 := ne_of_gt hpos
  rw [howed, hprice, hshares, hfee, henqueued.fee, henqueued.shares]
  unfold splitFee
  field_simp

theorem agrees_of_matched
    (h : Addressed w → ∀ mid, lastMid w.memory = some mid → PositivePrice mid →
      Answered execution w → 0 < totalShares w.db →
      Matched venue cfg.minSolFloorLamports mid request w) :
    Agrees venue cfg request execution w := by
  intro u chatId amountUsd x nav w₀ w₁ w₂ w₃ row row' mid bal p hnav hrequest hrow hunmoved horder
    hmid hprice
  obtain ⟨nav', haccepted, henqueued⟩ := doWithdraw_ends hrequest hrow
  obtain ⟨⟨user, huser, haddress⟩, hfound, hpos⟩ := haccepted
  obtain rfl : nav = nav' := Option.some.inj ((getNav_ends hnav).trans hfound)
  have hsame : Unmoved w w₂ := henqueued.unmoved.trans hunmoved
  have hlast : lastMid w.memory = some mid := by
    rw [← hsame.memory]
    exact hmid
  obtain ⟨hanswered, hpriced⟩ := priceRow_ends hmid hprice
  obtain ⟨hpositive, hexecutor, howed⟩ := priced_ok hpriced
  rw [hsame.holdings, hsame.totalShares] at hexecutor
  have hcommand : p.navPerShare = navPerShareOf nav := by
    unfold requestNav at hfound
    rw [hlast] at hfound
    obtain ⟨total, htotal, rfl⟩ := Option.map_eq_some_iff.mp hfound
    rw [hexecutor]
    by_cases hshares : 0 < totalShares w.db
    · have hmatched := h ⟨u, user, huser, haddress⟩ mid hlast hpositive
        (hsame.answered.mp hanswered) hshares
      have hvalue : 0 < total := by
        unfold navPerShareOf at hpos
        rw [computeNavPerShare_of_pos hshares] at hpos
        exact (div_pos_iff_of_pos_right hshares).mp hpos
      rw [← matched_iff.mp hmatched total htotal hvalue]
      rfl
    · have hempty : totalShares w.db ≤ 0 := not_lt.mp hshares
      unfold navPerShareOf computeNavPerShare
      rw [if_pos hempty, if_pos hempty]
  exact ⟨hcommand, owed_of_price henqueued hpos horder hcommand howed⟩

theorem steady_responds (o : Outage) (q : Query) (w : World) :
    ∃ a w', (steady o).respond q w a w' := still_responds o q w

theorem steady_chooses (o : Outage) (c : Choice) (w : World) : ∃ r, (steady o).choose c w r := by
  cases c with
  | statement st => exact ⟨none, rfl⟩
  | clock => exact ⟨(0 : ℤ), trivial⟩
  | generateKeypair => exact ⟨⟨"", []⟩, trivial⟩
  | generateSecret => exact ⟨"", trivial⟩
  | fromSecretKey secretKey => exact ⟨.ok ⟨"", secretKey⟩, trivial⟩
  | masterKey => exact ⟨[], trivial⟩
  | randomBytes size => exact ⟨[], trivial⟩
  | cipher key iv plaintext => exact ⟨([], []), trivial⟩
  | decipher key iv enc tag => exact ⟨.ok [], trivial⟩
  | totpValidate secret code => exact ⟨none, trivial⟩
  | publicKey address => exact ⟨true, trivial⟩
  | killSwitch => exact ⟨false, trivial⟩
  | consult => exact ⟨(), trivial⟩

theorem steady_ends (o : Outage) (r : VaultRun α) : ∃ x w', Ends (steady o) r x w' :=
  ends_exists (steady_chooses o) (steady_responds o) r

theorem matched_of_agrees (h : Agrees venue cfg request execution w) (hto : Addressed w)
    (hlast : lastMid w.memory = some mid) (hpositive : PositivePrice mid)
    (hanswered : Answered execution w) (hshares : 0 < totalShares w.db) :
    Matched venue cfg.minSolFloorLamports mid request w := by
  rw [matched_iff]
  intro total htotal hvalue
  obtain ⟨u, user, huser, haddress⟩ := hto
  have hnav : requestNav venue cfg.minSolFloorLamports request w =
      some ⟨total, totalShares w.db⟩ := by
    simp only [requestNav, hlast, htotal, Option.map_some]
  have hprice : navPerShareOf ⟨total, totalShares w.db⟩ = total / totalShares w.db :=
    computeNavPerShare_of_pos hshares
  have haccepted : Accepted venue cfg request u w ⟨total, totalShares w.db⟩ := by
    refine ⟨⟨user, huser, haddress⟩, hnav, ?_⟩
    rw [hprice]
    exact div_pos hvalue hshares
  -- a request for one dollar, run where no statement throws
  obtain ⟨x, w₁, hrequest⟩ :=
    steady_ends request (doWithdraw (commandsDeps venue cfg) u 0 1 w)
  have hends : RequestEnds venue cfg request u 1 False w w₁ := by
    have hy : Yields (steady request) (doWithdraw (commandsDeps venue cfg) u 0 1 w)
        (outcome (fun _ w' => RequestEnds venue cfg request u 1 False w w')
          fun w' => RequestEnds venue cfg request u 1 False w w') :=
      doWithdraw_yields (steady_respond request) (fun st w e he => by cases he) u 0 1
    have hx := hy.ends hrequest
    cases x with
    | ok a => exact hx
    | error e => exact hx
  rcases hends with ⟨-, hrefused | hfaulty⟩ | ⟨nav, row, haccepted', henqueued⟩
  · exact absurd haccepted (hrefused _)
  · exact hfaulty.elim
  obtain ⟨y, w₀, hread⟩ :=
    steady_ends request (getNav venue cfg.minSolFloorLamports w)
  have hread' : y = .ok (some ⟨total, totalShares w.db⟩) := by
    have hy : Yields (steady request) (getNav venue cfg.minSolFloorLamports w)
        (outcome (fun nav _ => nav = some ⟨total, totalShares w.db⟩) fun _ => False) :=
      getNav_yields (steady_respond request) hnav
    have hx := hy.ends hread
    cases y with
    | ok nav => rw [show nav = _ from hx]
    | error e => exact hx.elim
  -- the payout of that row, priced in the state the request left
  have hlast' : lastMid w₁.memory = some mid := by
    rw [henqueued.unmoved.memory]
    exact hlast
  obtain ⟨z, w₃, hpay⟩ := steady_ends execution
    (priceRow (executorDeps venue cfg.minSolFloorLamports) mid row w₁)
  have hquote : ∃ p, priced venue cfg.minSolFloorLamports mid w₁ row = .ok p :=
    priced_of_positive hpositive
  obtain ⟨p, hp⟩ := hquote
  have hpay' : ∃ bal, z = .ok (bal, p) := by
    have hy : Yields (steady execution)
        (priceRow (executorDeps venue cfg.minSolFloorLamports) mid row w₁)
        (outcome (fun x _ => x.2 = p) fun _ => False) := by
      apply priceRow_yields (steady_respond execution) hlast'
      · intro _ q hq
        rw [hp] at hq
        exact (Except.ok.inj hq).symm
      · intro hnot
        exact hnot (henqueued.unmoved.answered.mpr hanswered)
      · intro e he
        rw [hp] at he
        cases he
    have hz := hy.ends hpay
    cases z with
    | ok quote => exact ⟨quote.1, by rw [← show quote.2 = p from hz]⟩
    | error e => exact hz.elim
  obtain ⟨bal, rfl⟩ := hpay'
  subst y
  have hagree := (h u 0 1 x _ w₀ w₁ w₁ w₃ row row mid bal p (still_mono hread)
    (still_mono hrequest) henqueued.withdrawals (Unmoved.refl w₁) rfl hlast'
    (still_mono hpay)).1
  rw [(priced_ok hp).2.1, henqueued.unmoved.holdings, henqueued.unmoved.totalShares, hprice,
    computeNavPerShare_of_pos hshares] at hagree
  exact ((div_left_inj' (ne_of_gt hshares)).mp hagree).symm

/-- Request and payout agree unless the command goes by something else than the wallet and
the position: uncollected fees, a position it could not read, or a snapshot. -/
theorem request_agrees_iff (venue : Venue) (cfg : BotConfig) (request execution : Outage)
    (w : World) : Agrees venue cfg request execution w ↔
      (Addressed w → ∀ mid, lastMid w.memory = some mid → PositivePrice mid →
        Answered execution w → 0 < totalShares w.db →
        Matched venue cfg.minSolFloorLamports mid request w) := by
  constructor
  · intro h hto mid hlast hpositive hanswered hshares
    exact matched_of_agrees h hto hlast hpositive hanswered hshares
  · exact agrees_of_matched

/-- One bin at 0.0001 SOL for a BERT. -/
def onePool : Venue := ⟨true, 1, fun _ _ => 1 / 10000⟩

/-- The vault of two holders, with a position that has earned half a SOL. -/
def earning : World :=
  let w := PlayedRuns.twoHolders.world PlayedRuns.oneSol
  { w with
    db := { w.db with positionState := some ⟨"position", 1 / 200, 1 / 50, 1 / 100, 0⟩ }
    chain := ⟨w.chain.wallet, [⟨"position", 1000000, 1000000000, 0, 500000000, 0, 1⟩]⟩ }

def noOutage : Outage := ⟨none, none⟩

/-- With every read answering, a request against that vault is paid at another price. -/
theorem request_disagrees : ¬Agrees onePool PlayedRuns.plainConfig noOutage noOutage earning := by
  intro h
  have hto : Addressed earning := by
    have hsome : ((getUser 2 earning.db).bind fun user =>
        user.whitelistAddress.filter (· ≠ "")).isSome = true := by
      decide +kernel
    obtain ⟨address, haddress⟩ := Option.isSome_iff_exists.mp hsome
    obtain ⟨user, huser, hfile⟩ := Option.bind_eq_some_iff.mp haddress
    exact ⟨2, user, huser, by rw [hfile]; exact Option.some_ne_none address⟩
  have hlast : lastMid earning.memory = some PlayedRuns.plainMid := by decide +kernel
  have hpositive : PositivePrice PlayedRuns.plainMid := by
    constructor <;> norm_num [PlayedRuns.plainMid]
  have hshares : 0 < totalShares earning.db := by decide +kernel
  have hmatched : 0 < walletUsd PlayedRuns.plainConfig.minSolFloorLamports PlayedRuns.plainMid
      earning + positionUsd onePool PlayedRuns.plainMid earning +
        feesUsd onePool PlayedRuns.plainMid earning →
      feesUsd onePool PlayedRuns.plainMid earning = 0 :=
    matched_of_agrees h hto hlast hpositive ⟨rfl, fun _ => rfl⟩ hshares
  have hfees : feesUsd onePool PlayedRuns.plainMid earning = 50 := by decide +kernel
  rw [hmatched (by decide +kernel)] at hfees
  norm_num at hfees

end NavAgreement
