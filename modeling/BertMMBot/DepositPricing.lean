import BertMMBot.NavAgreement
import BertMMBot.PlayedJournals
import BertMMBot.SnapshotJobs

/-! # The price of a deposit

Whoever asks for the NAV is told what the pool is worth now; whoever deposits buys shares at
the value of the latest snapshot, which only the vault's own operations write. The two prices
agree as long as nothing has moved since. Of a deposit in SOL the rent reserve never arrives. -/
namespace DepositPricing

open AsyncProgram AsyncContract VaultTypes VaultProgram DepositorStore ShareMath DepositPipeline
open VaultRuntime OperatorCommands VaultJournal NavAgreement SnapshotMachine
open VaultDiscipline (Environment)
open MeteoraPosition (Venue)
open PlayedRuns (withChain swept anyEnvironment plainVenue plainConfig oneSol quote)
open PlayedJournals

variable {venue : Venue} {cfg : BotConfig} {env : Environment} {floor : ℕ} {mid : Mid} {w : World}
  {h : Journal} {p : JournalPoint} {c : Credit} {before : Chain} {nav : Nav}

/-- What `getNav` answers in this state when every read succeeds. -/
def LiveNav (venue : Venue) (floor : ℕ) (w : World) (nav : Nav) : Prop :=
  ∃ w', Ends (still noOutage) (getNav venue floor w) (.ok (some nav)) w'

def holdings (venue : Venue) (floor : ℕ) (mid : Mid) (w : World) : ℚ :=
  walletUsd floor mid w + positionUsd venue mid w + feesUsd venue mid w

theorem liveNav_iff (hmid : lastMid w.memory = some mid) :
    LiveNav venue floor w nav ↔ nav = ⟨holdings venue floor mid w, totalShares w.db⟩ := by
  have hask : requestNav venue floor noOutage w =
      some ⟨holdings venue floor mid w, totalShares w.db⟩ := by
    unfold requestNav
    rw [hmid]
    rfl
  constructor
  · rintro ⟨w', hends⟩
    have hnav := getNav_ends hends
    rw [hask] at hnav
    exact Option.some.inj hnav
  · rintro rfl
    obtain ⟨x, w', hends⟩ := steady_ends noOutage (getNav venue floor w)
    have hends' := still_mono hends
    have hyields : Yields (still noOutage) (getNav venue floor w)
        (VaultDiscipline.outcome (fun nav _ => nav = requestNav venue floor noOutage w)
          fun _ => False) := getNav_yields rfl rfl
    have hx := hyields.ends hends'
    cases x with
    | error e => exact hx.elim
    | ok nav =>
      change nav = _ at hx
      rw [hask] at hx
      subst hx
      exact ⟨w', hends'⟩

/-- The pool without the deposit: what its sweep has brought is not in the wallet. -/
def Before (c : Credit) (before : Chain) : Prop :=
  ∃ r ∈ sweptRows c.world.db, r.inboundTxSig = c.inboundTxSig ∧
    ∃ ixs, buildSweepInstructions r.solLamports r.bertRaw pipelineDeps.rentReserveLamports =
      .ok ixs ∧ swept ixs before = c.world.chain

/-- The credit is priced at the live NAV per share of the pool without the deposit, and leaves
the live NAV per share as it was. -/
structure Fair (venue : Venue) (floor : ℕ) (c : Credit) (before : Chain) : Prop where
  price : ∀ nav, LiveNav venue floor (withChain c.world before) nav →
    c.navPerShare = navPerShareOf nav
  kept : ∀ nav nav', LiveNav venue floor (withChain c.world before) nav →
    LiveNav venue floor c.world nav' →
    computeNavPerShare nav'.totalUsd (nav'.totalShares + c.sharesMinted) = navPerShareOf nav

/-- Every credit of something to a vault with shares. -/
def PricedLive (venue : Venue) (floor : ℕ) (h : Journal) : Prop :=
  ∀ c before, Credited h c → 0 < totalShares c.world.db → 0 ≤ c.depositUsd → Before c before →
    Fair venue floor c before

def snapshotValue (db : Db) : ℚ := ((latestNavSnapshot db).map NavSnapshotRow.totalValueUsd).getD 0

/-- The latest snapshot has the value of the pool without the deposit, and the deposit arrived
in full. -/
structure UpToDate (venue : Venue) (floor : ℕ) (c : Credit) (before : Chain) : Prop where
  snapshot : ∀ mid, lastMid c.world.memory = some mid →
    snapshotValue c.world.db = holdings venue floor mid (withChain c.world before)
  arrived : ∀ mid, lastMid c.world.memory = some mid → holdings venue floor mid c.world =
    holdings venue floor mid (withChain c.world before) + c.depositUsd

def AlwaysUpToDate (venue : Venue) (floor : ℕ) (h : Journal) : Prop :=
  ∀ c before, Credited h c → 0 < totalShares c.world.db → 0 ≤ c.depositUsd → Before c before →
    UpToDate venue floor c before

theorem price_kept_iff {value value' paid shares : ℚ} (hvalue : 0 < value) (hshares : 0 < shares)
    (hpaid : 0 ≤ paid) :
    computeNavPerShare value' (shares + paid / (value / shares)) = value / shares ↔
      value' = value + paid := by
  have hminted : 0 ≤ paid / (value / shares) := by positivity
  rw [computeNavPerShare_of_pos (by linarith), div_eq_div_iff (by positivity) hshares.ne']
  have hexpand : value * (shares + paid / (value / shares)) = (value + paid) * shares := by
    field_simp
  rw [hexpand, mul_left_inj' hshares.ne']

theorem fair_iff (hq : Quoted c) (hshares : 0 < totalShares c.world.db) (hpaid : 0 ≤ c.depositUsd) :
    Fair venue floor c before ↔ UpToDate venue floor c before := by
  obtain ⟨mid, sol, bert, hmid, -⟩ := hq.valued
  obtain ⟨hpos, hminted⟩ := computeSharesForDeposit_ok hq.minted
  have hprice : c.navPerShare = snapshotValue c.world.db / totalShares c.world.db := by
    rw [hq.price, snapshotNavPerShare, computeNavPerShare_of_pos hshares]
    rfl
  have hlive : navPerShareOf ⟨holdings venue floor mid (withChain c.world before),
      totalShares c.world.db⟩ =
        holdings venue floor mid (withChain c.world before) / totalShares c.world.db :=
    computeNavPerShare_of_pos hshares
  have hbefore : ∀ nav, LiveNav venue floor (withChain c.world before) nav ↔
      nav = ⟨holdings venue floor mid (withChain c.world before), totalShares c.world.db⟩ :=
    fun nav => liveNav_iff hmid
  have hafter : ∀ nav, LiveNav venue floor c.world nav ↔
      nav = ⟨holdings venue floor mid c.world, totalShares c.world.db⟩ := fun nav => liveNav_iff hmid
  -- at the same price, the value of the pool is that of the snapshot
  have hsame : c.navPerShare = holdings venue floor mid (withChain c.world before) /
      totalShares c.world.db ↔
        snapshotValue c.world.db = holdings venue floor mid (withChain c.world before) := by
    rw [hprice, div_left_inj' hshares.ne']
  constructor
  · intro hfair
    have hat := hfair.price _ ((hbefore _).mpr rfl)
    rw [hlive] at hat
    have hvalue : 0 < holdings venue floor mid (withChain c.world before) := by
      rw [hat] at hpos
      exact (div_pos_iff_of_pos_right hshares).mp hpos
    have hkept := hfair.kept _ _ ((hbefore _).mpr rfl) ((hafter _).mpr rfl)
    rw [hlive, hminted, hat, price_kept_iff hvalue hshares hpaid] at hkept
    constructor
    · intro mid' hmid'
      cases hmid.symm.trans hmid'
      exact hsame.mp hat
    · intro mid' hmid'
      cases hmid.symm.trans hmid'
      exact hkept
  · intro hup
    have hat := hsame.mpr (hup.snapshot mid hmid)
    have hvalue : 0 < holdings venue floor mid (withChain c.world before) := by
      rw [hat] at hpos
      exact (div_pos_iff_of_pos_right hshares).mp hpos
    constructor
    · intro nav hnav
      rw [(hbefore nav).mp hnav, hlive]
      exact hat
    · intro nav nav' hnav hnav'
      rw [(hbefore nav).mp hnav, (hafter nav').mp hnav', hlive, hminted, hat]
      exact (price_kept_iff hvalue hshares hpaid).mpr (hup.arrived mid hmid)

/-- In every run, the deposits are bought at the live price and dilute nobody if and only if
each found a snapshot of the pool's present value and arrived in full. -/
theorem priced_live_iff (hj : Journaled venue cfg env.host p) (floor : ℕ) :
    PricedLive venue floor p.2 ↔ AlwaysUpToDate venue floor p.2 := by
  have hsound : Sound p := SnapshotJobs.journaled_sound hj
  constructor
  · intro hfair c before hc hshares hpaid hbefore
    exact (fair_iff (hsound.quoted c hc) hshares hpaid).mp (hfair c before hc hshares hpaid hbefore)
  · intro hup c before hc hshares hpaid hbefore
    exact (fair_iff (hsound.quoted c hc) hshares hpaid).mpr (hup c before hc hshares hpaid hbefore)

/-- One SOL is deposited after SOL has doubled since the founding snapshot. -/
def depositedAtDouble : JournaledRun :=
  (PlayedRuns.founding.1, .bootstrap ⟨1, 100⟩) :: (settlingIn ++
    [ticked { PlayedRuns.depositTick.1 with
        samples := [quote "jupiter" 200 (1 / 50), quote "dexscreener" 200 (1 / 50)] }])

theorem priced_live_iff_double :
    PricedLive plainVenue plainConfig.minSolFloorLamports
        (depositedAtDouble.point plainVenue plainConfig oneSol).2 ↔
      AlwaysUpToDate plainVenue plainConfig.minSolFloorLamports
        (depositedAtDouble.point plainVenue plainConfig oneSol).2 :=
  priced_live_iff (played_journaled plainVenue plainConfig depositedAtDouble oneSol)
    plainConfig.minSolFloorLamports

/-- The credit at the price 1 while the hundred shares of a pool of one SOL are worth 200. -/
structure Underpriced (w : World) (sig : String) (usd price : ℚ) : Prop where
  price : price = 1
  paid : 0 ≤ usd
  mid : lastMid w.memory = some ⟨200, 1 / 50⟩
  shares : totalShares w.db = 100
  value : holdings plainVenue plainConfig.minSolFloorLamports ⟨200, 1 / 50⟩ (withChain w oneSol) =
    200
  row : ∃ r ∈ sweptRows w.db, r.inboundTxSig = sig ∧ r.solLamports = 1000000000 ∧ r.bertRaw = 0
  arrived : swept [.transfer 997960720] oneSol = w.chain

instance (w : World) (sig : String) (usd price : ℚ) : Decidable (Underpriced w sig usd price) :=
  decidable_of_iff (price = 1 ∧ 0 ≤ usd ∧ lastMid w.memory = some ⟨200, 1 / 50⟩ ∧
    totalShares w.db = 100 ∧ holdings plainVenue plainConfig.minSolFloorLamports ⟨200, 1 / 50⟩
      (withChain w oneSol) = 200 ∧ (∃ r ∈ sweptRows w.db, r.inboundTxSig = sig ∧
        r.solLamports = 1000000000 ∧ r.bertRaw = 0) ∧
      swept [.transfer 997960720] oneSol = w.chain)
    ⟨fun ⟨a, b, c, d, e, f, g⟩ => ⟨a, b, c, d, e, f, g⟩,
      fun ⟨a, b, c, d, e, f, g⟩ => ⟨a, b, c, d, e, f, g⟩⟩

def endsUnderpriced : Journal → Bool
  | .choice i (.statement (.writeAudit (.depositCredited sig usd _ price))) w _ ::
      .choice j (.statement (.insertNavSnapshot _)) _ none :: _ =>
    i = j ∧ Underpriced w sig usd price
  | _ => false

theorem endsUnderpriced_credit (he : endsUnderpriced h = true) : ∃ c : Credit, ∃ i o older,
    h = c.line i o :: older ∧ JustSnapshot i older ∧
      Underpriced c.world c.inboundTxSig c.depositUsd c.navPerShare := by
  unfold endsUnderpriced at he
  split at he
  · next i sig usd minted price w o j ts w' older =>
    obtain ⟨rfl, hunder⟩ := of_decide_eq_true he
    exact ⟨⟨w, sig, usd, minted, price⟩, i, o, _, rfl, ⟨ts, w', older, rfl⟩, hunder⟩
  · cases he

theorem Underpriced.not_fair (hunder : Underpriced c.world c.inboundTxSig c.depositUsd
    c.navPerShare) : ¬ Fair plainVenue plainConfig.minSolFloorLamports c oneSol := by
  intro hfair
  have hnav := hfair.price _ ((liveNav_iff (w := withChain c.world oneSol) hunder.mid).mpr rfl)
  rw [navPerShareOf, hunder.value, hunder.price] at hnav
  have hshares : totalShares (withChain c.world oneSol).db = 100 := hunder.shares
  rw [hshares, computeNavPerShare_of_pos (by norm_num)] at hnav
  norm_num at hnav

/-- Somebody pays half the live price per share. -/
theorem priced_stale : ∃ p, Journaled plainVenue plainConfig anyEnvironment.host p ∧
    ¬ PricedLive plainVenue plainConfig.minSolFloorLamports p.2 := by
  have hany : (depositedAtDouble.point plainVenue plainConfig oneSol).2.tails.any
      endsUnderpriced = true := by decide +kernel
  obtain ⟨newer, t, hsplit, he⟩ := tails_split hany
  obtain ⟨c, i, o, older, rfl, hsnapshot, hunder⟩ := endsUnderpriced_credit he
  refine ⟨_, played_journaled plainVenue plainConfig depositedAtDouble oneSol, fun hlive => ?_⟩
  have hcredited : Credited (depositedAtDouble.point plainVenue plainConfig oneSol).2 c :=
    ⟨newer, older, i, o, hsplit, hsnapshot⟩
  have hshares : 0 < totalShares c.world.db := by
    rw [hunder.shares]
    norm_num
  obtain ⟨r, hr, hsig, hsol, hbert⟩ := hunder.row
  have hbefore : Before c oneSol := by
    refine ⟨r, hr, hsig, [.transfer 997960720], ?_, hunder.arrived⟩
    rw [hsol, hbert]
    decide
  exact hunder.not_fair (hlive c oneSol hcredited hshares hunder.paid hbefore)

variable (before) in
theorem swept_wallet {sol bert rent : ℕ} {ixs : List SweepInstruction}
    (hixs : buildSweepInstructions sol bert rent = .ok ixs)
    (hsol : 0 < sol) :
    rent < sol ∧ swept ixs before =
      { before with wallet := ⟨before.wallet.solLamports + (sol - rent),
        before.wallet.bertRaw + bert⟩ } := by
  unfold buildSweepInstructions at hixs
  by_cases hrent : rent < sol
  · have hsend : 0 < sol - rent := by omega
    rw [if_pos hrent, if_neg (by omega), if_pos hsend] at hixs
    by_cases hbert : 0 < bert
    · rw [if_pos hbert] at hixs
      cases hixs
      exact ⟨hrent, rfl⟩
    · rw [if_neg hbert] at hixs
      cases hixs
      obtain rfl : bert = 0 := by omega
      exact ⟨hrent, rfl⟩
  · rw [if_neg hrent, if_pos ⟨hsol, rfl⟩] at hixs
    exact absurd hixs (by simp)

theorem arrives_short {sol bert rent : ℕ} {ixs : List SweepInstruction}
    (hixs : buildSweepInstructions sol bert rent = .ok ixs)
    (hrent : 0 < rent) (hsol : 0 < sol) (hprice : 0 < mid.solUsd) :
    holdings venue floor mid (withChain w (swept ixs before)) <
      holdings venue floor mid (withChain w before) + tokenUsd mid sol bert := by
  obtain ⟨-, hswept⟩ := swept_wallet before hixs hsol
  have hposition : positionUsd venue mid (withChain w (swept ixs before)) =
      positionUsd venue mid (withChain w before) := by
    rw [hswept]
    rfl
  have hfees : feesUsd venue mid (withChain w (swept ixs before)) =
      feesUsd venue mid (withChain w before) := by
    rw [hswept]
    rfl
  have hsold : spendable floor (swept ixs before).wallet.solLamports <
      spendable floor before.wallet.solLamports + sol := by
    have hadd := spendable_add floor before.wallet.solLamports
      (sol - rent)
    rw [hswept]
    change spendable floor (before.wallet.solLamports +
      (sol - rent)) < _
    omega
  have hbert : (swept ixs before).wallet.bertRaw = before.wallet.bertRaw + bert := by rw [hswept]
  have hwallet : walletUsd floor mid (withChain w (swept ixs before)) <
      walletUsd floor mid (withChain w before) + tokenUsd mid sol bert := by
    have hlt : (spendable floor (swept ixs before).wallet.solLamports : ℚ) <
        spendable floor before.wallet.solLamports + sol := by exact_mod_cast hsold
    have hdiv := (div_lt_div_iff_of_pos_right (c := (lamportsPerSol : ℚ)) (by norm_num
      [lamportsPerSol])).mpr hlt
    have hmul := mul_lt_mul_of_pos_right hdiv hprice
    change tokenUsd mid (spendable floor (swept ixs before).wallet.solLamports)
      (swept ixs before).wallet.bertRaw < tokenUsd mid (spendable floor before.wallet.solLamports)
        before.wallet.bertRaw + _
    rw [← tokenUsd_add, hbert]
    unfold tokenUsd
    push_cast
    linarith
  unfold holdings
  rw [hposition, hfees]
  linarith

theorem UpToDate.no_sol (hup : UpToDate venue floor c before)
    (hmid : lastMid c.world.memory = some mid) (hprice : 0 < mid.solUsd) {sol bert rent : ℕ}
    {ixs : List SweepInstruction} (hixs : buildSweepInstructions sol bert rent = .ok ixs)
    (hrent : 0 < rent) (hswept : swept ixs before = c.world.chain)
    (hpaid : c.depositUsd = tokenUsd mid sol bert) : sol = 0 := by
  by_contra hne
  have hshort : holdings venue floor mid (withChain c.world (swept ixs before)) <
      holdings venue floor mid (withChain c.world before) + tokenUsd mid sol bert :=
    arrives_short hixs hrent (Nat.pos_of_ne_zero hne) hprice
  have harrived := hup.arrived mid hmid
  rw [hswept, ← hpaid] at hshort
  exact absurd harrived hshort.ne

end DepositPricing
