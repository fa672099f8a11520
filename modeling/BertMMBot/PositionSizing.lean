import BertMMBot.AnsweredCalls
import BertMMBot.PlayedBot
import BertMMBot.RebalanceBounds
import BertMMBot.TxSubmission

/-! # What goes into a new position

The amounts a position is opened with are taken from the wallet as it was last read: one and
the same part of all that is not kept back, rounded down token by token, so that the position
is worth what it may be worth up to a base unit of each token. -/
namespace PositionSizing

open AsyncProgram AsyncWiring VaultTypes BotProgram Rebalancer ShareMath AnsweredCalls TxSubmission
open RebalanceBounds (Staging)
open PlayedBot (playedConfig playedMid botWith)
open MeteoraPosition (PositionSnapshot)

variable {deps : RebalancerDeps} {mid : MidPrice} {bal : Balances}

/-- A position that is to be opened, against the holdings it is taken from. -/
structure Sized (config : BotConfig) (mid : MidPrice) (bal : Balances)
    (params : OpenPositionParams) : Prop where
  bert_held : params.bertAmountRaw ≤ bal.bertRaw
  sol_held : params.solAmountLamports + config.minSolFloorLamports ≤ bal.solLamports ∨
    params.solAmountLamports = 0
  value_le : tokenUsd mid.mid params.solAmountLamports params.bertAmountRaw ≤ config.maxPositionUsd
  shortfall : min config.maxPositionUsd
        (tokenUsd mid.mid (spendable config.minSolFloorLamports bal.solLamports) bal.bertRaw) -
      tokenUsd mid.mid params.solAmountLamports params.bertAmountRaw < tokenUsd mid.mid 1 1
  common : ∃ fraction : ℚ, 0 ≤ fraction ∧ fraction ≤ 1 ∧
    params.bertAmountRaw = ⌊bal.bertRaw * fraction⌋ ∧
    params.solAmountLamports =
      ⌊spendable config.minSolFloorLamports bal.solLamports * fraction⌋

theorem floor_mul_le (amount : ℕ) {fraction : ℚ} (hle : fraction ≤ 1) :
    ⌊amount * fraction⌋ ≤ (amount : ℤ) := by
  apply Int.floor_le_iff.mpr
  have hamount : (amount : ℚ) * fraction ≤ amount * 1 :=
    mul_le_mul_of_nonneg_left hle (Nat.cast_nonneg amount)
  push_cast
  linarith

theorem tokenUsd_mul (mid : Mid) (sol bert fraction : ℚ) :
    tokenUsd mid (sol * fraction) (bert * fraction) = tokenUsd mid sol bert * fraction := by
  unfold tokenUsd
  ring

def scale (deps : RebalancerDeps) (mid : MidPrice) (bal : Balances) : ℚ :=
  if 0 < usableUsd deps mid bal then targetTotalUsd deps mid bal / usableUsd deps mid bal else 0

theorem usableUsd_nonneg (hprice : PositivePrice mid.mid) : 0 ≤ usableUsd deps mid bal :=
  tokenUsd_nonneg hprice.1.le hprice.2.le _ _

theorem scale_nonneg (hmax : 0 ≤ deps.config.maxPositionUsd) : 0 ≤ scale deps mid bal := by
  unfold scale
  by_cases husable : 0 < usableUsd deps mid bal
  · rw [if_pos husable]
    exact div_nonneg (le_min husable.le hmax) husable.le
  · rw [if_neg husable]

theorem scale_le_one : scale deps mid bal ≤ 1 := by
  unfold scale
  by_cases husable : 0 < usableUsd deps mid bal
  · rw [if_pos husable, div_le_one husable]
    exact min_le_left _ _
  · rw [if_neg husable]
    exact zero_le_one

theorem usableUsd_mul_scale (hprice : PositivePrice mid.mid)
    (hmax : 0 ≤ deps.config.maxPositionUsd) :
    usableUsd deps mid bal * scale deps mid bal = targetTotalUsd deps mid bal := by
  unfold scale
  by_cases husable : 0 < usableUsd deps mid bal
  · rw [if_pos husable, mul_div_cancel₀ _ husable.ne']
  · have hzero : usableUsd deps mid bal = 0 :=
      le_antisymm (not_lt.mp husable) (usableUsd_nonneg hprice)
    rw [if_neg husable, targetTotalUsd, hzero, min_eq_left hmax, mul_zero]

theorem sized_of_scale (hprice : PositivePrice mid.mid)
    (hmax : 0 ≤ deps.config.maxPositionUsd) {params : OpenPositionParams}
    (hbert : params.bertAmountRaw = ⌊bal.bertRaw * scale deps mid bal⌋)
    (hsol : params.solAmountLamports = ⌊usableSol deps bal * scale deps mid bal⌋) :
    Sized deps.config mid bal params := by
  have hvalue : tokenUsd mid.mid (usableSol deps bal * scale deps mid bal)
      (bal.bertRaw * scale deps mid bal) = targetTotalUsd deps mid bal := by
    rw [tokenUsd_mul]
    exact usableUsd_mul_scale hprice hmax
  have hle := tokenUsd_floor_le hprice.1.le hprice.2.le (usableSol deps bal * scale deps mid bal)
    (bal.bertRaw * scale deps mid bal)
  have hlt := tokenUsd_sub_floor_lt hprice (usableSol deps bal * scale deps mid bal)
    (bal.bertRaw * scale deps mid bal)
  rw [hvalue, ← hbert, ← hsol] at hle hlt
  constructor
  · rw [hbert]
    exact floor_mul_le _ scale_le_one
  · have hspent : params.solAmountLamports ≤ usableSol deps bal := by
      rw [hsol]
      exact floor_mul_le _ scale_le_one
    rw [usableSol, spendable] at hspent
    by_cases hfloor : deps.config.minSolFloorLamports < bal.solLamports
    · rw [if_pos hfloor] at hspent
      left
      omega
    · right
      rw [hsol, usableSol, spendable, if_neg hfloor]
      simp
  · exact hle.trans (min_le_right _ _)
  · rw [targetTotalUsd, min_comm] at hlt
    exact hlt
  · exact ⟨scale deps mid bal, scale_nonneg hmax, scale_le_one, hbert, hsol⟩

/-- The account of a rebalance: the balances last read. A position that is opened is measured
by them. -/
def balancesRead (config : BotConfig) (mid : MidPrice) :
    Account botInterface Thrown (Option Balances) where
  book
    | .getWalletBalances, .ok bal, _ => some bal
    | _, _, last => last
  inOrder last q := ∀ params, q = .buildOpenPositionTx params →
    ∃ bal, last = some bal ∧ Sized config mid bal params

def opens : BotQuery → Bool
  | .buildOpenPositionTx _ => true
  | _ => false

def notOpening : Bounds botInterface BotWorld Unit where
  choice _ := True
  call q := opens q = false
  view _ := ()

theorem follows_notOpening {α : Type} {config : BotConfig} {m : Process α}
    (hm : Within notOpening True m) :
    Follows (balancesRead config mid) (fun _ => True) m fun _ _ => True := by
  apply follows_within hm
  intro last q hq params heq
  subst heq
  cases hq

theorem conveying_notOpening : Conveying notOpening where
  clock := trivial
  call := by
    intro q hq
    cases q with
    | buildOpenPositionTx params => cases hq
    | _ => rfl

theorem staging_notOpening (jito : Option JitoClient) (config : BotConfig) :
    Staging notOpening (networkSubmitter jito) config where
  choice _ _ := trivial
  call := by
    intro q hq
    cases q with
    | buildOpenPositionTx params => cases hq
    | _ => rfl
  view _ _ _ _ := rfl
  submit tx opts _ := conveying_notOpening.submit tx opts
  submitProtected tx opts _ := conveying_notOpening.submitProtected jito tx opts

section Rebalance

variable {config : BotConfig} {jito : Option JitoClient} {current : Option PositionSnapshot}
  {closeSig : Option Signature} {cause : Cause} {now : ℤ}

def SizedBy (config : BotConfig) (mid : MidPrice) :
    Staged Sizing → Option Balances → Prop
  | .error _, _ => True
  | .ok sizing, last => ∀ params : OpenPositionParams,
      params.bertAmountRaw = sizing.bertAmountRaw →
      params.solAmountLamports = sizing.solAmountLamports →
      ∃ bal, last = some bal ∧ Sized config mid bal params

variable (hdry : config.dryRun = false) (hmax : 0 ≤ config.maxPositionUsd)
  (hprice : PositivePrice mid.mid)

include hdry hmax hprice

theorem finalAmounts_sized (targetUsd : ℚ) :
    Follows (balancesRead config mid) (fun _ => True)
      (finalAmounts ⟨hostVenue, networkSubmitter jito, config⟩ mid targetUsd)
      fun sizing last => SizedBy config mid (.ok sizing) last := by
  unfold finalAmounts
  apply follows_ite
  · intro h
    rw [hdry] at h
    cases h
  · intro _
    apply follows_bind (B := fun bal last => last = some bal)
    · apply follows_call
      · intro _ _ params heq
        cases heq
      · intro _ bal _
        rfl
    · intro bal
      apply follows_pure
      intro last hlast params hbert hsol
      exact ⟨bal, hlast, sized_of_scale hprice hmax hbert hsol⟩

theorem sizePosition_sized :
    Follows (balancesRead config mid) (fun _ => True)
      (sizePosition ⟨hostVenue, networkSubmitter jito, config⟩ mid closeSig)
      (SizedBy config mid) := by
  have hstage := staging_notOpening jito config
  have hdegrade : ∀ detail, Follows (balancesRead config mid) (fun _ => True)
      (degrade detail closeSig : Process (Staged Sizing)) (SizedBy config mid) := by
    intro detail
    apply follows_bind (follows_notOpening (hstage.setDegraded true))
    intro _
    apply follows_bind (follows_notOpening (hstage.notify rfl))
    exact fun _ => follows_pure fun _ _ => trivial
  apply follows_tryCatch
  · apply follows_bind (follows_notOpening (hstage.ask rfl))
    intro bal
    apply follows_bind (follows_notOpening (hstage.swapToRatio bal))
    intro _
    apply follows_bind (finalAmounts_sized hdry hmax hprice _)
    exact fun sizing => follows_pure fun _ h => h
  · exact fun e => hdegrade _

omit hdry hmax hprice in
theorem openPosition_sized {range : PriceRange} {sizing : Sizing} :
    Follows (balancesRead config mid) (SizedBy config mid (.ok sizing))
      (openPosition ⟨hostVenue, networkSubmitter jito, config⟩ mid range sizing closeSig)
      fun _ _ => True := by
  have hstage := staging_notOpening jito config
  apply follows_tryCatch
  · apply follows_bind (B := fun _ _ => True)
    · apply follows_bind (B := fun _ _ => True)
      · apply follows_bind (B := fun _ _ => True)
        · apply follows_call
          · intro last hlast params heq
            cases heq
            exact hlast _ rfl rfl
          · exact fun _ _ _ => trivial
        · exact fun _ => follows_pure fun _ _ => trivial
      · intro built
        apply follows_notOpening
        exact within_bind (hstage.submitProtected _ _ fun h => h) fun _ => within_pure _
    · exact fun _ => follows_pure fun _ _ => trivial
  · exact fun e => follows_notOpening (hstage.degrade _ _)

theorem reopen_sized :
    Follows (balancesRead config mid) (fun _ => True)
      (reopen ⟨hostVenue, networkSubmitter jito, config⟩ now mid current cause closeSig)
      fun _ _ => True := by
  have hstage := staging_notOpening jito config
  apply follows_bind (follows_notOpening hstage.refreshPool)
  intro _
  apply follows_bind (sizePosition_sized hdry hmax hprice)
  intro sized
  cases sized with
  | error r => exact follows_pure fun _ _ => trivial
  | ok sizing =>
    apply follows_bind openPosition_sized
    intro opened
    apply follows_notOpening
    cases opened with
    | error r => exact within_pure _
    | ok opened =>
      apply within_bind (hstage.persist fun _ => trivial)
      intro saved
      cases saved with
      | error r => exact within_pure _
      | ok _ => exact within_bind (hstage.notify rfl) fun _ => within_pure _

/-- Whenever a rebalance asks for a position to be opened, its amounts are sized by the
balances it was told last. -/
theorem opened_sized_by_last_balances (b : BotWorld) :
    Accounted (balancesRead config mid) none
      (executeRebalance ⟨hostVenue, networkSubmitter jito, config⟩ mid current cause b)
      fun _ _ => True := by
  have hfollows : Follows (balancesRead config mid) (fun _ => True)
      (executeRebalance ⟨hostVenue, networkSubmitter jito, config⟩ mid current cause)
      fun _ _ => True := by
    have hstage := staging_notOpening jito config
    apply follows_bind (follows_notOpening hstage.now)
    intro now
    apply follows_bind (follows_notOpening hstage.drawdownBreaker)
    intro tripped
    cases tripped with
    | some r => exact follows_pure fun _ _ => trivial
    | none =>
      apply follows_bind (follows_notOpening (within_read _))
      intro today
      apply follows_ite
      · exact fun _ => follows_pure fun _ _ => trivial
      · intro _
        apply follows_bind (follows_notOpening hstage.closePosition)
        intro closed
        cases closed with
        | error r => exact follows_pure fun _ _ => trivial
        | ok closeSig => exact reopen_sized hdry hmax hprice
  apply (hfollows b none trivial).mono
  exact fun _ _ _ => trivial

end Rebalance

/-- The first position of a bot that holds whatever it will turn out to hold. -/
theorem opened_sized_by_last_balances_first :
    Accounted (balancesRead playedConfig playedMid) none
      (executeRebalance ⟨hostVenue, networkSubmitter none, playedConfig⟩ playedMid none
        .initialOpen (botWith [] none)) fun _ _ => True :=
  opened_sized_by_last_balances rfl (by decide +kernel) ⟨by decide +kernel, by decide +kernel⟩ _

end PositionSizing
