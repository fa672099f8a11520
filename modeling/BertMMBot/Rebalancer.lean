import BertMMBot.BotProgram
import BertMMBot.ShareMath

/-! # The rebalancer

One rebalance: check the drawdown and the daily cap, close the position, bring the wallet to
equal shares, open a new position around the mid and record it. A failure after the close
leaves the bot degraded. -/
namespace Rebalancer

open AsyncProgram VaultTypes BotProgram Strategy ShareMath
open MeteoraPosition (PositionSnapshot)

structure MevProtectionConfig where
  tipLamports : ℕ
  bundleTimeoutMs : ℤ
  deriving DecidableEq, Repr

/-- The part of the configuration that the market maker reads. -/
structure BotConfig where
  enabled : Bool
  dryRun : Bool
  rangeWidthPct : ℚ
  sustainedMinutes : ℕ
  minRebalanceIntervalMin : ℕ
  maxRebalancesPerDay : ℕ
  maxDrawdownPct : ℚ
  maxPositionUsd : ℚ
  oracleDivergenceBps : ℚ
  oracleStaleMinutes : ℕ
  minSolFloorLamports : ℕ
  priorityFeeMicroLamports : ℕ
  pollIntervalSec : ℕ
  bertMint : Address

structure RebalancerDeps where
  venue : VenueClient
  submitter : Submitter
  config : BotConfig

inductive ResultKind where
  | ok
  | skipped
  | failed
  deriving DecidableEq, Repr

structure RebalanceResult where
  kind : ResultKind
  detail : Detail
  newNftMint : Option String
  deriving DecidableEq, Repr

def skipped (detail : Detail) : RebalanceResult := ⟨.skipped, detail, none⟩

def failed (detail : Detail) : RebalanceResult := ⟨.failed, detail, none⟩

variable (deps : RebalancerDeps)

def submitOptions : SubmitOptions where
  priorityFeeMicroLamports := some deps.config.priorityFeeMicroLamports
  dryRun := deps.config.dryRun

def effectiveValueUsd (sim : SimulatedClose) (solUsd : ℚ) : ℚ :=
  sim.bertOut / rawPerBert * sim.effectivePriceUsd + sim.solOut / lamportsPerSol * solUsd

def tripBreaker (detail : Detail) : Process (Option RebalanceResult) := do
  setDegraded true
  notify .critical (.rebalance detail none)
  return some (skipped detail)

/-- The position is compared with its own value at the current price. -/
def checkDrawdown (mid : MidPrice) (current : PositionSnapshot) : Process (Option RebalanceResult) := do
  let sim ← deps.venue.simulateClose current.nftMint mid.solUsd
  let effective := effectiveValueUsd sim mid.solUsd
  let entry := current.totalValueUsd
  let threshold := 1 - deps.config.maxDrawdownPct / 100
  if 0 < entry ∧ effective / entry < threshold then
    tripBreaker (.drawdownBreakerTripped (toFixed 2 effective) (toFixed 2 entry)
      (toFixed 1 (effective / entry * 100)) (toFixed 1 (threshold * 100)))
  else return none

/-- Without a drawdown check there is no rebalance. -/
def drawdownBreaker (mid : MidPrice) :
    Option PositionSnapshot → Process (Option RebalanceResult)
  | none => return none
  | some current => tryCatch (checkDrawdown deps mid current) fun e => do
    notify .critical (.rebalance (.simulateCloseFailed e) none)
    return some (skipped (.simulateCloseFailed e))

/-- What a stage hands on, or the result with which it ends the rebalance. -/
abbrev Staged (α : Type) := Except RebalanceResult α

def reportFailure (detail : Detail) {α : Type} : Process (Staged α) := do
  notify .critical (.rebalance detail none)
  return .error (failed detail)

def buildClose (nftMint : String) : Process (Staged ClosePosition) :=
  tryCatch (do return .ok (← deps.venue.buildClosePositionTx nftMint)) fun e =>
    reportFailure (.buildCloseFailed e)

def submitClose (close : ClosePosition) : Process (Staged Signature) :=
  tryCatch (do return .ok (← deps.submitter.submitProtected close.tx (submitOptions deps)))
    fun e => reportFailure (.closeSubmitFailed e)

def closeBuilt (close : ClosePosition) : Process (Staged (Option Signature)) := do
  match ← submitClose deps close with
  | .error r => return .error r
  | .ok closeSig =>
    notify .info (.positionClosed closeSig close.expected)
    return .ok (some closeSig)

def closePosition : Option PositionSnapshot → Process (Staged (Option Signature))
  | none => return .ok none
  | some current => do
    match ← buildClose deps current.nftMint with
    | .error r => return .error r
    | .ok close => closeBuilt deps close

def refreshPool : Process Unit := tryCatch deps.venue.getPoolState fun _ => pure ()

structure PriceRange where
  lowerUsd : ℚ
  upperUsd : ℚ
  centerUsd : ℚ
  deriving DecidableEq, Repr

def newRange (mid : MidPrice) : PriceRange :=
  let halfWidth := mid.bertUsd * (deps.config.rangeWidthPct / 100) / 2
  ⟨mid.bertUsd - halfWidth, mid.bertUsd + halfWidth, mid.bertUsd⟩

structure Sizing where
  targetTotalUsd : ℚ
  bertAmountRaw : ℤ
  solAmountLamports : ℤ
  deriving DecidableEq, Repr

def usableSol (bal : Balances) : ℕ := spendable deps.config.minSolFloorLamports bal.solLamports

def usableUsd (mid : MidPrice) (bal : Balances) : ℚ :=
  tokenUsd mid.mid (usableSol deps bal) bal.bertRaw

/-- The value of the new position. -/
def targetTotalUsd (mid : MidPrice) (bal : Balances) : ℚ :=
  min (usableUsd deps mid bal) deps.config.maxPositionUsd

def currentBertRatio (mid : MidPrice) (bal : Balances) : ℚ :=
  if 0 < usableUsd deps mid bal then
    bal.bertRaw / rawPerBert * mid.bertUsd / usableUsd deps mid bal
  else 1 / 2

def submitSwap (tx : Transaction) : Process Unit := do
  let _ ← deps.submitter.submitProtected tx (submitOptions deps)
  if deps.config.dryRun then pure ()
  else
    let _ ← deps.venue.getWalletBalances

/-- A failing swap is left alone: a position may be opened at any ratio. -/
def swapToRatio (mid : MidPrice) (bal : Balances) : Process Unit :=
  if 1 / 100 < |currentBertRatio deps mid bal - 1 / 2| then
    tryCatch
      (do
        let tx ← deps.venue.buildSwapToRatioTx bal.bertRaw (usableSol deps bal) (1 / 2)
        if tx = [] then pure () else submitSwap deps tx)
      fun _ => pure ()
  else pure ()

/-- The holdings, scaled down to the cap. -/
def scaledAmounts (mid : MidPrice) (bal : Balances) (targetUsd : ℚ) : Sizing :=
  let scale := if 0 < usableUsd deps mid bal then
    targetTotalUsd deps mid bal / usableUsd deps mid bal else 0
  ⟨targetUsd, ⌊bal.bertRaw * scale⌋, ⌊usableSol deps bal * scale⌋⟩

/-- Dividing by a zero price gives no integer. -/
def dryRunAmounts (mid : MidPrice) (targetUsd : ℚ) : Except Thrown Sizing :=
  if mid.bertUsd = 0 ∨ mid.solUsd = 0 then
    .error (.error "The number cannot be converted to a BigInt because it is not an integer")
  else
    .ok ⟨targetUsd, ⌊targetUsd / 2 / mid.bertUsd * rawPerBert⌋,
      ⌊targetUsd / 2 / mid.solUsd * lamportsPerSol⌋⟩

def finalAmounts (mid : MidPrice) (targetUsd : ℚ) : Process Sizing :=
  if deps.config.dryRun then liftExcept (dryRunAmounts mid targetUsd)
  else do
    let bal ← deps.venue.getWalletBalances
    return scaledAmounts deps mid bal targetUsd

/-- From here on a failure finds the position closed. -/
def degrade (detail : Detail) (closeSig : Option Signature) {α : Type} : Process (Staged α) := do
  setDegraded true
  notify .critical (.rebalance detail closeSig)
  return .error (failed detail)

def sizePosition (mid : MidPrice) (closeSig : Option Signature) : Process (Staged Sizing) :=
  tryCatch
    (do
      let bal ← deps.venue.getWalletBalances
      swapToRatio deps mid bal
      return .ok (← finalAmounts deps mid (targetTotalUsd deps mid bal)))
    fun e => degrade (.swapFailedAfterClose e) closeSig

structure Opened where
  openSig : Signature
  nftMint : String

def submitOpen (mid : MidPrice) (range : PriceRange) (sizing : Sizing) : Process Opened := do
  let built ← deps.venue.buildOpenPositionTx {
    lowerUsd := range.lowerUsd, upperUsd := range.upperUsd,
    bertAmountRaw := sizing.bertAmountRaw, solAmountLamports := sizing.solAmountLamports,
    solUsd := mid.solUsd }
  let openSig ← deps.submitter.submitProtected built.tx (submitOptions deps)
  return ⟨openSig, built.nftMint⟩

def openPosition (mid : MidPrice) (range : PriceRange) (sizing : Sizing)
    (closeSig : Option Signature) : Process (Staged Opened) :=
  tryCatch (do return .ok (← submitOpen deps mid range sizing)) fun e =>
    degrade (.openFailed e) closeSig

def recordOpened (now : ℤ) (range : PriceRange) (current : Option PositionSnapshot)
    (nftMint : String) (cause : Cause) : Process Unit := do
  setCurrentPosition {
    nftMint, lowerUsd := range.lowerUsd, upperUsd := range.upperUsd,
    centerUsd := range.centerUsd, openedAt := now }
  recordRebalance {
    record := {
      ts := now, oldCenterUsd := (current.map fun p => p.range.centerBertUsd).getD 0,
      newCenterUsd := range.centerUsd, feesCollectedUsd := 0 }
    cause }

def markRollback (rollingBack : Bool) : Process Unit := Async.modify fun b => { b with rollingBack }

def closeUnrecorded (nftMint : String) : Process Unit := do
  markRollback true
  let close ← deps.venue.buildClosePositionTx nftMint
  let _ ← deps.submitter.submit close.tx {
    priorityFeeMicroLamports := some deps.config.priorityFeeMicroLamports }

/-- The position that could not be recorded is closed again. -/
def rollback (nftMint : String) : Process Unit := do
  tryCatch (closeUnrecorded deps nftMint) fun _ =>
    notify .critical (.orphanedPosition nftMint)
  markRollback false

def persist (now : ℤ) (range : PriceRange) (current : Option PositionSnapshot)
    (nftMint : String) (cause : Cause) : Process (Staged Unit) :=
  if deps.config.dryRun then return .ok ()
  else tryCatch (do recordOpened now range current nftMint cause; return .ok ()) fun e => do
    rollback deps nftMint
    degrade (.persistenceFailed e) none

def announce (range : PriceRange) (current : Option PositionSnapshot)
    (closeSig : Option Signature) (sizing : Sizing) (opened : Opened) : Process RebalanceResult := do
  notify .info (.rebalanced deps.config.dryRun (current.map PositionSnapshot.nftMint) opened.nftMint
    (toFixed 6 range.lowerUsd) (toFixed 6 range.upperUsd) (toFixed 2 sizing.targetTotalUsd))
  return ⟨.ok, .completed closeSig opened.openSig opened.nftMint, some opened.nftMint⟩

/-- Everything after the close. -/
def reopen (now : ℤ) (mid : MidPrice) (current : Option PositionSnapshot) (cause : Cause)
    (closeSig : Option Signature) : Process RebalanceResult := do
  refreshPool deps
  let range := newRange deps mid
  match ← sizePosition deps mid closeSig with
  | .error r => return r
  | .ok sizing =>
    match ← openPosition deps mid range sizing closeSig with
    | .error r => return r
    | .ok opened =>
      match ← persist deps now range current opened.nftMint cause with
      | .error r => return r
      | .ok () => announce deps range current closeSig sizing opened

/-- Once the drawdown is known to be small. -/
def rebalanceChecked (now : ℤ) (mid : MidPrice) (current : Option PositionSnapshot)
    (cause : Cause) : Process RebalanceResult := do
  let today ← getRebalancesToday now
  if deps.config.maxRebalancesPerDay ≤ today then return skipped .dailyCapReached
  else
    match ← closePosition deps current with
    | .error r => return r
    | .ok closeSig => reopen deps now mid current cause closeSig

def executeRebalance (mid : MidPrice) (current : Option PositionSnapshot) (cause : Cause) :
    Process RebalanceResult := do
  let now ← now
  match ← drawdownBreaker deps mid current with
  | some r => return r
  | none => rebalanceChecked deps now mid current cause

end Rebalancer
