import BertMMBot.AsyncWiring
import BertMMBot.ConfigFile
import BertMMBot.Strategy
import BertMMBot.DepositorStore

/-! # Programs of the bot

Around the vault's state stands what the market maker keeps: its rebalance log, the file it is
configured with and the reason it last alerted about. Its programs talk to a venue, a
transaction submitter, a notifier and the file system. -/
namespace BotProgram

open AsyncProgram AsyncContract VaultTypes VaultProgram Strategy
open MeteoraPosition (PositionSnapshot)

structure RebalanceRecord where
  ts : ℤ
  oldCenterUsd : ℚ
  newCenterUsd : ℚ
  feesCollectedUsd : ℚ
  deriving DecidableEq, Repr

/-- Why a rebalance was executed. -/
inductive Cause where
  | initialOpen
  | decided (reason : Reason)
  deriving DecidableEq, Repr

/-- A row of the log. Its cause is ghost data: no statement reads it. -/
structure LoggedRebalance where
  record : RebalanceRecord
  cause : Cause
  deriving DecidableEq, Repr

structure OperatorAction where
  ts : ℤ
  command : String
  osUser : String
  deriving DecidableEq, Repr

/-- `rollingBack` is ghost data: it marks the close that undoes an unrecorded open. -/
structure BotWorld where
  world : World
  rebalanceLog : List LoggedRebalance
  operatorActions : List OperatorAction
  configFile : String
  lastAlertedDecisionReason : Option Reason
  rollingBack : Bool

inductive Instruction where
  | setComputeUnitPrice (microLamports : ℕ)
  | tip (lamports : ℕ)
  | openPosition (nftMint : String)
  | closePosition (nftMint : String)
  | removeLiquidity (positionId : String) (needSolLamports needBertRaw : ℤ)
  | swapToRatio
  | withdrawal (destination : Address) (solLamports bertRaw : ℤ)
  | sweep (instruction : SweepInstruction)
  | createAta (owner : Address)
  deriving DecidableEq, Repr

abbrev Transaction := List Instruction

structure OpenPositionParams where
  lowerUsd : ℚ
  upperUsd : ℚ
  bertAmountRaw : ℤ
  solAmountLamports : ℤ
  solUsd : ℚ
  deriving DecidableEq, Repr

structure ExpectedOut where
  expectedBertOut : ℕ
  expectedSolOut : ℕ
  deriving DecidableEq, Repr

structure SimulatedClose where
  effectivePriceUsd : ℚ
  bertOut : ℕ
  solOut : ℕ
  deriving DecidableEq, Repr

/-- How a rebalance ended, with the values its text shows. -/
inductive Detail where
  | drawdownBreakerTripped (effective entry ratioPct thresholdPct : Fixed)
  | simulateCloseFailed (error : Thrown)
  | dailyCapReached
  | buildCloseFailed (error : Thrown)
  | closeSubmitFailed (error : Thrown)
  | swapFailedAfterClose (error : Thrown)
  | openFailed (error : Thrown)
  | persistenceFailed (error : Thrown)
  | completed (closed : Option Signature) (opened : Signature) (nftMint : String)
  deriving DecidableEq, Repr

inductive Severity where
  | info
  | warn
  | critical
  deriving DecidableEq, Repr

inductive Message where
  | rebalance (detail : Detail) (closeSig : Option Signature)
  | positionClosed (closeSig : Signature) (expected : ExpectedOut)
  | orphanedPosition (nftMint : String)
  | rebalanced (dryRun : Bool) (closed : Option String) (opened : String)
      (lowerUsd upperUsd valueUsd : Fixed)
  | initialPositionOpened (detail : Detail)
  | paused (reason : Reason)
  | alertOnly (reason : Reason)
  | tickFailed (error : Thrown)
  | reconciliationFailed (reason : Mismatch)
  deriving DecidableEq, Repr

inductive BotStmt where
  | setCurrentPosition (position : StoredPosition)
  | recordRebalance (row : LoggedRebalance)
  | recordOperatorAction (action : OperatorAction)
  deriving DecidableEq, Repr

inductive BotChoice where
  | vault (c : Choice)
  | statement (s : BotStmt)
  | killSwitchFile
  | readConfig
  | writeConfig (text : String)
  | writeHeartbeat

/-- A failing write of the file leaves some text behind. -/
def BotChoice.Outcome : BotChoice → Type
  | .vault c => c.Outcome
  | .statement _ => Option Thrown
  | .killSwitchFile => Bool
  | .readConfig => Except Thrown String
  | .writeConfig _ => Option (Thrown × String)
  | .writeHeartbeat => Option Thrown

/-- `submit` is a submission as a whole; the calls after it are those it is made of. -/
inductive BotQuery where
  | vault (q : Query)
  | getPoolState
  | getPosition (nftMint : String) (solUsd : ℚ)
  | buildOpenPositionTx (params : OpenPositionParams)
  | buildClosePositionTx (nftMint : String)
  | buildPartialCloseTx (positionId : String) (needSolLamports needBertRaw : ℤ)
  | buildSwapToRatioTx (haveBertRaw haveSolLamports : ℕ) (targetBertRatio : ℚ)
  | getWalletBalances
  | simulateClose (nftMint : String) (solUsd : ℚ)
  | submit (tx : Transaction)
  | sendAndConfirmTransaction (tx : Transaction)
  | getLatestBlockhash
  | sendBundle (tx : Transaction)
  | getBundleStatuses (bundleId : String)
  | getAccountInfo (owner : Address)
  | post (severity : Severity) (message : Message)
  | sleep (ms : ℤ)

/-- What the block engine says about a bundle. -/
structure BundleStatus where
  failed : Bool
  confirmed : Bool
  transaction : Option Signature
  deriving DecidableEq, Repr

/-- A swap may turn out not to be needed; a bundle is answered with its id or a rejection. -/
def BotQuery.Reply : BotQuery → Type
  | .vault q => q.Reply
  | .getPoolState => Unit
  | .getPosition _ _ => Option PositionSnapshot
  | .buildOpenPositionTx _ => String
  | .buildClosePositionTx _ => ExpectedOut
  | .buildPartialCloseTx _ _ _ => Unit
  | .buildSwapToRatioTx _ _ _ => Bool
  | .getWalletBalances => Balances
  | .simulateClose _ _ => SimulatedClose
  | .submit _ => Signature
  | .sendAndConfirmTransaction _ => Signature
  | .getLatestBlockhash => String
  | .sendBundle _ => Except Thrown String
  | .getBundleStatuses _ => Option BundleStatus
  | .getAccountInfo _ => Bool
  | .post _ _ => Unit
  | .sleep _ => Unit

def botInterface : Interface := ⟨BotChoice, BotChoice.Outcome, BotQuery, BotQuery.Reply⟩

abbrev Process := Async botInterface BotWorld Thrown
abbrev BotHost := Host botInterface BotWorld Thrown

variable {α : Type}

def ask (q : BotQuery) : Process q.Reply := Async.call (I := botInterface) q

def readBot (f : BotWorld → α) : Process α := Async.read f

def now : Process ℤ := Async.choose (I := botInterface) (BotChoice.vault Choice.clock)

/-- The vault's programs with their calls passed on to the host. -/
def vaultWiring (answer : (q : Query) → Process q.Reply) :
    AsyncWiring.Wiring vaultInterface botInterface World BotWorld Thrown where
  get b := b.world
  set w b := { b with world := w }
  choice := BotChoice.vault
  outcome _ o := o
  answer := answer
  get_set _ _ := rfl
  set_get _ := rfl
  set_set _ _ _ := rfl

/-- A vault program that makes no call of its own. -/
def store (m : Vault α) : Process α := (vaultWiring fun q => ask (.vault q)).lift m

def failing (r : Option Thrown) (m : Process Unit) : Process Unit :=
  match r with
  | some e => throw e
  | none => m

/-- A statement that the host lets run, or makes throw before it has any effect. -/
def botStatement (st : BotStmt) (f : BotWorld → BotWorld) : Process Unit := do
  let r : Option Thrown ← Async.choose (I := botInterface) (BotChoice.statement st)
  failing r (Async.modify f)

def getCurrentPosition : Process (Option StoredPosition) :=
  readBot fun b => DepositorStore.getCurrentPosition b.world.db

def isDegraded : Process Bool := readBot fun b => DepositorStore.isDegraded b.world.db

def setCurrentPosition (p : StoredPosition) : Process Unit :=
  botStatement (.setCurrentPosition p) fun b =>
    { b with world := b.world.withDb { b.world.db with positionState := some p } }

def recordRebalance (row : LoggedRebalance) : Process Unit :=
  botStatement (.recordRebalance row) fun b => { b with rebalanceLog := b.rebalanceLog ++ [row] }

def recordOperatorAction (action : OperatorAction) : Process Unit :=
  botStatement (.recordOperatorAction action) fun b =>
    { b with operatorActions := b.operatorActions ++ [action] }

def setDegraded (value : Bool) : Process Unit :=
  store (DepositorStore.setFlag DepositorStore.degradedFlag (if value then "1" else "0"))

def dayMs : ℤ := 86400000

/-- The UTC day of a time. -/
def utcDay (ms : ℤ) : ℤ := ms / dayMs

def rebalancesOn (day : ℤ) (log : List LoggedRebalance) : ℕ :=
  (log.filter fun r => day * dayMs ≤ r.record.ts ∧ r.record.ts < day * dayMs + dayMs).length

def getRebalancesToday (nowMs : ℤ) : Process ℕ :=
  readBot fun b => rebalancesOn (utcDay nowMs) b.rebalanceLog

def lastRebalance (log : List LoggedRebalance) : Option ℤ :=
  (log.map fun r => r.record.ts).max?

def lastRebalanceAt : Process (Option ℤ) := readBot fun b => lastRebalance b.rebalanceLog

/-- Failures of the channels are swallowed. -/
def notify (severity : Severity) (message : Message) : Process Unit :=
  tryCatch (ask (.post severity message)) fun _ => pure ()

structure OpenPosition where
  tx : Transaction
  nftMint : String

structure ClosePosition where
  tx : Transaction
  expected : ExpectedOut

structure VenueClient where
  getPoolState : Process Unit
  getPosition (nftMint : String) (solUsd : ℚ) : Process (Option PositionSnapshot)
  buildOpenPositionTx (params : OpenPositionParams) : Process OpenPosition
  buildClosePositionTx (nftMint : String) : Process ClosePosition
  buildPartialCloseTx (positionId : String) (needSolLamports needBertRaw : ℤ) : Process Transaction
  buildSwapToRatioTx (haveBertRaw haveSolLamports : ℕ) (targetBertRatio : ℚ) : Process Transaction
  getWalletBalances : Process Balances
  simulateClose (nftMint : String) (solUsd : ℚ) : Process SimulatedClose

/-- A venue of which only the purpose of its transactions is known. -/
def hostVenue : VenueClient where
  getPoolState := ask .getPoolState
  getPosition nftMint solUsd := ask (.getPosition nftMint solUsd)
  buildOpenPositionTx params := do
    let nftMint : String ← ask (.buildOpenPositionTx params)
    return ⟨[.openPosition nftMint], nftMint⟩
  buildClosePositionTx nftMint := do
    let expected : ExpectedOut ← ask (.buildClosePositionTx nftMint)
    return ⟨[.closePosition nftMint], expected⟩
  buildPartialCloseTx positionId needSol needBert := do
    ask (.buildPartialCloseTx positionId needSol needBert)
    return [.removeLiquidity positionId needSol needBert]
  buildSwapToRatioTx haveBertRaw haveSolLamports targetBertRatio := do
    let needed : Bool ← ask (.buildSwapToRatioTx haveBertRaw haveSolLamports targetBertRatio)
    return if needed then [.swapToRatio] else []
  getWalletBalances := ask .getWalletBalances
  simulateClose nftMint solUsd := ask (.simulateClose nftMint solUsd)

structure SubmitOptions where
  priorityFeeMicroLamports : Option ℕ := none
  maxRetries : Option ℕ := none
  dryRun : Bool := false

structure Submitter where
  submit (tx : Transaction) (opts : SubmitOptions) : Process Signature
  submitProtected (tx : Transaction) (opts : SubmitOptions) : Process Signature

def dryRunSignature : Signature := ⟨"DRY_RUN_SIGNATURE", by decide⟩

def submitWhole (tx : Transaction) (opts : SubmitOptions) : Process Signature :=
  if opts.dryRun then pure dryRunSignature else ask (.submit tx)

/-- A submitter of which only the outcome of a submission is seen. -/
def hostSubmitter : Submitter := ⟨submitWhole, submitWhole⟩

end BotProgram
