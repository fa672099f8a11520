import BertMMBot.MainLoop
import BertMMBot.TextInput
import BertMMBot.WiredOutcomes

/-! # The operator's command line

A tool beside the bot, on the same state store and the same key. Each command is a process of
its own: it may ask its operator, looks at the chain through a client of its own and never
submits through the block engine. -/
namespace OperatorCli

open AsyncProgram AsyncContract AsyncWiring VaultTypes BotProgram Rebalancer Strategy
open MeteoraPosition (PositionSnapshot)

inductive Prompt where
  | emergencyExit
  | closeOrphan (expected : ExpectedOut)
  | clearDegraded
  | reconcileOverwrite
  deriving DecidableEq, Repr

/-- The word with which the operator agrees. -/
def Prompt.word : Prompt → String
  | .emergencyExit => "CLOSE"
  | .closeOrphan _ => "CLOSE"
  | .clearDegraded => "YES"
  | .reconcileOverwrite => "YES"

inductive CliMessage where
  | emergencyExitFailed (error : Thrown)
  | emergencyExitExecuted (osUser : String) (closeSig : Signature)
  | closeOrphanFailed (nftMint : String) (error : Thrown)
  | orphanClosed (nftMint osUser : String) (closeSig : Signature)
  | reconcileOverwritten (osUser : String) (reason : Mismatch)
  deriving DecidableEq, Repr

inductive CliChoice where
  | bot (c : BotChoice)
  | environment (name : String)
  | clearCurrentPosition

def CliChoice.Outcome : CliChoice → Type
  | .bot c => c.Outcome
  | .environment _ => Option String
  | .clearCurrentPosition => Option Thrown

inductive CliQuery where
  | bot (q : BotQuery)
  | buildRuntime
  | question (prompt : Prompt)
  | post (severity : Severity) (message : CliMessage)

def CliQuery.Reply : CliQuery → Type
  | .bot q => q.Reply
  | .buildRuntime => Unit
  | .question _ => String
  | .post _ _ => Unit

def cliInterface : Interface := ⟨CliChoice, CliChoice.Outcome, CliQuery, CliQuery.Reply⟩

abbrev Command := Async cliInterface BotWorld Thrown
abbrev CliHost := Host cliInterface BotWorld Thrown

variable {α : Type}

def ask (q : CliQuery) : Command q.Reply := Async.call (I := cliInterface) q

/-- The parts that the tool shares with the bot. -/
def botWiring : Wiring botInterface cliInterface BotWorld BotWorld Thrown where
  get b := b
  set s _ := s
  choice := CliChoice.bot
  outcome _ o := o
  answer q := ask (.bot q)
  get_set _ _ := rfl
  set_get _ := rfl
  set_set _ _ _ := rfl

def shared (m : Process α) : Command α := botWiring.lift m

/-- `process.exit` ends a command with its code. -/
inductive Ending where
  | returned
  | exited (code : ℕ)
  deriving DecidableEq, Repr

/-- The result of a part, or what it threw. -/
def attempted (m : Command α) : Command (Except Thrown α) :=
  tryCatch (do return .ok (← m)) fun e => return .error e

/-- Reading the key and connecting to the venue. -/
def buildRuntime : Command Unit := ask .buildRuntime

def question (prompt : Prompt) : Command String := ask (.question prompt)

/-- Failures of the channels are swallowed. -/
def notify (severity : Severity) (message : CliMessage) : Command Unit :=
  tryCatch (ask (.post severity message)) fun _ => pure ()

def environment (name : String) : Command (Option String) :=
  Async.choose (I := cliInterface) (CliChoice.environment name)

def osUser : Command String := do
  match ← environment "USER" with
  | some user => return user
  | none => return (← environment "LOGNAME").getD "unknown"

def recordAction (command : String) : Command Unit := do
  let ts ← shared now
  let osUser ← osUser
  shared (recordOperatorAction ⟨ts, command, osUser⟩)

def cleared (b : BotWorld) : BotWorld :=
  { b with world := b.world.withDb { b.world.db with positionState := none } }

def clearing : Option Thrown → Command Unit
  | some e => throw e
  | none => Async.modify cleared

def clearCurrentPosition : Command Unit := do
  let r : Option Thrown ← Async.choose (I := cliInterface) CliChoice.clearCurrentPosition
  clearing r

def confirmed (answer : String) (prompt : Prompt) : Bool := TextInput.trim answer = prompt.word

variable (library : ConfigFile.Library) (deps : RebalancerDeps)

/-- Unlike the chat command, this one tells of a failure. -/
def runPause (pause : Bool) : Command Ending := do
  let text ← shared MainLoop.readConfigFile
  let text' ← shared (liftExcept (ConfigFile.withEnabled library (!pause) text))
  shared (MainLoop.writeConfigFile text')
  recordAction (if pause then "pause" else "resume")
  return .returned

def runClearDegraded : Command Ending := do
  if ← shared isDegraded then
    let answer ← question .clearDegraded
    if confirmed answer .clearDegraded then
      shared (setDegraded false)
      recordAction "clear-degraded"
      return .returned
    else return .returned
  else return .returned

/-- The first sample stands for the price of SOL, whatever it says. -/
def firstSolUsd (samples : List PriceSample) : ℚ := (samples.head?.map PriceSample.solUsd).getD 150

def trustedMid : Process (Option MidPrice) := do
  let samples : List PriceSample ← BotProgram.ask (.vault .fetchAllSources)
  let ms ← now
  return VaultRuntime.computeTrustedMid samples (firstSolUsd samples) ms
    deps.config.oracleDivergenceBps

def onChain (solUsd : ℚ) : Option StoredPosition → Process (Option PositionSnapshot)
  | none => return none
  | some stored => deps.venue.getPosition stored.nftMint solUsd

/-- The cause of a row is ghost data: an operator's rebalance was not decided on. -/
def undecided : Cause := .initialOpen

def endingOf (result : RebalanceResult) : Ending :=
  if result.kind = .failed then .exited 1 else .returned

def runCollectFees : Command Ending := do
  buildRuntime
  match ← shared (trustedMid deps) with
  | none => return .exited 1
  | some mid =>
    let storedPos ← shared getCurrentPosition
    let currentPosition ← shared (onChain deps mid.solUsd storedPos)
    let result ← shared (executeRebalance deps mid currentPosition undecided)
    recordAction "collect-fees"
    return endingOf result

def runForceRebalance : Command Ending := do
  buildRuntime
  match ← shared (trustedMid deps) with
  | none => return .exited 1
  | some mid =>
    let storedPos ← shared getCurrentPosition
    let currentPosition ← shared (onChain deps mid.solUsd storedPos)
    recordAction "rebalance --force"
    let result ← shared (executeRebalance deps mid currentPosition undecided)
    return endingOf result

def submitClosing (nftMint : String) : Process Signature := do
  let close ← deps.venue.buildClosePositionTx nftMint
  deps.submitter.submit close.tx (submitOptions deps)

/-- A dry run keeps its row. -/
def forgetPosition : Command Unit :=
  if deps.config.dryRun then pure () else clearCurrentPosition

def exitPosition (nftMint : String) : Command Ending := do
  match ← attempted (shared (submitClosing deps nftMint)) with
  | .error e =>
    notify .critical (.emergencyExitFailed e)
    return .exited 1
  | .ok closeSig =>
    forgetPosition deps
    recordAction "emergency-exit"
    notify .critical (.emergencyExitExecuted (← osUser) closeSig)
    return .returned

def runEmergencyExit : Command Ending := do
  let answer ← question .emergencyExit
  if confirmed answer .emergencyExit then
    buildRuntime
    match ← shared getCurrentPosition with
    | none =>
      recordAction "emergency-exit:no-position"
      return .returned
    | some stored => exitPosition deps stored.nftMint
  else return .returned

def submitOrphanClose (nftMint : String) (close : ClosePosition) : Command Ending := do
  match ← attempted (shared (deps.submitter.submit close.tx (submitOptions deps))) with
  | .error e =>
    notify .critical (.closeOrphanFailed nftMint e)
    return .exited 1
  | .ok closeSig =>
    recordAction s!"close-orphan:{nftMint}"
    notify .info (.orphanClosed nftMint (← osUser) closeSig)
    return .returned

/-- Any position can be named, the tracked one too. -/
def runCloseOrphan (nftMint : String) : Command Ending := do
  buildRuntime
  match ← attempted (shared (deps.venue.buildClosePositionTx nftMint)) with
  | .error _ => return .exited 1
  | .ok close =>
    let answer ← question (.closeOrphan close.expected)
    if confirmed answer (.closeOrphan close.expected) then submitOrphanClose deps nftMint close
    else return .returned

/-- The chain is asked without a price of SOL, and the client stamps its report with the time. -/
def readOnchain (stored : Option StoredPosition) : Process (Option (PositionSnapshot × ℤ)) := do
  match ← onChain deps 0 stored with
  | none => return none
  | some p => return some (p, ← now)

def rowOf (onchain : PositionSnapshot × ℤ) : StoredPosition where
  nftMint := onchain.1.nftMint
  lowerUsd := onchain.1.range.lowerBertUsd
  upperUsd := onchain.1.range.upperBertUsd
  centerUsd := onchain.1.range.centerBertUsd
  openedAt := onchain.2

def overwrite : Option (PositionSnapshot × ℤ) → Command Unit
  | some onchain => shared (setCurrentPosition (rowOf onchain))
  | none => clearCurrentPosition

def confirmOverwrite (onchain : Option (PositionSnapshot × ℤ)) (reason : Mismatch) :
    Command Ending := do
  let answer ← question .reconcileOverwrite
  if confirmed answer .reconcileOverwrite then
    overwrite onchain
    recordAction "reconcile:overwrite"
    notify .warn (.reconcileOverwritten (← osUser) reason)
    return .returned
  else return .returned

def runReconcile : Command Ending := do
  buildRuntime
  let stored ← shared getCurrentPosition
  let onchain ← shared (readOnchain deps stored)
  match reconcile stored (onchain.map Prod.fst) with
  | .mismatch reason => confirmOverwrite onchain reason
  | _ =>
    recordAction "reconcile:ok"
    return .returned

inductive CliCommand where
  | pause
  | resume
  | clearDegraded
  | collectFees
  | rebalance
  | emergencyExit
  | closeOrphan (nftMint : String)
  | reconcile
  deriving DecidableEq, Repr

def CliCommand.action : CliCommand → Command Ending
  | .pause => runPause library true
  | .resume => runPause library false
  | .clearDegraded => runClearDegraded
  | .collectFees => runCollectFees deps
  | .rebalance => runForceRebalance deps
  | .emergencyExit => runEmergencyExit deps
  | .closeOrphan nftMint => runCloseOrphan deps nftMint
  | .reconcile => runReconcile deps

/-- What a command throws ends the process. -/
def CliCommand.program (c : CliCommand) : Command Ending :=
  tryCatch (c.action library deps) fun _ => return .exited 1

/-- The tool's host, as the parts of the bot see it. -/
def botHost (H : CliHost) : BotHost where
  choose c := H.choose (.bot c)
  respond q := H.respond (.bot q)

theorem simulates (H : CliHost) : WiredOutcomes.Simulates botWiring H (botHost H) where
  choice ho := ho
  answer _ _ _ := fun _ _ ha => ha

end OperatorCli
