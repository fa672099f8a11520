import BertMMBot.Rebalancer
import BertMMBot.VaultRuntime

/-! # The main loop and the operator's commands

One tick around the vault's parts and the rebalancer, the commands that pause and resume the
bot through its configuration file, and the calls of the vault as the process wires them. -/
namespace MainLoop

open AsyncProgram VaultTypes BotProgram Rebalancer Strategy ConfigFile
open MeteoraPosition (PositionSnapshot)
open DepositorCommands (Msg CommandsConfig)

structure VaultConfig where
  operatorTelegramId : TelegramId
  commands : CommandsConfig
  whitelistCooldownHours : ℤ

/-- What the process was started with. The vault's part is there when it is enabled; the chat
id when it is a number. -/
structure MainConfig where
  maker : BotConfig
  mevProtection : Option MevProtectionConfig
  telegram : Bool
  chatIdInfo : Option TelegramId
  vault : Option VaultConfig

/-- The libraries and clients the process is built from. -/
structure MainDeps where
  library : ConfigFile.Library
  pool : MeteoraPosition.Venue
  venue : VenueClient
  submitter : Submitter

def operatorUserId (cfg : MainConfig) : Option TelegramId :=
  match cfg.vault with
  | some v => some v.operatorTelegramId
  | none => cfg.chatIdInfo

/-- The vault runs behind the chat commands only. -/
def wiredVault (cfg : MainConfig) : Option VaultConfig :=
  if cfg.telegram then cfg.vault else none

def vaultPart (cfg : MainConfig) (v : VaultConfig) : VaultRuntime.BotConfig where
  operatorTelegramId := v.operatorTelegramId
  commands := v.commands
  whitelistCooldownHours := v.whitelistCooldownHours
  minSolFloorLamports := cfg.maker.minSolFloorLamports
  oracleDivergenceBps := cfg.maker.oracleDivergenceBps
  bertMint := cfg.maker.bertMint

def strategyParams (cfg : BotConfig) : StrategyParams where
  rangeWidthPct := cfg.rangeWidthPct
  sustainedMinutes := cfg.sustainedMinutes
  minRebalanceIntervalMin := cfg.minRebalanceIntervalMin
  maxRebalancesPerDay := cfg.maxRebalancesPerDay
  oracleStaleMinutes := cfg.oracleStaleMinutes
  pollIntervalSec := cfg.pollIntervalSec

variable (deps : MainDeps) (cfg : MainConfig)

def rebalancerDeps : RebalancerDeps := ⟨deps.venue, deps.submitter, cfg.maker⟩

/-- These submissions carry no dry-run flag. -/
def vaultSubmitOptions : SubmitOptions where
  priorityFeeMicroLamports := some cfg.maker.priorityFeeMicroLamports

def partialClose (needSolLamports needBertRaw : ℤ) : Process Unit := do
  match ← getCurrentPosition with
  | none => throw (.error "partialClose: no stored position")
  | some stored =>
    let tx ← deps.venue.buildPartialCloseTx stored.nftMint needSolLamports needBertRaw
    let _ ← deps.submitter.submit tx (vaultSubmitOptions cfg)

def executeTransfer (destination : Address) (solLamports bertRaw : ℤ) :
    Process (Option Signature) := do
  let sig ← deps.submitter.submit [.withdrawal destination solLamports bertRaw]
    (vaultSubmitOptions cfg)
  return some sig

/-- Best effort: the account is created unless it is there, and failures are swallowed. -/
def ensureAta (address : Address) : Process Unit :=
  tryCatch
    (do
      let existing : Bool ← ask (.getAccountInfo address)
      if existing then pure ()
      else
        let _ : Signature ← ask (.sendAndConfirmTransaction [.createAta address]))
    fun _ => pure ()

def submitTx (instructions : List SweepInstruction) : Process Signature :=
  ask (.sendAndConfirmTransaction (instructions.map .sweep))

def answerVault : (q : Query) → Process q.Reply
  | .partialClose needSol needBert => partialClose deps cfg needSol needBert
  | .executeTransfer destination sol bert => executeTransfer deps cfg destination sol bert
  | .ensureAta address => ensureAta address
  | .submitTx instructions => submitTx instructions
  | .getWalletBalances => do return some (← deps.venue.getWalletBalances)
  | q => ask (.vault q)

/-- A program of the vault, as it runs in the process. -/
def vaultProgram {α : Type} (m : VaultProgram.Vault α) : Process α :=
  (vaultWiring (answerVault deps cfg)).lift m

def drainUnlessHalted (drain : VaultProgram.Vault Unit) (killed : Bool) : Process Unit := do
  let paused ← readBot fun b => DepositorStore.isVaultPaused b.world.db
  let degraded ← isDegraded
  if degraded ∨ killed ∨ paused then pure ()
  else vaultProgram deps cfg (VaultRuntime.swallow drain)

/-- The vault's part after a rebalance, in steps of the process. -/
theorem vaultProgram_postRebalance (drain : VaultProgram.Vault Unit) (killed : Bool) :
    vaultProgram deps cfg (VaultRuntime.runVaultPostRebalance drain killed) =
      drainUnlessHalted deps cfg drain killed >>= fun _ =>
        vaultProgram deps cfg (VaultRuntime.swallow VaultRuntime.activateWhitelists) := by
  have hread : ∀ f : Db → Bool, (vaultWiring (answerVault deps cfg)).lift (VaultProgram.readDb f) =
      readBot fun b => f b.world.db := fun f => AsyncWiring.Wiring.lift_read _ _
  simp only [vaultProgram, VaultRuntime.runVaultPostRebalance, VaultRuntime.drainUnlessHalted,
    drainUnlessHalted, isDegraded, AsyncWiring.Wiring.lift_bind, AsyncWiring.Wiring.lift_ite,
    AsyncWiring.Wiring.lift_pure, hread]

def readConfigFile : Process String := do
  let text : Except Thrown String ← Async.choose (I := botInterface) BotChoice.readConfig
  liftExcept text

def loadConfigFromFile : Process Document := do
  let text ← readConfigFile
  match loadConfig deps.library text with
  | .ok doc => return doc
  | .error _ => throw (.error "ConfigError")

/-- The startup value stands in for a file that cannot be read or parsed. -/
def liveEnabled : Process Bool :=
  tryCatch (do return enabled (← loadConfigFromFile deps)) fun _ => return cfg.maker.enabled

def killSwitchTripped : Process Bool := do
  let live ← liveEnabled deps cfg
  let present : Bool ← Async.choose (I := botInterface) BotChoice.killSwitchFile
  return present || !live

def observe (mid : Option MidPrice) (b : BotWorld) : BotWorld :=
  { b with world := b.world.withMemory (VaultRuntime.observeMid mid b.world.memory) }

def readOracle (tickStart : ℤ) : Process (Option MidPrice) := do
  let samples : List PriceSample ← ask (.vault .fetchAllSources)
  let mid := VaultRuntime.computeTrustedMid samples (VaultRuntime.quotedSolUsd samples) tickStart
    cfg.maker.oracleDivergenceBps
  Async.modify (observe mid)
  return mid

inductive Tracked where
  | rpcFailed
  | position (p : Option PositionSnapshot)

def readTracked (mid : Option MidPrice) : Option StoredPosition → Process Tracked
  | none => return .position none
  | some stored =>
    tryCatch
      (do
        let p ← deps.venue.getPosition stored.nftMint ((mid.map MidPrice.solUsd).getD 0)
        return .position p)
      fun _ => return .rpcFailed

def writeHeartbeat : Process Unit := do
  let r : Option Thrown ← Async.choose (I := botInterface) BotChoice.writeHeartbeat
  failing r (pure ())

def readState (tickStart : ℤ) (killed : Bool) (mid : Option MidPrice)
    (position : Option PositionSnapshot) (b : BotWorld) : BotState where
  price := mid
  priceHistory := b.world.memory.priceHistory
  position := position
  lastRebalanceAt := lastRebalance b.rebalanceLog
  rebalancesToday := rebalancesOn (utcDay tickStart) b.rebalanceLog
  killSwitchTripped := killed
  degraded := DepositorStore.isDegraded b.world.db
  now := tickStart

/-- The mid at which a first position is to be opened. -/
def initialMid (stored : Option StoredPosition) (s : BotState) : Option MidPrice :=
  if stored = none ∧ s.position.isNone ∧ s.killSwitchTripped = false ∧ s.degraded = false then
    s.price
  else none

omit deps cfg in
theorem initialMid_some {stored : Option StoredPosition} {s : BotState} {mid : MidPrice}
    (h : initialMid stored s = some mid) :
    stored = none ∧ s.position = none ∧ s.killSwitchTripped = false ∧ s.degraded = false := by
  unfold initialMid at h
  split at h
  · next hcond => simpa using hcond
  · cases h

def openInitial (mid : MidPrice) : Process Unit := do
  let result ← executeRebalance (rebalancerDeps deps cfg) mid none .initialOpen
  if result.kind = .ok then notify .info (.initialPositionOpened result.detail) else pure ()

def setLastAlerted (reason : Option Reason) : Process Unit :=
  Async.modify fun b => { b with lastAlertedDecisionReason := reason }

/-- The same reason is not alerted twice in a row. -/
def alert (severity : Severity) (message : Message) (reason : Reason) : Process Unit := do
  let last ← readBot BotWorld.lastAlertedDecisionReason
  if last = some reason then pure ()
  else
    notify severity message
    setLastAlerted (some reason)

def actOn (s : BotState) : Decision → Process Unit
  | .rebalance reason _ =>
    match s.price with
    | none => pure ()
    | some mid => do
      let _ ← executeRebalance (rebalancerDeps deps cfg) mid s.position (.decided reason)
  | .pause reason => alert .critical (.paused reason) reason
  | .alertOnly reason => alert .warn (.alertOnly reason) reason
  | .hold _ => setLastAlerted none

def vaultPreRebalance : Process Unit :=
  match wiredVault cfg with
  | none => pure ()
  | some _ => vaultProgram deps cfg (VaultRuntime.runVaultPreRebalance
      (DepositPipeline.pollAddress (VaultRuntime.watcherDeps cfg.maker.bertMint)))

def vaultPostRebalance (killed : Bool) : Process Unit :=
  match wiredVault cfg with
  | none => pure ()
  | some _ => vaultProgram deps cfg (VaultRuntime.runVaultPostRebalance
      (WithdrawalExecutor.drain
        (VaultRuntime.executorDeps deps.pool cfg.maker.minSolFloorLamports)) killed)

def decideAndAct (s : BotState) : Process Unit := do
  actOn deps cfg s (Strategy.decide s (strategyParams cfg.maker))
  vaultPostRebalance deps cfg s.killSwitchTripped
  writeHeartbeat

def tickWithPosition (tickStart : ℤ) (killed : Bool) (mid : Option MidPrice)
    (stored : Option StoredPosition) (position : Option PositionSnapshot) : Process Unit := do
  let s ← readBot (readState tickStart killed mid position)
  match initialMid stored s with
  | some mid => do
    openInitial deps cfg mid
    writeHeartbeat
  | none => decideAndAct deps cfg s

def tickBody (tickStart : ℤ) : Process Unit := do
  let killed ← killSwitchTripped deps cfg
  let mid ← readOracle cfg tickStart
  vaultPreRebalance deps cfg
  let stored ← getCurrentPosition
  match ← readTracked deps mid stored with
  | .rpcFailed => writeHeartbeat
  | .position p => tickWithPosition deps cfg tickStart killed mid stored p

def tick : Process Unit := do
  let tickStart ← now
  tryCatch (tickBody deps cfg tickStart) fun e => notify .warn (.tickFailed e)
  let ms ← now
  ask (.sleep (max 0 (cfg.maker.pollIntervalSec * 1000 - (ms - tickStart))))

def leaveText (text : String) : Process Unit := Async.modify fun b => { b with configFile := text }

def written (text : String) : Option (Thrown × String) → Process Unit
  | none => leaveText text
  | some (e, left) => do
    leaveText left
    throw e

def writeConfigFile (text : String) : Process Unit := do
  let r : Option (Thrown × String) ← Async.choose (I := botInterface) (BotChoice.writeConfig text)
  written text r

def rewriteEnabled (enabled : Bool) : Process Unit := do
  let text ← readConfigFile
  let text' ← liftExcept (withEnabled deps.library enabled text)
  writeConfigFile text'
  let ts ← now
  recordOperatorAction ⟨ts, if enabled then "telegram:resume" else "telegram:pause", "telegram"⟩

/-- The caller is not told of a failure. -/
def setEnabled (enabled : Bool) : Process Unit :=
  tryCatch (rewriteEnabled deps enabled) fun _ => pure ()

def reply (chatId : ℤ) (notice : Notice) : Process Unit := ask (.vault (.reply chatId notice))

def pause (msg : Msg) : Process Unit := do
  setEnabled deps false
  reply msg.chatId .botPaused

def resume (msg : Msg) : Process Unit := do
  setEnabled deps true
  setDegraded false
  reply msg.chatId .botResumed

def asOperator (msg : Msg) (m : Process Unit) : Process Unit :=
  if some msg.userId = operatorUserId cfg then m else pure ()

/-- Without a vault only the commands of the market maker are registered. -/
def dispatchPlain (msg : Msg) : Process Unit :=
  match TextInput.commandName msg.text with
  | some "status" => asOperator cfg msg do
    let notice ← readBot fun b =>
      Notice.botStatus (DepositorStore.isDegraded b.world.db)
        (DepositorStore.getCurrentPosition b.world.db)
    reply msg.chatId notice
  | some "help" => asOperator cfg msg (reply msg.chatId .help)
  | _ => pure ()

def dispatch (msg : Msg) : Process Unit :=
  match TextInput.commandName msg.text with
  | some "pause" => asOperator cfg msg (pause deps msg)
  | some "resume" => asOperator cfg msg (resume deps msg)
  | _ =>
    match wiredVault cfg with
    | none => dispatchPlain cfg msg
    | some v => vaultProgram deps cfg
        (VaultRuntime.dispatch (VaultRuntime.commanderDeps deps.pool (vaultPart cfg v)) msg)

def dispatchCallback (msg : Msg) : Process Unit :=
  match wiredVault cfg with
  | none => pure ()
  | some v => vaultProgram deps cfg
      (VaultRuntime.dispatchCallback (VaultRuntime.commandsDeps deps.pool (vaultPart cfg v)) msg)

/-- Whether the stored position agrees with the chain; if not, the process does not start. -/
def startup : Process Bool := do
  let samples : List PriceSample ← ask (.vault .fetchAllSources)
  match ← getCurrentPosition with
  | none => return true
  | some stored =>
    let onchain ← deps.venue.getPosition stored.nftMint (VaultRuntime.quotedSolUsd samples)
    match reconcile (some stored) onchain with
    | .mismatch reason =>
      notify .critical (.reconciliationFailed reason)
      return false
    | _ => return true

end MainLoop
