import BertMMBot.CliRuns
import BertMMBot.LoopWalk

/-! # A reconciled row and the next start

The tool compares a row with the chain at a price of zero for SOL, the bot at a positive one. A
row that the tool has overwritten therefore has bounds of zero: the tool finds it in order ever
after, and the bot refuses to start on it as long as the position is open. -/
namespace RestartLockout

open AsyncProgram AsyncContract AsyncRecords RecordedTriples RecordedOutcomes AsyncWiring
open WiredOutcomes VaultTypes BotProgram Rebalancer MainLoop MakerBounds TrackedPosition
open TrackedRuns OperatorCli CliBounds CliRuns PlayedBot Strategy
open MeteoraPosition (Venue PositionSnapshot positionSnapshot positionRange rangeBounds)

variable {v : Venue} {pos : OnchainPosition} {solUsd : ℚ} {row : StoredPosition}

variable {H : CliHost}

/-- The venue reports what its client makes of a position. -/
def Quoted (v : Venue) (H : CliHost) : Prop := ∀ nftMint solUsd b p b',
  H.respond (.bot (.getPosition nftMint solUsd)) b (.ok (some p)) b' →
    ∃ pos, p = positionSnapshot v solUsd pos

def Locked (O : Set String) (row : Option StoredPosition) : Prop :=
  ∃ r, row = some r ∧ r.nftMint ∈ O ∧ r.lowerUsd = 0 ∧ r.upperUsd = 0

section Reconcile

variable (library : ConfigFile.Library) (config : BotConfig)

def Holds (row : StoredPosition) (O : Set String) (r : Option StoredPosition) : Prop :=
  r = some row ∧ row.nftMint ∈ O

end Reconcile

section Attempts

def clerical : CliCommand → Bool
  | .pause => true
  | .resume => true
  | .clearDegraded => true
  | .reconcile => true
  | _ => false

/-- The bot is started, or the operator tries something that leaves the chain alone. -/
inductive Attempt (H : CliHost) (library : ConfigFile.Library) (v : Venue) :
    BotWorld → BotWorld → Prop where
  | start {b b' x} : Ends (botHost H) (startup (hostDeps library v) (BotRuns.restart b)) x b' →
      Attempt H library v b b'
  | command {b b' x} (config : BotConfig) (c : CliCommand) : clerical c = true →
      Ends H (c.program library (hostRebalancer config) b) x b' → Attempt H library v b b'

variable {library : ConfigFile.Library} {b b' b'' : BotWorld}

end Attempts

end RestartLockout
