import BertMMBot.MakerBounds

/-! # Runs of the bot

The main loop and the chat commands, as two fibers over one state. A run starts with an empty
history and takes one step after the other, in any order the host lets them take. -/
namespace BotRuns

open AsyncProgram AsyncContract AsyncFibers AsyncRecords RecordedTriples
open VaultTypes BotProgram MainLoop MakerBounds
open DepositorCommands (Msg)

inductive BotFiber where
  | main
  | telegram
  deriving DecidableEq, Repr

inductive BotJob where
  | tick
  | message (msg : Msg)
  | button (msg : Msg)
  deriving DecidableEq, Repr

def BotJob.fiber : BotJob → BotFiber
  | .tick => .main
  | _ => .telegram

def BotJob.program (deps : MainDeps) (cfg : MainConfig) : BotJob → Process Unit
  | .tick => MainLoop.tick deps cfg
  | .message msg => dispatch deps cfg msg
  | .button msg => dispatchCallback deps cfg msg

/-- What a new process finds. -/
def restart (b : BotWorld) : BotWorld :=
  { b with world := b.world.restart, lastAlertedDecisionReason := none, rollingBack := false }

def botJobs (deps : MainDeps) (cfg : MainConfig) :
    Jobs BotFiber BotJob botInterface BotWorld Thrown := ⟨BotJob.fiber, BotJob.program deps cfg⟩

abbrev Line := BotEntry BotFiber BotJob
abbrev Diary := BotHistory BotFiber BotJob
abbrev DiaryPoint := BotPoint BotFiber BotJob

abbrev RecordedBot (deps : MainDeps) (cfg : MainConfig) (H : BotHost) :=
  (botJobs deps cfg).recordedSystem H restart

/-- The points in which a run that began in `b` can stand. -/
def Recorded (deps : MainDeps) (cfg : MainConfig) (H : BotHost) (b : BotWorld) (p : DiaryPoint) :
    Prop :=
  ∃ c, Execution (RecordedBot deps cfg H) (idle (b, [])) c ∧ c.state = p

variable {deps : MainDeps} {cfg : MainConfig} {H : BotHost}

theorem recorded_inv {M : Machine BotJob botInterface BotWorld Thrown BotFiber H}
    (hstop : ∀ b h, M.inv (b, h) → M.inv (restart b, .stop b :: h))
    (hstart : ∀ (j : BotJob) b h, M.act j.fiber (b, h) (b, .start j.fiber j b :: h))
    (hjobs : ∀ (j : BotJob) b h, Triple M j.fiber (fun p => p = (b, .start j.fiber j b :: h))
      (j.program deps cfg) (fun _ _ => True) fun _ => True)
    {b : BotWorld} {p : DiaryPoint} (hb : M.inv (b, [])) (hp : Recorded deps cfg H b p) :
    M.inv p := by
  obtain ⟨c, hexec, rfl⟩ := hp
  have hsafe : (M.discipline (botJobs deps cfg) hstop).JobsSafe := by
    rintro i m ⟨j, rfl, rfl⟩ p hinv
    exact triple_job (hstart j) (hjobs j) hinv
  exact (execution_preserves_holds hsafe (idle_holds hb) hexec).inv

end BotRuns
