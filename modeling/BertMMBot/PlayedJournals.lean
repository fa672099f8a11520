import BertMMBot.JournalLaws
import BertMMBot.PlayedRuns
import BertMMBot.PlayedTurns

/-! # Journals that can be played

The recorded form of a played run: the same jobs, each in its scene, with the journal that
they leave. Concrete journals are evaluated on it. -/
namespace PlayedJournals

open AsyncProgram AsyncContract AsyncFibers AsyncRecords
open VaultTypes VaultProgram VaultDiscipline ShareMath
open VaultJournal JournalLaws PlayedRuns PlayedTurns
open LedgerMachine (Fiber)
open MeteoraPosition (Venue)
open VaultRuntime (BotConfig)

abbrev JournaledRun := List (Scene × Job)

def Scene.recording (sc : Scene) : Script vaultInterface JournalPoint Thrown where
  choose c p := sc.choose c p.1
  respond q p := ((sc.respond q p.1).1, ((sc.respond q p.1).2, p.2))

variable {venue : Venue} {cfg : BotConfig}

def recordedEpisode (venue : Venue) (cfg : BotConfig) (p : Scene × Job) :
    Episode vaultInterface JournalPoint Thrown :=
  ⟨(vaultJobs venue cfg).recording p.2, Scene.recording p.1⟩

def JournaledRun.point (venue : Venue) (cfg : BotConfig) (r : JournaledRun) (chain : Chain) :
    JournalPoint :=
  playAll (r.map (recordedEpisode venue cfg)) (World.initial chain, [])

def Plays (H : VaultHost) : Prop := ∀ sc : Scene, sc.script.Follows H fun _ _ => true

theorem plays_any : Plays anyEnvironment.host := fun sc => ⟨fun _ _ _ => trivial, sc.quiet⟩

variable {H : VaultHost}

theorem Plays.recorded (hH : Plays H) (sc : Scene) :
    (Scene.recording sc).Follows (recordedHost H) fun _ _ => true :=
  ⟨fun c w _ => (hH sc).choose c w.1 rfl, fun q w => ⟨(hH sc).respond q w.1, rfl⟩⟩

theorem Plays.reaches (hH : Plays H) (r : JournaledRun) (chain : Chain) :
    Execution (RecordedVault venue cfg H) (idle (World.initial chain, []))
      (idle (r.point venue cfg chain)) := by
  refine playAll_reaches (p := fun _ _ => true) ?_ (meetsAll_any _ _)
  intro e he
  obtain ⟨p, -, rfl⟩ := List.mem_map.mp he
  exact ⟨⟨_, p.2, rfl, rfl⟩, hH.recorded p.1⟩

theorem Plays.journaled (hH : Plays H) (venue : Venue) (cfg : BotConfig) (r : JournaledRun)
    (chain : Chain) : Journaled venue cfg H (r.point venue cfg chain) :=
  ⟨chain, _, hH.reaches r chain, rfl⟩

theorem played_journaled (venue : Venue) (cfg : BotConfig) (r : JournaledRun) (chain : Chain) :
    Journaled venue cfg anyEnvironment.host (r.point venue cfg chain) :=
  plays_any.journaled venue cfg r chain

/-- A job and its scene, and for how many calls it goes on before the others do. -/
abbrev InterleavedRun := List ((Scene × Job) × ℕ)

def recordedTurn (venue : Venue) (cfg : BotConfig) (t : (Scene × Job) × ℕ) :
    Turn Fiber vaultInterface JournalPoint Thrown :=
  ⟨(vaultJobs venue cfg).fiber t.1.2, (vaultJobs venue cfg).recording t.1.2,
    Scene.recording t.1.1, t.2⟩

def InterleavedRun.point (venue : Venue) (cfg : BotConfig) (ts : InterleavedRun)
    (r : JournaledRun) (chain : Chain) : JournalPoint :=
  (takeAll (ts.map (recordedTurn venue cfg)) (idle (r.point venue cfg chain))).state

theorem interleaved_journaled (venue : Venue) (cfg : BotConfig) (ts : InterleavedRun)
    (r : JournaledRun) (chain : Chain) :
    Journaled venue cfg anyEnvironment.host (ts.point venue cfg r chain) := by
  have hturns : ∀ t ∈ ts.map (recordedTurn venue cfg),
      t.Allowed (RecordedVault venue cfg anyEnvironment.host) := by
    intro t ht
    obtain ⟨⟨p, calls⟩, -, rfl⟩ := List.mem_map.mp ht
    exact ⟨⟨p.2, rfl, rfl⟩, plays_any.recorded p.1⟩
  exact ⟨chain, _, (plays_any.reaches r chain).trans (takeAll_reaches hturns _), rfl⟩

theorem any_split {h : Journal} {f : Line → Bool} (hf : h.any f = true) :
    ∃ newer e older, h = newer ++ e :: older ∧ f e = true := by
  obtain ⟨e, he, hfe⟩ := List.any_eq_true.mp hf
  obtain ⟨newer, older, rfl⟩ := List.append_of_mem he
  exact ⟨newer, e, older, rfl, hfe⟩

theorem tails_split {h : Journal} {f : Journal → Bool} (hf : h.tails.any f = true) :
    ∃ newer rest, h = newer ++ rest ∧ f rest = true := by
  obtain ⟨rest, hrest, hfrest⟩ := List.any_eq_true.mp hf
  obtain ⟨newer, hnewer⟩ := (List.mem_tails rest h).mp hrest
  exact ⟨newer, rest, hnewer.symm, hfrest⟩

instance (h : Journal) : Decidable (Ticking h) := inferInstanceAs (Decidable (List.Pairwise ..))

def told (clock : ℤ) (text : String) (userId : TelegramId) : Scene × Job :=
  ({ clock }, .message ⟨userId, userId, text⟩)

def pressed (clock : ℤ) (text : String) (userId : TelegramId) : Scene × Job :=
  ({ clock }, .button ⟨userId, userId, text⟩)

def ticked (sc : Scene) : Scene × Job := (sc, .tick)

def settlingIn : JournaledRun := [
  told 1000000 "/account" 2,
  ({ clock := 1000000, keypair := ⟨"holder", List.replicate 64 2⟩ }, .message ⟨2, 2, "/accept"⟩),
  told 1000000 "123456" 2,
  told 2000000 "/setwhitelist away" 2,
  told 2000000 "123456" 2]

/-- The operator's vault, and one SOL of user 2 that a tick credits. -/
def holding : JournaledRun :=
  (founding.1, .bootstrap ⟨1, 100⟩) :: (settlingIn ++ [ticked depositTick.1])

/-- User 2 asks for 60% of the balance, and the next tick pays. -/
def withdrawing : JournaledRun :=
  holding ++ [told 2150000 "/withdraw 60%" 2, ticked { clock := 2200000, samples := quotes }]

end PlayedJournals
