import BertMMBot.BotRuns
import BertMMBot.PlayedRuns
import BertMMBot.TrackedPosition

/-! # Runs of the bot that can be played

Around the scene that the vault's programs meet stands a venue whose submissions land or are
refused, a configuration file, and a list of calls that fail. -/
namespace PlayedBot

open AsyncProgram AsyncContract AsyncFibers AsyncRecords RecordedTriples BotRuns
open VaultTypes BotProgram PlayedRuns TrackedPosition
open MeteoraPosition (PositionSnapshot PositionRange)
open Rebalancer (BotConfig)

structure BotScene where
  vault : Scene
  killed : Bool := false
  unreadable : Option Thrown := none
  unwritable : Option Thrown := none
  faults : BotStmt → Option Thrown := fun _ => none
  down : BotQuery → Bool := fun _ => false
  newKey : String := "new"
  range : PositionRange := ⟨1, 3, 2, 100⟩

def landedOn (ps : List OnchainPosition) : Instruction → List OnchainPosition
  | .openPosition k => ⟨k, 0, 0, 0, 0, 0, 0⟩ :: ps
  | .closePosition k => ps.filter fun p => p.publicKey ≠ k
  | _ => ps

def lands (ps : List OnchainPosition) (tx : Transaction) : Bool :=
  tx.all fun ins =>
    match ins with
    | .openPosition k => ps.all fun p => p.publicKey ≠ k
    | _ => true

def withPositions (b : BotWorld) (positions : List OnchainPosition) : BotWorld :=
  { b with world := withChain b.world { b.world.chain with positions } }

def BotScene.choose (sc : BotScene) : (c : BotChoice) → BotWorld → c.Outcome
  | .vault c, b => sc.vault.choose c b.world
  | .statement st, _ => sc.faults st
  | .killSwitchFile, _ => sc.killed
  | .readConfig, b => sc.unreadable.elim (.ok b.configFile) .error
  | .writeConfig _, b => sc.unwritable.map fun e => (e, b.configFile)
  | .writeHeartbeat, _ => none

def BotScene.snapshot (sc : BotScene) (p : OnchainPosition) : PositionSnapshot :=
  ⟨p.publicKey, sc.range, 0, 0, 0, 0, 0⟩

def BotScene.serve (sc : BotScene) (b : BotWorld) : (q : BotQuery) → Except Thrown q.Reply × BotWorld
  | .vault q => ((sc.vault.respond q b.world).1, { b with world := (sc.vault.respond q b.world).2 })
  | .getPoolState => (.ok (), b)
  | .getPosition k _ => (.ok ((b.world.chain.positions.find? fun p => p.publicKey = k).map sc.snapshot), b)
  | .buildOpenPositionTx _ => (.ok sc.newKey, b)
  | .buildClosePositionTx _ => (.ok ⟨0, 0⟩, b)
  | .buildPartialCloseTx .. => (.ok (), b)
  | .buildSwapToRatioTx .. => (.ok false, b)
  | .getWalletBalances => (.ok b.world.chain.wallet, b)
  | .simulateClose .. => (.ok ⟨0, 0, 0⟩, b)
  | .submit tx =>
    if lands b.world.chain.positions tx then
      (.ok (txSig "submitted" (by decide)),
        withPositions b (tx.foldl landedOn b.world.chain.positions))
    else (.error (.error "account in use"), b)
  | .sendAndConfirmTransaction _ => (.ok (txSig "sent" (by decide)), b)
  | .getLatestBlockhash => (.ok "blockhash", b)
  | .sendBundle _ => (.ok (.error (.error "rejected")), b)
  | .getBundleStatuses _ => (.ok none, b)
  | .getAccountInfo _ => (.ok false, b)
  | .post .. => (.ok (), b)
  | .sleep _ => (.ok (), b)

def BotScene.respond (sc : BotScene) (q : BotQuery) (b : BotWorld) :
    Except Thrown q.Reply × BotWorld :=
  if sc.down q then (.error (.error "unavailable"), b) else sc.serve b q

def BotScene.script (sc : BotScene) : Script botInterface BotWorld Thrown := ⟨sc.choose, sc.respond⟩

/-- The host that answers as a scene says. -/
def BotScene.host (sc : BotScene) : BotHost where
  choose c b o := o = sc.choose c b
  respond q b a b' := (a, b') = sc.respond q b

theorem BotScene.follows (sc : BotScene) : sc.script.Follows sc.host fun _ _ => true :=
  ⟨fun _ _ _ => rfl, fun _ _ => rfl⟩

theorem BotScene.ends (sc : BotScene) {α : Type} (m : Process α) (b : BotWorld) :
    Ends sc.host (m b) (sc.script.play (m b)).1 (sc.script.play (m b)).2 :=
  play_ends sc.follows (sc.script.meets_any _)

def BotScene.recording {ι J : Type} (sc : BotScene) :
    Script botInterface (Point ι J botInterface BotWorld Thrown) Thrown where
  choose c p := sc.choose c p.1
  respond q p := ((sc.respond q p.1).1, ((sc.respond q p.1).2, p.2))

theorem BotScene.records {ι J : Type} (sc : BotScene) {α : Type}
    (r : Run botInterface (Point ι J botInterface BotWorld Thrown) Thrown α) :
    Ends (recordedHost sc.host) r (sc.recording.play r).1 (sc.recording.play r).2 := by
  have hfollows : (sc.recording (ι := ι) (J := J)).Follows (recordedHost sc.host)
      fun _ _ => true := ⟨fun _ _ _ => rfl, fun _ _ => ⟨rfl, rfl⟩⟩
  exact play_ends hfollows (Script.meets_any _ _)

/-- Jobs played one after the other in one scene, with the diary they leave. -/
def BotScene.playJobs (sc : BotScene) (deps : MainLoop.MainDeps) (cfg : MainLoop.MainConfig)
    (js : List BotJob) (b : BotWorld) : DiaryPoint :=
  playAll (js.map fun j => ⟨(botJobs deps cfg).recording j, sc.recording⟩) (b, [])

theorem BotScene.plays (sc : BotScene) (deps : MainLoop.MainDeps) (cfg : MainLoop.MainConfig)
    (js : List BotJob) (b : BotWorld) : Recorded deps cfg sc.host b (sc.playJobs deps cfg js b) := by
  refine ⟨_, playAll_reaches (p := fun _ _ => true) ?_ (meetsAll_any _ _), rfl⟩
  intro e he
  obtain ⟨j, -, rfl⟩ := List.mem_map.mp he
  exact ⟨⟨_, j, rfl, rfl⟩, fun _ _ _ => rfl, fun _ _ => ⟨rfl, rfl⟩⟩

def playedConfig : BotConfig where
  enabled := true
  dryRun := false
  rangeWidthPct := 20
  sustainedMinutes := 1
  minRebalanceIntervalMin := 5
  maxRebalancesPerDay := 3
  maxDrawdownPct := 15
  maxPositionUsd := 1000
  oracleDivergenceBps := 500
  oracleStaleMinutes := 5
  minSolFloorLamports := 100
  priorityFeeMicroLamports := 50
  pollIntervalSec := 30
  bertMint := "22222222222222222222222222222222"

/-- The configuration of a bot without chat commands. -/
def playedMain : MainLoop.MainConfig where
  maker := playedConfig
  mevProtection := none
  telegram := false
  chatIdInfo := none
  vault := none

/-- A library that reads no configuration at all. -/
def blindLibrary : ConfigFile.Library :=
  ⟨fun _ => .error (.error "unreadable"), fun _ => "", fun _ => false⟩

def flatVenue : MeteoraPosition.Venue := ⟨true, 1, fun _ _ => 1⟩

def playedMid : MidPrice := ⟨1, 100, 100, 0, []⟩

def storedAs (k : String) : StoredPosition := ⟨k, 1, 3, 2, 0⟩

/-- A bot with these positions open and this row stored. -/
def botWith (positions : List OnchainPosition) (row : Option StoredPosition) : BotWorld where
  world :=
    { VaultProgram.World.initial ⟨⟨1000000000, 0⟩, positions⟩ with
      db := { Db.empty with positionState := row } }
  rebalanceLog := []
  operatorActions := []
  configFile := ""
  lastAlertedDecisionReason := none
  rollingBack := false

def positionAt (k : String) : OnchainPosition := ⟨k, 0, 0, 0, 0, 0, 0⟩

def keysOf (ps : List OnchainPosition) : Set String := {k | ∃ p ∈ ps, p.publicKey = k}

theorem keysOf_landedOn (ps : List OnchainPosition) (ins : Instruction) :
    keysOf (landedOn ps ins) = landed (keysOf ps) ins := by
  ext j
  cases ins with
  | openPosition k => simp [keysOf, landedOn, landed, eq_comm]
  | closePosition k =>
    simp only [keysOf, landedOn, landed, List.mem_filter, decide_eq_true_eq, Set.mem_ofPred_eq,
      Set.mem_sdiff, Set.mem_singleton_iff]
    constructor
    · rintro ⟨p, ⟨hp, hk⟩, rfl⟩
      exact ⟨⟨p, hp, rfl⟩, hk⟩
    · rintro ⟨⟨p, hp, rfl⟩, hk⟩
      exact ⟨p, ⟨hp, hk⟩, rfl⟩
  | _ => rfl

theorem keysOf_foldl (tx : Transaction) (ps : List OnchainPosition) :
    keysOf (tx.foldl landedOn ps) = tx.foldl landed (keysOf ps) := by
  induction tx generalizing ps with
  | nil => rfl
  | cons ins tx ih =>
    rw [List.foldl_cons, List.foldl_cons, ih, keysOf_landedOn]

theorem swept_positions (ixs : List SweepInstruction) (chain : Chain) :
    (swept ixs chain).positions = chain.positions := by
  unfold swept
  induction ixs generalizing chain with
  | nil => rfl
  | cons ix ixs ih =>
    rw [List.foldl_cons, ih]
    cases ix <;> rfl

theorem scene_positions (sc : Scene) (q : Query) (w : VaultProgram.World) :
    (sc.respond q w).2.chain.positions = w.chain.positions ∧
      (sc.respond q w).2.db = w.db := by
  cases q with
  | executeTransfer destination sol bert =>
    simp only [Scene.respond]
    rcases hs : sent sol bert w.chain with _ | chain
    · exact ⟨rfl, rfl⟩
    · unfold sent at hs
      split at hs
      · cases hs
        exact ⟨rfl, rfl⟩
      · cases hs
  | submitTx ixs => exact ⟨swept_positions ixs w.chain, rfl⟩
  | _ => exact ⟨rfl, rfl⟩

theorem BotScene.serve_quiet (sc : BotScene) (q : BotQuery) (b : BotWorld) :
    ((∀ tx, q ≠ .submit tx) → openKeys (sc.serve b q).2 = openKeys b) ∧
      (sc.serve b q).2.world.db.positionState = b.world.db.positionState ∧
      (sc.serve b q).2.rollingBack = b.rollingBack := by
  cases q with
  | vault q =>
    obtain ⟨hpositions, hdb⟩ := scene_positions sc.vault q b.world
    refine ⟨fun _ => ?_, congrArg Db.positionState hdb, rfl⟩
    simp [openKeys, BotScene.serve, hpositions]
  | submit tx =>
    refine ⟨fun h => absurd rfl (h tx), ?_⟩
    simp only [BotScene.serve]
    split
    · exact ⟨rfl, rfl⟩
    · exact ⟨rfl, rfl⟩
  | _ => exact ⟨fun _ => rfl, rfl, rfl⟩

theorem BotScene.respond_own (sc : BotScene) {q : BotQuery} {b b' : BotWorld}
    {a : Except Thrown q.Reply} (h : sc.host.respond q b a b') :
    b'.rebalanceLog = b.rebalanceLog ∧ b'.configFile = b.configFile ∧
      b'.world.db = b.world.db := by
  have hresp : b' = (sc.respond q b).2 := congrArg Prod.snd h
  subst hresp
  unfold BotScene.respond
  split
  · exact ⟨rfl, rfl, rfl⟩
  · cases q with
    | vault q => exact ⟨rfl, rfl, (scene_positions sc.vault q b.world).2⟩
    | submit tx =>
      simp only [BotScene.serve]
      split
      · exact ⟨rfl, rfl, rfl⟩
      · exact ⟨rfl, rfl, rfl⟩
    | _ => exact ⟨rfl, rfl, rfl⟩

theorem BotScene.truthful (sc : BotScene)
    (hbuild : ∀ k, sc.down (.buildClosePositionTx k) = false)
    (hsubmit : ∀ k, sc.down (.submit [.closePosition k]) = false) : Truthful sc.host := by
  have served : ∀ {q : BotQuery} {b b' : BotWorld} {a : Except Thrown q.Reply},
      sc.host.respond q b a b' → (∃ e, a = .error e ∧ b' = b) ∨ (a, b') = sc.serve b q := by
    intro q b b' a h
    have hresp : (a, b') = sc.respond q b := h
    unfold BotScene.respond at hresp
    split at hresp
    · cases hresp
      exact .inl ⟨_, rfl, rfl⟩
    · exact .inr hresp
  have submitted : ∀ {tx : Transaction} {b b' : BotWorld} {a : Except Thrown Signature},
      (a, b') = sc.serve b (.submit tx) → (lands b.world.chain.positions tx = true ∧
        (∃ sig, a = .ok sig) ∧ b' = withPositions b (tx.foldl landedOn b.world.chain.positions)) ∨
        (∃ e, a = .error e) ∧ b' = b := by
    intro tx b b' a h
    simp only [BotScene.serve] at h
    split at h
    · next hlands =>
      cases h
      exact .inl ⟨hlands, ⟨_, rfl⟩, rfl⟩
    · cases h
      exact .inr ⟨⟨_, rfl⟩, rfl⟩
  refine ⟨?_, ?_, ?_, ?_, ?_, ?_, ?_, ?_⟩
  · intro q b a b' h hq
    rcases served h with ⟨e, -, rfl⟩ | hserve
    · rfl
    · rw [show b' = (sc.serve b q).2 from congrArg Prod.snd hserve]
      exact (sc.serve_quiet q b).1 hq
  · intro tx b sig b' h
    rcases served h with ⟨e, he, -⟩ | hserve
    · cases he
    · rcases submitted hserve with ⟨-, -, rfl⟩ | ⟨⟨e, he⟩, -⟩
      · exact keysOf_foldl tx b.world.chain.positions
      · cases he
  · intro tx b sig b' k h hk
    rcases served h with ⟨e, he, -⟩ | hserve
    · cases he
    · rcases submitted hserve with ⟨hlands, -, -⟩ | ⟨⟨e, he⟩, -⟩
      · rintro ⟨p, hp, hkey⟩
        have hall := List.all_eq_true.mp hlands _ hk
        have hne := List.all_eq_true.mp hall p hp
        simp [hkey] at hne
      · cases he
  · intro tx b e b' h
    rcases served h with ⟨e', -, rfl⟩ | hserve
    · rfl
    · rcases submitted hserve with ⟨-, ⟨sig, hsig⟩, -⟩ | ⟨-, rfl⟩
      · cases hsig
      · rfl
  · intro k solUsd b r b' h
    rcases served h with ⟨e, he, -⟩ | hserve
    · cases he
    · simp only [BotScene.serve] at hserve
      obtain ⟨hr, rfl⟩ := Prod.mk.inj hserve
      cases hr
      rcases hf : b'.world.chain.positions.find? (fun p => decide (p.publicKey = k)) with _ | p
      · refine ⟨by simp [hf], ?_⟩
        simpa [hf, openKeys] using List.find?_eq_none.mp hf
      · have hkey : p.publicKey = k := by simpa using List.find?_some hf
        refine ⟨?_, ?_⟩
        · intro q hq
          simp only [hf, Option.map_some] at hq
          cases hq
          exact hkey
        · simp only [hf, Option.map_some, Option.isSome_some, true_iff]
          exact ⟨p, List.mem_of_find?_eq_some hf, hkey⟩
  · intro q b a b' h
    rcases served h with ⟨e, -, rfl⟩ | hserve
    · exact ⟨rfl, rfl⟩
    · rw [show b' = (sc.serve b q).2 from congrArg Prod.snd hserve]
      exact (sc.serve_quiet q b).2
  · intro k b a b' h _
    have hresp : (a, b') = sc.respond (.buildClosePositionTx k) b := h
    rw [BotScene.respond, if_neg (by simp [hbuild k])] at hresp
    exact ⟨_, congrArg Prod.fst hresp⟩
  · intro k b a b' h _
    have hresp : (a, b') = sc.respond (.submit [.closePosition k]) b := h
    rw [BotScene.respond, if_neg (by simp [hsubmit k])] at hresp
    exact ⟨_, congrArg Prod.fst hresp⟩

end PlayedBot
