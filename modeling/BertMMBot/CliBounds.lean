import BertMMBot.OperatorCli
import BertMMBot.TrackedRuns

/-! # What the commands of the tool may do

Beside the parts that submit a transaction or write the row, a command asks, records and
notifies, and so leaves the positions and the row alone. The parts it shares with the bot do in
the tool what they do in the bot. -/
namespace CliBounds

open AsyncProgram AsyncContract AsyncRecords RecordedTriples RecordedOutcomes AsyncWiring
open WiredOutcomes VaultTypes BotProgram Rebalancer MainLoop MakerBounds TrackedPosition
open TrackedRuns OperatorCli
open MeteoraPosition (PositionSnapshot)

/-- Nothing but a submission moves a position, and no service writes the row. -/
structure TruthfulTool (H : CliHost) : Prop where
  bot : Truthful (botHost H)
  still : ∀ {q : CliQuery} {b a b'}, H.respond q b a b' → (∀ q', q ≠ .bot q') →
    openKeys b' = openKeys b ∧ b'.world.db.positionState = b.world.db.positionState

/-- No service writes the log of the rebalances. -/
def ToolKeepsLog (H : CliHost) : Prop :=
  ∀ q b a b', H.respond q b a b' → b'.rebalanceLog = b.rebalanceLog

variable {H : CliHost} {α : Type}

def writesMove : BotChoice → Bool
  | .statement (.setCurrentPosition _) => true
  | .statement (.recordRebalance _) => true
  | _ => false

abbrev StillView := Chain × Option StoredPosition × List LoggedRebalance

/-- Programs of the bot that neither submit a move nor write one down. -/
def stillBounds : Bounds botInterface BotWorld StillView where
  choice c := writesMove c = false
  call q := moving q = false
  view b := (b.world.chain, b.world.db.positionState, b.rebalanceLog)

def idle : CliChoice → Prop
  | .bot c => stillBounds.choice c
  | .environment _ => True
  | .clearCurrentPosition => False

def asks : CliQuery → Prop
  | .bot q => moving q = false
  | _ => True

def toolBounds : Bounds cliInterface BotWorld StillView where
  choice := idle
  call := asks
  view := stillBounds.view

theorem within_still {m : Process α} {flags : Bool}
    (hm : Within (botBounds true false flags) True m) : Within stillBounds True m := by
  apply hm.mono
  · intro c hc
    change writesMove c = false
    cases c with
    | statement st =>
      cases st with
      | setCurrentPosition row => cases hc
      | recordRebalance row => cases hc
      | _ => rfl
    | _ => rfl
  · intro q hq
    change moving q = false
    simpa using hq.2
  · intro b b' hview
    have hchain : b'.world.chain = b.world.chain := congrArg MakerState.chain hview
    have hstate : b'.world.db.positionState = b.world.db.positionState :=
      congrArg MakerState.positionState hview
    have hlog : b'.rebalanceLog = b.rebalanceLog := congrArg MakerState.rebalanceLog hview
    simp [stillBounds, hchain, hstate, hlog]

theorem within_shared {m : Process α} (hm : Within stillBounds True m) :
    Within toolBounds True (shared m) := by
  refine within_lift ?_ ?_ ?_ hm
  · exact fun _ hc => hc
  · exact fun q hq => within_call trivial hq
  · exact fun _ _ hview => hview

theorem within_ask {q : CliQuery} (hq : asks q) : Within toolBounds True (OperatorCli.ask q) :=
  within_call trivial hq

theorem within_buildRuntime : Within toolBounds True buildRuntime :=
  within_ask (q := .buildRuntime) trivial

theorem within_question (prompt : Prompt) : Within toolBounds True (question prompt) :=
  within_ask (q := .question prompt) trivial

theorem within_notify (severity : Severity) (message : CliMessage) :
    Within toolBounds True (OperatorCli.notify severity message) :=
  within_tryCatch (within_ask trivial) fun _ => within_pure ()

theorem within_osUser : Within toolBounds True osUser := by
  have henv : ∀ name, Within toolBounds True (environment name) := fun _ => within_choose trivial
  apply within_bind (henv "USER")
  intro user
  cases user with
  | some user => exact within_pure user
  | none => exact within_bind (henv "LOGNAME") fun _ => within_pure _

theorem within_statement {st : BotStmt} {f : BotWorld → BotWorld}
    (hst : writesMove (.statement st) = false)
    (hf : ∀ b, stillBounds.view (f b) = stillBounds.view b) :
    Within stillBounds True (botStatement st f) := by
  apply within_bind (B := stillBounds)
  · exact within_choose hst
  · intro r
    cases r with
    | none => exact within_modify hf
    | some e => exact within_throw e

theorem within_clock : Within stillBounds True now := within_choose rfl

theorem within_recordAction (command : String) : Within toolBounds True (recordAction command) := by
  apply within_bind (within_shared within_clock)
  intro ts
  apply within_bind within_osUser
  intro user
  apply within_shared
  apply within_statement
  · rfl
  · exact fun _ => rfl

abbrev OfTool (A : Set String → Option StoredPosition → Prop) :
    Point Unit Unit cliInterface BotWorld Thrown → Prop :=
  OfState fun b => A (openKeys b) b.world.db.positionState

theorem tool_undisturbed (hH : TruthfulTool H) (A : Set String → Option StoredPosition → Prop) :
    Undisturbed H () toolBounds (OfTool A) where
  local_ := by
    intro b b' h hview ha
    have hchain : b'.world.chain = b.world.chain := congrArg Prod.fst hview
    have hstate : b'.world.db.positionState = b.world.db.positionState :=
      congrArg (fun v => v.2.1) hview
    simpa [OfTool, OfState, openKeys, hchain, hstate] using ha
  choice _ _ ha := ha
  call := by
    intro q b a b' h hq hr ha
    have hkept : openKeys b' = openKeys b ∧
        b'.world.db.positionState = b.world.db.positionState := by
      cases q with
      | bot q => exact ⟨hH.bot.still hq hr, (hH.bot.own hr).1⟩
      | buildRuntime => exact hH.still hr fun q' h => by cases h
      | question prompt => exact hH.still hr fun q' h => by cases h
      | post severity message => exact hH.still hr fun q' h => by cases h
    change A (openKeys b') b'.world.db.positionState
    rw [hkept.1, hkept.2]
    exact ha

theorem outcome_steady (hH : TruthfulTool H) {A : Set String → Option StoredPosition → Prop}
    {m : Command α} (hm : Within toolBounds True m) :
    Outcome H () (OfTool A) m (fun _ => OfTool A) (OfTool A) :=
  outcome_within (tool_undisturbed hH A) hm

/-- The operator agrees whenever asked. -/
def Confirms (H : CliHost) : Prop := ∀ prompt b (answer : String) b',
  H.respond (.question prompt) b (.ok answer) b' → confirmed answer prompt = true

theorem outcome_question (hH : TruthfulTool H) {A : Set String → Option StoredPosition → Prop}
    (prompt : Prompt) :
    Outcome H () (OfTool A) (question prompt)
      (fun answer p => (Confirms H → confirmed answer prompt = true) ∧ OfTool A p)
      (OfTool A) := by
  apply outcome_call
  intro b h b' a ha hr
  have hkept := (tool_undisturbed hH A).call (q := .question prompt) (h := h) trivial hr ha
  cases a with
  | error e => exact hkept
  | ok answer => exact ⟨fun hconfirms => hconfirms prompt b answer b' hr, hkept⟩

theorem outcome_attempted {A E F : Point Unit Unit cliInterface BotWorld Thrown → Prop}
    {B : α → Point Unit Unit cliInterface BotWorld Thrown → Prop} {m : Command α}
    (hm : Outcome H () A m B E) : Outcome H () A (attempted m) (ending B E) F := by
  apply Outcome.tryCatch (D := E)
  · apply hm.bind
    exact fun a => outcome_pure fun p hp => hp
  · exact fun e => outcome_pure fun p hp => hp

theorem outcome_program_of {library : ConfigFile.Library} {deps : RebalancerDeps} {c : CliCommand}
    {A E E' : Point Unit Unit cliInterface BotWorld Thrown → Prop}
    {B : Ending → Point Unit Unit cliInterface BotWorld Thrown → Prop}
    (haction : Outcome H () A (c.action library deps) B E) (hthrown : ∀ p, E p → B (.exited 1) p) :
    Outcome H () A (c.program library deps) B E' :=
  haction.tryCatch fun _ => outcome_pure hthrown

theorem outcome_shared (H : CliHost) {A E : Set String → Option StoredPosition → Prop}
    {B : α → Set String → Option StoredPosition → Prop} {m : Process α}
    (hm : Outcome (botHost H) () (OfState (ι := Unit) (L := Unit) fun b =>
        A (openKeys b) b.world.db.positionState) m
      (fun a => OfState fun b => B a (openKeys b) b.world.db.positionState)
      (OfState fun b => E (openKeys b) b.world.db.positionState)) :
    Outcome H () (OfTool A) (shared m) (fun a => OfTool (B a)) (OfTool E) :=
  (simulates H).outcome hm

theorem outcome_stored {A : Set String → Option StoredPosition → Prop} :
    Outcome H () (OfTool A) (shared getCurrentPosition)
      (fun row => OfTool fun O r => A O r ∧ r = row) (OfTool A) := by
  apply outcome_shared
  apply outcome_read
  exact fun p hp => ⟨hp, rfl⟩

/-- The venue says whether the stored position is open. -/
structure ReadAs (current : Option PositionSnapshot) (O : Set String)
    (row : Option StoredPosition) : Prop where
  key : ∀ p, current = some p → row.map StoredPosition.nftMint = some p.nftMint
  isOpen : ∀ k, row.map StoredPosition.nftMint = some k → (current.isSome ↔ k ∈ O)

theorem outcome_onChain (hH : TruthfulTool H) {config : BotConfig} {solUsd : ℚ}
    {A : Set String → Option StoredPosition → Prop} {row : Option StoredPosition} :
    Outcome H () (OfTool fun O r => A O r ∧ r = row)
      (shared (onChain (hostRebalancer config) solUsd row))
      (fun current => OfTool fun O r => A O r ∧ ReadAs current O r) (OfTool A) := by
  apply outcome_shared
  cases row with
  | none =>
    apply outcome_pure
    rintro p ⟨ha, hrow⟩
    refine ⟨ha, ?_, ?_⟩
    · exact fun q hq => by cases hq
    · intro k hk
      rw [hrow] at hk
      cases hk
  | some stored =>
    apply outcome_call
    rintro b h b' a ⟨ha, hrow⟩ hr
    have hopen := hH.bot.quiet hr fun tx h => by cases h
    have hstate := (hH.bot.own hr).1
    have ha' : A (openKeys b') b'.world.db.positionState := by
      rw [hopen, hstate]
      exact ha
    cases a with
    | error e => exact ha'
    | ok current =>
      obtain ⟨hkey, hsome⟩ := hH.bot.position hr
      refine ⟨ha', ?_, ?_⟩
      · intro q hq
        rw [hstate, hrow, hkey q hq]
        rfl
      · intro k hk
        rw [hstate, hrow] at hk
        cases hk
        exact hsome

def Closed (config : BotConfig) (k : String) (A : Set String → Option StoredPosition → Prop)
    (O : Set String) (row : Option StoredPosition) : Prop :=
  ∃ O₀, A O₀ row ∧ O = leftOpen config (some k) O₀

theorem outcome_submit (hH : TruthfulTool H) (config : BotConfig) (k : String)
    {A : Set String → Option StoredPosition → Prop} :
    Outcome H () (OfTool A)
      (shared (hostSubmitter.submit [.closePosition k] (submitOptions (hostRebalancer config))))
      (fun _ => OfTool (Closed config k A)) (OfTool A) := by
  apply outcome_shared
  apply outcome_ite
  · intro hdry
    apply outcome_pure
    intro p hp
    refine ⟨_, hp, ?_⟩
    exact (if_pos hdry).symm
  · intro hdry
    have hlive : config.dryRun = false := by simpa [submitOptions, hostRebalancer] using hdry
    apply outcome_call
    intro b h b' a ha hr
    have hstate := (hH.bot.own hr).1
    cases a with
    | error e =>
      change A (openKeys b') b'.world.db.positionState
      rw [hH.bot.rejected hr, hstate]
      exact ha
    | ok sig =>
      refine ⟨openKeys b, ?_, ?_⟩
      · rw [hstate]
        exact ha
      · rw [hH.bot.accepted hr, leftOpen_some config hlive]
        rfl

theorem outcome_submitClosing (hH : TruthfulTool H) (config : BotConfig) (k : String)
    {A : Set String → Option StoredPosition → Prop} :
    Outcome H () (OfTool A) (shared (submitClosing (hostRebalancer config) k))
      (fun _ => OfTool (Closed config k A)) (OfTool A) := by
  have hbuild : Outcome H () (OfTool A) (shared (BotProgram.ask (.buildClosePositionTx k)))
      (fun _ => OfTool A) (OfTool A) := outcome_steady hH (within_shared (within_call trivial rfl))
  have heq : shared (submitClosing (hostRebalancer config) k) =
      shared (BotProgram.ask (.buildClosePositionTx k)) >>= fun _ =>
        shared (hostSubmitter.submit [.closePosition k] (submitOptions (hostRebalancer config))) := by
    have hbot : submitClosing (hostRebalancer config) k =
        BotProgram.ask (.buildClosePositionTx k) >>= fun _ =>
          hostSubmitter.submit [.closePosition k] (submitOptions (hostRebalancer config)) := by
      exact async_bind_assoc _ _ _
    rw [hbot]
    exact botWiring.lift_bind _ _
  rw [heq]
  exact hbuild.bind fun _ => outcome_submit hH config k

theorem covers_of_ended {config : BotConfig} {key stored : Option String}
    {h₀ : History Unit Unit botInterface BotWorld Thrown} {O : Set String}
    {p : Point Unit Unit botInterface BotWorld Thrown} (hkey : ∀ k ∈ O, key = some k)
    (hstored : ∀ k ∈ O, stored = some k) (hp : Ended config key h₀ O stored p) :
    Covers (openKeys p.1) p.1.world.db.positionState := by
  have hempty : config.dryRun = false → leftOpen config key O = ∅ := by
    intro hlive
    ext k
    simp only [leftOpen, hlive, Bool.false_eq_true, if_false, Set.mem_sdiff, Set.mem_ofPred_eq,
      Set.mem_empty_iff_false, iff_false, not_and, not_not]
    exact hkey k
  intro k hk
  cases hp with
  | untouched hs =>
    rw [hs.opened] at hk
    exact hs.stored.trans (hstored k hk)
  | closed hs =>
    rw [hs.opened] at hk
    have hin : k ∈ O := by
      unfold leftOpen at hk
      split at hk
      · exact hk
      · exact hk.1
    exact hs.stored.trans (hstored k hin)
  | undone hlive _ hs =>
    rw [hs.opened, hempty hlive] at hk
    exact hk.elim
  | reopened hlive _ hs =>
    rw [hs.opened, hempty hlive, insert_empty_eq, Set.mem_singleton_iff] at hk
    subst hk
    exact hs.stored

theorem outcome_rebalance (hH : TruthfulTool H) {config : BotConfig} {mid : MidPrice}
    {current : Option PositionSnapshot} {cause : Cause} :
    Outcome H () (OfTool fun O row => Covers O row ∧ ReadAs current O row)
      (shared (executeRebalance (hostRebalancer config) mid current cause))
      (fun _ => OfTool Covers) (OfTool Covers) := by
  apply outcome_shared
  apply outcome_at
  rintro b h ⟨hcovers, hread⟩
  have hkey : ∀ k ∈ openKeys b, current.map PositionSnapshot.nftMint = some k := by
    intro k hk
    have hrow := hcovers k hk
    obtain ⟨p, rfl⟩ := Option.isSome_iff_exists.mp ((hread.isOpen k hrow).mpr hk)
    exact (hread.key p rfl).symm.trans hrow
  have hout : Outcome (botHost H) () (Stage (current.map PositionSnapshot.nftMint) h (openKeys b)
        (storedKey b) false false false)
      (executeRebalance (hostRebalancer config) mid current cause)
      (fun _ => Ended config (current.map PositionSnapshot.nftMint) h (openKeys b) (storedKey b))
      (Ended config (current.map PositionSnapshot.nftMint) h (openKeys b) (storedKey b)) :=
    outcome_executeRebalance config hH.bot rfl
  apply hout.mono
  · rintro p rfl
    exact ⟨rfl, rfl, [], rfl, rfl, rfl, rfl⟩
  · exact fun _ p hp => covers_of_ended hkey hcovers hp
  · exact fun p hp => covers_of_ended hkey hcovers hp

section Still

variable (library : ConfigFile.Library)

theorem within_writeConfigFile (text : String) : Within stillBounds True (writeConfigFile text) := by
  apply within_bind (B := stillBounds)
  · exact within_choose rfl
  · intro r
    have hleave : ∀ left, Within stillBounds True (leaveText left) := fun _ =>
      within_modify fun _ => rfl
    cases r with
    | none => exact hleave text
    | some r => exact within_bind (hleave r.2) fun _ => within_throw r.1

theorem within_runPause (pause : Bool) : Within toolBounds True (runPause library pause) := by
  have hread : Within (botBounds true false true) True readConfigFile :=
    observant_botBounds.readConfigFile
  apply within_bind (within_shared (within_still hread))
  intro text
  apply within_bind (within_shared (LoopWalk.within_liftExcept _))
  intro text'
  apply within_bind (within_shared (within_writeConfigFile text'))
  intro _
  exact within_bind (within_recordAction _) fun _ => within_pure _

theorem within_runClearDegraded : Within toolBounds True runClearDegraded := by
  apply within_bind (within_shared (within_read _))
  intro degraded
  apply within_ite
  · intro _
    apply within_bind (within_question _)
    intro answer
    apply within_ite
    · intro _
      apply within_bind (within_shared (within_still (within_setDegraded false)))
      intro _
      exact within_bind (within_recordAction _) fun _ => within_pure _
    · exact fun _ => within_pure _
  · exact fun _ => within_pure _

theorem within_trustedMid (deps : RebalancerDeps) : Within stillBounds True (trustedMid deps) := by
  apply within_bind (within_call trivial rfl)
  intro samples
  exact within_bind within_clock fun _ => within_pure _

end Still

end CliBounds
