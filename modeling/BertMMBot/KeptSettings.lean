import BertMMBot.PauseSwitch
import BertMMBot.CliRuns
import BertMMBot.KeptInvariants

/-! # Switching a bot leaves its settings alone

The chat and the operator's tool rewrite the whole file to set one field of it. In any run, with
any number of switches from both sides, the file loads to the configuration it began with, but
for that field, and setting it back gives the first configuration again. -/
namespace KeptSettings

open AsyncProgram AsyncContract AsyncFibers AsyncRecords AsyncWiring RecordedTriples
open RecordedOutcomes WiredOutcomes KeptInvariants ConfigFile ObjectSchema VaultTypes
open BotProgram Rebalancer MainLoop BotRuns OperatorCli
open LoopWalk (Observant)
open RebalanceBounds (Lenient)
open MakerBounds (hostDeps)
open PauseSwitch (chatBounds within_vaultProgram within_reply live playedLibrary
  playedLibrary_roundTrips played_loads chattyMain chattyDeps chattyWorld pausing pausingScene
  scene_ownsFile loads_iff)
open CliRuns (toolHost toolScript toolHost_ends)
open MeteoraPosition (PositionSnapshot)

variable {lib : Library} {entries : Entries} {doc : Document} {on : Bool} {text text' : String}

theorem loadConfig_assign (hdoc : loadConfig lib text = .ok doc)
    (hparse : lib.parseYaml text = .ok (.map entries))
    (hparse' : lib.parseYaml text' = .ok (.map (assign "enabled" (.bool on) entries))) :
    loadConfig lib text' = .ok (assign "enabled" (.bool on) doc) := by
  obtain ⟨entries', b, hread, hissues, hb, -, rfl⟩ := loadConfig_ok hdoc
  cases hparse.symm.trans hread
  have hissues' : botIssues lib (assign "enabled" (.bool on) entries) = [] :=
    (botIssues_assign hb).trans hissues
  have hparsed : botSchema.parsed (assign "enabled" (.bool on) entries) =
      assign "enabled" (.bool on) (botSchema.parsed entries) :=
    parsed_assign botSchema_distinct enabledField_own hb
  simp only [loadConfig, hparse', if_pos hissues', hparsed]

theorem lookup_enabled (hdoc : loadConfig lib text = .ok doc) :
    doc.lookup "enabled" = some (.bool (enabled doc)) := by
  obtain ⟨entries, b, -, -, hb, henabled, rfl⟩ := loadConfig_ok hdoc
  rw [henabled]
  exact lookup_enabled_parsed hb

/-- The file loads to this configuration, enabled or not. -/
def Kindred (lib : Library) (doc : Document) (text : String) : Prop :=
  ∃ on, loadConfig lib text = .ok (assign "enabled" (.bool on) doc)

/-- One rewriting of the file. -/
def Switched (lib : Library) (text text' : String) : Prop := ∃ on, withEnabled lib on text = .ok text'

theorem kindred_self (hdoc : loadConfig lib text = .ok doc) : Kindred lib doc text :=
  ⟨enabled doc, by rw [assign_self (lookup_enabled hdoc), hdoc]⟩

theorem load_withEnabled (hlib : lib.RoundTrips) (hkin : Kindred lib doc text)
    (hw : withEnabled lib on text = .ok text') :
    loadConfig lib text' = .ok (assign "enabled" (.bool on) doc) := by
  obtain ⟨was, hdoc⟩ := hkin
  obtain ⟨entries, b, hparse, -, -, -⟩ := loadConfig_ok hdoc
  obtain ⟨v, v', hv, hv', rfl⟩ := withEnabled_ok hw
  have hread : lib.parseYaml (lib.stringifyYaml v') = .ok v' := hlib _ _ _ on hv hv'
  cases hv.symm.trans hparse
  cases hv'
  rw [loadConfig_assign hdoc hparse hread, assign_assign]

theorem kindred_switched (hlib : lib.RoundTrips) (hkin : Kindred lib doc text)
    (hs : Relation.ReflTransGen (Switched lib) text text') : Kindred lib doc text' := by
  induction hs with
  | refl => exact hkin
  | tail _ hs ih =>
    obtain ⟨on, hw⟩ := hs
    exact ⟨on, load_withEnabled hlib ih hw⟩

theorem restores_settings (hlib : lib.RoundTrips) {first : String}
    (hdoc : loadConfig lib first = .ok doc) (hkin : Kindred lib doc text) :
    ∃ text', withEnabled lib (enabled doc) text = .ok text' ∧ loadConfig lib text' = .ok doc := by
  obtain ⟨was, hwas⟩ := hkin
  obtain ⟨text', -, hw, -⟩ := loads_withEnabled hlib (enabled doc) hwas
  refine ⟨text', hw, ?_⟩
  rw [load_withEnabled hlib ⟨was, hwas⟩ hw, assign_self (lookup_enabled hdoc)]

/-- While a call is under way the tool may switch the bot, as often as it likes. A write that
fails leaves the old text or the new one. -/
structure SharesFile (lib : Library) (H : BotHost) : Prop where
  read : ∀ {b text}, H.choose .readConfig b (.ok text : Except Thrown String) → text = b.configFile
  write : ∀ {text b e left},
    H.choose (.writeConfig text) b (some (e, left) : Option (Thrown × String)) →
      left = b.configFile ∨ left = text
  respond : ∀ {q b a b'}, H.respond q b a b' →
    Relation.ReflTransGen (Switched lib) b.configFile b'.configFile

def Settled (lib : Library) (doc : Document) (b : BotWorld) : Prop := Kindred lib doc b.configFile

section Runs

variable {H : BotHost} {pool : MeteoraPosition.Venue} {cfg : MainConfig} {i : BotFiber} {α : Type}

theorem settled_unbroken (doc : Document) (hH : SharesFile lib H) (hlib : lib.RoundTrips) :
    Unbroken H (Settled lib doc) :=
  fun _ _ _ _ hr hkin => kindred_switched hlib hkin (hH.respond hr)

theorem settled_shows : Shows chatBounds (Settled lib doc) := by
  intro b b' hview hkin
  have hfile : b'.configFile = b.configFile := hview
  rwa [Settled, hfile]

variable (hH : SharesFile lib H) (hlib : lib.RoundTrips)

abbrev Spares (doc : Document) (i : BotFiber) (m : Process α) : Prop :=
  Upholds BotJob (settled_unbroken doc hH hlib) i m

theorem spares_within {m : Process α} (hm : Within chatBounds True m) : Spares hH hlib doc i m :=
  upholds_within settled_shows hm

theorem lenient_file : Lenient chatBounds hostSubmitter cfg.maker where
  choice _ _ := trivial
  call _ _ := trivial
  view _ _ hfile := hfile
  submit _ _ _ := within_ite (fun _ => within_pure _) fun _ => within_call trivial trivial
  submitProtected _ _ _ := within_ite (fun _ => within_pure _) fun _ => within_call trivial trivial

theorem observant_file : Observant chatBounds where
  choice _ _ := trivial
  call _ _ := trivial
  observe _ _ := rfl
  alerted _ _ := rfl

theorem within_tickWithPosition {tickStart : ℤ} {killed : Bool} {mid : Option MidPrice}
    {stored : Option StoredPosition} {position : Option PositionSnapshot} :
    Within chatBounds True
      (tickWithPosition (hostDeps lib pool) cfg tickStart killed mid stored position) := by
  have hrebalance : ∀ mid current cause, Within chatBounds True
      (executeRebalance (rebalancerDeps (hostDeps lib pool) cfg) mid current cause) :=
    fun mid current cause => RebalanceBounds.within_executeRebalance lenient_file
  apply within_bind (within_read _)
  intro s
  cases initialMid stored s with
  | some mid =>
    have hopen : Within chatBounds True (openInitial (hostDeps lib pool) cfg mid) := by
      apply within_bind (hrebalance _ _ _)
      exact fun _ => within_ite (fun _ => observant_file.notify _ _) fun _ => within_pure ()
    exact within_bind hopen fun _ => observant_file.writeHeartbeat
  | none =>
    have hact : ∀ d, Within chatBounds True (actOn (hostDeps lib pool) cfg s d) := by
      intro d
      cases d with
      | rebalance reason center =>
        cases hprice : s.price with
        | none => simp [actOn, hprice]
        | some mid =>
          simp only [actOn, hprice]
          exact within_bind (hrebalance _ _ _) fun _ => within_pure ()
      | pause reason => exact observant_file.alert _ _ _
      | alertOnly reason => exact observant_file.alert _ _ _
      | hold reason => exact observant_file.setLastAlerted none
    have hpost : Within chatBounds True
        (vaultPostRebalance (hostDeps lib pool) cfg s.killSwitchTripped) := by
      unfold vaultPostRebalance
      cases wiredVault cfg with
      | none => exact within_pure ()
      | some v => exact within_vaultProgram _
    apply within_bind (hact _)
    intro _
    exact within_bind hpost fun _ => observant_file.writeHeartbeat

theorem within_tick : Within chatBounds True (tick (hostDeps lib pool) cfg) := by
  have hpre : Within chatBounds True (vaultPreRebalance (hostDeps lib pool) cfg) := by
    unfold vaultPreRebalance
    cases wiredVault cfg with
    | none => exact within_pure ()
    | some v => exact within_vaultProgram _
  have hbody : ∀ tickStart, Within chatBounds True (tickBody (hostDeps lib pool) cfg tickStart) := by
    intro tickStart
    apply within_bind observant_file.killSwitchTripped
    intro killed
    apply within_bind (observant_file.readOracle tickStart)
    intro mid
    apply within_bind hpre
    intro _
    apply within_bind (within_read _)
    intro stored
    apply within_bind (observant_file.readTracked rfl mid stored)
    intro tracked
    cases tracked with
    | rpcFailed => exact observant_file.writeHeartbeat
    | position p => exact within_tickWithPosition
  apply within_bind (within_choose trivial)
  intro tickStart
  apply within_bind (within_tryCatch (hbody tickStart) fun _ => observant_file.notify _ _)
  intro _
  exact within_bind (within_choose trivial) fun _ => observant_file.ask rfl

theorem delivers_readConfigFile : Delivers BotJob (settled_unbroken doc hH hlib) i
    readConfigFile (Kindred lib doc) := by
  apply Triple.bind (B := fun r p => (∀ text, r = .ok text → Kindred lib doc text) ∧ True)
  · apply (delivers_choose (I := botInterface) (c := BotChoice.readConfig)
      (Q := fun r => ∀ text, r = .ok text → Kindred lib doc text) ?_).mono (fun _ hp => hp)
      (fun _ _ hp => ⟨hp, trivial⟩) fun _ hp => hp
    rintro b _ hkin hread text rfl
    rw [hH.read hread]
    exact hkin
  · intro r
    apply triple_of_fact
    intro hr
    cases r with
    | ok text => exact triple_pure fun _ _ => hr text rfl
    | error e => exact triple_throw fun _ _ => trivial

theorem spares_writeConfigFile (hkin : Kindred lib doc text) :
    Spares hH hlib doc i (writeConfigFile text) := by
  have hleave : ∀ left, Kindred lib doc left → Spares hH hlib doc i (leaveText left) :=
    fun left hleft => upholds_modify fun _ _ => hleft
  apply upholds_then (delivers_choose (I := botInterface) (c := BotChoice.writeConfig text)
    (Q := fun r => ∀ e left, r = some (e, left) → Kindred lib doc left) ?_)
  · intro (r : Option (Thrown × String)) hr
    cases r with
    | none => exact hleave text hkin
    | some r =>
      obtain ⟨e, left⟩ := r
      exact (hleave left (hr e left rfl)).bind fun _ => keeps_throw
  · rintro b _ hb hwrite e left rfl
    rcases hH.write hwrite with rfl | rfl
    · exact hb
    · exact hkin

theorem spares_rewriteEnabled (on : Bool) :
    Spares hH hlib doc i (rewriteEnabled (hostDeps lib pool) on) := by
  apply upholds_then (delivers_readConfigFile hH hlib)
  intro text hkin
  have hset : Delivers BotJob (settled_unbroken doc hH hlib) i
      (liftExcept (withEnabled lib on text) : Process String) (Kindred lib doc) := by
    cases hw : withEnabled lib on text with
    | error e => exact triple_throw fun _ _ => trivial
    | ok text' => exact triple_pure fun _ _ => ⟨on, load_withEnabled hlib hkin hw⟩
  apply upholds_then hset
  intro text' hkin'
  apply (spares_writeConfigFile hH hlib hkin').bind
  intro _
  apply spares_within hH hlib
  apply within_bind (within_choose trivial)
  intro ts
  apply within_bind (within_choose trivial)
  intro r
  cases r with
  | none => exact within_modify fun _ => rfl
  | some e => exact within_throw e

theorem spares_setEnabled (on : Bool) : Spares hH hlib doc i (setEnabled (hostDeps lib pool) on) :=
  (spares_rewriteEnabled hH hlib on).tryCatch fun _ => keeps_pure

theorem spares_dispatch (msg : DepositorCommands.Msg) :
    Spares hH hlib doc i (dispatch (hostDeps lib pool) cfg msg) := by
  have hreply : ∀ chatId notice, Spares hH hlib doc i (reply chatId notice) :=
    fun chatId notice => spares_within hH hlib (within_reply chatId notice)
  have hclear : Within chatBounds True (setDegraded false) := by
    intro b
    refine ⟨trivial, rfl, fun o => ?_⟩
    cases o with
    | none => exact rfl
    | some e => exact rfl
  unfold dispatch
  split
  · apply keeps_ite _ keeps_pure
    exact (spares_setEnabled hH hlib false).bind fun _ => hreply _ _
  · apply keeps_ite _ keeps_pure
    apply (spares_setEnabled hH hlib true).bind
    intro _
    exact (spares_within hH hlib hclear).bind fun _ => hreply _ _
  · apply spares_within hH hlib
    cases wiredVault cfg with
    | some v => exact within_vaultProgram _
    | none =>
      have hoperator : ∀ {m : Process Unit}, Within chatBounds True m →
          Within chatBounds True (asOperator cfg msg m) :=
        fun hm => within_ite (fun _ => hm) fun _ => within_pure ()
      simp only [dispatchPlain]
      split
      · exact hoperator (within_bind (within_read _) fun _ => within_reply _ _)
      · exact hoperator (within_reply _ _)
      · exact within_pure ()

theorem spares_job (j : BotJob) :
    Spares hH hlib doc j.fiber (j.program (hostDeps lib pool) cfg) := by
  cases j with
  | tick => exact spares_within hH hlib within_tick
  | message msg => exact spares_dispatch hH hlib msg
  | button msg =>
    have hbutton : Within chatBounds True (dispatchCallback (hostDeps lib pool) cfg msg) := by
      unfold dispatchCallback
      cases wiredVault cfg with
      | none => exact within_pure ()
      | some v => exact within_vaultProgram _
    exact spares_within hH hlib hbutton

include hH hlib

theorem recorded_kindred {b : BotWorld} {p : DiaryPoint} (hkin : Kindred lib doc b.configFile)
    (hp : Recorded (hostDeps lib pool) cfg H b p) : Kindred lib doc p.1.configFile := by
  obtain ⟨c, ex, rfl⟩ := hp
  have hrestart : ∀ b, Settled lib doc b → Settled lib doc (restart b) := fun _ hkin => hkin
  have hstart : Settled lib doc b := hkin
  exact execution_keeps (settled_unbroken doc hH hlib) hrestart (spares_job hH hlib) hstart ex

end Runs

section Tool

variable {H : CliHost} {α : Type} {first : String}

abbrev Reaches (lib : Library) (first : String) : String → Prop :=
  Relation.ReflTransGen (Switched lib) first

abbrev OfFile (A : String → Prop) : Point Unit Unit cliInterface BotWorld Thrown → Prop :=
  OfState fun b => A b.configFile

theorem outcome_ofFile {A E : String → Prop} {B : α → String → Prop} {m : Process α}
    (hm : Outcome (botHost H) () (OfState (ι := Unit) (L := Unit) fun b => A b.configFile) m
      (fun a => OfState fun b => B a b.configFile) (OfState fun b => E b.configFile)) :
    Outcome H () (OfFile A) (shared m) (fun a => OfFile (B a)) (OfFile E) :=
  (simulates H).outcome hm

theorem outcome_readConfigFile (hH : SharesFile lib (botHost H)) :
    Outcome H () (OfFile (Reaches lib first)) (shared readConfigFile)
      (fun text => OfFile fun file => Reaches lib first file ∧ text = file)
      (OfFile (Reaches lib first)) := by
  apply outcome_ofFile
  apply Outcome.bind (B := fun r => OfState fun b => Reaches lib first b.configFile ∧
    ∀ text, r = .ok text → text = b.configFile)
  · exact outcome_choose fun b h r hp hr => ⟨hp, fun text heq => hH.read (heq ▸ hr)⟩
  · intro r
    cases r with
    | ok text => exact outcome_pure fun p hp => ⟨hp.1, hp.2 text rfl⟩
    | error e => exact fun b h hp => hp.1

theorem outcome_withEnabled (on : Bool) (text : String) :
    Outcome H () (OfFile fun file => Reaches lib first file ∧ text = file)
      (shared (liftExcept (withEnabled lib on text)))
      (fun text' => OfFile fun file => Reaches lib first file ∧ Reaches lib first text')
      (OfFile (Reaches lib first)) := by
  apply outcome_ofFile
  cases hw : withEnabled lib on text with
  | error e => exact fun b h hp => hp.1
  | ok text' =>
    apply outcome_pure
    rintro p ⟨hreached, rfl⟩
    exact ⟨hreached, hreached.tail ⟨on, hw⟩⟩

theorem outcome_writeConfigFile (hH : SharesFile lib (botHost H)) (text : String) :
    Outcome H () (OfFile fun file => Reaches lib first file ∧ Reaches lib first text)
      (shared (writeConfigFile text)) (fun _ => OfFile (Reaches lib first))
      (OfFile (Reaches lib first)) := by
  apply outcome_ofFile
  apply Outcome.bind (B := fun r => OfState fun _ => Reaches lib first text ∧
    ∀ e left, r = some (e, left) → Reaches lib first left)
  · apply outcome_choose
    rintro b h r ⟨hfile, htext⟩ hr
    refine ⟨htext, ?_⟩
    rintro e left rfl
    rcases hH.write hr with rfl | rfl
    · exact hfile
    · exact htext
  · intro (r : Option (Thrown × String))
    cases r with
    | none => exact outcome_modify fun b h hp => hp.1
    | some r =>
      obtain ⟨e, left⟩ := r
      apply Outcome.bind (B := fun _ => OfState fun b => Reaches lib first b.configFile)
      · exact outcome_modify fun b h hp => hp.2 e left rfl
      · exact fun _ b h hp => hp

theorem outcome_recordAction {A : String → Prop} (command : String) :
    Outcome H () (OfFile A) (recordAction command) (fun _ => OfFile A) (OfFile A) := by
  have henv : ∀ name, Outcome H () (OfFile A) (environment name) (fun _ => OfFile A) (OfFile A) :=
    fun name => outcome_choose fun b h o hp _ => hp
  apply (outcome_ofFile (outcome_choose fun b h o hp _ => hp)).bind
  intro ts
  apply Outcome.bind (B := fun _ => OfFile A)
  · apply (henv "USER").bind
    intro user
    cases user with
    | some user => exact outcome_pure fun p hp => hp
    | none => exact (henv "LOGNAME").bind fun _ => outcome_pure fun p hp => hp
  intro user
  apply outcome_ofFile
  apply Outcome.bind (B := fun _ => OfState fun b => A b.configFile)
  · exact outcome_choose fun b h o hp _ => hp
  · intro r
    cases r with
    | none => exact outcome_modify fun b h hp => hp
    | some e => exact fun b h hp => hp

theorem tool_switches (hH : SharesFile lib (botHost H)) {pause : Bool} {x : Except Thrown Ending}
    {b b' : BotWorld} (hends : Ends H (runPause lib pause b) x b') :
    Relation.ReflTransGen (Switched lib) b.configFile b'.configFile := by
  have hpause : Outcome H () (OfFile (Reaches lib b.configFile)) (runPause lib pause)
      (fun _ => OfFile (Reaches lib b.configFile)) (OfFile (Reaches lib b.configFile)) := by
    apply (outcome_readConfigFile hH).bind
    intro text
    apply (outcome_withEnabled (!pause) text).bind
    intro text'
    apply (outcome_writeConfigFile hH text').bind
    intro _
    exact (outcome_recordAction _).bind fun _ => outcome_pure fun p hp => hp
  exact ends_of_outcome hpause (s := b) hends .refl

end Tool

/-- Runs of the bot, each under the configuration it was started with and as long as it may, and
commands of the tool. -/
inductive Served (H : CliHost) (lib : Library) (pool : MeteoraPosition.Venue) :
    BotWorld → BotWorld → Prop where
  | run {b p} (cfg : MainConfig) : Recorded (hostDeps lib pool) cfg (botHost H) b p →
      Served H lib pool b p.1
  | switch {b x b'} (pause : Bool) : Ends H (runPause lib pause b) x b' → Served H lib pool b b'

/-- However runs of the bot and switches by the tool follow one another, and wherever they stand,
the file loads to the configuration it began with, but for `enabled`, and with that set back to
that very configuration. -/
theorem settings_kept {H : CliHost} {pool : MeteoraPosition.Venue} (hH : SharesFile lib (botHost H))
    (hlib : lib.RoundTrips) {b b' : BotWorld} (hdoc : loadConfig lib b.configFile = .ok doc)
    (hserved : Relation.ReflTransGen (Served H lib pool) b b') :
    Kindred lib doc b'.configFile ∧
      ∃ text, withEnabled lib (enabled doc) b'.configFile = .ok text ∧
        loadConfig lib text = .ok doc := by
  have hkin : Kindred lib doc b'.configFile := by
    induction hserved with
    | refl => exact kindred_self hdoc
    | tail _ hstep ih =>
      cases hstep with
      | run cfg hp => exact recorded_kindred hH hlib ih hp
      | switch pause hends => exact kindred_switched hlib ih (tool_switches hH hends)
  exact ⟨hkin, restores_settings hlib hdoc hkin⟩

theorem scene_sharesFile (sc : PlayedBot.BotScene) : SharesFile lib sc.host where
  read := (scene_ownsFile sc).read
  respond hr := by
    rw [(scene_ownsFile sc).respond hr]
  write := by
    intro text b e left h
    have hwritten : some (e, left) = sc.unwritable.map fun e => (e, b.configFile) := h
    obtain ⟨e', -, heq⟩ := Option.map_eq_some_iff.mp hwritten.symm
    exact .inl (congrArg Prod.snd heq).symm

abbrev sceneTool : CliHost := toolHost pausingScene.script

def paused : BotWorld := (pausingScene.playJobs chattyDeps chattyMain pausing chattyWorld).1

def resumed : BotWorld :=
  ((toolScript pausingScene.script).play (runPause playedLibrary false paused)).2

theorem settings_kept_resumed :
    live playedLibrary chattyMain paused.configFile = false ∧
    live playedLibrary chattyMain resumed.configFile = true ∧
    ∃ doc, loadConfig playedLibrary chattyWorld.configFile = .ok doc ∧
      Kindred playedLibrary doc resumed.configFile ∧
      ∃ text, withEnabled playedLibrary (enabled doc) resumed.configFile = .ok text ∧
        loadConfig playedLibrary text = .ok doc := by
  obtain ⟨doc, hdoc⟩ := loads_iff.mp played_loads
  have hshares : SharesFile playedLibrary (botHost sceneTool) := scene_sharesFile pausingScene
  have hpaused : Served sceneTool playedLibrary PlayedBot.flatVenue chattyWorld paused :=
    .run chattyMain (pausingScene.plays _ _ pausing chattyWorld)
  have hresumed : Served sceneTool playedLibrary PlayedBot.flatVenue paused resumed :=
    .switch false (toolHost_ends _ _ _)
  exact ⟨by decide +kernel, by decide +kernel, doc, hdoc,
    settings_kept hshares playedLibrary_roundTrips hdoc (.tail (.single hpaused) hresumed)⟩

end KeptSettings
