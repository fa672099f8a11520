import BertMMBot.PlayedBot
import BertMMBot.RebalanceBounds

/-! # The pause command

A pause travels through the configuration file: the command rewrites it and replies, whether
or not the write went through, and every tick reads it again and falls back to the value the
process was started with. As long as each failure leaves a file that reads as disabled, no
tick that begins after the reply acts before the bot is resumed. -/
namespace PauseSwitch

open AsyncProgram AsyncContract AsyncFibers AsyncRecords RecordedTriples RecordedOutcomes AsyncWiring
open VaultTypes BotProgram Rebalancer MainLoop MakerBounds BotRuns PlayedBot ConfigFile ObjectSchema
open MeteoraPosition (PositionSnapshot)

variable (lib : ConfigFile.Library) (cfg : MainConfig)

def live (text : String) : Bool :=
  match loadConfig lib text with
  | .ok doc => enabled doc
  | .error _ => cfg.maker.enabled

def loads (text : String) : Bool := (loadConfig lib text).toOption.isSome

/-- The file can be rewritten, or what is made of it does not matter. -/
def usable (text : String) : Bool := loads lib text || !cfg.maker.enabled

def command : BotJob → Option String
  | .message msg => if some msg.userId = operatorUserId cfg then TextInput.commandName msg.text else none
  | _ => none

def lastCommand : Diary → Option String
  | [] => none
  | .start .telegram j _ :: _ => command cfg j
  | _ :: h => lastCommand h

def answersPause : Line → Bool
  | .call .telegram (.vault (.reply _ .botPaused)) _ => true
  | _ => false

def resumes : Line → Bool
  | .start _ j _ => command cfg j = some "resume"
  | _ => false

/-- A pause has been answered, and no resume has been sent since. -/
def pausedSince : Diary → Bool
  | [] => false
  | e :: h => answersPause e && lastCommand cfg h = some "pause" || pausedSince h && !resumes cfg e

/-- The tick under way began after a pause had been answered. -/
def tickPaused : Diary → Bool
  | [] => false
  | .start .main _ _ :: h => pausedSince cfg h
  | _ :: h => tickPaused h

/-- No tick that began paused takes a step. -/
def Obedient (h : Diary) : Prop :=
  ∀ e older, e :: older <:+ h → e.fiber = some .main → acts e = true → tickPaused cfg older = false

/-- A failure that leaves the bot as disabled as it should be, in one life of the process. -/
def harmless (older : Diary) : Line → Bool
  | .choice .main .readConfig _ (.error _) => !cfg.maker.enabled
  | .choice .telegram .readConfig b (.error _) =>
    lastCommand cfg older = some "resume" || !live lib cfg b.configFile
  | .choice _ (.writeConfig _) _ (some (_, left)) =>
    if lastCommand cfg older = some "resume" then usable lib cfg left else !live lib cfg left
  | .stop _ => false
  | _ => true

def Harmless : Diary → Prop
  | [] => True
  | e :: h => harmless lib cfg h e = true ∧ Harmless h

instance decidableHarmless : (h : Diary) → Decidable (Harmless lib cfg h)
  | [] => inferInstanceAs (Decidable True)
  | e :: h =>
    have := decidableHarmless h
    inferInstanceAs (Decidable (harmless lib cfg h e = true ∧ Harmless lib cfg h))

/-- Reads return the file, and nothing but a write changes it. -/
structure OwnsFile (H : BotHost) : Prop where
  read : ∀ {b text}, H.choose .readConfig b (.ok text : Except Thrown String) → text = b.configFile
  respond : ∀ {q b a b'}, H.respond q b a b' → b'.configFile = b.configFile

variable {lib cfg} {H : BotHost}

theorem loads_iff {text : String} : loads lib text = true ↔ ∃ doc, loadConfig lib text = .ok doc := by
  unfold loads
  cases loadConfig lib text with
  | ok doc => simp [Except.toOption]
  | error e => simp [Except.toOption]

theorem usable_of_live {text : String} (h : live lib cfg text = false) :
    usable lib cfg text = true := by
  unfold live at h
  unfold usable loads
  split at h
  · next doc hdoc => simp [hdoc, Except.toOption]
  · simp [h]

theorem live_of_unloaded {text : String} (hu : usable lib cfg text = true)
    (hl : loads lib text = false) : live lib cfg text = false := by
  unfold usable at hu
  unfold loads at hl
  unfold live
  cases hload : loadConfig lib text with
  | ok doc => simp [hload, Except.toOption] at hl
  | error e => simpa [loads, hload, Except.toOption] using hu

inductive PauseAct (lib : ConfigFile.Library) (cfg : MainConfig) :
    BotFiber → DiaryPoint → DiaryPoint → Prop where
  | local_ {i b b' h} : b'.configFile = b.configFile → PauseAct lib cfg i (b, h) (b', h)
  | start {b h} (j : BotJob) : PauseAct lib cfg j.fiber (b, h) (b, .start j.fiber j b :: h)
  | tick {b h e} : e.fiber = some BotFiber.main → e.isStart = false →
      (acts e = true → Harmless lib cfg h → tickPaused cfg h = false) →
      PauseAct lib cfg .main (b, h) (b, e :: h)
  | tell {b h e} : e.fiber = some BotFiber.telegram → e.isStart = false →
      (answersPause e = true → lastCommand cfg h = some "pause" → Harmless lib cfg h →
        live lib cfg b.configFile = false) → PauseAct lib cfg .telegram (b, h) (b, e :: h)
  | write {b h text} : (Harmless lib cfg h → usable lib cfg text = true ∧
        (pausedSince cfg h = true → live lib cfg text = false)) →
      PauseAct lib cfg .telegram (b, h) ({ b with configFile := text }, h)

/-- While nothing harmful has happened, a bot that has been paused reads as disabled. -/
structure Steady (lib : ConfigFile.Library) (cfg : MainConfig) (p : DiaryPoint) : Prop where
  usable : usable lib cfg p.1.configFile = true
  paused : pausedSince cfg p.2 = true → live lib cfg p.1.configFile = false
  obedient : Obedient cfg p.2

theorem obedient_nil : Obedient cfg [] := by
  intro e older h
  simp at h

theorem Obedient.cons {e : Line} {h : Diary} (ho : Obedient cfg h)
    (he : e.fiber = some .main → acts e = true → tickPaused cfg h = false) :
    Obedient cfg (e :: h) := by
  intro e' older hsuffix hfiber hacts
  rcases List.suffix_cons_iff.mp hsuffix with heq | hsuffix
  · obtain ⟨rfl, rfl⟩ := List.cons.inj heq
    exact he hfiber hacts
  · exact ho e' older hsuffix hfiber hacts

theorem pausedSince_main {e : Line} {h : Diary} (he : e.fiber = some BotFiber.main)
    (hstart : e.isStart = false) : pausedSince cfg (e :: h) = pausedSince cfg h := by
  cases e with
  | start i j b => cases hstart
  | call i q b =>
    cases he
    simp [pausedSince, answersPause, resumes]
  | _ => simp [pausedSince, answersPause, resumes]

theorem pausedSince_start {j : BotJob} {b : BotWorld} {h : Diary}
    (hp : pausedSince cfg (.start j.fiber j b :: h) = true) : pausedSince cfg h = true := by
  simp only [pausedSince, answersPause, Bool.false_and, Bool.false_or, Bool.and_eq_true] at hp
  exact hp.1

theorem Steady.act {i : BotFiber} {p q : DiaryPoint}
    (hp : Harmless lib cfg p.2 → Steady lib cfg p) (ha : PauseAct lib cfg i p q)
    (hq : Harmless lib cfg q.2) : Steady lib cfg q := by
  cases ha with
  | local_ hfile =>
    obtain ⟨husable, hpaused, hobedient⟩ := hp hq
    refine ⟨?_, ?_, hobedient⟩
    · rw [hfile]
      exact husable
    · rw [hfile]
      exact hpaused
  | start j =>
    obtain ⟨husable, hpaused, hobedient⟩ := hp hq.2
    refine ⟨husable, fun h => hpaused (pausedSince_start h), hobedient.cons ?_⟩
    intro _ hacts
    cases hacts
  | tick hfiber hstart hacts =>
    obtain ⟨husable, hpaused, hobedient⟩ := hp hq.2
    refine ⟨husable, ?_, hobedient.cons fun _ h => hacts h hq.2⟩
    rw [pausedSince_main hfiber hstart]
    exact hpaused
  | tell hfiber hstart hanswer =>
    obtain ⟨husable, hpaused, hobedient⟩ := hp hq.2
    refine ⟨husable, ?_, hobedient.cons ?_⟩
    · intro h
      simp only [pausedSince, Bool.or_eq_true, Bool.and_eq_true, decide_eq_true_eq] at h
      rcases h with ⟨hreply, hcommand⟩ | ⟨hold, -⟩
      · exact hanswer hreply hcommand hq.2
      · exact hpaused hold
    · intro hmain
      rw [hfiber] at hmain
      cases hmain
  | write hwrite =>
    obtain ⟨-, -, hobedient⟩ := hp hq
    exact ⟨(hwrite hq).1, (hwrite hq).2, hobedient⟩

def pauseMachine (lib : ConfigFile.Library) (cfg : MainConfig) (hH : OwnsFile H) :
    Machine BotJob botInterface BotWorld Thrown BotFiber H where
  act := PauseAct lib cfg
  inv p := Harmless lib cfg p.2 → Steady lib cfg p
  act_inv hp ha := Steady.act hp ha
  respond_inv := by
    intro q b a b' h hp hr hh
    obtain ⟨husable, hpaused, hobedient⟩ := hp hh
    refine ⟨?_, ?_, hobedient⟩
    · rw [show (b', h).1.configFile = b.configFile from hH.respond hr]
      exact husable
    · rw [show (b', h).1.configFile = b.configFile from hH.respond hr]
      exact hpaused

def fileBounds (may : Bool) : Bounds botInterface BotWorld String where
  choice c := (∀ text, c ≠ .writeConfig text) ∧
    ∀ id, c = .vault (.statement (.setWithdrawalProcessing id)) → may = true
  call q := acting q = true → may = true
  view b := b.configFile

def Knows (lib : ConfigFile.Library) (cfg : MainConfig) (killed : Bool) (p : DiaryPoint) : Prop :=
  Harmless lib cfg p.2 → tickPaused cfg p.2 = true → killed = true

theorem tickPaused_line {e : Line} {h : Diary} (he : e.isStart = false) :
    tickPaused cfg (e :: h) = tickPaused cfg h := by
  cases e with
  | start i j b => cases he
  | _ => rfl

theorem Knows.line {killed : Bool} {b b' : BotWorld} {h : Diary} {e : Line}
    (hp : Knows lib cfg killed (b, h)) (he : e.isStart = false) :
    Knows lib cfg killed (b', e :: h) := by
  intro hh hpaused
  rw [tickPaused_line he] at hpaused
  exact hp hh.2 hpaused

theorem Knows.still {killed : Bool} {p : DiaryPoint} (hp : Knows lib cfg killed p)
    (hkilled : killed = false) : Harmless lib cfg p.2 → tickPaused cfg p.2 = false := by
  intro hh
  by_contra hpaused
  have hset := hp hh (by simpa using hpaused)
  rw [hkilled] at hset
  cases hset

variable {hH : OwnsFile H}

theorem Knows.rely {killed : Bool} {p q : DiaryPoint}
    (hd : (pauseMachine lib cfg hH).Disturbs .main p q)
    (hp : Knows lib cfg killed p) : Knows lib cfg killed q := by
  cases hd with
  | answer hr => exact hp
  | other hne hact =>
    cases hact with
    | local_ hfile => exact hp
    | start j =>
      intro hh hpaused
      cases j with
      | tick => exact absurd rfl hne
      | message msg => exact hp hh.2 hpaused
      | button msg => exact hp hh.2 hpaused
    | tick => exact absurd rfl hne
    | tell hfiber hstart hanswer => exact hp.line hstart
    | write hwrite => exact hp

theorem knows_admits {may killed : Bool} (hkilled : may = true → killed = false) :
    Admits (pauseMachine lib cfg hH) .main (fileBounds may)
      (Knows lib cfg killed) where
  local_ := by
    intro b b' h hview _ hp
    exact ⟨.single (.local_ hview), hp⟩
  choice := by
    intro c b o h hc _ _ hp
    refine ⟨.single (.tick rfl rfl ?_), hp.line rfl⟩
    intro hacts
    have hmay : may = true := by
      cases c with
      | vault c =>
        cases c with
        | statement st =>
          cases st with
          | setWithdrawalProcessing id => exact hc.2 id rfl
          | _ => cases hacts
        | _ => cases hacts
      | _ => cases hacts
    exact hp.still (hkilled hmay)
  call := by
    intro q b h hq _ hp
    refine ⟨.single (.tick rfl rfl ?_), hp.line rfl⟩
    intro hacts
    exact hp.still (hkilled (hq hacts))
  answer := by
    intro q a b h _ _ hp
    exact ⟨.single (.tick rfl rfl fun h => by cases h), hp.line rfl⟩
  rely := Knows.rely

theorem within_file {may : Bool} {α : Type} {m : Process α}
    (hm : Within (botBounds may true true) True m) : Within (fileBounds may) True m := by
  apply hm.mono
  · intro c hc
    constructor
    · rintro text rfl
      exact hc
    · rintro id rfl
      exact hc
  · exact fun q hq => hq.1
  · exact fun b b' hview => congrArg MakerState.configFile hview

section Tick

variable {config : BotConfig} {mid : MidPrice} {current : Option PositionSnapshot} {cause : Cause}

theorem lenient_file : RebalanceBounds.Lenient (fileBounds true) hostSubmitter config where
  choice := by
    intro c hc
    constructor
    · rintro text rfl
      cases hc
    · exact fun _ _ => rfl
  call := fun _ _ _ => rfl
  view := fun b b' hfile => hfile
  submit := fun tx opts _ => within_file (within_submit opts fun _ => rfl)
  submitProtected := fun tx opts _ => within_file (within_submitProtected opts fun _ => rfl)

theorem within_executeRebalance : Within (fileBounds true) True
    (executeRebalance (hostRebalancer config) mid current cause) :=
  RebalanceBounds.within_executeRebalance lenient_file

variable {lib : ConfigFile.Library} {pool : MeteoraPosition.Venue} {cfg : MainConfig}
  {hH : OwnsFile H}

theorem triple_looks {killed : Bool} {α : Type} {m : Process α}
    (hm : Within (botBounds false true true) True m) :
    Keeps (pauseMachine lib cfg hH) .main (Knows lib cfg killed) m := by
  have hnever : false = true → killed = false := fun h => by cases h
  exact triple_within (knows_admits hnever) (within_file hm)

/-- In a paused tick that is still at its start the file reads as disabled. -/
def Fresh (lib : ConfigFile.Library) (cfg : MainConfig) (text : String) (p : DiaryPoint) : Prop :=
  Harmless lib cfg p.2 → tickPaused cfg p.2 = true → live lib cfg text = false

/-- In a paused tick that could not read the file the bot was started disabled. -/
def Fallen (lib : ConfigFile.Library) (cfg : MainConfig) (p : DiaryPoint) : Prop :=
  Harmless lib cfg p.2 → tickPaused cfg p.2 = true → cfg.maker.enabled = false

theorem triple_readConfigFile :
    Triple (pauseMachine lib cfg hH) .main (fun p => Fresh lib cfg p.1.configFile p)
      readConfigFile (Fresh lib cfg) (Fallen lib cfg) := by
  apply Triple.bind (B := fun r p => (∀ text, r = .ok text → Fresh lib cfg text p) ∧
    ∀ e, r = .error e → Fallen lib cfg p)
  · apply triple_choose
    intro b h o _ hp ho
    refine ⟨.single (.tick rfl rfl fun h => by cases h), ?_, ?_⟩
    · rintro text rfl hh hpaused
      rw [hH.read ho]
      exact hp hh.2 hpaused
    · rintro e rfl hh _
      simpa [harmless] using hh.1
  · intro r
    cases r with
    | ok text => exact triple_pure fun p hp => hp.1 text rfl
    | error e => exact triple_throw fun p hp => hp.2 e rfl

theorem triple_killSwitchTripped :
    Triple (pauseMachine lib cfg hH) .main (fun p => Fresh lib cfg p.1.configFile p)
      (killSwitchTripped (hostDeps lib pool) cfg)
      (fun killed => Knows lib cfg killed) (fun _ => False) := by
  have hload : Triple (pauseMachine lib cfg hH) .main (fun p => Fresh lib cfg p.1.configFile p)
      (loadConfigFromFile (hostDeps lib pool)) (fun doc => Knows lib cfg !enabled doc)
      (Fallen lib cfg) := by
    apply triple_readConfigFile.bind
    intro text
    rcases hdoc : loadConfig lib text with e | doc
    · simp only [hostDeps, hdoc]
      apply triple_throw
      intro p hp hh hpaused
      simpa [live, hdoc] using hp hh hpaused
    · simp only [hostDeps, hdoc]
      apply triple_pure
      intro p hp hh hpaused
      simpa [live, hdoc] using hp hh hpaused
  have hlive : Triple (pauseMachine lib cfg hH) .main (fun p => Fresh lib cfg p.1.configFile p)
      (liveEnabled (hostDeps lib pool) cfg) (fun enabled => Knows lib cfg !enabled)
      (fun _ => False) := by
    apply Triple.tryCatch
    · exact hload.bind fun doc => triple_pure fun p hp => hp
    · intro e
      apply triple_pure
      intro p hp hh hpaused
      simp [hp hh hpaused]
  apply hlive.bind
  intro enabled
  apply Triple.bind (B := fun _ => Knows lib cfg !enabled)
  · apply triple_choose
    intro b h o _ hp _
    exact ⟨.single (.tick rfl rfl fun h => by cases h), hp.line rfl⟩
  · intro present
    apply triple_pure
    intro p hp hh hpaused
    simp [hp hh hpaused]

theorem triple_vaultPostRebalance (killed : Bool) :
    Keeps (pauseMachine lib cfg hH) .main (Knows lib cfg killed)
      (vaultPostRebalance (hostDeps lib pool) cfg killed) := by
  unfold vaultPostRebalance
  cases wiredVault cfg with
  | none => exact triple_pure fun p hp => hp
  | some v =>
    have hnever : False → false = true := False.elim
    have halways : True → true = true := fun _ => rfl
    have hdrain : Within (botBounds true true true) True (vaultProgram (hostDeps lib pool) cfg
        (VaultRuntime.swallow (WithdrawalExecutor.drain
          (VaultRuntime.executorDeps pool cfg.maker.minSolFloorLamports)))) :=
      within_vault (LoopBounds.within_swallow (LoopBounds.within_drain _ _)) halways
        (within_answerVault lib pool cfg halways)
    have hactivate : Within (botBounds false true true) True
        (vaultProgram (hostDeps lib pool) cfg
          (VaultRuntime.swallow VaultRuntime.activateWhitelists)) :=
      within_vault (w := True) (LoopBounds.within_swallow LoopBounds.within_activateWhitelists) hnever
        (within_answerVault lib pool cfg hnever)
    rw [vaultProgram_postRebalance]
    apply Triple.bind (B := fun _ => Knows lib cfg killed)
    · apply (triple_looks (within_read _)).bind
      intro paused
      apply (triple_looks (within_read _)).bind
      intro degraded
      apply triple_ite
      · exact fun _ => triple_pure fun p hp => hp
      · intro hgo
        have hkilled : killed = false := by
          by_contra hset
          exact hgo (.inr (.inl (by simpa using hset)))
        exact triple_within (knows_admits fun _ => hkilled) (within_file hdrain)
    · exact fun _ => triple_looks hactivate

theorem triple_tickWithPosition {tickStart : ℤ} {killed : Bool} {mid : Option MidPrice}
    {row : Option StoredPosition} {position : Option PositionSnapshot} :
    Keeps (pauseMachine lib cfg hH) .main (Knows lib cfg killed)
      (tickWithPosition (hostDeps lib pool) cfg tickStart killed mid row position) := by
  apply Triple.bind (B := fun s p => s.killSwitchTripped = killed ∧ Knows lib cfg killed p)
  · exact triple_read fun p _ hp => ⟨rfl, hp⟩
  intro s
  apply triple_of_fact
  intro hs
  cases hinit : initialMid row s with
  | some mid =>
    obtain ⟨-, -, hkilled, -⟩ := initialMid_some hinit
    have hopen : Within (fileBounds true) True (openInitial (hostDeps lib pool) cfg mid) := by
      apply within_bind within_executeRebalance
      intro result
      exact within_ite (fun _ => within_file (within_notify _ _)) fun _ => within_pure _
    apply (triple_within (knows_admits fun _ => hs.symm.trans hkilled) hopen).bind
    exact fun _ => triple_looks within_writeHeartbeat
  | none =>
    have hact : Keeps (pauseMachine lib cfg hH) .main (Knows lib cfg killed)
        (actOn (hostDeps lib pool) cfg s (Strategy.decide s (strategyParams cfg.maker))) := by
      cases hdecision : Strategy.decide s (strategyParams cfg.maker) with
      | rebalance reason center =>
        obtain ⟨hkilled, -⟩ := Strategy.decide_rebalance hdecision
        cases hprice : s.price with
        | none =>
          simp only [actOn, hprice]
          exact triple_pure fun p hp => hp
        | some mid =>
          simp only [actOn, hprice]
          apply (triple_within (knows_admits fun _ => hs.symm.trans hkilled)
            within_executeRebalance).bind
          exact fun _ => triple_pure fun p hp => hp
      | pause reason => exact triple_looks (within_alert _ _ _)
      | alertOnly reason => exact triple_looks (within_alert _ _ _)
      | hold reason => exact triple_looks (within_modify fun _ => rfl)
    apply hact.bind
    intro _
    rw [hs]
    apply (triple_vaultPostRebalance killed).bind
    exact fun _ => triple_looks within_writeHeartbeat

theorem knows_true (p : DiaryPoint) : Knows lib cfg true p := fun _ _ => rfl

theorem triple_tick (b : BotWorld) (h : Diary) :
    Triple (pauseMachine lib cfg hH) .main (fun p => p = (b, .start .main .tick b :: h))
      (tick (hostDeps lib pool) cfg) (fun _ => Knows lib cfg true) (Knows lib cfg true) := by
  have hweaken : ∀ {killed : Bool} {m : Process Unit},
      Keeps (pauseMachine lib cfg hH) .main (Knows lib cfg killed) m →
      Triple (pauseMachine lib cfg hH) .main (Knows lib cfg killed) m
        (fun _ => Knows lib cfg true) (Knows lib cfg true) := fun hm =>
    hm.mono (fun _ hp => hp) (fun _ p _ => knows_true p) fun p _ => knows_true p
  have hbody : ∀ tickStart, Triple (pauseMachine lib cfg hH) .main
      (fun p => Fresh lib cfg p.1.configFile p) (tickBody (hostDeps lib pool) cfg tickStart)
      (fun _ => Knows lib cfg true) (Knows lib cfg true) := by
    intro tickStart
    apply (triple_killSwitchTripped.mono (fun _ hp => hp) (fun _ _ hp => hp) fun p _ => knows_true p).bind
    intro killed
    apply hweaken
    apply (triple_looks (within_readOracle cfg tickStart)).bind
    intro mid
    apply (triple_looks (within_vaultPreRebalance lib pool cfg)).bind
    intro _
    apply (triple_looks (within_read _)).bind
    intro row
    apply (triple_looks (within_readTracked lib pool mid row)).bind
    intro tracked
    cases tracked with
    | rpcFailed => exact triple_looks within_writeHeartbeat
    | position p => exact triple_tickWithPosition
  apply Triple.bind (B := fun _ p => Fresh lib cfg p.1.configFile p)
  · apply triple_choose
    rintro b' h' t hinv hp _
    obtain ⟨rfl, rfl⟩ := Prod.mk.inj hp
    refine ⟨.single (.tick rfl rfl fun h => by cases h), ?_⟩
    intro hh hpaused
    have hcommand : command cfg .tick = none := rfl
    apply (hinv hh.2).paused
    simpa [pausedSince, answersPause, resumes, hcommand, tickPaused] using hpaused
  intro tickStart
  apply ((hbody tickStart).tryCatch fun e => triple_looks (within_notify _ _)).bind
  intro _
  apply (triple_looks within_now).bind
  intro ms
  exact triple_looks (within_look rfl rfl)

end Tick

section Chat

variable {lib : ConfigFile.Library} {pool : MeteoraPosition.Venue} {cfg : MainConfig}
  {hH : OwnsFile H}

def chatBounds : Bounds botInterface BotWorld String :=
  ⟨fun _ => True, fun _ => True, fun b => b.configFile⟩

def Settled (lib : ConfigFile.Library) (cfg : MainConfig) (p : DiaryPoint) : Prop :=
  lastCommand cfg p.2 = some "pause" → Harmless lib cfg p.2 → live lib cfg p.1.configFile = false

theorem lastCommand_line {e : Line} {h : Diary} (he : e.isStart = false) :
    lastCommand cfg (e :: h) = lastCommand cfg h := by
  cases e with
  | start i j b => cases he
  | _ => rfl

theorem Settled.line {b b' : BotWorld} {h : Diary} {e : Line} (hp : Settled lib cfg (b, h))
    (he : e.isStart = false) (hfile : b'.configFile = b.configFile) :
    Settled lib cfg (b', e :: h) := by
  intro hcommand hh
  rw [lastCommand_line he] at hcommand
  rw [show (b', e :: h).1.configFile = b.configFile from hfile]
  exact hp hcommand hh.2

theorem Settled.file {b b' : BotWorld} {h : Diary} (hp : Settled lib cfg (b, h))
    (hfile : b'.configFile = b.configFile) : Settled lib cfg (b', h) := by
  intro hcommand hh
  rw [show (b', h).1.configFile = b.configFile from hfile]
  exact hp hcommand hh

theorem Settled.rely {p q : DiaryPoint} (hd : (pauseMachine lib cfg hH).Disturbs .telegram p q)
    (hp : Settled lib cfg p) : Settled lib cfg q := by
  cases hd with
  | answer hr => exact hp.file (hH.respond hr)
  | other hne hact =>
    cases hact with
    | local_ hfile => exact hp.file hfile
    | start j =>
      cases j with
      | tick => exact fun hcommand hh => hp hcommand hh.2
      | message msg => exact absurd rfl hne
      | button msg => exact absurd rfl hne
    | tick hfiber hstart hacts => exact hp.line hstart rfl
    | tell => exact absurd rfl hne
    | write => exact absurd rfl hne

theorem settled_admits : Admits (pauseMachine lib cfg hH) .telegram chatBounds (Settled lib cfg) where
  local_ := by
    intro b b' h hview _ hp
    exact ⟨.single (.local_ hview), hp.file hview⟩
  choice := by
    intro c b o h _ _ _ hp
    exact ⟨.single (.tell rfl rfl fun h => by cases h), hp.line rfl rfl⟩
  call := by
    intro q b h _ _ hp
    exact ⟨.single (.tell rfl rfl fun _ hcommand hh => hp hcommand hh), hp.line rfl rfl⟩
  answer := by
    intro q a b h _ _ hp
    exact ⟨.single (.tell rfl rfl fun h => by cases h), hp.line rfl rfl⟩
  rely := Settled.rely

theorem triple_chat {α : Type} {m : Process α} (hm : Within chatBounds True m) :
    Keeps (pauseMachine lib cfg hH) .telegram (Settled lib cfg) m := triple_within settled_admits hm

theorem within_vaultProgram {α : Type} (m : VaultProgram.Vault α) :
    Within chatBounds True (vaultProgram (hostDeps lib pool) cfg m) := by
  have hany : Within ⟨fun _ => True, fun _ => True, fun _ => ()⟩ True m :=
    within_any (fun _ => trivial) (fun _ => trivial) m
  apply within_lift (fun _ _ => trivial) _ (fun _ _ _ => rfl) hany
  intro q _
  have halways : True → true = true := fun _ => rfl
  have hanswer : Within (botBounds true true true) True (answerVault (hostDeps lib pool) cfg q) :=
    within_answerVault lib pool cfg halways q fun _ => trivial
  exact hanswer.mono (fun _ _ => trivial) (fun _ _ => trivial)
    fun b b' hview => congrArg MakerState.configFile hview

structure Setting (cfg : MainConfig) (on : Bool) (p : DiaryPoint) : Prop where
  command : lastCommand cfg p.2 = some (if on then "resume" else "pause")
  released : on = true → pausedSince cfg p.2 = false

theorem Setting.line {on : Bool} {b b' : BotWorld} {h : Diary} {e : Line}
    (hp : Setting cfg on (b, h)) (hstart : e.isStart = false) (hanswer : answersPause e = false) :
    Setting cfg on (b', e :: h) := by
  constructor
  · rw [lastCommand_line hstart]
    exact hp.command
  · intro hon
    have hreleased : pausedSince cfg h = false := hp.released hon
    simp [pausedSince, hanswer, hreleased]

theorem Setting.settled {on : Bool} {p : DiaryPoint} (hp : Setting cfg on p)
    (hlive : on = false → Harmless lib cfg p.2 → live lib cfg p.1.configFile = false) :
    Settled lib cfg p := by
  intro hcommand hh
  rw [hp.command] at hcommand
  cases on with
  | false => exact hlive rfl hh
  | true => simp at hcommand

theorem live_withEnabled (hlib : lib.RoundTrips) {on : Bool} {text text' : String}
    (hu : usable lib cfg text = true) (hw : withEnabled lib on text = .ok text') :
    usable lib cfg text' = true ∧ (on = false → live lib cfg text' = false) := by
  have husable : usable lib cfg text' = true := by
    cases hl : loads lib text with
    | false => simpa [usable, hl] using .inr (by simpa [usable, hl] using hu)
    | true =>
      obtain ⟨doc, hdoc⟩ := loads_iff.mp hl
      obtain ⟨text₁, doc', hw', hdoc'⟩ := loads_withEnabled hlib on hdoc
      rw [hw] at hw'
      cases hw'
      simp [usable, loads_iff.mpr ⟨doc', hdoc'⟩]
  refine ⟨husable, ?_⟩
  rintro rfl
  cases hl : loads lib text' with
  | false => exact live_of_unloaded husable hl
  | true =>
    obtain ⟨doc', hdoc'⟩ := loads_iff.mp hl
    simp only [live, hdoc']
    exact enabled_withEnabled hlib hw hdoc'

theorem triple_rewriteEnabled (hlib : lib.RoundTrips) (on : Bool) :
    Triple (pauseMachine lib cfg hH) .telegram (Setting cfg on)
      (rewriteEnabled (hostDeps lib pool) on) (fun _ => Settled lib cfg) (Settled lib cfg) := by
  have hread : Triple (pauseMachine lib cfg hH) .telegram (Setting cfg on) readConfigFile
      (fun text p => Setting cfg on p ∧ p.1.configFile = text) (Settled lib cfg) := by
    apply Triple.bind (B := fun r p => (∀ text, r = .ok text → Setting cfg on p ∧ p.1.configFile = text) ∧
      ∀ e, r = .error e → Settled lib cfg p)
    · apply triple_choose
      intro b h o _ hp ho
      have hline : Setting cfg on (b, .choice .telegram .readConfig b o :: h) := hp.line rfl rfl
      refine ⟨.single (.tell rfl rfl fun h => by cases h), ?_, ?_⟩
      · rintro text rfl
        exact ⟨hline, (hH.read ho).symm⟩
      · rintro e rfl
        apply hline.settled
        rintro rfl hh
        have hcommand : lastCommand cfg h = some "pause" := hp.command
        simpa [harmless, hcommand] using hh.1
    · intro r
      cases r with
      | ok text => exact triple_pure fun p hp => hp.1 text rfl
      | error e => exact triple_throw fun p hp => hp.2 e rfl
  apply hread.bind
  intro text
  apply Triple.bind (B := fun text' p => Setting cfg on p ∧ (Harmless lib cfg p.2 →
    usable lib cfg text' = true ∧ (on = false → live lib cfg text' = false)))
  · apply triple_at
    rintro b h hinv ⟨hp, rfl⟩
    rcases hw : withEnabled lib on b.configFile with e | text'
    · simp only [hostDeps, hw]
      apply triple_throw
      rintro p rfl
      apply hp.settled
      rintro rfl hh
      apply live_of_unloaded (hinv hh).usable
      by_contra hl
      obtain ⟨doc, hdoc⟩ := loads_iff.mp (by simpa using hl)
      obtain ⟨text', doc', hw', -⟩ := loads_withEnabled hlib false hdoc
      rw [hw] at hw'
      cases hw'
    · simp only [hostDeps, hw]
      apply triple_pure
      rintro p rfl
      exact ⟨hp, fun hh => live_withEnabled hlib (hinv hh).usable hw⟩
  intro text'
  have hwrite : Triple (pauseMachine lib cfg hH) .telegram
      (fun p => Setting cfg on p ∧ (Harmless lib cfg p.2 →
        usable lib cfg text' = true ∧ (on = false → live lib cfg text' = false)))
      (writeConfigFile text') (fun _ => Settled lib cfg) (Settled lib cfg) := by
    have hleave : ∀ text, Triple (pauseMachine lib cfg hH) .telegram
        (fun p => Setting cfg on p ∧ (Harmless lib cfg p.2 →
          usable lib cfg text = true ∧ (on = false → live lib cfg text = false)))
        (leaveText text) (fun _ => Settled lib cfg) (Settled lib cfg) := by
      intro text
      apply triple_modify
      rintro b h - ⟨hp, htext⟩
      constructor
      · apply Relation.ReflTransGen.single
        apply PauseAct.write
        intro hh
        refine ⟨(htext hh).1, ?_⟩
        intro hpaused
        cases on with
        | false => exact (htext hh).2 rfl
        | true =>
          have hreleased : pausedSince cfg h = false := hp.released rfl
          rw [hreleased] at hpaused
          cases hpaused
      · have hset : Setting cfg on ({ b with configFile := text }, h) := ⟨hp.command, hp.released⟩
        exact hset.settled fun hon hh => (htext hh).2 hon
    apply Triple.bind (B := fun r p => ∀ text, (r.elim text' Prod.snd) = text →
      Setting cfg on p ∧ (Harmless lib cfg p.2 →
        usable lib cfg text = true ∧ (on = false → live lib cfg text = false)))
    · apply triple_choose
      rintro b h o - ⟨hp, htext⟩ -
      have hline : Setting cfg on (b, .choice .telegram (.writeConfig text') b o :: h) :=
        hp.line rfl rfl
      refine ⟨.single (.tell rfl rfl fun h => by cases h), ?_⟩
      rintro text rfl
      refine ⟨hline, ?_⟩
      intro hh
      cases o with
      | none => exact htext hh.2
      | some r =>
        obtain ⟨e, left⟩ := r
        have hcommand : lastCommand cfg h = some (if on then "resume" else "pause") := hp.command
        cases on with
        | false =>
          have hlive : live lib cfg left = false := by simpa [harmless, hcommand] using hh.1
          exact ⟨usable_of_live hlive, fun _ => hlive⟩
        | true =>
          have husable : usable lib cfg left = true := by simpa [harmless, hcommand] using hh.1
          exact ⟨husable, fun h => by cases h⟩
    · intro r
      cases r with
      | none => exact (hleave text').mono (fun p hp => hp _ rfl) (fun _ _ hp => hp) fun _ hp => hp
      | some r =>
        apply ((hleave r.2).mono (fun p hp => hp _ rfl) (fun _ _ hp => hp) fun _ hp => hp).bind
        exact fun _ => triple_throw fun p hp => hp
  apply hwrite.bind
  intro _
  have hrecord : Within chatBounds True (do
      let ts ← now
      recordOperatorAction ⟨ts, if on then "telegram:resume" else "telegram:pause", "telegram"⟩) := by
    apply within_bind (within_choose trivial)
    intro ts
    apply within_bind (within_choose trivial)
    intro r
    cases r with
    | none => exact within_modify fun _ => rfl
    | some e => exact within_throw e
  exact triple_chat hrecord

theorem triple_setEnabled (hlib : lib.RoundTrips) (on : Bool) :
    Triple (pauseMachine lib cfg hH) .telegram (Setting cfg on)
      (setEnabled (hostDeps lib pool) on) (fun _ => Settled lib cfg) (Settled lib cfg) := by
  apply (triple_rewriteEnabled hlib on).tryCatch
  intro e
  exact triple_pure fun p hp => hp

theorem within_reply (chatId : ℤ) (notice : Notice) :
    Within chatBounds True (reply chatId notice) := within_call trivial trivial

theorem triple_pause (hlib : lib.RoundTrips) (msg : DepositorCommands.Msg) :
    Triple (pauseMachine lib cfg hH) .telegram (Setting cfg false) (pause (hostDeps lib pool) msg)
      (fun _ => Settled lib cfg) (Settled lib cfg) :=
  (triple_setEnabled hlib false).bind fun _ => triple_chat (within_reply _ _)

theorem triple_resume (hlib : lib.RoundTrips) (msg : DepositorCommands.Msg) :
    Triple (pauseMachine lib cfg hH) .telegram (Setting cfg true) (resume (hostDeps lib pool) msg)
      (fun _ => Settled lib cfg) (Settled lib cfg) := by
  have hclear : Within chatBounds True (setDegraded false) := by
    intro b
    refine ⟨trivial, rfl, fun o => ?_⟩
    cases o with
    | none => exact rfl
    | some e => exact rfl
  apply (triple_setEnabled hlib true).bind
  intro _
  exact (triple_chat hclear).bind fun _ => triple_chat (within_reply _ _)

theorem setting_start {on : Bool} {j : BotJob} {b : BotWorld} {h : Diary}
    (hj : command cfg j = some (if on then "resume" else "pause")) :
    Setting cfg on (b, .start .telegram j b :: h) := by
  refine ⟨hj, ?_⟩
  rintro rfl
  have hresumes : resumes cfg (.start .telegram j b) = true := by simpa [resumes] using hj
  simp [pausedSince, answersPause, hresumes]

theorem settled_start {j : BotJob} {b : BotWorld} {h : Diary} (hj : command cfg j ≠ some "pause") :
    Settled lib cfg (b, .start .telegram j b :: h) := fun hcommand _ => absurd hcommand hj

theorem triple_dispatch (hlib : lib.RoundTrips) (msg : DepositorCommands.Msg) (b : BotWorld)
    (h : Diary) : Triple (pauseMachine lib cfg hH) .telegram
      (fun p => p = (b, .start .telegram (.message msg) b :: h))
      (dispatch (hostDeps lib pool) cfg msg) (fun _ => Settled lib cfg) (Settled lib cfg) := by
  have hother : ∀ {m : Process Unit}, command cfg (.message msg) ≠ some "pause" →
      Within chatBounds True m → Triple (pauseMachine lib cfg hH) .telegram
        (fun p => p = (b, .start .telegram (.message msg) b :: h)) m
        (fun _ => Settled lib cfg) (Settled lib cfg) := by
    intro m hcommand hm
    apply (triple_chat hm).mono _ (fun _ _ hp => hp) fun _ hp => hp
    rintro p rfl
    exact settled_start hcommand
  have hset : ∀ {m : Process Unit} (on : Bool),
      TextInput.commandName msg.text = some (if on then "resume" else "pause") →
      Triple (pauseMachine lib cfg hH) .telegram (Setting cfg on) m
        (fun _ => Settled lib cfg) (Settled lib cfg) →
      Triple (pauseMachine lib cfg hH) .telegram
        (fun p => p = (b, .start .telegram (.message msg) b :: h)) (asOperator cfg msg m)
        (fun _ => Settled lib cfg) (Settled lib cfg) := by
    intro m on hname hm
    apply triple_ite
    · intro hoperator
      apply hm.mono _ (fun _ _ hp => hp) fun _ hp => hp
      rintro p rfl
      apply setting_start
      simpa [command, hoperator] using hname
    · intro hoperator
      have hcommand : command cfg (.message msg) ≠ some "pause" := by simp [command, hoperator]
      exact hother hcommand (within_pure ())
  unfold dispatch
  split
  · next hname => exact hset false hname (triple_pause hlib msg)
  · next hname => exact hset true hname (triple_resume hlib msg)
  · next hpause hresume =>
    have hcommand : command cfg (.message msg) ≠ some "pause" := by
      intro h
      simp only [command] at h
      split at h
      · exact hpause h
      · cases h
    apply hother hcommand
    cases wiredVault cfg with
    | some v => exact within_vaultProgram _
    | none =>
      have hoperator : ∀ {m : Process Unit}, Within chatBounds True m →
          Within chatBounds True (asOperator cfg msg m) :=
        fun hm => within_ite (fun _ => hm) fun _ => within_pure ()
      simp only [dispatchPlain]
      split
      · exact hoperator (within_bind (within_read _) fun _ => within_reply _ _)
      · exact hoperator (within_reply _ _)
      · exact within_pure ()

theorem triple_dispatchCallback (msg : DepositorCommands.Msg) (b : BotWorld) (h : Diary) :
    Triple (pauseMachine lib cfg hH) .telegram
      (fun p => p = (b, .start .telegram (.button msg) b :: h))
      (dispatchCallback (hostDeps lib pool) cfg msg) (fun _ => Settled lib cfg)
      (Settled lib cfg) := by
  have hbutton : Within chatBounds True (dispatchCallback (hostDeps lib pool) cfg msg) := by
    unfold dispatchCallback
    cases wiredVault cfg with
    | none => exact within_pure ()
    | some v => exact within_vaultProgram _
  apply (triple_chat hbutton).mono _ (fun _ _ hp => hp) fun _ hp => hp
  rintro p rfl
  exact settled_start fun h => by cases h

end Chat

/-- In every run of one process in which each failure of a read or a write leaves the bot as
disabled as it should be, no tick that begins after a pause has been answered and before the
next resume opens, rebalances or drains. -/
theorem harmless_run_obeys (hH : OwnsFile H) {lib : ConfigFile.Library} (hlib : lib.RoundTrips)
    {pool : MeteoraPosition.Venue} {cfg : MainConfig} {b : BotWorld} {p : DiaryPoint}
    (hb : loads lib b.configFile = true) (hp : Recorded (hostDeps lib pool) cfg H b p)
    (hharmless : Harmless lib cfg p.2) : Obedient cfg p.2 := by
  have hstop : ∀ b h, (pauseMachine lib cfg hH).inv (b, h) →
      (pauseMachine lib cfg hH).inv (restart b, .stop b :: h) := by
    intro b h _ hh
    cases hh.1
  have hstart : (pauseMachine lib cfg hH).inv (b, []) := by
    intro _
    refine ⟨?_, (fun h => by cases h), obedient_nil⟩
    simp [usable, hb]
  have hjobs : ∀ (j : BotJob) b h, Triple (pauseMachine lib cfg hH) j.fiber
      (fun p => p = (b, .start j.fiber j b :: h)) (j.program (hostDeps lib pool) cfg)
      (fun _ _ => True) fun _ => True := by
    intro j b h
    cases j with
    | tick =>
      exact (triple_tick b h).mono (fun _ hp => hp) (fun _ _ _ => trivial) fun _ _ => trivial
    | message msg =>
      exact (triple_dispatch hlib msg b h).mono (fun _ hp => hp) (fun _ _ _ => trivial)
        fun _ _ => trivial
    | button msg =>
      exact (triple_dispatchCallback msg b h).mono (fun _ hp => hp) (fun _ _ _ => trivial)
        fun _ _ => trivial
  exact (recorded_inv hstop (fun j b h => .start j) hjobs hstart hp hharmless).obedient

def playedEntries (on : Bool) : List (String × Value) :=
  [("enabled", .bool on), ("poolAddress", .string "11111111111111111111111111111111"),
   ("bertMint", .string "22222222222222222222222222222222"), ("rangeWidthPct", .number 20),
   ("sustainedMinutes", .number 5), ("minRebalanceIntervalMin", .number 30),
   ("maxRebalancesPerDay", .number 3), ("maxSlippageBps", .number 50),
   ("maxDrawdownPct", .number 15), ("drawdownWindowMin", .number 60),
   ("maxPositionUsd", .number 1000), ("oracleDivergenceBps", .number 500),
   ("oracleStaleMinutes", .number 5), ("rpcOutageMinutes", .number 5),
   ("minSolBalance", .number 2), ("hardPauseSolBalance", .number 1),
   ("pollIntervalSec", .number 30), ("feeCollectionMode", .string "on_rebalance"),
   ("feeHandling", .string "compound"), ("rpcPrimary", .string "https://primary"),
   ("rpcFallback", .string "https://fallback"), ("keyfilePath", .string "key"),
   ("statePath", .string "state"), ("killSwitchFilePath", .string "kill"),
   ("heartbeatPath", .string "heartbeat"), ("dryRun", .bool false),
   ("notifier", .map [("telegram", .map [("botToken", .string "token"),
     ("chatIdInfo", .string "1"), ("chatIdCritical", .string "1")])])]

/-- The document as it is written to the file; strings of digits stand in quotes. -/
def playedText : Bool → String
  | true => "enabled: true
poolAddress: \"11111111111111111111111111111111\"
bertMint: \"22222222222222222222222222222222\"
rangeWidthPct: 20
sustainedMinutes: 5
minRebalanceIntervalMin: 30
maxRebalancesPerDay: 3
maxSlippageBps: 50
maxDrawdownPct: 15
drawdownWindowMin: 60
maxPositionUsd: 1000
oracleDivergenceBps: 500
oracleStaleMinutes: 5
rpcOutageMinutes: 5
minSolBalance: 2
hardPauseSolBalance: 1
pollIntervalSec: 30
feeCollectionMode: on_rebalance
feeHandling: compound
rpcPrimary: https://primary
rpcFallback: https://fallback
keyfilePath: key
statePath: state
killSwitchFilePath: kill
heartbeatPath: heartbeat
dryRun: false
notifier:
  telegram:
    botToken: token
    chatIdInfo: \"1\"
    chatIdCritical: \"1\"
"
  | false => "enabled: false
poolAddress: \"11111111111111111111111111111111\"
bertMint: \"22222222222222222222222222222222\"
rangeWidthPct: 20
sustainedMinutes: 5
minRebalanceIntervalMin: 30
maxRebalancesPerDay: 3
maxSlippageBps: 50
maxDrawdownPct: 15
drawdownWindowMin: 60
maxPositionUsd: 1000
oracleDivergenceBps: 500
oracleStaleMinutes: 5
rpcOutageMinutes: 5
minSolBalance: 2
hardPauseSolBalance: 1
pollIntervalSec: 30
feeCollectionMode: on_rebalance
feeHandling: compound
rpcPrimary: https://primary
rpcFallback: https://fallback
keyfilePath: key
statePath: state
killSwitchFilePath: kill
heartbeatPath: heartbeat
dryRun: false
notifier:
  telegram:
    botToken: token
    chatIdInfo: \"1\"
    chatIdCritical: \"1\"
"

/-- The bytes of the first entry, where the two forms of the document part. -/
def firstEntry (text : String) : List UInt8 := text.toByteArray.data.toList.take 13

/-- A library that knows one document, in its two forms. -/
def playedLibrary : ConfigFile.Library where
  parseYaml text :=
    if firstEntry text = firstEntry (playedText true) then .ok (.map (playedEntries true))
    else if firstEntry text = firstEntry (playedText false) then .ok (.map (playedEntries false))
    else .error (.error "YAML")
  stringifyYaml
    | .map (("enabled", .bool true) :: _) => playedText true
    | _ => playedText false
  isUrl text := text.toList.take 8 = "https://".toList

theorem firstEntry_ne : firstEntry (playedText false) ≠ firstEntry (playedText true) := by
  decide +kernel

theorem playedLibrary_roundTrips : playedLibrary.RoundTrips := by
  intro text v v' b hv hv'
  have hdoc : ∃ on, v = .map (playedEntries on) := by
    simp only [playedLibrary] at hv
    split at hv
    · exact ⟨true, (Except.ok.inj hv).symm⟩
    · split at hv
      · exact ⟨false, (Except.ok.inj hv).symm⟩
      · cases hv
  obtain ⟨on, rfl⟩ := hdoc
  have hset : v' = .map (playedEntries b) := by
    cases on <;> exact (Except.ok.inj hv').symm
  subst hset
  cases b with
  | true => simp [playedLibrary, playedEntries]
  | false => simp [playedLibrary, playedEntries, firstEntry_ne]

/-- A bot that its operator can reach over the chat. -/
def chattyMain : MainConfig := { playedMain with telegram := true, chatIdInfo := some 1 }

def chattyDeps : MainDeps := hostDeps playedLibrary flatVenue

def chattyWorld : BotWorld := { botWith [] none with configFile := playedText true }

def pausingScene : BotScene where
  vault := {
    clock := 1000
    samples := [⟨"dexscreener", 1, 100, 100, 0⟩, ⟨"jupiter", 1, 100, 100, 0⟩] }

def pausing : List BotJob := [.message ⟨1, 1, "/pause"⟩, .tick]

theorem scene_ownsFile (sc : BotScene) : OwnsFile sc.host where
  read := by
    intro b text h
    have hread : (.ok text : Except Thrown String) = sc.choose .readConfig b := h
    simp only [BotScene.choose] at hread
    cases hu : sc.unreadable with
    | none =>
      rw [hu] at hread
      exact Except.ok.inj hread
    | some e =>
      rw [hu] at hread
      cases hread
  respond hr := (sc.respond_own hr).2.1

theorem played_loads : loads playedLibrary chattyWorld.configFile = true := by decide +kernel

theorem pausing_obeys :
    tickPaused chattyMain (pausingScene.playJobs chattyDeps chattyMain pausing chattyWorld).2 = true ∧
      Obedient chattyMain (pausingScene.playJobs chattyDeps chattyMain pausing chattyWorld).2 := by
  refine ⟨by decide +kernel, harmless_run_obeys (scene_ownsFile pausingScene)
    playedLibrary_roundTrips played_loads (pausingScene.plays _ _ pausing chattyWorld) ?_⟩
  decide +kernel

def disobeys (cfg : MainConfig) : Diary → Bool
  | [] => false
  | e :: h => (e.fiber = some .main && acts e && tickPaused cfg h) || disobeys cfg h

theorem not_obedient {cfg : MainConfig} {h : Diary} (hd : disobeys cfg h = true) :
    ¬Obedient cfg h := by
  intro ho
  induction h with
  | nil => cases hd
  | cons e h ih =>
    simp only [disobeys, Bool.or_eq_true, Bool.and_eq_true, decide_eq_true_eq] at hd
    rcases hd with ⟨⟨hfiber, hacts⟩, hpaused⟩ | hd
    · rw [ho e h List.suffix_rfl hfiber hacts] at hpaused
      cases hpaused
    · exact ih hd fun e' older hsuffix => ho e' older (hsuffix.trans (List.suffix_cons e h))

/-- The configuration file cannot be written. -/
def unwritableScene : BotScene :=
  { pausingScene with unwritable := some (.error "EACCES") }

/-- The pause is answered, the file still says enabled, and the next tick opens a position. -/
theorem lost_pause_opens : OwnsFile unwritableScene.host ∧ playedLibrary.RoundTrips ∧
    loads playedLibrary chattyWorld.configFile = true ∧
    ∃ p, Recorded chattyDeps chattyMain unwritableScene.host chattyWorld p ∧
      tickPaused chattyMain p.2 = true ∧ ¬Obedient chattyMain p.2 ∧
      p.1.world.chain.positions.map OnchainPosition.publicKey = ["new"] := by
  refine ⟨scene_ownsFile unwritableScene, playedLibrary_roundTrips, played_loads, _,
    unwritableScene.plays _ _ pausing chattyWorld, by decide +kernel, ?_, by decide +kernel⟩
  apply not_obedient
  decide +kernel

end PauseSwitch
