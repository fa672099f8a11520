import BertMMBot.PlayedBot
import BertMMBot.RebalanceBounds
import BertMMBot.TxSubmission

/-! # Dry runs

In a dry run the rebalancer submits nothing, by either route. The vault's parts submit without
the flag: a bot whose vault is wired sends transactions all the same. -/
namespace DryRun

open AsyncProgram AsyncContract AsyncFibers AsyncRecords RecordedOutcomes AsyncWiring
open VaultTypes BotProgram Rebalancer MainLoop TxSubmission BotRuns PlayedBot
open RebalanceBounds (transmits Lenient)
open LoopWalk (Observant within_liftExcept)
open MeteoraPosition (PositionSnapshot)

/-- The transaction that goes out with a line. -/
def sent : Line → Option Transaction
  | .call _ (.submit tx) _ => some tx
  | .call _ (.sendAndConfirmTransaction tx) _ => some tx
  | .call _ (.sendBundle tx) _ => some tx
  | _ => none

def Silent (h : Diary) : Prop := h.filterMap sent = []

def silentBounds : Bounds botInterface BotWorld Unit where
  choice _ := True
  call q := transmits q = false
  view _ := ()

variable {library : ConfigFile.Library} {pool : MeteoraPosition.Venue} {jito : Option JitoClient}
  {cfg : MainConfig}

theorem lenient_silent (jito : Option JitoClient) (hdry : cfg.maker.dryRun = true) :
    Lenient silentBounds (networkSubmitter jito) cfg.maker where
  choice := fun _ _ => trivial
  call := fun q hq => hq
  view := fun _ _ _ => rfl
  submit := by
    intro tx opts hopts
    exact within_ite (fun _ => within_pure _) fun h => absurd (hopts hdry) h
  submitProtected := by
    intro tx opts hopts
    have hsubmit : Within silentBounds True (submit tx opts) :=
      within_ite (fun _ => within_pure _) fun h => absurd (hopts hdry) h
    cases jito with
    | none => exact hsubmit
    | some jito => exact within_ite (fun _ => within_pure _) fun h => absurd (hopts hdry) h

theorem observant_silent : Observant silentBounds where
  choice _ _ := trivial
  call := by
    intro q hq
    cases q with
    | submit tx => cases hq
    | sendAndConfirmTransaction tx => cases hq
    | sendBundle tx => cases hq
    | _ => rfl
  observe _ _ := rfl
  alerted _ _ := rfl

theorem silent_choose {c : BotChoice} :
    Within silentBounds True (Async.choose (I := botInterface) c : Process c.Outcome) :=
  within_choose trivial

theorem silent_tickWithPosition (hdry : cfg.maker.dryRun = true) (hvault : wiredVault cfg = none)
    {tickStart : ℤ} {killed : Bool} {mid : Option MidPrice} {stored : Option StoredPosition}
    {position : Option PositionSnapshot} : Within silentBounds True
      (tickWithPosition (networkDeps library pool jito) cfg tickStart killed mid stored position) := by
  have hrebalance : ∀ mid current cause, Within silentBounds True (executeRebalance
      (rebalancerDeps (networkDeps library pool jito) cfg) mid current cause) :=
    fun mid current cause => RebalanceBounds.within_executeRebalance (lenient_silent jito hdry)
  apply within_bind (within_read _)
  intro s
  cases initialMid stored s with
  | some mid =>
    have hopen : Within silentBounds True (openInitial (networkDeps library pool jito) cfg mid) := by
      apply within_bind (hrebalance _ _ _)
      exact fun _ => within_ite (fun _ => observant_silent.notify _ _) fun _ => within_pure ()
    exact within_bind hopen fun _ => observant_silent.writeHeartbeat
  | none =>
    have hact : Within silentBounds True (actOn (networkDeps library pool jito) cfg s
        (Strategy.decide s (strategyParams cfg.maker))) := by
      cases Strategy.decide s (strategyParams cfg.maker) with
      | rebalance reason center =>
        cases hprice : s.price with
        | none =>
          simp only [actOn, hprice]
          exact within_pure ()
        | some mid =>
          simp only [actOn, hprice]
          exact within_bind (hrebalance _ _ _) fun _ => within_pure ()
      | pause reason => exact observant_silent.alert _ _ _
      | alertOnly reason => exact observant_silent.alert _ _ _
      | hold reason => exact observant_silent.setLastAlerted none
    apply within_bind hact
    intro _
    unfold vaultPostRebalance
    rw [hvault]
    exact within_bind (within_pure ()) fun _ => observant_silent.writeHeartbeat

theorem silent_tick (hdry : cfg.maker.dryRun = true) (hvault : wiredVault cfg = none) :
    Within silentBounds True (tick (networkDeps library pool jito) cfg) := by
  have hbody : ∀ tickStart, Within silentBounds True
      (tickBody (networkDeps library pool jito) cfg tickStart) := by
    intro tickStart
    apply within_bind observant_silent.killSwitchTripped
    intro killed
    apply within_bind (observant_silent.readOracle tickStart)
    intro mid
    unfold vaultPreRebalance
    rw [hvault]
    apply within_bind (within_pure ())
    intro _
    apply within_bind (within_read _)
    intro stored
    apply within_bind (observant_silent.readTracked rfl mid stored)
    intro tracked
    cases tracked with
    | rpcFailed => exact observant_silent.writeHeartbeat
    | position p => exact silent_tickWithPosition hdry hvault
  apply within_bind silent_choose
  intro tickStart
  apply within_bind (within_tryCatch (hbody tickStart) fun _ => observant_silent.notify _ _)
  intro _
  exact within_bind silent_choose fun _ => observant_silent.ask rfl

theorem silent_setEnabled (on : Bool) :
    Within silentBounds True (setEnabled (networkDeps library pool jito) on) := by
  apply within_tryCatch
  · apply within_bind observant_silent.readConfigFile
    intro text
    apply within_bind (within_liftExcept _)
    intro text'
    apply within_bind
    · apply within_bind silent_choose
      intro r
      rcases r with _ | ⟨e, left⟩
      · exact within_modify fun _ => rfl
      · exact within_bind (within_modify fun _ => rfl) fun _ => within_throw _
    · intro _
      apply within_bind silent_choose
      intro ts
      apply within_bind silent_choose
      intro r
      cases r with
      | none => exact within_modify fun _ => rfl
      | some e => exact within_throw e
  · exact fun _ => within_pure ()

theorem silent_dispatch (hdry : cfg.maker.dryRun = true) (hvault : wiredVault cfg = none)
    (msg : DepositorCommands.Msg) :
    Within silentBounds True (dispatch (networkDeps library pool jito) cfg msg) := by
  have hreply : ∀ notice, Within silentBounds True (reply msg.chatId notice) :=
    fun notice => within_call trivial rfl
  have hoperator : ∀ {m : Process Unit}, Within silentBounds True m →
      Within silentBounds True (asOperator cfg msg m) :=
    fun hm => within_ite (fun _ => hm) fun _ => within_pure ()
  unfold dispatch
  split
  · exact hoperator (within_bind (silent_setEnabled _) fun _ => hreply _)
  · apply hoperator
    apply within_bind (silent_setEnabled _)
    exact fun _ => within_bind ((lenient_silent jito hdry).staging.setDegraded _) fun _ => hreply _
  · rw [hvault]
    simp only [dispatchPlain]
    split
    · exact hoperator (within_bind (within_read _) fun _ => hreply _)
    · exact hoperator (hreply _)
    · exact within_pure ()

theorem silent_job (hdry : cfg.maker.dryRun = true) (hvault : wiredVault cfg = none) (j : BotJob) :
    Within silentBounds True (j.program (networkDeps library pool jito) cfg) := by
  cases j with
  | tick => exact silent_tick hdry hvault
  | message msg => exact silent_dispatch hdry hvault msg
  | button msg =>
    simp only [BotJob.program, dispatchCallback, hvault]
    exact within_pure ()

theorem silent_of_unwired (hdry : cfg.maker.dryRun = true) (hvault : wiredVault cfg = none)
    {H : BotHost} {b : BotWorld} {p : DiaryPoint}
    (hp : Recorded (networkDeps library pool jito) cfg H b p) : Silent p.2 := by
  obtain ⟨c, hexec, rfl⟩ := hp
  apply List.filterMap_eq_nil_iff.mpr
  intro e he
  have hline : Honours silentBounds e := execution_within (silent_job hdry hvault) hexec e he
  cases e with
  | call i q s =>
    cases q with
    | submit tx => cases hline
    | sendAndConfirmTransaction tx => cases hline
    | sendBundle tx => cases hline
    | _ => rfl
  | _ => rfl

def enrolling : List BotJob := [.message ⟨7, 7, "/account"⟩, .message ⟨7, 7, "/accept"⟩]

def enrollingScene : BotScene where
  vault := { clock := 1000, keypair := ⟨"deposit", PlayedRuns.depositKey⟩ }

theorem dispatch_enrollment (deps : MainDeps) {v : VaultConfig} (hvault : wiredVault cfg = some v)
    (msg : DepositorCommands.Msg) {name : String} {m : VaultProgram.Vault Unit}
    (hname : TextInput.commandName msg.text = some name) (hpause : name ≠ "pause")
    (hresume : name ≠ "resume")
    (hm : VaultRuntime.handler (VaultRuntime.commanderDeps deps.pool (vaultPart cfg v)) name msg =
      some (.enrollment, m)) : dispatch deps cfg msg = vaultProgram deps cfg m := by
  unfold dispatch
  split
  · next h => exact absurd (Option.some.inj (hname.symm.trans h)) hpause
  · next h => exact absurd (Option.some.inj (hname.symm.trans h)) hresume
  · rw [hvault]
    simp only [VaultRuntime.dispatch, hname, hm]
    rfl

theorem enrolling_sends {v : VaultConfig} (hvault : wiredVault cfg = some v) :
    (enrollingScene.playJobs (networkDeps library pool jito) cfg enrolling
      (botWith [] none)).2.filterMap sent = [[.createAta "deposit"]] := by
  have haccount : TextInput.commandName "/account" = some "account" := by decide +kernel
  have haccept : TextInput.commandName "/accept" = some "accept" := by decide +kernel
  have hopens := dispatch_enrollment (networkDeps library pool jito) hvault ⟨7, 7, "/account"⟩
    haccount (by decide) (by decide) rfl
  have hcreates := dispatch_enrollment (networkDeps library pool jito) hvault ⟨7, 7, "/accept"⟩
    haccept (by decide) (by decide) rfl
  simp only [BotScene.playJobs, enrolling, List.map, playAll, List.foldl, Episode.play,
    Jobs.recording, botJobs, BotJob.program, hopens, hcreates]
  rfl

/-- In a dry run nothing is ever sent, in no run of ticks and commands, exactly if no vault is
wired. -/
theorem dry_run_sends_nothing_iff (library : ConfigFile.Library) (pool : MeteoraPosition.Venue)
    (jito : Option JitoClient) (cfg : MainConfig) (hdry : cfg.maker.dryRun = true) :
    (∀ H b p, Recorded (networkDeps library pool jito) cfg H b p → Silent p.2) ↔
      wiredVault cfg = none := by
  constructor
  · intro hsilent
    cases hvault : wiredVault cfg with
    | none => rfl
    | some v =>
      have hplayed := enrollingScene.plays (networkDeps library pool jito) cfg enrolling
        (botWith [] none)
      have hnothing := hsilent _ _ _ hplayed
      rw [Silent, enrolling_sends hvault] at hnothing
      cases hnothing
  · intro hvault H b p hp
    exact silent_of_unwired hdry hvault hp

theorem three_pos : 0 < 3 := by decide

def vaultCommands : DepositorCommands.CommandsConfig :=
  ⟨100, 1, 3, 1000, 3, by decide, by norm_num, three_pos, by norm_num, three_pos⟩

/-- A bot in a dry run, with a vault behind the chat. -/
def dryMain : MainConfig where
  maker := { playedConfig with dryRun := true }
  mevProtection := none
  telegram := true
  chatIdInfo := none
  vault := some ⟨1, vaultCommands, 24⟩

theorem dry_run_sends_nothing_iff_enrolling :
    dryMain.maker.dryRun = true ∧
      ¬∀ H b p, Recorded (networkDeps blindLibrary flatVenue none) dryMain H b p → Silent p.2 := by
  refine ⟨rfl, fun hsilent => ?_⟩
  have hwired := (dry_run_sends_nothing_iff blindLibrary flatVenue none dryMain rfl).mp hsilent
  cases hwired

/-- One withdrawal is queued, and a position is open. -/
def owingWorld : BotWorld :=
  let b := botWith [positionAt "k"] (some (storedAs "k"))
  let row : WithdrawalRow :=
    ⟨1, 7, .queued, "home", 1, 0, none, none, none, none, none, 0, none⟩
  { b with
    configFile := "enabled: true"
    world := { b.world with db := { b.world.db with shares := [⟨7, 10⟩], withdrawals := [row] } } }

def quotingScene : BotScene where
  vault := {
    clock := 1000
    samples := [⟨"dexscreener", 1, 100, 100, 0⟩, ⟨"jupiter", 1, 100, 100, 0⟩] }

/-- A tick of a dry run sends a tenth of the wallet to a depositor. -/
theorem dry_run_pays : dryMain.maker.dryRun = true ∧
    ∃ p, Recorded (networkDeps blindLibrary flatVenue none) dryMain quotingScene.host owingWorld p ∧
      p.2.filterMap sent = [[.setComputeUnitPrice 50, .withdrawal "home" 99999990 0]] ∧
      ¬Silent p.2 := by
  have hsent : (quotingScene.playJobs (networkDeps blindLibrary flatVenue none) dryMain [.tick]
      owingWorld).2.filterMap sent =
        [[.setComputeUnitPrice 50, .withdrawal "home" 99999990 0]] := by decide +kernel
  refine ⟨rfl, _, quotingScene.plays _ _ [.tick] owingWorld, hsent, ?_⟩
  rw [Silent, hsent]
  exact List.cons_ne_nil _ _

end DryRun
