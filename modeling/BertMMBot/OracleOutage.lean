import BertMMBot.CliRuns
import BertMMBot.PriceSources
import BertMMBot.RebalanceLimits

/-! # While the services do not agree

A round in which one of the services is down, or the two are too far apart, has no trusted mid.
As long as that lasts neither the bot nor the commands that would trade at the mid move
anything, whatever else the bot has to do in the meantime. -/
namespace OracleOutage

open AsyncProgram AsyncContract AsyncRecords RecordedTriples RecordedOutcomes AsyncWiring
open WiredOutcomes VaultTypes BotProgram Rebalancer MainLoop MakerBounds LoopWalk
open TrackedPosition TrackedRuns OperatorCli CliBounds CliRuns PriceSources PlayedBot
open RebalanceLimits (KeepsLog)

variable {answers : Answers} {bps bps' : ℚ}

/-- A service does not quote, or the quotes are too far apart. -/
def Outage (bps : ℚ) (answers : Answers) : Prop := ∀ j d,
  fetchJupiter answers = some j → fetchDexScreener answers = some d → ¬Agree bps j d

theorem outage_untrusted (h : Outage bps answers) (fallback : ℚ) (now : ℤ) :
    VaultRuntime.computeTrustedMid (fetchAllSources answers) fallback now bps = none := by
  apply Option.eq_none_iff_forall_ne_some.mpr
  intro m hm
  obtain ⟨j, d, hj, hd, hagree, -⟩ := trusted_mid_iff.mp hm
  exact h j d hj hd hagree

theorem Outage.stricter (h : Outage bps answers) (hle : bps' ≤ bps) : Outage bps' answers := by
  intro j d hj hd hagree
  have hmax : 0 < max j.bertUsd d.bertUsd := lt_max_of_lt_left (fetchJupiter_some hj).2.1
  have hbound : bps' / 10000 * max j.bertUsd d.bertUsd ≤ bps / 10000 * max j.bertUsd d.bertUsd := by
    gcongr
  exact h j d hj hd (hagree.trans hbound)

/-- Every round that is answered is an outage. -/
def Dark (bps : ℚ) (H : BotHost) : Prop := ∀ b samples b',
  H.respond (.vault .fetchAllSources) b (.ok samples) b' →
    ∃ answers, Outage bps answers ∧ samples = fetchAllSources answers

section Tick

variable {ι J : Type} {H : BotHost} {i : ι} {A : Point ι J botInterface BotWorld Thrown → Prop}
  {library : ConfigFile.Library} {pool : MeteoraPosition.Venue} {cfg : MainConfig}

theorem outcome_samples (hdark : Dark bps H)
    (hA : Undisturbed H i (botBounds true false true) A) :
    Outcome H i A (BotProgram.ask (.vault .fetchAllSources))
      (fun samples p => (∃ answers, Outage bps answers ∧ samples = fetchAllSources answers) ∧ A p)
      A := by
  apply outcome_call
  intro b h b' a ha hr
  have hcall : (botBounds true false true).call (.vault .fetchAllSources) :=
    ⟨(fun h => by cases h), fun h => by cases h⟩
  have hstill := hA.call hcall hr ha
  cases a with
  | error e => exact hstill
  | ok samples => exact ⟨hdark b samples b' hr, hstill⟩

theorem outcome_readOracle (hdark : Dark bps H) (hbps : cfg.maker.oracleDivergenceBps ≤ bps)
    (hA : Undisturbed H i (botBounds true false true) A) (t : ℤ) :
    Outcome H i A (readOracle cfg t) (fun mid p => mid = none ∧ A p) A := by
  apply (outcome_samples hdark hA).bind
  intro samples
  apply outcome_of_fact
  rintro ⟨answers, houtage, rfl⟩
  rw [outage_untrusted (houtage.stricter hbps)]
  have hobserve : Within (botBounds true false true) True
      (Async.modify (observe none) : Process Unit) := within_modify fun _ => rfl
  apply (outcome_within hA hobserve).bind
  exact fun _ => outcome_pure fun p hp => ⟨rfl, hp⟩

theorem outcome_tickWithPosition (hA : Undisturbed H i (botBounds true false true) A) {t : ℤ}
    {killed : Bool} {row : Option StoredPosition}
    {position : Option MeteoraPosition.PositionSnapshot} :
    Outcome H i A (tickWithPosition (hostDeps library pool) cfg t killed none row position)
      (fun _ => A) A := by
  have hleads : Leads H i (botBounds true false true) A A := fun _ hm => outcome_within hA hm
  apply Outcome.bind (B := fun s p => s.price = none ∧ A p)
  · exact outcome_read fun p hp => ⟨rfl, hp⟩
  intro s
  apply outcome_of_fact
  intro hprice
  have hinit : initialMid row s = none := by
    unfold initialMid
    split
    · exact hprice
    · rfl
  have hact : Outcome H i A
      (actOn (hostDeps library pool) cfg s (Strategy.decide s (strategyParams cfg.maker)))
      (fun _ => A) A := by
    apply outcome_actOn_of observant_botBounds hleads
    intro reason center mid _ hmid
    rw [hprice] at hmid
    cases hmid
  simp only [hinit]
  apply hact.bind
  intro _
  apply (outcome_within hA (within_vaultPostRebalance library pool cfg _)).bind
  exact fun _ => outcome_within hA within_writeHeartbeat

theorem outcome_tick (hdark : Dark bps H) (hbps : cfg.maker.oracleDivergenceBps ≤ bps)
    (hA : Undisturbed H i (botBounds true false true) A) :
    Outcome H i A (tick (hostDeps library pool) cfg) (fun _ => A) A := by
  have hsteady : ∀ {α : Type} {m : Process α}, Within (botBounds true false true) True m →
      Outcome H i A m (fun _ => A) A := fun hm => outcome_within hA hm
  have hbody : ∀ t, Outcome H i A (tickBody (hostDeps library pool) cfg t) (fun _ => A) A := by
    intro t
    apply (hsteady (within_killSwitchTripped library pool cfg)).bind
    intro killed
    apply (outcome_readOracle hdark hbps hA t).bind
    intro mid
    apply outcome_of_fact
    rintro rfl
    apply (hsteady (within_vaultPreRebalance library pool cfg)).bind
    intro _
    apply (hsteady (within_read _)).bind
    intro row
    apply (hsteady (within_readTracked library pool none row)).bind
    intro tracked
    cases tracked with
    | rpcFailed => exact hsteady within_writeHeartbeat
    | position p => exact outcome_tickWithPosition hA
  exact outcome_tick_of observant_botBounds (fun _ hm => hsteady hm) (hsteady within_now) hbody

end Tick

section Commands

/-- What holds of the state, for a command and for the parts it shares with the bot. -/
abbrev OfCommand (A : BotWorld → Prop) : Point Unit Unit cliInterface BotWorld Thrown → Prop :=
  OfState A

abbrev OfPart (A : BotWorld → Prop) : Point Unit Unit botInterface BotWorld Thrown → Prop :=
  OfState A

variable {H : CliHost} {A : BotWorld → Prop} {library : ConfigFile.Library} {config : BotConfig}

theorem outcome_trustedMid (hdark : Dark bps (botHost H)) (hbps : config.oracleDivergenceBps ≤ bps)
    (hA : Undisturbed (botHost H) () (botBounds true false true) (OfPart A)) :
    Outcome H () (OfCommand A) (shared (trustedMid (hostRebalancer config)))
      (fun mid => OfCommand fun b => mid = none ∧ A b) (OfCommand A) := by
  have hpart : Outcome (botHost H) () (OfPart A) (trustedMid (hostRebalancer config))
      (fun mid => OfPart fun b => mid = none ∧ A b) (OfPart A) := by
    apply (outcome_samples hdark hA).bind
    intro samples
    apply outcome_of_fact
    rintro ⟨answers, houtage, rfl⟩
    apply (outcome_within hA within_now).bind
    intro ms
    apply outcome_pure
    exact fun p hp => ⟨outage_untrusted (houtage.stricter hbps) _ _, hp⟩
  exact (simulates H).outcome hpart

/-- The commands that do not ask the oracle, and act on the chain or the row all the same. -/
def unpriced : CliCommand → Bool
  | .emergencyExit => true
  | .closeOrphan _ => true
  | .reconcile => true
  | _ => false

theorem outcome_untraded (hdark : Dark bps (botHost H)) (hbps : config.oracleDivergenceBps ≤ bps)
    (hA : Undisturbed (botHost H) () (botBounds true false true) (OfPart A))
    (htool : Undisturbed H () toolBounds (OfCommand A)) {k : Option MidPrice → Command Ending}
    (hk : k none = pure (.exited 1)) :
    Outcome H () (OfCommand A)
      (buildRuntime >>= fun _ => shared (trustedMid (hostRebalancer config)) >>= k)
      (fun _ => OfCommand A) (OfCommand A) := by
  apply (outcome_within htool within_buildRuntime).bind
  intro _
  apply (outcome_trustedMid hdark hbps hA).bind
  intro mid
  apply outcome_of_fact
  rintro rfl
  rw [hk]
  exact outcome_pure fun p hp => hp

theorem outcome_priced (hdark : Dark bps (botHost H)) (hbps : config.oracleDivergenceBps ≤ bps)
    (hA : Undisturbed (botHost H) () (botBounds true false true) (OfPart A))
    (htool : Undisturbed H () toolBounds (OfCommand A)) {c : CliCommand} (hc : unpriced c = false) :
    Outcome H () (OfCommand A) (c.program library (hostRebalancer config))
      (fun _ => OfCommand A) (OfCommand A) := by
  have haction : Outcome H () (OfCommand A) (c.action library (hostRebalancer config))
      (fun _ => OfCommand A) (OfCommand A) := by
    cases c with
    | pause => exact outcome_within htool (within_runPause library true)
    | resume => exact outcome_within htool (within_runPause library false)
    | clearDegraded => exact outcome_within htool within_runClearDegraded
    | collectFees => exact outcome_untraded hdark hbps hA htool rfl
    | rebalance => exact outcome_untraded hdark hbps hA htool rfl
    | _ => cases hc
  exact outcome_program_of haction fun p hp => hp

end Commands

section Runs

variable {H : CliHost} {library : ConfigFile.Library} {pool : MeteoraPosition.Venue}
  {cfg : MainConfig} {b b' : BotWorld}

/-- The open positions, the row and the log are as they were in `b`. -/
structure Frozen (b b' : BotWorld) : Prop where
  opened : openKeys b' = openKeys b
  stored : b'.world.db.positionState = b.world.db.positionState
  logged : b'.rebalanceLog = b.rebalanceLog

theorem frozen_of_view {b₀ : BotWorld} (h : Frozen b₀ b)
    (hview : stillBounds.view b' = stillBounds.view b) : Frozen b₀ b' := by
  have hchain : b'.world.chain = b.world.chain := congrArg Prod.fst hview
  constructor
  · rw [← h.opened]
    simp [openKeys, hchain]
  · exact (congrArg (fun v => v.2.1) hview).trans h.stored
  · exact (congrArg (fun v => v.2.2) hview).trans h.logged

theorem frozen_bot (hH : TruthfulTool H) (hlog : ToolKeepsLog H) (b : BotWorld) :
    Undisturbed (botHost H) () (botBounds true false true)
      (OfPart (Frozen b)) where
  local_ := by
    intro b₁ b₂ h hview hp
    have hchain : b₂.world.chain = b₁.world.chain := congrArg MakerState.chain hview
    have hstate : b₂.world.db.positionState = b₁.world.db.positionState :=
      congrArg MakerState.positionState hview
    have hsame : b₂.rebalanceLog = b₁.rebalanceLog := congrArg MakerState.rebalanceLog hview
    exact frozen_of_view hp (by simp [stillBounds, hchain, hstate, hsame])
  choice _ _ hp := hp
  call := by
    intro q b₁ a b₂ h hq hr hp
    have hmoving : moving q = false := by simpa using hq.2
    exact ⟨(hH.bot.still hmoving hr).trans hp.opened, (hH.bot.own hr).1.trans hp.stored,
      (hlog _ _ _ _ hr).trans hp.logged⟩

theorem frozen_tool (hH : TruthfulTool H) (hlog : ToolKeepsLog H) (b : BotWorld) :
    Undisturbed H () toolBounds (OfCommand (Frozen b)) where
  local_ hview hp := frozen_of_view hp hview
  choice _ _ hp := hp
  call := by
    intro q b₁ a b₂ h hq hr hp
    have hkept : openKeys b₂ = openKeys b₁ ∧
        b₂.world.db.positionState = b₁.world.db.positionState := by
      cases q with
      | bot q => exact ⟨hH.bot.still hq hr, (hH.bot.own hr).1⟩
      | buildRuntime => exact hH.still hr fun q' h => by cases h
      | question prompt => exact hH.still hr fun q' h => by cases h
      | post severity message => exact hH.still hr fun q' h => by cases h
    exact ⟨hkept.1.trans hp.opened, hkept.2.trans hp.stored, (hlog _ _ _ _ hr).trans hp.logged⟩

/-- A turn that trades at the mid or not at all, with no more tolerance than `bps`. -/
inductive PricedTurn (bps : ℚ) (H : CliHost) (library : ConfigFile.Library)
    (pool : MeteoraPosition.Venue) (cfg : MainConfig) : BotWorld → BotWorld → Prop where
  | tick {b b' : BotWorld} : cfg.maker.oracleDivergenceBps ≤ bps →
      Ticked (botHost H) (hostDeps library pool) cfg b b' →
      PricedTurn bps H library pool cfg b b'
  | command {b b' : BotWorld} {x : Except Thrown Ending} (config : BotConfig) (c : CliCommand) :
      unpriced c = false → config.oracleDivergenceBps ≤ bps →
      Ends H (c.program library (hostRebalancer config) b) x b' →
      PricedTurn bps H library pool cfg b b'

theorem turn_frozen (hH : TruthfulTool H) (hlog : ToolKeepsLog H) (hdark : Dark bps (botHost H))
    (hturn : PricedTurn bps H library pool cfg b b') : Frozen b b' := by
  have hstart : Frozen b b := ⟨rfl, rfl, rfl⟩
  cases hturn with
  | tick hbps htick =>
    obtain ⟨x, hends⟩ := htick
    exact ends_of_outcome (outcome_tick hdark hbps (frozen_bot hH hlog b)) hends hstart
  | @command x config c hc hbps hends =>
    have hprogram : Outcome H () (OfCommand (Frozen b)) (c.program library (hostRebalancer config))
        (fun _ => OfCommand (Frozen b)) (OfCommand (Frozen b)) :=
      outcome_priced hdark hbps (frozen_bot hH hlog b) (frozen_tool hH hlog b) hc
    exact ends_of_outcome hprogram hends hstart

/-- As long as the services do not agree, no run of ticks and of commands that trade at the mid
opens, closes or stores a position, or records a rebalance. -/
theorem outage_moves_nothing (hH : TruthfulTool H) (hlog : ToolKeepsLog H)
    (hdark : Dark bps (botHost H))
    (hrun : Relation.ReflTransGen (PricedTurn bps H library pool cfg) b b') : Frozen b b' := by
  induction hrun with
  | refl => exact ⟨rfl, rfl, rfl⟩
  | tail _ hturn ih =>
    have hstep := turn_frozen hH hlog hdark hturn
    exact ⟨hstep.opened.trans ih.opened, hstep.stored.trans ih.stored,
      hstep.logged.trans ih.logged⟩

end Runs

/-- Jupiter quotes half a dollar for BERT and 100 for SOL; DexScreener turns the request down. -/
def refusedAnswers : Answers where
  poolUp := true
  bertQuote := .body ⟨"5000000"⟩
  solQuote := .body ⟨"100000000"⟩
  tokens := .refused
  raydiumTs := 0
  jupiterTs := 0
  dexScreenerTs := 0

example : fetchAllSources refusedAnswers = [⟨"jupiter", 1 / 2, 100, 200, 0⟩] := by decide +kernel

def refusedScene : BotScene where
  vault := { clock := 2000, samples := fetchAllSources refusedAnswers }

def refusedTick : BotWorld :=
  (refusedScene.script.play (tick (hostDeps blindLibrary flatVenue) playedMain openingEnd)).2

def refusedRebalance : Except Thrown Ending × BotWorld :=
  (toolScript refusedScene.script).play
    (CliCommand.rebalance.program blindLibrary (hostRebalancer playedConfig) refusedTick)

/-- Neither the loop nor a forced rebalance moves the position that the first tick opened. -/
theorem refused_moves_nothing : refusedRebalance.1 = .ok (.exited 1) ∧
    openedKeys refusedRebalance.2 = ["new"] ∧ Frozen openingEnd refusedRebalance.2 := by
  have hdark : Dark 500 (botHost (toolHost refusedScene.script)) := by
    intro b samples b' hr
    have hsamples : samples = fetchAllSources refusedAnswers :=
      Except.ok.inj (congrArg Prod.fst hr)
    refine ⟨refusedAnswers, ?_, hsamples⟩
    intro j d _ hd
    cases hd
  have htool : TruthfulTool (toolHost refusedScene.script) :=
    toolHost_truthful (refusedScene.truthful (fun _ => rfl) fun _ => rfl)
  have htick : PricedTurn 500 (toolHost refusedScene.script) blindLibrary flatVenue playedMain
      openingEnd refusedTick := .tick le_rfl ⟨_, refusedScene.ends _ _⟩
  have hcommand : PricedTurn 500 (toolHost refusedScene.script) blindLibrary flatVenue playedMain
      refusedTick refusedRebalance.2 :=
    .command playedConfig .rebalance rfl le_rfl (toolHost_ends refusedScene.script _ refusedTick)
  exact ⟨by decide +kernel, by decide +kernel,
    outage_moves_nothing htool (toolHost_keepsLog _) hdark (.tail (.single htick) hcommand)⟩

end OracleOutage
