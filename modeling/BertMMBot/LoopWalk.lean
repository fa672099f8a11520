import BertMMBot.MainLoop
import BertMMBot.RebalanceBounds
import BertMMBot.RecordedOutcomes

/-! # The walk through a tick

Around its rebalance a tick looks at the clock, the configuration, the oracle and the tracked
position, alerts and leaves a heartbeat. Bounds that allow this much are kept by all of it;
what a tick leads to is decided by its rebalance and by the vault. -/
namespace LoopWalk

open AsyncProgram AsyncContract AsyncRecords RecordedTriples RecordedOutcomes AsyncWiring
open VaultTypes BotProgram Rebalancer MainLoop
open RebalanceBounds (alerting)

/-- The choices of a tick outside of its rebalance and the vault. -/
def glances : BotChoice → Bool
  | .vault .clock => true
  | .killSwitchFile => true
  | .readConfig => true
  | .writeHeartbeat => true
  | _ => false

/-- The calls of a tick outside of its rebalance and the vault. -/
def inquires : BotQuery → Bool
  | .vault .fetchAllSources => true
  | .getPosition _ _ => true
  | .post _ _ => true
  | .sleep _ => true
  | _ => false

variable {κ α : Type}

/-- The bounds let a tick look around, short of alerting anyone of its decision. -/
structure Watching (B : Bounds botInterface BotWorld κ) : Prop where
  choice : ∀ c, glances c = true → B.choice c
  call : ∀ q, inquires q = true → alerting q = false → B.call q
  observe : ∀ mid b, B.view (observe mid b) = B.view b

/-- The bounds let a tick look around and remember what it saw. -/
structure Observant (B : Bounds botInterface BotWorld κ) : Prop where
  choice : ∀ c, glances c = true → B.choice c
  call : ∀ q, inquires q = true → B.call q
  observe : ∀ mid b, B.view (observe mid b) = B.view b
  alerted : ∀ reason b, B.view { b with lastAlertedDecisionReason := reason } = B.view b

theorem within_liftExcept {B : Bounds botInterface BotWorld κ} (r : Except Thrown α) :
    Within B True (liftExcept r : Process α) := by
  cases r with
  | ok a => exact within_pure a
  | error e => exact within_throw e

namespace Watching

variable {B : Bounds botInterface BotWorld κ} (hB : Watching B) {deps : MainDeps}
  {cfg : MainConfig}

include hB

theorem choose {c : BotChoice} (hc : glances c = true) :
    Within B True (Async.choose (I := botInterface) c : Process c.Outcome) :=
  within_choose (hB.choice c hc)

theorem ask {q : BotQuery} (hq : inquires q = true) (hquiet : alerting q = false) :
    Within B True (BotProgram.ask q) :=
  within_call trivial (hB.call q hq hquiet)

theorem notify {severity : Severity} {message : Message}
    (hquiet : alerting (.post severity message) = false) :
    Within B True (BotProgram.notify severity message) :=
  within_tryCatch (hB.ask rfl hquiet) fun _ => within_pure ()

theorem readConfigFile : Within B True readConfigFile :=
  within_bind (hB.choose rfl) fun _ => within_liftExcept _

theorem killSwitchTripped : Within B True (killSwitchTripped deps cfg) := by
  have hload : Within B True (loadConfigFromFile deps) := by
    apply within_bind hB.readConfigFile
    intro text
    rcases hdoc : ConfigFile.loadConfig deps.library text with e | doc
    · simp
    · simp
  have hlive : Within B True (liveEnabled deps cfg) :=
    within_tryCatch (within_bind hload fun _ => within_pure _) fun _ => within_pure _
  exact within_bind hlive fun _ => within_bind (hB.choose rfl) fun _ => within_pure _

theorem readOracle (tickStart : ℤ) : Within B True (readOracle cfg tickStart) := by
  apply within_bind (hB.ask rfl rfl)
  intro samples
  exact within_bind (within_modify fun b => hB.observe _ b) fun _ => within_pure _

theorem readTracked (hvenue : deps.venue = hostVenue) (mid : Option MidPrice)
    (stored : Option StoredPosition) : Within B True (readTracked deps mid stored) := by
  cases stored with
  | none => exact within_pure _
  | some stored =>
    apply within_tryCatch
    · rw [hvenue]
      exact within_bind (hB.ask rfl rfl) fun _ => within_pure _
    · exact fun _ => within_pure _

theorem writeHeartbeat : Within B True writeHeartbeat := by
  apply within_bind (hB.choose rfl)
  intro r
  cases r with
  | none => exact within_pure ()
  | some e => exact within_throw e

end Watching

theorem Observant.watching {B : Bounds botInterface BotWorld κ} (hB : Observant B) :
    Watching B where
  choice := hB.choice
  call q hq _ := hB.call q hq
  observe := hB.observe

namespace Observant

variable {B : Bounds botInterface BotWorld κ} (hB : Observant B) {deps : MainDeps}
  {cfg : MainConfig}

include hB

theorem choose {c : BotChoice} (hc : glances c = true) :
    Within B True (Async.choose (I := botInterface) c : Process c.Outcome) :=
  hB.watching.choose hc

theorem ask {q : BotQuery} (hq : inquires q = true) : Within B True (BotProgram.ask q) :=
  within_call trivial (hB.call q hq)

theorem notify (severity : Severity) (message : Message) :
    Within B True (BotProgram.notify severity message) :=
  within_tryCatch (hB.ask rfl) fun _ => within_pure ()

theorem readConfigFile : Within B True readConfigFile := hB.watching.readConfigFile

theorem killSwitchTripped : Within B True (killSwitchTripped deps cfg) :=
  hB.watching.killSwitchTripped

theorem readOracle (tickStart : ℤ) : Within B True (readOracle cfg tickStart) :=
  hB.watching.readOracle tickStart

theorem readTracked (hvenue : deps.venue = hostVenue) (mid : Option MidPrice)
    (stored : Option StoredPosition) : Within B True (readTracked deps mid stored) :=
  hB.watching.readTracked hvenue mid stored

theorem writeHeartbeat : Within B True writeHeartbeat := hB.watching.writeHeartbeat

theorem setLastAlerted (reason : Option Strategy.Reason) :
    Within B True (setLastAlerted reason) :=
  within_modify fun b => hB.alerted reason b

theorem alert (severity : Severity) (message : Message) (reason : Strategy.Reason) :
    Within B True (alert severity message reason) := by
  apply within_bind (within_read _)
  intro last
  apply within_ite
  · exact fun _ => within_pure ()
  · exact fun _ => within_bind (hB.notify _ _) fun _ => hB.setLastAlerted _

end Observant

section Outcomes

variable {ι J : Type} {H : BotHost} {i : ι} {B : Bounds botInterface BotWorld κ}
  {A A' : Point ι J botInterface BotWorld Thrown → Prop} {deps : MainDeps} {cfg : MainConfig}

/-- What stays within the bounds leads from `A` to `A'`, however it ends. -/
def Leads (H : BotHost) (i : ι) (B : Bounds botInterface BotWorld κ)
    (A A' : Point ι J botInterface BotWorld Thrown → Prop) : Prop :=
  ∀ m : Process Unit, Within B True m → Outcome H i A m (fun _ => A') A'

theorem outcome_actOn_of (hB : Observant B) (hleads : Leads H i B A A') {s : Strategy.BotState}
    {decision : Strategy.Decision}
    (hrebalance : ∀ reason center mid, decision = .rebalance reason center → s.price = some mid →
      Outcome H i A (executeRebalance (rebalancerDeps deps cfg) mid s.position (.decided reason))
        (fun _ => A') A') :
    Outcome H i A (actOn deps cfg s decision) (fun _ => A') A' := by
  cases decision with
  | rebalance reason center =>
    cases hprice : s.price with
    | none => simpa [actOn, hprice] using hleads _ (within_pure ())
    | some mid =>
      simp only [actOn, hprice]
      apply (hrebalance reason center mid rfl hprice).bind
      exact fun _ => outcome_pure fun _ hp => hp
  | pause reason => exact hleads _ (hB.alert _ _ _)
  | alertOnly reason => exact hleads _ (hB.alert _ _ _)
  | hold reason => exact hleads _ (hB.setLastAlerted none)

theorem outcome_openInitial_of (hB : Observant B) (hleads : Leads H i B A' A') {mid : MidPrice}
    (hrebalance : Outcome H i A (executeRebalance (rebalancerDeps deps cfg) mid none .initialOpen)
      (fun _ => A') A') :
    Outcome H i A (openInitial deps cfg mid) (fun _ => A') A' := by
  apply hrebalance.bind
  intro result
  apply outcome_ite
  · exact fun _ => hleads _ (hB.notify _ _)
  · exact fun _ => outcome_pure fun _ hp => hp

theorem outcome_tick_of {S : ℤ → Point ι J botInterface BotWorld Thrown → Prop}
    (hB : Observant B) (hleads : Leads H i B A A) (hstart : Outcome H i A now S A)
    (hbody : ∀ tickStart, Outcome H i (S tickStart) (tickBody deps cfg tickStart) (fun _ => A) A) :
    Outcome H i A (tick deps cfg) (fun _ => A) A := by
  apply hstart.bind
  intro tickStart
  apply ((hbody tickStart).tryCatch fun e => hleads _ (hB.notify _ _)).bind
  intro _
  exact hleads _ (within_bind (hB.choose rfl) fun _ => hB.ask rfl)

end Outcomes

end LoopWalk
