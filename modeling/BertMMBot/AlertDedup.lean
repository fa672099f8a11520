import BertMMBot.LoopWalk
import BertMMBot.PlayedBot
import BertMMBot.RecordedCourses
import BertMMBot.TxSubmission

/-! # One alert for one cause

A tick that decides to pause, or only to alert, tells the operator so, unless it would repeat
the text of the last such decision. What the operator is told is compared with the branches
that the decisions came from. -/
namespace AlertDedup

open AsyncProgram AsyncContract AsyncRecords AsyncWiring RecordedTriples RecordedOutcomes
open VaultTypes BotProgram Strategy MainLoop TxSubmission
open RebalanceBounds (Staging alerting)
open LoopWalk (Watching)

/-- The branch of `decide` that gives a reason: the reason without the numbers it shows. -/
def branch : Reason → Reason
  | .oracleStale _ => .oracleStale 0
  | .cooldownActive _ _ => .cooldownActive ⟨false, 0⟩ 0
  | .dailyCapReached _ _ => .dailyCapReached 0 0
  | reason => reason

def alertReason : Decision → Option Reason
  | .pause reason => some reason
  | .alertOnly reason => some reason
  | _ => none

def cause (decision : Decision) : Option Reason := (alertReason decision).map branch

/-- A tick that decided, with the reasons that it sent out. -/
structure DecidedTick where
  decision : Decision
  alerts : List Reason
  deriving DecidableEq, Repr

def sent (t : DecidedTick) : Bool := !t.alerts.isEmpty

/-- The last alert since a HOLD or a REBALANCE; the latest tick comes first. -/
def lastAlert (earlier : List DecidedTick) : Option DecidedTick :=
  (earlier.takeWhile fun t => (alertReason t.decision).isSome).find? sent

/-- The tick alerts when it has a cause that is not the one alerted last. -/
def AlertedOnce (t : DecidedTick) (earlier : List DecidedTick) : Prop :=
  sent t = true ↔
    ∃ c ∈ cause t.decision, ∀ a ∈ lastAlert earlier, cause a.decision ≠ some c

instance (t : DecidedTick) (earlier : List DecidedTick) : Decidable (AlertedOnce t earlier) :=
  inferInstanceAs (Decidable (_ ↔ _))

def Deduplicated : List DecidedTick → Prop
  | [] => True
  | t :: earlier => AlertedOnce t earlier ∧ Deduplicated earlier

instance decidableDeduplicated : (ticks : List DecidedTick) → Decidable (Deduplicated ticks)
  | [] => inferInstanceAs (Decidable True)
  | t :: earlier =>
    have := decidableDeduplicated earlier
    inferInstanceAs (Decidable (AlertedOnce t earlier ∧ Deduplicated earlier))

def lastReason : List Decision → Option Reason
  | [] => none
  | .hold _ :: _ => none
  | .rebalance _ _ :: earlier => lastReason earlier
  | .pause reason :: _ => some reason
  | .alertOnly reason :: _ => some reason

def rebalancedLast : List Decision → Bool
  | .rebalance _ _ :: _ => true
  | _ => false

/-- After a REBALANCE the text must be another one; without it, another one only where the
branch is another one. -/
def Discerned (decision : Decision) (earlier : List Decision) : Prop :=
  ∀ reason ∈ alertReason decision, ∀ last ∈ lastReason earlier,
    if rebalancedLast earlier then reason ≠ last else branch reason = branch last → reason = last

instance (decision : Decision) (earlier : List Decision) : Decidable (Discerned decision earlier) :=
  inferInstanceAs (Decidable (∀ reason ∈ alertReason decision, ∀ last ∈ lastReason earlier, _))

def Distinguished : List Decision → Prop
  | [] => True
  | decision :: earlier => Discerned decision earlier ∧ Distinguished earlier

instance decidableDistinguished : (decisions : List Decision) → Decidable (Distinguished decisions)
  | [] => inferInstanceAs (Decidable True)
  | decision :: earlier =>
    have := decidableDistinguished earlier
    inferInstanceAs (Decidable (Discerned decision earlier ∧ Distinguished earlier))

/-- What the loop remembers of the last alert once it has decided again. -/
def remembered (last : Option Reason) : Decision → Option Reason
  | .hold _ => none
  | .rebalance _ _ => last
  | .pause reason => some reason
  | .alertOnly reason => some reason

def told (last : Option Reason) (decision : Decision) : List Reason :=
  (alertReason decision).toList.filter fun reason => last ≠ some reason

def AsTold : List DecidedTick → Prop
  | [] => True
  | t :: earlier => t.alerts = told (lastReason (earlier.map DecidedTick.decision)) t.decision ∧
      AsTold earlier

variable {t : DecidedTick} {earlier ticks : List DecidedTick} {decision : Decision}
  {reason : Reason} {last : Option Reason}

theorem lastReason_cons (decision : Decision) (earlier : List Decision) :
    lastReason (decision :: earlier) = remembered (lastReason earlier) decision := by
  cases decision <;> rfl

theorem told_ne_nil : told last decision ≠ [] ↔ ∃ reason ∈ alertReason decision,
    last ≠ some reason := by
  unfold told
  cases alertReason decision with
  | none => simp
  | some reason => simp

theorem sent_iff (h : t.alerts = told last t.decision) :
    sent t = true ↔ ∃ reason ∈ alertReason t.decision, last ≠ some reason := by
  rw [← told_ne_nil, ← h]
  simp [sent]

theorem lastAlert_cons (h : alertReason t.decision = some reason) :
    lastAlert (t :: earlier) = if sent t then some t else lastAlert earlier := by
  unfold lastAlert
  rw [List.takeWhile_cons_of_pos (by simp [h]), List.find?_cons]
  cases sent t <;> rfl

theorem lastAlert_eq_none
    (h : lastReason (earlier.map DecidedTick.decision) = none ∨
      rebalancedLast (earlier.map DecidedTick.decision) = true) :
    lastAlert earlier = none := by
  cases earlier with
  | nil => rfl
  | cons t earlier =>
    obtain ⟨decision, alerts⟩ := t
    cases decision with
    | hold reason => rfl
    | rebalance reason center => rfl
    | pause reason => rcases h with h | h <;> cases h
    | alertOnly reason => rcases h with h | h <;> cases h

theorem lastAlert_cause (hearlier : Deduplicated earlier)
    (hlast : lastReason (earlier.map DecidedTick.decision) = some reason)
    (hrebalanced : rebalancedLast (earlier.map DecidedTick.decision) = false) :
    ∃ a ∈ lastAlert earlier, cause a.decision = some (branch reason) := by
  cases earlier with
  | nil => cases hlast
  | cons t earlier =>
    have halert : alertReason t.decision = some reason := by
      obtain ⟨decision, alerts⟩ := t
      cases decision with
      | hold reason => cases hlast
      | rebalance reason center => cases hrebalanced
      | pause reason => exact hlast
      | alertOnly reason => exact hlast
    have hcause : cause t.decision = some (branch reason) := by
      rw [cause, halert, Option.map_some]
    rw [lastAlert_cons halert]
    by_cases hsent : sent t = true
    · rw [if_pos hsent]
      exact ⟨t, rfl, hcause⟩
    · -- a tick that kept silent had the cause of the alert before it
      rw [if_neg hsent]
      by_contra hnone
      apply hsent
      apply hearlier.1.mpr
      refine ⟨branch reason, hcause, ?_⟩
      intro a ha heq
      exact hnone ⟨a, ha, heq⟩

theorem alertedOnce_iff (hearlier : Deduplicated earlier)
    (htold : t.alerts = told (lastReason (earlier.map DecidedTick.decision)) t.decision) :
    AlertedOnce t earlier ↔ Discerned t.decision (earlier.map DecidedTick.decision) := by
  unfold AlertedOnce Discerned
  rw [sent_iff htold]
  cases halert : alertReason t.decision with
  | none => simp [cause, halert]
  | some reason =>
    cases hlast : lastReason (earlier.map DecidedTick.decision) with
    | none =>
      rw [lastAlert_eq_none (.inl hlast)]
      simp [cause, halert]
    | some last =>
      cases hrebalanced : rebalancedLast (earlier.map DecidedTick.decision) with
      | true =>
        rw [lastAlert_eq_none (.inr hrebalanced)]
        simp [cause, halert, eq_comm]
      | false =>
        obtain ⟨a, ha, hcause⟩ := lastAlert_cause hearlier hlast hrebalanced
        have hsame : (∃ c ∈ cause t.decision, ∀ a ∈ lastAlert earlier, cause a.decision ≠ some c) ↔
            branch reason ≠ branch last := by
          have hown : cause t.decision = some (branch reason) := by
            rw [cause, halert, Option.map_some]
          rw [Option.mem_def.mp ha, hown]
          constructor
          · rintro ⟨c, hc, hother⟩ heq
            obtain rfl := Option.some.inj hc
            exact hother a rfl (hcause.trans (congrArg some heq.symm))
          · intro hne
            refine ⟨branch reason, rfl, ?_⟩
            intro a' ha' heq
            obtain rfl := Option.some.inj ha'
            exact hne (Option.some.inj (heq.symm.trans hcause))
        rw [hsame]
        have htext : reason = last → branch reason = branch last := fun h => h ▸ rfl
        simp only [Option.mem_some_iff, exists_eq_left', forall_eq', ne_eq, Option.some.injEq,
          Bool.false_eq_true, if_false]
        tauto

theorem deduplicated_iff_distinguished (h : AsTold ticks) :
    Deduplicated ticks ↔ Distinguished (ticks.map DecidedTick.decision) := by
  induction ticks with
  | nil => exact Iff.rfl
  | cons t earlier ih =>
    obtain ⟨htold, hearlier⟩ := h
    constructor
    · rintro ⟨honce, hded⟩
      exact ⟨(alertedOnce_iff hded htold).mp honce, (ih hearlier).mp hded⟩
    · rintro ⟨hdiscerned, hdist⟩
      have hded := (ih hearlier).mpr hdist
      exact ⟨(alertedOnce_iff hded htold).mpr hdiscerned, hded⟩

abbrev Line := Entry Unit Unit botInterface BotWorld Thrown
abbrev DiaryPoint := Point Unit Unit botInterface BotWorld Thrown

def alerted : Line → Option Reason
  | .call _ (.post _ (.paused reason)) _ => some reason
  | .call _ (.post _ (.alertOnly reason)) _ => some reason
  | _ => none

/-- What the loop remembers is a variable of its own: nobody else writes it while it waits. -/
def Unshared (H : BotHost) : Prop :=
  ∀ q b a b', H.respond q b a b' →
    b'.lastAlertedDecisionReason = b.lastAlertedDecisionReason

/-- Neither alerting anyone nor forgetting what was alerted last. -/
def quietBounds : Bounds botInterface BotWorld (Option Reason) where
  choice _ := True
  call q := alerting q = false
  view := BotWorld.lastAlertedDecisionReason

def Stands (last : Option Reason) (alerts : List Reason) (p : DiaryPoint) : Prop :=
  p.1.lastAlertedDecisionReason = last ∧ p.2.filterMap alerted = alerts

abbrev Reacted (last : Option Reason) (decision : Decision) : DiaryPoint → Prop :=
  Stands (remembered last decision) (told last decision)

variable {H : BotHost} {library : ConfigFile.Library} {pool : MeteoraPosition.Venue}
  {jito : Option JitoClient} {cfg : MainConfig} {alerts : List Reason}

theorem alerted_of_quiet {q : BotQuery} (hq : alerting q = false) (b : BotWorld) :
    alerted (.call () q b) = none := by
  cases q with
  | post severity message =>
    cases message with
    | paused reason => cases hq
    | alertOnly reason => cases hq
    | _ => rfl
  | _ => rfl

theorem undisturbed_quiet (hH : Unshared H) {A : BotWorld → List Reason → Prop}
    (hA : ∀ b b' alerts, b'.lastAlertedDecisionReason = b.lastAlertedDecisionReason →
      A b alerts → A b' alerts) :
    Undisturbed H () quietBounds fun p => A p.1 (p.2.filterMap alerted) where
  local_ := fun hview ha => hA _ _ _ hview ha
  choice := fun _ _ ha => ha
  call := by
    intro q b a b' h hq hresp ha
    have hcall := alerted_of_quiet hq b
    change A b' ((.call () q b :: h).filterMap alerted)
    rw [List.filterMap_cons_none hcall]
    exact hA _ _ _ (hH q b a b' hresp) ha

theorem undisturbed_stands (hH : Unshared H) :
    Undisturbed H () quietBounds (Stands last alerts) := by
  apply undisturbed_quiet (A := fun b sent => b.lastAlertedDecisionReason = last ∧ sent = alerts) hH
  intro b b' sent hview ha
  exact ⟨hview.trans ha.1, ha.2⟩

theorem conveying_quiet : Conveying quietBounds where
  clock := trivial
  call := by
    intro q hq
    cases q with
    | post severity message => cases hq
    | _ => rfl

theorem staging_quiet (jito : Option JitoClient) (config : Rebalancer.BotConfig) :
    Staging quietBounds (networkSubmitter jito) config := by
  constructor
  · exact fun _ _ => trivial
  · intro q hq
    cases q with
    | post severity message =>
      cases message with
      | paused reason => cases hq
      | alertOnly reason => cases hq
      | _ => rfl
    | _ => rfl
  · exact fun _ _ _ hlast => hlast
  · exact fun tx opts _ => conveying_quiet.submit tx opts
  · exact fun tx opts _ => conveying_quiet.submitProtected jito tx opts

theorem watching_quiet : Watching quietBounds where
  choice _ _ := trivial
  call _ _ hquiet := hquiet
  observe _ _ := rfl

theorem quiet_executeRebalance {mid : MidPrice} {current : Option MeteoraPosition.PositionSnapshot}
    {cause : Cause} : Within quietBounds True
      (Rebalancer.executeRebalance (rebalancerDeps (networkDeps library pool jito) cfg) mid current
        cause) :=
  (staging_quiet jito cfg.maker).executeRebalance (fun _ => rfl) fun _ => trivial

theorem quiet_answerVault (q : Query) :
    Within quietBounds True (answerVault (networkDeps library pool jito) cfg q) := by
  have hsubmit : ∀ tx opts,
      Within quietBounds True ((networkDeps library pool jito).submitter.submit tx opts) :=
    fun tx opts => conveying_quiet.submit tx opts
  cases q with
  | partialClose sol bert =>
    apply within_bind (within_read _)
    intro stored
    cases stored with
    | none => exact within_throw _
    | some stored =>
      apply RebalanceBounds.within_built rfl
      intro _
      exact within_bind (hsubmit _ _) fun _ => within_pure ()
  | executeTransfer destination sol bert =>
    exact within_bind (hsubmit _ _) fun _ => within_pure _
  | ensureAta address =>
    apply within_tryCatch
    · apply within_bind (within_call trivial rfl)
      intro (existing : Bool)
      cases existing with
      | true => exact within_pure ()
      | false => exact within_bind (within_call trivial rfl) fun _ => within_pure ()
    · exact fun _ => within_pure ()
  | submitTx instructions => exact within_call trivial rfl
  | getWalletBalances => exact within_bind (within_call trivial rfl) fun _ => within_pure _
  | _ => exact within_call trivial rfl

theorem quiet_vaultProgram {α : Type} (m : VaultProgram.Vault α) :
    Within quietBounds True (vaultProgram (networkDeps library pool jito) cfg m) := by
  have hany : Within (⟨fun _ => True, fun _ => True, fun _ => ()⟩ :
      Bounds VaultProgram.vaultInterface VaultProgram.World Unit) True m :=
    within_any (fun _ => trivial) (fun _ => trivial) m
  exact within_lift (fun _ _ => trivial) (fun q _ => quiet_answerVault q) (fun _ _ _ => rfl) hany

theorem quiet_vaultPostRebalance (killed : Bool) : Within quietBounds True
    (vaultPostRebalance (networkDeps library pool jito) cfg killed) := by
  unfold vaultPostRebalance
  cases wiredVault cfg with
  | none => exact within_pure ()
  | some v => exact quiet_vaultProgram _

def decided (cfg : MainConfig) (s : BotState) : Decision :=
  Strategy.decide s (strategyParams cfg.maker)

section Decision

variable (hH : Unshared H)

include hH

theorem outcome_quiet {α : Type} {m : Process α} (hm : Within quietBounds True m) :
    Outcome H () (Stands last alerts) m (fun _ => Stands last alerts) (Stands last alerts) :=
  outcome_within (undisturbed_stands hH) hm

theorem outcome_notify {severity : Severity} {message : Message} {E : DiaryPoint → Prop}
    (hmessage : ∀ b, alerted (.call () (.post severity message) b) = some reason) :
    Outcome H () (Stands last []) (notify severity message) (fun _ => Stands last [reason]) E := by
  apply Outcome.tryCatch (D := Stands last [reason])
  · apply outcome_call
    intro b h b' a hp hresp
    have hstands : Stands last [reason] (b', .answer () (.post severity message) a b' ::
        .call () (.post severity message) b :: h) := by
      refine ⟨(hH _ _ _ _ hresp).trans hp.1, ?_⟩
      change ((.call () (.post severity message) b : Line) :: h).filterMap alerted = [reason]
      rw [List.filterMap_cons_some (hmessage b), hp.2]
    cases a with
    | ok _ => exact hstands
    | error e => exact hstands
  · exact fun e => outcome_pure fun _ hp => hp

theorem outcome_alert {severity : Severity} {message : Message}
    (hmessage : ∀ b, alerted (.call () (.post severity message) b) = some reason)
    (htold : told last decision = if last = some reason then [] else [reason])
    (hremembered : remembered last decision = some reason) :
    Outcome H () (Stands last []) (alert severity message reason)
      (fun _ => Reacted last decision) (Reacted last decision) := by
  unfold Reacted
  rw [htold, hremembered]
  apply Outcome.bind (B := fun last' p => last' = last ∧ Stands last [] p)
  · exact outcome_read fun p hp => ⟨hp.1, hp⟩
  · intro last'
    apply outcome_of_fact
    rintro rfl
    apply outcome_ite
    · intro hsame
      rw [if_pos hsame]
      exact outcome_pure fun p hp => hsame ▸ hp
    · intro hnew
      rw [if_neg hnew]
      apply (outcome_notify hH hmessage).bind
      intro _
      exact outcome_modify fun b h hp => ⟨rfl, hp.2⟩

theorem outcome_actOn (s : BotState) (decision : Decision) :
    Outcome H () (Stands last []) (actOn (networkDeps library pool jito) cfg s decision)
      (fun _ => Reacted last decision) (Reacted last decision) := by
  have htold : ∀ reason, (if last = some reason then [] else [reason]) =
      [reason].filter fun reason => last ≠ some reason := by
    intro reason
    by_cases hsame : last = some reason
    · simp [hsame]
    · simp [hsame]
  cases decision with
  | hold reason => exact outcome_modify fun b h hp => ⟨rfl, hp.2⟩
  | rebalance reason center =>
    cases hprice : s.price with
    | none =>
      simp only [actOn, hprice]
      exact outcome_pure fun _ hp => hp
    | some mid =>
      simp only [actOn, hprice]
      exact outcome_quiet hH (within_bind quiet_executeRebalance fun _ => within_pure ())
  | pause reason => exact outcome_alert hH (fun _ => rfl) (htold reason).symm rfl
  | alertOnly reason => exact outcome_alert hH (fun _ => rfl) (htold reason).symm rfl

theorem outcome_decideAndAct (s : BotState) :
    Outcome H () (Stands last []) (decideAndAct (networkDeps library pool jito) cfg s)
      (fun _ => Reacted last (decided cfg s)) (Reacted last (decided cfg s)) := by
  apply (outcome_actOn hH s _).bind
  intro _
  exact outcome_quiet hH (within_bind (quiet_vaultPostRebalance _) fun _ =>
    watching_quiet.writeHeartbeat)

end Decision

/-- The ticks that have decided since the process started, the latest first. What the loop does
besides, and what others do, leaves alone what it remembers. -/
inductive AlertRun (deps : MainDeps) (cfg : MainConfig) : List DecidedTick → BotWorld → Prop
  | started {b : BotWorld} (h : b.lastAlertedDecisionReason = none) : AlertRun deps cfg [] b
  | ticked {ticks : List DecidedTick} {b b' : BotWorld} {H : BotHost} {s : BotState}
      {x : Except Thrown Unit} {diary : History Unit Unit botInterface BotWorld Thrown}
      (h : AlertRun deps cfg ticks b) (hH : Unshared H)
      (hrun : Ends (recordedHost H) (recorded () (decideAndAct deps cfg s b) []) x (b', diary)) :
      AlertRun deps cfg (⟨decided cfg s, diary.filterMap alerted⟩ :: ticks) b'
  | meanwhile {ticks : List DecidedTick} {b b' : BotWorld} (h : AlertRun deps cfg ticks b)
      (hkept : b'.lastAlertedDecisionReason = b.lastAlertedDecisionReason) :
      AlertRun deps cfg ticks b'

variable {b b' : BotWorld}

theorem run_asTold (h : AlertRun (networkDeps library pool jito) cfg ticks b) :
    b.lastAlertedDecisionReason = lastReason (ticks.map DecidedTick.decision) ∧
      AsTold ticks := by
  induction h with
  | started h => exact ⟨h, trivial⟩
  | @ticked ticks b b' H s x diary h hH hrun ih =>
    obtain ⟨hlast, htold⟩ := ih
    have hend := (outcome_decideAndAct hH s).ends ⟨hlast, rfl⟩ hrun
    have hreacted : Reacted (lastReason (ticks.map DecidedTick.decision)) (decided cfg s)
        (b', diary) := by
      cases x with
      | ok _ => exact hend
      | error e => exact hend
    refine ⟨?_, hreacted.2, htold⟩
    rw [List.map_cons, lastReason_cons]
    exact hreacted.1
  | meanwhile h hkept ih => exact ⟨hkept.trans ih.1, ih.2⟩

/-- Alerts are deduplicated by their cause exactly when the texts tell the causes apart, and
say something else after a REBALANCE. -/
theorem deduplicated_iff (h : AlertRun (networkDeps library pool jito) cfg ticks b) :
    Deduplicated ticks ↔ Distinguished (ticks.map DecidedTick.decision) :=
  deduplicated_iff_distinguished (run_asTold h).2

section Played

open PlayedBot (BotScene playedMain blindLibrary flatVenue botWith positionAt
  storedAs playedMid)

def playedDeps : MainDeps := networkDeps blindLibrary flatVenue none

def playedScene : BotScene where
  vault := { clock := 1000 }

def stateAt (now : ℤ) (killed : Bool) : BotState where
  price := some { playedMid with ts := now }
  priceHistory := [{ playedMid with ts := now - 30000 }, { playedMid with ts := now }]
  position := some (playedScene.snapshot (positionAt "old"))
  lastRebalanceAt := some 0
  rebalancesToday := 1
  killSwitchTripped := killed
  degraded := false
  now := now

def playTicks : List BotState → List DecidedTick × BotWorld
  | [] => ([], botWith [positionAt "old"] (some (storedAs "old")))
  | s :: earlier =>
    let p := (playedScene.recording.play
      (recorded () (decideAndAct playedDeps playedMain s (playTicks earlier).2) [])).2
    (⟨decided playedMain s, p.2.filterMap alerted⟩ :: (playTicks earlier).1, p.1)

theorem scene_unshared (sc : BotScene) : Unshared sc.host := by
  intro q b a b' hresp
  have hserve : (sc.serve b q).2.lastAlertedDecisionReason = b.lastAlertedDecisionReason := by
    cases q with
    | submit tx =>
      simp only [BotScene.serve]
      split
      · rfl
      · rfl
    | _ => rfl
  have hb : b' = (sc.respond q b).2 := congrArg Prod.snd hresp
  rw [hb]
  unfold BotScene.respond
  split
  · rfl
  · exact hserve

theorem playTicks_run (states : List BotState) :
    AlertRun playedDeps playedMain (playTicks states).1 (playTicks states).2 := by
  induction states with
  | nil => exact .started rfl
  | cons s earlier ih => exact ih.ticked (scene_unshared playedScene) (playedScene.records _)

/-- A kill switch that stays set is alerted once. -/
theorem deduplicated_iff_killed :
    (playTicks [stateAt 90000 true, stateAt 60000 true]).1 =
      [⟨.pause .killSwitchTripped, []⟩, ⟨.pause .killSwitchTripped, [.killSwitchTripped]⟩] ∧
    Deduplicated (playTicks [stateAt 90000 true, stateAt 60000 true]).1 := by
  constructor
  · decide +kernel
  · exact (deduplicated_iff (playTicks_run _)).mpr (by decide +kernel)

/-- A cooldown is alerted again half a minute later, and the kill switch is not alerted again
after a REBALANCE. -/
theorem alerts_misplaced : ∃ ticks b, AlertRun playedDeps playedMain ticks b ∧
    ticks = [⟨.pause .killSwitchTripped, []⟩,
      ⟨.rebalance .triggersCleared 100, []⟩,
      ⟨.pause .killSwitchTripped, [.killSwitchTripped]⟩,
      ⟨.alertOnly (.cooldownActive ⟨false, 45⟩ 5), [.cooldownActive ⟨false, 45⟩ 5]⟩,
      ⟨.alertOnly (.cooldownActive ⟨false, 40⟩ 5), [.cooldownActive ⟨false, 40⟩ 5]⟩] ∧
    ¬Deduplicated ticks := by
  refine ⟨_, _, playTicks_run [stateAt 360000 true, stateAt 330000 false, stateAt 300000 true,
    stateAt 270000 false, stateAt 240000 false], ?_, ?_⟩
  · decide +kernel
  · decide +kernel

end Played

end AlertDedup
