import BertMMBot.LoopBounds
import BertMMBot.LoopWalk

/-! # What the programs of the main loop may do

Around a rebalance the main loop only looks: it neither submits anything nor changes what
the bot has recorded of itself. Inside a rebalance everything but four steps leaves the
positions and their records as they are. -/
namespace MakerBounds

open AsyncProgram AsyncContract AsyncRecords RecordedTriples RecordedOutcomes AsyncWiring
open VaultTypes BotProgram Rebalancer MainLoop
open LoopWalk (Observant within_liftExcept)

/-- A call with which a position, or a payout from it, is being changed. -/
def acting : BotQuery → Bool
  | .getPoolState => true
  | .simulateClose .. => true
  | .buildOpenPositionTx _ => true
  | .buildClosePositionTx _ => true
  | .buildPartialCloseTx .. => true
  | .buildSwapToRatioTx .. => true
  | .submit _ => true
  | _ => false

def repositions : Instruction → Bool
  | .openPosition _ => true
  | .closePosition _ => true
  | _ => false

def moving : BotQuery → Bool
  | .submit tx => tx.any repositions
  | _ => false

/-- Recording a position or a rebalance, and writing the configuration, is left to the steps
that are about it; taking up withdrawals is acting, and a flag is set on permission. -/
def allows (acts flags : Bool) : BotChoice → Prop
  | .statement (.setCurrentPosition _) => False
  | .statement (.recordRebalance _) => False
  | .writeConfig _ => False
  | .vault (.statement (.setWithdrawalProcessing _)) => acts = true
  | .vault (.statement (.setFlag _)) => flags = true
  | _ => True

structure MakerState where
  chain : Chain
  positionState : Option StoredPosition
  rebalanceLog : List LoggedRebalance
  configFile : String
  degraded : Option (Option String)

/-- A program that may set flags says nothing of the degraded one. -/
def makerState (flags : Bool) (b : BotWorld) : MakerState where
  chain := b.world.chain
  positionState := b.world.db.positionState
  rebalanceLog := b.rebalanceLog
  configFile := b.configFile
  degraded := if flags then none else some (b.world.db.flags DepositorStore.degradedFlag)

def botBounds (acts moves flags : Bool) : Bounds botInterface BotWorld MakerState where
  choice := allows acts flags
  call q := (acting q = true → acts = true) ∧ (moving q = true → moves = true)
  view := makerState flags

abbrev BotEntry (ι J : Type) := Entry ι J botInterface BotWorld Thrown
abbrev BotHistory (ι J : Type) := History ι J botInterface BotWorld Thrown
abbrev BotPoint (ι J : Type) := Point ι J botInterface BotWorld Thrown

section Records

variable {ι J : Type}

def acts : BotEntry ι J → Bool
  | .call _ q _ => acting q
  | .choice _ (.vault (.statement (.setWithdrawalProcessing _))) _ _ => true
  | _ => false

theorem allowed_idles {i : ι} {flags : Bool} {c : BotChoice} (hc : allows false flags c)
    (b : BotWorld) (o : botInterface.Outcome c) :
    acts (ι := ι) (J := J) (.choice i c b o) = false := by
  cases c with
  | vault c =>
    cases c with
    | statement st =>
      cases st with
      | setWithdrawalProcessing id => cases hc
      | _ => rfl
    | _ => rfl
  | _ => rfl

end Records

variable {acts moves flags : Bool} {α : Type}

theorem within_ask {q : BotQuery} (ha : acting q = true → acts = true)
    (hm : moving q = true → moves = true) : Within (botBounds acts moves flags) True (ask q) :=
  within_call trivial ⟨ha, hm⟩

theorem within_look {q : BotQuery} (ha : acting q = false) (hm : moving q = false) :
    Within (botBounds acts moves flags) True (ask q) := by
  apply within_ask
  · simp [ha]
  · simp [hm]

theorem within_built {β : Type} {q : BotQuery} {f : q.Reply → β} {k : β → Process α}
    (ha : acting q = true → acts = true) (hm : moving q = true → moves = true)
    (hk : ∀ x, Within (botBounds acts moves flags) True (k (f x))) :
    Within (botBounds acts moves flags) True ((do let x ← ask q; return f x) >>= k) := by
  rw [async_bind_assoc]
  exact within_bind (within_ask ha hm) hk

theorem within_choice {c : BotChoice} (h : allows acts flags c) :
    Within (botBounds acts moves flags) True
      (Async.choose (I := botInterface) c : Process c.Outcome) := within_choose h

theorem observant_botBounds : Observant (botBounds acts moves flags) where
  choice := by
    intro c hc
    cases c with
    | vault c =>
      cases c with
      | clock => trivial
      | _ => cases hc
    | statement st => cases hc
    | writeConfig text => cases hc
    | _ => trivial
  call := by
    intro q hq
    cases q with
    | vault q => exact ⟨(fun h => by cases h), fun h => by cases h⟩
    | getPosition nftMint solUsd => exact ⟨(fun h => by cases h), fun h => by cases h⟩
    | post severity message => exact ⟨(fun h => by cases h), fun h => by cases h⟩
    | sleep ms => exact ⟨(fun h => by cases h), fun h => by cases h⟩
    | _ => cases hq
  observe _ _ := rfl
  alerted _ _ := rfl

theorem within_now : Within (botBounds acts moves flags) True now :=
  within_choice trivial

theorem within_notify (severity : Severity) (message : Message) :
    Within (botBounds acts moves flags) True (notify severity message) :=
  observant_botBounds.notify severity message

theorem outcome_botStatement {ι J : Type} {H : BotHost} {i : ι} {st : BotStmt}
    {f : BotWorld → BotWorld} {A E : Point ι J botInterface BotWorld Thrown → Prop}
    {B : Unit → Point ι J botInterface BotWorld Thrown → Prop}
    (hok : ∀ s h, A (s, h) → B () (f s, .choice i (.statement st) s none :: h))
    (herror : ∀ s h e, A (s, h) → E (s, .choice i (.statement st) s (some e) :: h)) :
    Outcome H i A (botStatement st f) B E := by
  intro s h ha o _
  cases o with
  | none => exact hok s h ha
  | some e => exact herror s h e ha

theorem within_vault {answer : (q : Query) → Process q.Reply} {draining : Prop} {w : Prop}
    {m : VaultProgram.Vault α} (hm : Within (LoopBounds.loopRoom draining) w m)
    (hacts : draining → acts = true)
    (hanswer : ∀ q, (LoopBounds.withheld q = true → draining) →
      Within (botBounds acts moves flags) True (answer q)) :
    Within (botBounds acts moves flags) True ((vaultWiring answer).lift m) := by
  refine within_lift ?_ hanswer ?_ (LoopBounds.within_loopBounds hm)
  · intro c hc
    cases c with
    | statement st =>
      cases st with
      | setWithdrawalProcessing id => exact hacts hc
      | setFlag key => exact hc.elim
      | _ => trivial
    | _ => trivial
  · intro s t hst
    have hchain : s.chain = t.world.chain := congrArg (fun v => v.1) hst
    have hstate : s.db.positionState = t.world.db.positionState := congrArg (fun v => v.2.1) hst
    have hflag : s.db.flags DepositorStore.degradedFlag =
        t.world.db.flags DepositorStore.degradedFlag := congrArg (fun v => v.2.2) hst
    simp [botBounds, makerState, vaultWiring, hchain, hstate, hflag]

section Vault

variable (library : ConfigFile.Library) (pool : MeteoraPosition.Venue) (cfg : MainConfig)

/-- The process around a venue and a submitter of which only the outcomes are known. -/
def hostDeps : MainDeps := ⟨library, pool, hostVenue, hostSubmitter⟩

theorem within_submit {tx : Transaction} (opts : SubmitOptions)
    (hm : moving (.submit tx) = true → moves = true) :
    Within (botBounds true moves flags) True (hostSubmitter.submit tx opts) :=
  within_ite (fun _ => within_pure _) fun _ => within_ask (fun _ => rfl) hm

theorem within_submitProtected {tx : Transaction} (opts : SubmitOptions)
    (hm : moving (.submit tx) = true → moves = true) :
    Within (botBounds true moves flags) True (hostSubmitter.submitProtected tx opts) :=
  within_ite (fun _ => within_pure _) fun _ => within_ask (fun _ => rfl) hm

theorem within_answerVault {draining : Prop} (hacts : draining → acts = true) (q : Query)
    (hq : LoopBounds.withheld q = true → draining) :
    Within (botBounds acts moves flags) True (answerVault (hostDeps library pool) cfg q) := by
  cases q with
  | partialClose sol bert =>
    have ha : acts = true := hacts (hq rfl)
    subst ha
    apply within_bind (within_read _)
    intro stored
    cases stored with
    | none => exact within_throw _
    | some stored =>
      apply within_built (fun _ => rfl) fun h => by cases h
      intro _
      have hsubmit : Within (botBounds true moves flags) True (hostSubmitter.submit
          [.removeLiquidity stored.nftMint sol bert] (vaultSubmitOptions cfg)) := by
        apply within_submit
        intro h
        cases h
      exact within_bind hsubmit fun _ => within_pure ()
  | executeTransfer destination sol bert =>
    have ha : acts = true := hacts (hq rfl)
    subst ha
    have hsubmit : Within (botBounds true moves flags) True (hostSubmitter.submit
        [.withdrawal destination sol bert] (vaultSubmitOptions cfg)) := by
      apply within_submit
      intro h
      cases h
    exact within_bind hsubmit fun _ => within_pure _
  | ensureAta address =>
    apply within_tryCatch
    · apply within_bind (within_look rfl rfl)
      intro (existing : Bool)
      cases existing with
      | true => exact within_pure ()
      | false => exact within_bind (within_look rfl rfl) fun _ => within_pure ()
    · exact fun _ => within_pure ()
  | submitTx instructions => exact within_look rfl rfl
  | getWalletBalances => exact within_bind (within_look rfl rfl) fun _ => within_pure _
  | _ => exact within_look rfl rfl

end Vault

/-- What holds when a stage hands on its result, and when it ends the rebalance. -/
def staged {π : Type} (B : α → π → Prop) (E : π → Prop) : Staged α → π → Prop
  | .ok a => B a
  | .error _ => E

theorem staged_mono {π : Type} {B B' : α → π → Prop} {E E' : π → Prop}
    (hB : ∀ a p, B a p → B' a p) (hE : ∀ p, E p → E' p) (r : Staged α) (p : π)
    (h : staged B E r p) : staged B' E' r p := by
  cases r with
  | ok a => exact hB a p h
  | error r => exact hE p h

/-- The market maker around a venue and a submitter of which only the outcomes are known. -/
def hostRebalancer (config : BotConfig) : RebalancerDeps := ⟨hostVenue, hostSubmitter, config⟩

section Rebalance

variable (config : BotConfig) (mid : MidPrice)

theorem within_setDegraded (value : Bool) :
    Within (botBounds acts moves true) True (setDegraded value) := by
  intro b
  refine ⟨rfl, rfl, fun o => ?_⟩
  cases o with
  | none => exact rfl
  | some e => exact rfl

theorem within_drawdownBreaker (current : Option MeteoraPosition.PositionSnapshot) :
    Within (botBounds true moves true) True (drawdownBreaker (hostRebalancer config) mid current) := by
  cases current with
  | none => exact within_pure _
  | some current =>
    have htrip : ∀ detail, Within (botBounds true moves true) True (tripBreaker detail) := by
      intro detail
      apply within_bind (within_setDegraded true)
      exact fun _ => within_bind (within_notify _ _) fun _ => within_pure _
    apply within_tryCatch
    · apply within_bind (within_ask (fun _ => rfl) fun h => by cases h)
      intro sim
      exact within_ite (fun _ => htrip _) fun _ => within_pure _
    · exact fun e => within_bind (within_notify _ _) fun _ => within_pure _

theorem within_reportFailure (detail : Detail) :
    Within (botBounds true moves flags) True (reportFailure detail : Process (Staged α)) :=
  within_bind (within_notify _ _) fun _ => within_pure _

theorem within_refreshPool :
    Within (botBounds true moves flags) True (refreshPool (hostRebalancer config)) :=
  within_tryCatch (within_ask (fun _ => rfl) fun h => by cases h) fun _ => within_pure ()

theorem within_degrade (detail : Detail) (closeSig : Option Signature) :
    Within (botBounds true moves true) True (degrade detail closeSig : Process (Staged α)) := by
  apply within_bind (within_setDegraded true)
  exact fun _ => within_bind (within_notify _ _) fun _ => within_pure _

theorem within_submitSwap {tx : Transaction} (htx : tx.any repositions = false) :
    Within (botBounds true moves flags) True (submitSwap (hostRebalancer config) tx) := by
  have hsubmit : Within (botBounds true moves flags) True
      (hostSubmitter.submitProtected tx (submitOptions (hostRebalancer config))) := by
    apply within_submitProtected
    intro h
    rw [moving, htx] at h
    cases h
  apply within_bind hsubmit
  intro sig
  apply within_ite
  · exact fun _ => within_pure ()
  · exact fun _ => within_bind (within_look rfl rfl) fun _ => within_pure ()

theorem within_swapToRatio (bal : Balances) :
    Within (botBounds true moves flags) True (swapToRatio (hostRebalancer config) mid bal) := by
  apply within_ite
  · intro _
    apply within_tryCatch
    · apply within_built (fun _ => rfl) fun h => by cases h
      intro (needed : Bool)
      cases needed with
      | false => exact within_pure ()
      | true => exact within_submitSwap config rfl
    · exact fun _ => within_pure ()
  · exact fun _ => within_pure ()

theorem within_finalAmounts (targetUsd : ℚ) : Within (botBounds acts moves flags) True
    (finalAmounts (hostRebalancer config) mid targetUsd) := by
  apply within_ite
  · exact fun _ => within_liftExcept _
  · exact fun _ => within_bind (within_look rfl rfl) fun _ => within_pure _

theorem within_sizePosition (closeSig : Option Signature) :
    Within (botBounds true moves true) True
      (sizePosition (hostRebalancer config) mid closeSig) := by
  apply within_tryCatch
  · apply within_bind (within_look rfl rfl)
    intro bal
    apply within_bind (within_swapToRatio config mid bal)
    exact fun _ => within_bind (within_finalAmounts config mid _) fun _ => within_pure _
  · exact fun e => within_degrade _ _

theorem within_closePosition (current : Option MeteoraPosition.PositionSnapshot) :
    Within (botBounds true true flags) True (closePosition (hostRebalancer config) current) := by
  cases current with
  | none => exact within_pure _
  | some current =>
    have hbuild : Within (botBounds true true flags) True
        (buildClose (hostRebalancer config) current.nftMint) := by
      apply within_tryCatch
      · apply within_built (fun _ => rfl) fun _ => rfl
        exact fun _ => within_pure _
      · exact fun _ => within_reportFailure _
    have hsubmit : ∀ close, Within (botBounds true true flags) True
        (submitClose (hostRebalancer config) close) := by
      intro close
      have hsubmitted : Within (botBounds true true flags) True
          (hostSubmitter.submitProtected close.tx (submitOptions (hostRebalancer config))) :=
        within_submitProtected _ fun _ => rfl
      exact within_tryCatch (within_bind hsubmitted fun _ => within_pure _) fun _ =>
        within_reportFailure _
    apply within_bind hbuild
    intro built
    cases built with
    | error r => exact within_pure _
    | ok close =>
      apply within_bind (hsubmit close)
      intro closed
      cases closed with
      | error r => exact within_pure _
      | ok closeSig => exact within_bind (within_notify _ _) fun _ => within_pure _

theorem within_submitOpen (range : PriceRange) (sizing : Sizing) :
    Within (botBounds true true flags) True
      (submitOpen (hostRebalancer config) mid range sizing) := by
  apply within_built (fun _ => rfl) fun _ => rfl
  intro nftMint
  have hsubmitted : Within (botBounds true true flags) True
      (hostSubmitter.submitProtected [.openPosition nftMint]
        (submitOptions (hostRebalancer config))) :=
    within_submitProtected _ fun _ => rfl
  exact within_bind hsubmitted fun _ => within_pure _

theorem within_markRollback (rollingBack : Bool) :
    Within (botBounds acts moves flags) True (markRollback rollingBack) := within_modify fun _ => rfl

theorem within_closeUnrecorded (nftMint : String) : Within (botBounds true true flags) True
    (closeUnrecorded (hostRebalancer config) nftMint) := by
  apply within_bind (within_markRollback true)
  intro _
  apply within_built (fun _ => rfl) fun _ => rfl
  intro expected
  have hsubmitted : Within (botBounds true true flags) True
      (hostSubmitter.submit [.closePosition nftMint] {
        priorityFeeMicroLamports := some config.priorityFeeMicroLamports }) :=
    within_submit _ fun _ => rfl
  exact within_bind hsubmitted fun _ => within_pure ()

theorem within_rollback (nftMint : String) :
    Within (botBounds true true flags) True (rollback (hostRebalancer config) nftMint) := by
  apply within_bind
  · exact within_tryCatch (within_closeUnrecorded config nftMint) fun _ => within_notify _ _
  · exact fun _ => within_markRollback false

theorem within_announce (range : PriceRange) (current : Option MeteoraPosition.PositionSnapshot)
    (closeSig : Option Signature) (sizing : Sizing) (opened : Opened) :
    Within (botBounds true moves flags) True
      (announce (hostRebalancer config) range current closeSig sizing opened) :=
  within_bind (within_notify _ _) fun _ => within_pure _

end Rebalance

section Loop

variable (library : ConfigFile.Library) (pool : MeteoraPosition.Venue) (cfg : MainConfig)

theorem within_killSwitchTripped :
    Within (botBounds acts moves flags) True (killSwitchTripped (hostDeps library pool) cfg) :=
  observant_botBounds.killSwitchTripped

theorem within_readOracle (tickStart : ℤ) :
    Within (botBounds acts moves flags) True (readOracle cfg tickStart) :=
  observant_botBounds.readOracle tickStart

theorem within_vaultPreRebalance :
    Within (botBounds acts moves flags) True (vaultPreRebalance (hostDeps library pool) cfg) := by
  unfold vaultPreRebalance
  cases wiredVault cfg with
  | none => exact within_pure ()
  | some v =>
    have hnever : False → acts = true := False.elim
    exact within_vault (LoopBounds.within_runVaultPreRebalance _) hnever
      (within_answerVault library pool cfg hnever)

theorem within_vaultPostRebalance (killed : Bool) : Within (botBounds true moves flags) True
    (vaultPostRebalance (hostDeps library pool) cfg killed) := by
  unfold vaultPostRebalance
  cases wiredVault cfg with
  | none => exact within_pure ()
  | some v =>
    have hacts : True → true = true := fun _ => rfl
    exact within_vault (LoopBounds.within_runVaultPostRebalance _ _ killed) hacts
      (within_answerVault library pool cfg hacts)

theorem within_readTracked (mid : Option MidPrice) (stored : Option StoredPosition) :
    Within (botBounds acts moves flags) True (readTracked (hostDeps library pool) mid stored) :=
  observant_botBounds.readTracked rfl mid stored

theorem within_writeHeartbeat : Within (botBounds acts moves flags) True writeHeartbeat :=
  observant_botBounds.writeHeartbeat

theorem within_alert (severity : Severity) (message : Message) (reason : Strategy.Reason) :
    Within (botBounds acts moves flags) True (alert severity message reason) :=
  observant_botBounds.alert severity message reason

end Loop

/-- One tick, put on record after what came before it. -/
def RecordedTick (H : BotHost) (deps : MainDeps) (cfg : MainConfig)
    (p p' : BotPoint Unit Unit) : Prop :=
  ∃ x, Ends (recordedHost H) (recorded () (tick deps cfg p.1) p.2) x p'

end MakerBounds
