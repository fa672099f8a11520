import BertMMBot.AsyncWiring
import BertMMBot.Rebalancer

/-! # A rebalance within bounds

What the stages of a rebalance may do, whatever its submitter is. Bounds that ask nothing of a
rebalance but how it submits are kept by the rebalance as a whole. -/
namespace RebalanceBounds

open AsyncProgram AsyncWiring VaultTypes BotProgram Rebalancer
open MeteoraPosition (PositionSnapshot)

def transmits : BotQuery → Bool
  | .submit _ => true
  | .sendAndConfirmTransaction _ => true
  | .sendBundle _ => true
  | _ => false

/-- Neither writing the configuration nor taking up a withdrawal. -/
def ordinary : BotChoice → Bool
  | .writeConfig _ => false
  | .vault (.statement (.setWithdrawalProcessing _)) => false
  | _ => true

variable {κ α : Type}

/-- The bounds leave a rebalance free but for its submissions. In a dry run these are dry. -/
structure Lenient (B : Bounds botInterface BotWorld κ) (submitter : Submitter)
    (config : BotConfig) : Prop where
  choice : ∀ c, ordinary c = true → B.choice c
  call : ∀ q, transmits q = false → B.call q
  view : ∀ b b', b'.configFile = b.configFile → B.view b' = B.view b
  submit : ∀ tx opts, (config.dryRun = true → opts.dryRun = true) →
    Within B True (submitter.submit tx opts)
  submitProtected : ∀ tx opts, (config.dryRun = true → opts.dryRun = true) →
    Within B True (submitter.submitProtected tx opts)

def alerting : BotQuery → Bool
  | .post _ (.paused _) => true
  | .post _ (.alertOnly _) => true
  | _ => false

def prepares : BotQuery → Bool
  | .buildOpenPositionTx _ => false
  | q => !transmits q && !alerting q

def steady : BotChoice → Bool
  | .statement (.setCurrentPosition _) => false
  | c => ordinary c

/-- What every stage of a rebalance needs. Opening a position and recording it take more. -/
structure Staging (B : Bounds botInterface BotWorld κ) (submitter : Submitter)
    (config : BotConfig) : Prop where
  choice : ∀ c, steady c = true → B.choice c
  call : ∀ q, prepares q = true → B.call q
  view : ∀ b b', b'.configFile = b.configFile →
    b'.lastAlertedDecisionReason = b.lastAlertedDecisionReason → B.view b' = B.view b
  submit : ∀ tx opts, (config.dryRun = true → opts.dryRun = true) →
    Within B True (submitter.submit tx opts)
  submitProtected : ∀ tx opts, (config.dryRun = true → opts.dryRun = true) →
    Within B True (submitter.submitProtected tx opts)

variable {B : Bounds botInterface BotWorld κ} {submitter : Submitter} {config : BotConfig}

theorem Lenient.staging (hB : Lenient B submitter config) : Staging B submitter config where
  choice := by
    intro c hc
    apply hB.choice
    cases c with
    | statement st => rfl
    | _ => exact hc
  call := by
    intro q hq
    apply hB.call
    cases hsent : transmits q with
    | false => rfl
    | true =>
      cases q <;> simp_all [prepares]
  view b b' hfile _ := hB.view b b' hfile
  submit := hB.submit
  submitProtected := hB.submitProtected

theorem within_built {β : Type} {q : BotQuery} {f : q.Reply → β} {k : β → Process α}
    (hq : B.call q) (hk : ∀ x, Within B True (k (f x))) :
    Within B True ((do let x ← ask q; return f x) >>= k) := by
  rw [async_bind_assoc]
  exact within_bind (within_call trivial hq) hk

theorem within_botStatement {st : BotStmt} {f : BotWorld → BotWorld}
    (hst : B.choice (.statement st)) (hf : ∀ b, B.view (f b) = B.view b) :
    Within B True (botStatement st f) := by
  have hchoose : Within B True (Async.choose (I := botInterface) (BotChoice.statement st) :
      Process (Option Thrown)) := within_choose hst
  apply within_bind hchoose
  intro r
  cases r with
  | none => exact within_modify hf
  | some e => exact within_throw e

namespace Staging

variable (hB : Staging B submitter config)

include hB

theorem ask {q : BotQuery} (hq : prepares q = true) : Within B True (BotProgram.ask q) :=
  within_call trivial (hB.call q hq)

theorem notify {severity : Severity} {message : Message}
    (hm : prepares (.post severity message) = true) :
    Within B True (BotProgram.notify severity message) :=
  within_tryCatch (hB.ask hm) fun _ => within_pure ()

theorem markRollback (rollingBack : Bool) : Within B True (markRollback rollingBack) :=
  within_modify fun b => hB.view b _ rfl rfl

theorem setDegraded (value : Bool) : Within B True (setDegraded value) := by
  intro b
  refine ⟨hB.choice _ rfl, hB.view _ _ rfl rfl, fun o => ?_⟩
  cases o with
  | none => exact hB.view _ _ rfl rfl
  | some e => exact hB.view _ _ rfl rfl

theorem degrade (detail : Detail) (closeSig : Option Signature) :
    Within B True (degrade detail closeSig : Process (Staged α)) := by
  apply within_bind (hB.setDegraded true)
  exact fun _ => within_bind (hB.notify rfl) fun _ => within_pure _

theorem reportFailure (detail : Detail) :
    Within B True (reportFailure detail : Process (Staged α)) :=
  within_bind (hB.notify rfl) fun _ => within_pure _

variable {mid : MidPrice} {current : Option PositionSnapshot} {closeSig : Option Signature}

theorem drawdownBreaker :
    Within B True (drawdownBreaker ⟨hostVenue, submitter, config⟩ mid current) := by
  cases current with
  | none => exact within_pure _
  | some current =>
    apply within_tryCatch
    · apply within_bind (hB.ask rfl)
      intro sim
      apply within_ite
      · intro _
        apply within_bind (hB.setDegraded true)
        exact fun _ => within_bind (hB.notify rfl) fun _ => within_pure _
      · exact fun _ => within_pure _
    · exact fun e => within_bind (hB.notify rfl) fun _ => within_pure _

theorem closePosition :
    Within B True (closePosition ⟨hostVenue, submitter, config⟩ current) := by
  cases current with
  | none => exact within_pure _
  | some current =>
    have hbuild : Within B True
        (buildClose ⟨hostVenue, submitter, config⟩ current.nftMint) := by
      apply within_tryCatch
      · exact within_built (hB.call _ rfl) fun _ => within_pure _
      · exact fun _ => hB.reportFailure _
    have hsubmit : ∀ close, Within B True
        (submitClose ⟨hostVenue, submitter, config⟩ close) := by
      intro close
      apply within_tryCatch
      · exact within_bind (hB.submitProtected _ _ fun h => h) fun _ => within_pure _
      · exact fun _ => hB.reportFailure _
    apply within_bind hbuild
    intro built
    cases built with
    | error r => exact within_pure _
    | ok close =>
      apply within_bind (hsubmit close)
      intro closed
      cases closed with
      | error r => exact within_pure _
      | ok closeSig => exact within_bind (hB.notify rfl) fun _ => within_pure _

theorem swapToRatio (bal : Balances) :
    Within B True (swapToRatio ⟨hostVenue, submitter, config⟩ mid bal) := by
  apply within_ite
  · intro _
    apply within_tryCatch
    · apply within_built (hB.call _ rfl)
      intro needed
      apply within_ite
      · exact fun _ => within_pure ()
      · intro _
        apply within_bind (hB.submitProtected _ _ fun h => h)
        intro sig
        apply within_ite
        · exact fun _ => within_pure ()
        · exact fun _ => within_bind (hB.ask rfl) fun _ => within_pure ()
    · exact fun _ => within_pure ()
  · exact fun _ => within_pure ()

theorem sizePosition :
    Within B True (sizePosition ⟨hostVenue, submitter, config⟩ mid closeSig) := by
  have hfinal : ∀ targetUsd,
      Within B True (finalAmounts ⟨hostVenue, submitter, config⟩ mid targetUsd) := by
    intro targetUsd
    apply within_ite
    · intro _
      cases dryRunAmounts mid targetUsd with
      | ok sizing => exact within_pure sizing
      | error e => exact within_throw e
    · exact fun _ => within_bind (hB.ask rfl) fun _ => within_pure _
  apply within_tryCatch
  · apply within_bind (hB.ask rfl)
    intro bal
    apply within_bind (hB.swapToRatio bal)
    exact fun _ => within_bind (hfinal _) fun _ => within_pure _
  · exact fun e => hB.degrade _ _

theorem openPosition {range : PriceRange} {sizing : Sizing}
    (hopen : ∀ params, B.call (.buildOpenPositionTx params)) :
    Within B True (openPosition ⟨hostVenue, submitter, config⟩ mid range sizing closeSig) := by
  apply within_tryCatch
  · apply within_bind
    · apply within_built (hopen _)
      exact fun nftMint => within_bind (hB.submitProtected _ _ fun h => h) fun _ => within_pure _
    · exact fun _ => within_pure _
  · exact fun e => hB.degrade _ _

theorem rollback (hdry : ¬config.dryRun = true) (nftMint : String) :
    Within B True (rollback ⟨hostVenue, submitter, config⟩ nftMint) := by
  have hclose : Within B True
      (closeUnrecorded ⟨hostVenue, submitter, config⟩ nftMint) := by
    apply within_bind (hB.markRollback true)
    intro _
    apply within_built (hB.call _ rfl)
    exact fun _ => within_bind (hB.submit _ _ fun h => absurd h hdry) fun _ => within_pure ()
  apply within_bind
  · exact within_tryCatch hclose fun _ => hB.notify rfl
  · exact fun _ => hB.markRollback false

theorem recordRebalance (row : LoggedRebalance) : Within B True (recordRebalance row) :=
  within_botStatement (hB.choice _ rfl) fun b => hB.view b _ rfl rfl

theorem persist {now : ℤ} {range : PriceRange} {nftMint : String} {cause : Cause}
    (hrecord : ∀ row, B.choice (.statement (.setCurrentPosition row))) :
    Within B True
      (persist ⟨hostVenue, submitter, config⟩ now range current nftMint cause) := by
  apply within_ite
  · exact fun _ => within_pure _
  · intro hdry
    apply within_tryCatch
    · apply within_bind
      · apply within_bind
        · exact within_botStatement (hrecord _) fun b => hB.view b _ rfl rfl
        · exact fun _ => hB.recordRebalance _
      · exact fun _ => within_pure _
    · exact fun e => within_bind (hB.rollback hdry nftMint) fun _ => hB.degrade _ _

theorem refreshPool : Within B True (refreshPool ⟨hostVenue, submitter, config⟩) :=
  within_tryCatch (hB.ask rfl) fun _ => within_pure ()

theorem reopen {now : ℤ} {cause : Cause}
    (hopen : ∀ params, B.call (.buildOpenPositionTx params))
    (hrecord : ∀ row, B.choice (.statement (.setCurrentPosition row))) :
    Within B True (reopen ⟨hostVenue, submitter, config⟩ now mid current cause closeSig) := by
  apply within_bind hB.refreshPool
  intro _
  apply within_bind hB.sizePosition
  intro sized
  cases sized with
  | error r => exact within_pure r
  | ok sizing =>
    apply within_bind (hB.openPosition hopen)
    intro o
    cases o with
    | error r => exact within_pure r
    | ok o =>
      apply within_bind (hB.persist hrecord)
      intro saved
      cases saved with
      | error r => exact within_pure r
      | ok _ => exact within_bind (hB.notify rfl) fun _ => within_pure _

theorem now : Within B True now := within_choose (hB.choice _ rfl)

theorem executeRebalance {cause : Cause}
    (hopen : ∀ params, B.call (.buildOpenPositionTx params))
    (hrecord : ∀ row, B.choice (.statement (.setCurrentPosition row))) :
    Within B True (executeRebalance ⟨hostVenue, submitter, config⟩ mid current cause) := by
  apply within_bind hB.now
  intro now
  apply within_bind hB.drawdownBreaker
  intro tripped
  cases tripped with
  | some r => exact within_pure r
  | none =>
    apply within_bind (within_read _)
    intro today
    apply within_ite
    · exact fun _ => within_pure _
    · intro _
      apply within_bind hB.closePosition
      intro closed
      cases closed with
      | error r => exact within_pure r
      | ok closeSig => exact hB.reopen hopen hrecord

end Staging

theorem within_executeRebalance {mid : MidPrice} {current : Option PositionSnapshot}
    {cause : Cause} (hB : Lenient B submitter config) :
    Within B True (executeRebalance ⟨hostVenue, submitter, config⟩ mid current cause) :=
  hB.staging.executeRebalance (fun _ => hB.call _ rfl) fun _ => hB.choice _ rfl

end RebalanceBounds
