import BertMMBot.MainLoop

/-! # Sending transactions

A transaction is sent to the network and waited for, again and again until an attempt is
reported confirmed. A protected transaction first travels as a bundle, with a tip, and is sent
in the open when nothing is heard of the bundle in time. -/
namespace TxSubmission

open AsyncProgram AsyncWiring VaultTypes BotProgram MainLoop
open Rebalancer (MevProtectionConfig)

/-- One attempt; after a failure the caller waits longer each time. -/
def trySend (tx : Transaction) (attempt : ℕ) : Process (Except Thrown Signature) :=
  tryCatch (do return .ok (← ask (.sendAndConfirmTransaction tx))) fun e => do
    ask (.sleep (1000 * (attempt + 1)))
    return .error e

/-- `String(e)` -/
def describe : Thrown → String
  | .error message => "Error: " ++ message
  | .other text => text

def submitFailed (maxRetries : ℕ) (lastErr : Option Thrown) : Thrown :=
  let reason := (lastErr.map describe).getD "undefined"
  .error s!"tx submit failed after {maxRetries} attempts: {reason}"

/-- The attempts that are left, after `lastErr` ended the one before. -/
def sendRetrying (tx : Transaction) (maxRetries : ℕ) : ℕ → Option Thrown → Process Signature
  | 0, lastErr => throw (submitFailed maxRetries lastErr)
  | left + 1, _ => do
    match ← trySend tx (maxRetries - (left + 1)) with
    | .ok sig => return sig
    | .error e => sendRetrying tx maxRetries left (some e)

def withPriority (tx : Transaction) (opts : SubmitOptions) : Transaction :=
  .setComputeUnitPrice (opts.priorityFeeMicroLamports.getD 10000) :: tx

def submit (tx : Transaction) (opts : SubmitOptions) : Process Signature :=
  if opts.dryRun then pure dryRunSignature
  else sendRetrying (withPriority tx opts) (opts.maxRetries.getD 3) (opts.maxRetries.getD 3) none

/-- A client of the block engine. What a bundle is signed to is computed here, and its status
is asked for a bounded number of times. -/
structure JitoClient where
  config : MevProtectionConfig
  sign : Transaction → String → Signature
  polls : ℕ

def confirmedAs (expectedSig : Signature) : Option BundleStatus → Process (Option Signature)
  | none => return none
  | some status =>
    if status.failed then throw (.error "jito bundle failed")
    else if status.confirmed then return some (status.transaction.getD expectedSig)
    else return none

/-- A failure to learn the status does not end the polling, nor does a failed bundle. -/
def pollStatus (expectedSig : Signature) (bundleId : String) : Process (Option Signature) :=
  tryCatch
    (do
      let status : Option BundleStatus ← ask (.getBundleStatuses bundleId)
      confirmedAs expectedSig status)
    fun _ => return none

def pollBundle (expectedSig : Signature) (bundleId : String) (deadline : ℤ) :
    ℕ → Process (Option Signature)
  | 0 => return none
  | polls + 1 => do
    let ms ← now
    if ms < deadline then
      ask (.sleep 1500)
      match ← pollStatus expectedSig bundleId with
      | some sig => return some sig
      | none => pollBundle expectedSig bundleId deadline polls
    else return none

def sendBundle (tx : Transaction) : Process (Option String) :=
  tryCatch
    (do
      let answer : Except Thrown String ← ask (.sendBundle tx)
      return some (← liftExcept answer))
    fun _ => return none

namespace JitoClient

variable (jito : JitoClient)

def withTip (tx : Transaction) : Transaction := tx ++ [.tip jito.config.tipLamports]

def awaitBundle (expectedSig : Signature) : Option String → Process (Option Signature)
  | none => return none
  | some bundleId => do
    let ms ← now
    pollBundle expectedSig bundleId (ms + jito.config.bundleTimeoutMs) jito.polls

def submitProtected (tx : Transaction) : Process (Option Signature) := do
  let blockhash : String ← ask .getLatestBlockhash
  let bundleId ← TxSubmission.sendBundle (jito.withTip tx)
  jito.awaitBundle (jito.sign (jito.withTip tx) blockhash) bundleId

end JitoClient

/-- What is not heard of as a bundle is sent in the open. -/
def submitProtected (jito : Option JitoClient) (tx : Transaction) (opts : SubmitOptions) :
    Process Signature :=
  match jito with
  | none => submit tx opts
  | some jito =>
    if opts.dryRun then pure dryRunSignature
    else do
      match ← tryCatch (jito.submitProtected tx) fun _ => return none with
      | some sig => return sig
      | none => submit tx opts

def networkSubmitter (jito : Option JitoClient) : Submitter := ⟨submit, submitProtected jito⟩

/-- A call by which a transaction is sent or asked after. -/
def conveys : BotQuery → Bool
  | .sendAndConfirmTransaction _ => true
  | .getLatestBlockhash => true
  | .sendBundle _ => true
  | .getBundleStatuses _ => true
  | .sleep _ => true
  | _ => false

/-- The bounds let transactions be sent, whatever is in them. -/
structure Conveying {κ : Type} (B : Bounds botInterface BotWorld κ) : Prop where
  clock : B.choice (.vault .clock)
  call : ∀ q, conveys q = true → B.call q

namespace Conveying

variable {κ : Type} {B : Bounds botInterface BotWorld κ} (hB : Conveying B)

include hB

theorem ask {q : BotQuery} (hq : conveys q = true) : Within B True (BotProgram.ask q) :=
  within_call trivial (hB.call q hq)

theorem now : Within B True now := within_choose hB.clock

theorem sendRetrying (tx : Transaction) (maxRetries left : ℕ) (lastErr : Option Thrown) :
    Within B True (sendRetrying tx maxRetries left lastErr) := by
  induction left generalizing lastErr with
  | zero => exact within_throw _
  | succ left ih =>
    have hsend : Within B True (trySend tx (maxRetries - (left + 1))) := by
      apply within_tryCatch
      · exact within_bind (hB.ask rfl) fun _ => within_pure _
      · exact fun e => within_bind (hB.ask rfl) fun _ => within_pure _
    apply within_bind hsend
    intro r
    cases r with
    | ok sig => exact within_pure sig
    | error e => exact ih (some e)

theorem submit (tx : Transaction) (opts : SubmitOptions) :
    Within B True (TxSubmission.submit tx opts) := by
  apply within_ite
  · exact fun _ => within_pure _
  · exact fun _ => hB.sendRetrying _ _ _ _

theorem pollStatus (expectedSig : Signature) (bundleId : String) :
    Within B True (pollStatus expectedSig bundleId) := by
  apply within_tryCatch
  · apply within_bind (hB.ask rfl)
    intro status
    cases status with
    | none => exact within_pure _
    | some status =>
      apply within_ite
      · exact fun _ => within_throw _
      · exact fun _ => within_ite (fun _ => within_pure _) fun _ => within_pure _
  · exact fun _ => within_pure _

theorem pollBundle (expectedSig : Signature) (bundleId : String) (deadline : ℤ) (polls : ℕ) :
    Within B True (pollBundle expectedSig bundleId deadline polls) := by
  induction polls with
  | zero => exact within_pure _
  | succ polls ih =>
    apply within_bind hB.now
    intro ms
    apply within_ite
    · intro _
      apply within_bind (hB.ask rfl)
      intro _
      apply within_bind (hB.pollStatus _ _)
      intro landed
      cases landed with
      | some sig => exact within_pure _
      | none => exact ih
    · exact fun _ => within_pure _

theorem sendBundle (tx : Transaction) : Within B True (sendBundle tx) := by
  apply within_tryCatch
  · apply within_bind (hB.ask rfl)
    intro answer
    cases answer with
    | ok id => exact within_pure _
    | error e => exact within_throw e
  · exact fun _ => within_pure _

theorem bundle (jito : JitoClient) (tx : Transaction) :
    Within B True (jito.submitProtected tx) := by
  apply within_bind (hB.ask rfl)
  intro blockhash
  apply within_bind (hB.sendBundle _)
  intro bundleId
  cases bundleId with
  | none => exact within_pure _
  | some id => exact within_bind hB.now fun _ => hB.pollBundle _ _ _ _

theorem submitProtected (jito : Option JitoClient) (tx : Transaction) (opts : SubmitOptions) :
    Within B True (TxSubmission.submitProtected jito tx opts) := by
  cases jito with
  | none => exact hB.submit tx opts
  | some jito =>
    apply within_ite
    · exact fun _ => within_pure _
    · intro _
      apply within_bind (within_tryCatch (hB.bundle jito tx) fun _ => within_pure _)
      intro landed
      cases landed with
      | some sig => exact within_pure sig
      | none => exact hB.submit tx opts

end Conveying

/-- The process around a network. -/
def networkDeps (library : ConfigFile.Library) (pool : MeteoraPosition.Venue)
    (jito : Option JitoClient) : MainDeps := ⟨library, pool, hostVenue, networkSubmitter jito⟩

end TxSubmission
