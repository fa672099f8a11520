import BertMMBot.AsyncWiring
import BertMMBot.VaultRuntime

/-! # What the operator's commands leave alone

A command of the operator changes rows of one table, adds an audit row and answers. Bounds
with room for its statements hold of the whole command, whatever else they are about. The same
goes for a statement by itself and for the request of a new withdrawal address. -/
namespace OperatorBounds

open AsyncProgram AsyncWiring VaultTypes VaultProgram DepositorStore DepositPipeline
open DepositorCommands OperatorCommands VaultRuntime

variable {V α : Type} {B : Bounds vaultInterface World V} {x : Prop} {msg : Msg}
  {venue : MeteoraPosition.Venue} {cfg : BotConfig}

/-- Clocks are read, replies sent and audit rows added within bounds. -/
structure Roomy (B : Bounds vaultInterface World V) : Prop where
  clock : B.choice .clock
  reply : ∀ chatId notice, B.call (.reply chatId notice)
  audit : ∀ event, B.choice (.statement (.writeAudit event))
  fault : ∀ w st, B.view (w.fault st) = B.view w
  rows : ∀ w auditLog, B.view (w.withDb { w.db with auditLog }) = B.view w

theorem within_statement (hfault : ∀ w st, B.view (w.fault st) = B.view w) {st : Stmt}
    {f : Db → Except Thrown (α × Db)} (hst : B.choice (.statement st))
    (hf : ∀ w a db, f w.db = .ok (a, db) → B.view (w.withDb db) = B.view w) :
    Within B x (statement st f) := by
  apply within_bind (within_choose hst)
  intro r
  cases r with
  | some e => exact within_bind (within_modify fun w => hfault w st) fun _ => within_throw e
  | none =>
    apply within_attempt
    intro w a w' hrun
    rcases hdb : f w.db with e | ⟨b, db⟩
    · simp [hdb] at hrun
    · simp only [hdb, Except.ok.injEq, Prod.mk.injEq] at hrun
      obtain ⟨-, rfl⟩ := hrun
      exact hf w b db hdb

theorem within_update (hfault : ∀ w st, B.view (w.fault st) = B.view w) {st : Stmt} {f : Db → Db}
    (hst : B.choice (.statement st)) (hf : ∀ w, B.view (w.withDb (f w.db)) = B.view w) :
    Within B x (update st f) := by
  apply within_statement hfault hst
  intro w a db hdb
  cases hdb
  exact hf w

section Changes

open AccountSecurity

variable {u : TelegramId}

theorem within_requestChange {address : Address} {cooldownMs ms : ℤ}
    (henqueue : ∀ {y : Prop} (args : NewWhitelistChange), Within B y (enqueueWhitelistChange args))
    (hset : Within B False (setWhitelistImmediate u address ms))
    (htransact : ∀ {m : Vault ChangeResult}, Within B False m → Within B x (withTransaction m)) :
    Within B x (requestChange cooldownMs u address ms) := by
  apply within_bind (within_read _)
  intro user
  cases user with
  | none => exact within_throw _
  | some user =>
    dsimp only
    cases user.whitelistAddress with
    | some old => exact within_bind (henqueue _) fun _ => within_pure _
    | none =>
      apply htransact
      apply within_bind (henqueue _)
      intro id
      exact within_bind hset fun _ => within_pure _

theorem within_cancelPending {reason : String}
    (hcancel : ∀ id, Within B x (cancelPendingWhitelist id reason)) :
    Within B x (cancelPending u reason) := by
  apply within_bind (within_read _)
  intro latest
  cases latest with
  | none => exact within_pure _
  | some c => exact within_bind (hcancel c.id) fun _ => within_pure _

end Changes

section Roomy

variable (hB : Roomy B)
include hB

theorem within_now : Within B x now := within_choose hB.clock

theorem within_reply (chatId : ℤ) (notice : Notice) : Within B True (reply chatId notice) :=
  within_call trivial (hB.reply chatId notice)

theorem within_writeAudit (ms : ℤ) (telegramId : Option TelegramId) (event : AuditEvent) :
    Within B x (writeAudit ms telegramId event) :=
  within_update hB.fault (hB.audit event) fun w => hB.rows w _

theorem within_conclude (telegramId : Option TelegramId) (event : AuditEvent) (chatId : ℤ)
    (notice : Notice) : Within B True (do
      let ms ← now
      writeAudit ms telegramId event
      reply chatId notice) := by
  apply within_bind (within_now hB)
  intro ms
  exact within_bind (within_writeAudit hB _ _ _) fun _ => within_reply hB _ _

theorem within_switch {name value : String} (hflag : Within B True (setFlag name value))
    (event : AuditEvent) (notice : Notice) : Within B True (do
      setFlag name value
      let ms ← now
      writeAudit ms (some msg.userId) event
      reply msg.chatId notice) :=
  within_bind hflag fun _ => within_conclude hB _ _ _ _

theorem within_requeueFailedWithdrawal {id : ℕ}
    (hst : B.choice (.statement (.requeueFailedWithdrawal id)))
    (hrows : ∀ w withdrawals, B.view (w.withDb { w.db with withdrawals }) = B.view w) :
    Within B x (requeueFailedWithdrawal id) := by
  apply within_bind (within_read _)
  intro row
  cases row with
  | none => exact within_throw _
  | some row =>
    apply within_ite (fun _ => within_throw _)
    intro _
    apply within_ite (fun _ => within_throw _)
    intro _
    exact within_update hB.fault hst fun w => hrows w _

theorem within_handleForceProcess
    (hrequeue : ∀ id, Within B True (requeueFailedWithdrawal id)) :
    Within B True (handleForceProcess (commanderDeps venue cfg).operator msg) := by
  unfold handleForceProcess
  cases TextInput.argument msg.text with
  | none => exact within_reply hB _ _
  | some raw =>
    dsimp only
    cases withdrawalId raw with
    | none => exact within_reply hB _ _
    | some id =>
      apply within_bind (within_read _)
      intro row
      cases row with
      | none => exact within_reply hB _ _
      | some row =>
        dsimp only
        cases row.txSig with
        | some txSig => exact within_reply hB _ _
        | none =>
          apply within_ite (fun _ => within_reply hB _ _)
          intro _
          exact within_bind (hrequeue id) fun _ => within_conclude hB _ _ _ _

theorem within_recredit (hcredit : ∀ p, Within B True (credit p)) (inboundTxSig : String)
    (telegramId : TelegramId) (sweepTxSig : Signature) (solLamports bertRaw : ℕ)
    (confirmedAt : ℤ) (mid : Mid) (navPerShare : ℚ) :
    Within B True (recredit (commanderDeps venue cfg).operator msg telegramId inboundTxSig
      sweepTxSig solLamports bertRaw confirmedAt mid navPerShare) := by
  apply within_tryCatch
  · apply within_bind (within_now hB)
    intro sweptAt
    apply within_bind (within_now hB)
    intro ms
    exact within_bind (hcredit _) fun _ => within_pure _
  · intro e
    apply within_bind _ fun _ => within_pure _
    exact within_ite (fun _ => within_reply hB _ _) fun _ => within_reply hB _ _

theorem within_handleRecreditDeposit (hmid : Within B True VaultRuntime.getMid)
    (hcredit : ∀ p, Within B True (credit p)) :
    Within B True (handleRecreditDeposit (commanderDeps venue cfg).operator msg) := by
  unfold handleRecreditDeposit
  cases TextInput.argument msg.text with
  | none => exact within_reply hB _ _
  | some inboundTxSig =>
    apply within_bind (within_read _)
    intro credited
    apply within_ite (fun _ => within_reply hB _ _)
    intro _
    apply within_bind (within_read _)
    intro recent
    rcases scanAudit inboundTxSig recent ⟨none, none, none⟩ with ⟨detected, swept, telegramId⟩
    cases detected with
    | none => exact within_reply hB _ _
    | some detected =>
      cases swept with
      | none => exact within_reply hB _ _
      | some swept =>
        cases telegramId with
        | none => exact within_reply hB _ _
        | some telegramId =>
          apply within_bind hmid
          intro mid
          cases mid with
          | none => exact within_reply hB _ _
          | some mid =>
            apply within_bind (within_read _)
            intro navPerShare
            apply within_bind (within_recredit hB hcredit _ _ _ _ _ _ _ _)
            intro credited
            apply within_ite _ fun _ => within_pure _
            intro _
            exact within_bind (within_read _) fun deposits => within_conclude hB _ _ _ _

theorem within_handleResetTotp (hclear : ∀ u, Within B True (clearUserTotp u)) :
    Within B True (handleResetTotp (commanderDeps venue cfg).operator msg) := by
  unfold handleResetTotp
  cases TextInput.resetTotpTarget msg.text with
  | none => exact within_reply hB _ _
  | some targetId =>
    apply within_bind (within_read _)
    intro user
    cases user with
    | none => exact within_reply hB _ _
    | some user => exact within_bind (hclear targetId) fun _ => within_conclude hB _ _ _ _

end Roomy

end OperatorBounds
