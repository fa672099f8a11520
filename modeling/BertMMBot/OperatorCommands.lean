import BertMMBot.DepositPipeline
import BertMMBot.DepositorCommands
import Mathlib.Data.List.Infix

/-! # Commands of the operator

The caller has authorized the sender. `/forceprocess` puts a failed withdrawal back in the
queue; `/recreditdeposit` credits a deposit that was swept but not credited. -/
namespace OperatorCommands

open AsyncProgram VaultTypes VaultProgram DepositorStore ShareMath DepositPipeline
open DepositorCommands (Msg)

structure OperatorCommandsDeps where
  reply (chatId : ℤ) (notice : Notice) : Vault Unit
  getMid : Vault (Option Mid)

variable (deps : OperatorCommandsDeps)

def handlePause (msg : Msg) : Vault Unit := do
  setFlag vaultPausedFlag "1"
  let ms ← now
  writeAudit ms (some msg.userId) .vaultPaused
  deps.reply msg.chatId .vaultPaused

def handleResume (msg : Msg) : Vault Unit := do
  setFlag vaultPausedFlag ""
  let ms ← now
  writeAudit ms (some msg.userId) .vaultResumed
  deps.reply msg.chatId .vaultResumed

def vaultStatus (db : Db) : Notice :=
  .vaultStatus (isVaultPaused db) (latestNavSnapshot db) (totalShares db)
    (countPendingWithdrawals db) (countPendingWhitelistChanges db) (listRecentAuditEvents 5 db)

def handleStatus (msg : Msg) : Vault Unit := do
  let notice ← readDb vaultStatus
  deps.reply msg.chatId notice

/-- `Number(raw)` when it is a positive integer. -/
def withdrawalId (raw : String) : Option ℕ :=
  (TextInput.number raw).bind fun q => if q.den = 1 ∧ 0 < q.num then some q.num.toNat else none

def requeue (msg : Msg) (id : ℕ) (w : WithdrawalRow) : Vault Unit := do
  requeueFailedWithdrawal id
  let ms ← now
  writeAudit ms (some msg.userId) (.withdrawalRequeued id w.failureReason)
  deps.reply msg.chatId (.withdrawalRequeued id)

def handleForceProcess (msg : Msg) : Vault Unit := do
  match TextInput.argument msg.text with
  | none => deps.reply msg.chatId .forceProcessUsage
  | some raw =>
    match withdrawalId raw with
    | none => deps.reply msg.chatId (.invalidWithdrawalId raw)
    | some id =>
      match ← readDb (getWithdrawalById id) with
      | none => deps.reply msg.chatId (.withdrawalNotFound id)
      | some w =>
        match w.txSig with
        | some txSig => deps.reply msg.chatId (.withdrawalHasTxSig id txSig)
        | none =>
          if w.status ≠ .failed then deps.reply msg.chatId (.withdrawalNotFailed id w.status)
          else requeue deps msg id w

/-- What the audit log says about one inbound signature. -/
structure AuditTrail where
  detected : Option (ℕ × ℕ)
  swept : Option (Signature × ℕ × ℕ × ℤ)
  telegramId : Option TelegramId

/-- The scan goes from newest to oldest and keeps the first row of each kind. -/
def scanAudit (inboundTxSig : String) : List AuditRow → AuditTrail → AuditTrail
  | [], trail => trail
  | e :: rest, trail =>
    if trail.detected.isSome ∧ trail.swept.isSome then trail
    else
      match e.event with
      | .depositDetected sig sol bert =>
        if sig = inboundTxSig ∧ trail.detected = none then
          scanAudit inboundTxSig rest { trail with
            detected := some (sol, bert), telegramId := e.telegramId }
        else scanAudit inboundTxSig rest trail
      | .depositSwept sig sweepTxSig sol bert confirmedAt =>
        if sig = inboundTxSig ∧ trail.swept = none then
          scanAudit inboundTxSig rest { trail with
            swept := some (sweepTxSig, sol, bert, confirmedAt)
            telegramId := trail.telegramId.orElse fun _ => e.telegramId }
        else scanAudit inboundTxSig rest trail
      | _ => scanAudit inboundTxSig rest trail

def isUniqueError (e : Thrown) : Bool :=
  decide ("unique".toList <:+: e.string.toList.map Char.toLower)

def announceRecredit (msg : Msg) (telegramId : TelegramId) (inboundTxSig : String)
    (sweepTxSig : Signature) (navPerShare : ℚ) : Vault Unit := do
  let deposits ← readDb (listDepositsForUser telegramId)
  let matching := deposits.find? fun d => d.inboundTxSig = inboundTxSig
  let sharesMinted := (matching.map DepositRow.sharesMinted).getD 0
  let ms ← now
  writeAudit ms (some msg.userId)
    (.depositRecredited inboundTxSig sweepTxSig telegramId sharesMinted navPerShare)
  deps.reply msg.chatId (.recredited inboundTxSig sharesMinted telegramId navPerShare)

/-- The NAV per share of the latest snapshot's value over the current shares. -/
def snapshotNavPerShare (db : Db) : ℚ :=
  computeNavPerShare (((latestNavSnapshot db).map NavSnapshotRow.totalValueUsd).getD 0)
    (totalShares db)

/-- The unique constraint on the signature is how a race with the pipeline shows. -/
def refuseRecredit (msg : Msg) (inboundTxSig : String) (e : Thrown) : Vault Unit :=
  if isUniqueError e then deps.reply msg.chatId (.alreadyCredited inboundTxSig true)
  else deps.reply msg.chatId (.recreditFailed e.string)

/-- Whether the deposit was credited; if not, the operator is told why. -/
def recredit (msg : Msg) (telegramId : TelegramId) (inboundTxSig : String)
    (sweepTxSig : Signature) (solLamports bertRaw : ℕ) (confirmedAt : ℤ) (mid : Mid)
    (navPerShare : ℚ) : Vault Bool :=
  tryCatch
    (do
      let sweptAt ← now
      let ms ← now
      credit {
        telegramId, inboundTxSig, sweepTxSig, solLamports, bertRaw, mid,
        navPerShareAtDeposit := navPerShare, confirmedAt, sweptAt, now := ms }
      return true)
    fun e => do
      refuseRecredit deps msg inboundTxSig e
      return false

/-- Amounts come from the detection row, the sweep signature from the sweep row. -/
def recreditFrom (msg : Msg) (inboundTxSig : String) (telegramId : TelegramId)
    (detected : ℕ × ℕ) (swept : Signature × ℕ × ℕ × ℤ) : Vault Unit := do
  match ← deps.getMid with
  | none => deps.reply msg.chatId .oracleUnavailable
  | some mid =>
    let navPerShare ← readDb snapshotNavPerShare
    if ← recredit deps msg telegramId inboundTxSig swept.1 detected.1 detected.2 swept.2.2.2 mid
        navPerShare then
      announceRecredit deps msg telegramId inboundTxSig swept.1 navPerShare
    else pure ()

def handleRecreditDeposit (msg : Msg) : Vault Unit := do
  match TextInput.argument msg.text with
  | none => deps.reply msg.chatId .recreditUsage
  | some inboundTxSig =>
    if ← readDb (hasDeposit inboundTxSig) then
      deps.reply msg.chatId (.alreadyCredited inboundTxSig false)
    else
      let recent ← readDb (listRecentAuditEvents 5000)
      let trail := scanAudit inboundTxSig recent ⟨none, none, none⟩
      match trail.detected, trail.swept, trail.telegramId with
      | none, _, _ => deps.reply msg.chatId (.noDetectedAudit inboundTxSig)
      | some _, none, _ => deps.reply msg.chatId (.noSweptAudit inboundTxSig)
      | some _, some _, none => deps.reply msg.chatId .noTelegramId
      | some detected, some swept, some telegramId =>
        recreditFrom deps msg inboundTxSig telegramId detected swept

def handleResetTotp (msg : Msg) : Vault Unit := do
  match TextInput.resetTotpTarget msg.text with
  | none => deps.reply msg.chatId .resetTotpUsage
  | some targetId =>
    match ← readDb (getUser targetId) with
    | none => deps.reply msg.chatId (.noSuchUser targetId)
    | some _ =>
      clearUserTotp targetId
      let ms ← now
      writeAudit ms (some msg.userId) (.totpReset targetId)
      deps.reply msg.chatId (.totpReset targetId)

end OperatorCommands
