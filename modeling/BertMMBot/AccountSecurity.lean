import BertMMBot.DepositorStore
import BertMMBot.Encryption
import BertMMBot.TextInput

/-! # Account security

The TOTP rate limiter, code verification with its replay counter, enrollment, and the
cooldown on changes of the withdrawal address. -/
namespace AccountSecurity

open AsyncProgram VaultTypes VaultProgram Encryption DepositorStore

structure RateLimits where
  windowMs : ℤ := 15 * 60000
  threshold : ℕ := 5
  lockoutMs : ℤ := 15 * 60000

/-- An expired lockout is cleared when it is looked up. -/
def isLockedOut (userId : TelegramId) (now : ℤ) : Vault (Option ℤ) := do
  match ← readMemory fun m => m.lockedUntil userId with
  | none => return none
  | some until_ =>
    if now < until_ then return some until_
    else
      modifyMemory fun m => { m with lockedUntil := Function.update m.lockedUntil userId none }
      return none

/-- The expiry of the lockout that this failure starts, if it starts one. -/
def recordFailure (limits : RateLimits) (userId : TelegramId) (now : ℤ) : Vault (Option ℤ) := do
  let prior ← readMemory fun m => (m.failures userId).getD []
  let recent := (prior.filter fun t => now - t ≤ limits.windowMs) ++ [now]
  if limits.threshold ≤ recent.length then
    let until_ := now + limits.lockoutMs
    modifyMemory fun m => { m with
      lockedUntil := Function.update m.lockedUntil userId (some until_)
      failures := Function.update m.failures userId none }
    return some until_
  else
    modifyMemory fun m => { m with failures := Function.update m.failures userId (some recent) }
    return none

def recordSuccess (userId : TelegramId) : Vault Unit :=
  modifyMemory fun m => { m with
    failures := Function.update m.failures userId none
    lockedUntil := Function.update m.lockedUntil userId none }

def stepSec : ℤ := 30

def currentCounter : Vault ℤ := do
  let ms ← now
  return ms / (1000 * stepSec)

inductive VerifyResult where
  | ok (counter : ℤ)
  | badFormat
  | invalid
  | replay (counter : ℤ)
  deriving DecidableEq, Repr

/-- The counter must exceed the last one used. -/
def verifyCode (secret code : String) (lastUsedCounter : Option ℤ) : Vault VerifyResult := do
  if TextInput.isSixDigits code then
    match ← totpValidate secret code with
    | none => return .invalid
    | some delta =>
      let counter ← currentCounter
      let matched := counter + delta
      if (lastUsedCounter.map fun last => decide (matched ≤ last)).getD false then
        return .replay matched
      else return .ok matched
  else return .badFormat

/-- A user who already has a row is left as is. -/
def accept (ensureAta : Address → Vault Unit) (telegramId : TelegramId) (now : ℤ) : Vault Unit := do
  match ← readDb (getUser telegramId) with
  | some _ => pure ()
  | none =>
    let kp ← generateKeypair
    let enc ← encryptSecret kp.secretKey
    createUser {
      telegramId, role := .depositor, depositAddress := kp.publicKey, depositSecretEnc := enc,
      disclaimerAt := now, createdAt := now }
    ensureAta kp.publicKey

/-- Stores a fresh secret as unconfirmed and returns it. -/
def beginTotpEnrollment (telegramId : TelegramId) : Vault String := do
  match ← readDb (getUser telegramId) with
  | none => throw (.error "Enrollment.beginTotpEnrollment: no such user")
  | some _ =>
    let secretBase32 ← generateSecret
    let enc ← encryptSecret (utf8Bytes secretBase32)
    setTotp telegramId enc 0
    return secretBase32

def confirmTotp (telegramId : TelegramId) (code : String) (now : ℤ) : Vault Bool := do
  match (← readDb (getUserSecrets telegramId)).bind UserSecrets.totpSecretEnc with
  | none => return false
  | some secretEnc =>
    let secretBase32 ← decryptSecret secretEnc
    match ← verifyCode (utf8Text secretBase32) code none with
    | .ok counter =>
      setTotp telegramId secretEnc now
      setTotpLastCounter telegramId counter
      return true
    | _ => return false

structure ChangeResult where
  immediate : Bool
  activatesAt : ℤ
  pendingId : ℕ

/-- The first address is set at once, a later one waits for the cooldown. -/
def requestChange (cooldownMs : ℤ) (telegramId : TelegramId) (newAddress : Address) (now : ℤ) :
    Vault ChangeResult := do
  match ← readDb (getUser telegramId) with
  | none => throw (.error "requestChange: user not found")
  | some user =>
    match user.whitelistAddress with
    | none =>
      withTransaction do
        let id ← enqueueWhitelistChange {
          telegramId, oldAddress := none, newAddress, requestedAt := now, activatesAt := now,
          initialStatus := .activated }
        setWhitelistImmediate telegramId newAddress now
        return ⟨true, now, id⟩
    | some old =>
      let id ← enqueueWhitelistChange {
        telegramId, oldAddress := some old, newAddress, requestedAt := now,
        activatesAt := now + cooldownMs, initialStatus := .pending }
      return ⟨false, now + cooldownMs, id⟩

def activateChange (now : ℤ) (row : WhitelistChangeRow) : Vault Unit :=
  withTransaction do
    setWhitelistImmediate row.telegramId row.newAddress now
    markWhitelistActivated row.id

/-- Returns the rows it has activated. -/
def activateDue (now : ℤ) : Vault (List WhitelistChangeRow) := do
  let due ← readDb (listDueWhitelistChanges now)
  Async.forEach due (activateChange now)
  return due

def cancelPending (telegramId : TelegramId) (reason : String) : Vault Bool := do
  match ← readDb (mostRecentPendingChange telegramId) with
  | none => return false
  | some p =>
    cancelPendingWhitelist p.id reason
    return true

end AccountSecurity
