import BertMMBot.AccountSecurity
import BertMMBot.ShareMath

/-! # Commands of the depositors

One definition for each handler. A privileged action runs at once within the unlock window
of an accepted code; otherwise it is kept as pending until the next message carries one. -/
namespace DepositorCommands

open AsyncProgram VaultTypes VaultProgram Encryption DepositorStore ShareMath AccountSecurity

/-- The limits of the configuration file, within the bounds its schema checks. -/
structure CommandsConfig where
  withdrawalFeeBps : ℕ
  minWithdrawalUsd : ℚ
  maxDailyWithdrawalsPerUser : ℕ
  maxDailyWithdrawalUsdPerUser : ℚ
  maxPendingWithdrawals : ℕ
  withdrawalFeeBps_le : withdrawalFeeBps ≤ 1000
  minWithdrawalUsd_pos : 0 < minWithdrawalUsd
  maxDailyWithdrawalsPerUser_pos : 0 < maxDailyWithdrawalsPerUser
  maxDailyWithdrawalUsdPerUser_pos : 0 < maxDailyWithdrawalUsdPerUser
  maxPendingWithdrawals_pos : 0 < maxPendingWithdrawals

structure CommandsDeps where
  config : CommandsConfig
  cooldownMs : ℤ
  limits : RateLimits
  reply (chatId : ℤ) (notice : Notice) : Vault Unit
  ensureAta (address : Address) : Vault Unit
  getNav : Vault (Option Nav)

structure Msg where
  chatId : ℤ
  userId : TelegramId
  text : String
  deriving DecidableEq, Repr

def totpSetupMaxFailures : ℕ := 5
def totpUnlockMs : ℤ := 5 * 60 * 1000

def setPending (userId : TelegramId) (action : PendingAction) : Vault Unit :=
  modifyMemory fun m => { m with pending := Function.update m.pending userId (some action) }

def clearPending (userId : TelegramId) : Vault Unit :=
  modifyMemory fun m => { m with pending := Function.update m.pending userId none }

def setTotpSetupFailures (userId : TelegramId) (failures : Option ℕ) : Vault Unit :=
  modifyMemory fun m =>
    { m with totpSetupFailures := Function.update m.totpSetupFailures userId failures }

def isUnlocked (userId : TelegramId) : Vault Bool := do
  match ← readMemory fun m => m.unlockedUntil userId with
  | none => return false
  | some until_ =>
    let ms ← now
    return ms < until_

def setUnlocked (userId : TelegramId) : Vault Unit := do
  let ms ← now
  modifyMemory fun m =>
    { m with unlockedUntil := Function.update m.unlockedUntil userId (some (ms + totpUnlockMs)) }

/-- A user row whose enrolment is confirmed. -/
def enrolled (user : Option UserRow) : Option UserRow :=
  user.filter fun u => u.totpEnrolledAt.isSome

variable (deps : CommandsDeps)

def rejectIfLocked (chatId : ℤ) (userId : TelegramId) : Vault Bool := do
  let ms ← now
  match ← isLockedOut userId ms with
  | none => return false
  | some until_ =>
    deps.reply chatId (.lockedFor (until_ - ms))
    return true

def verifyTotp (userId : TelegramId) (code : String) : Vault Bool := do
  match enrolled (← readDb (getUser userId)) with
  | none => return false
  | some user =>
    match (← readDb (getUserSecrets userId)).bind UserSecrets.totpSecretEnc with
    | none => return false
    | some secretEnc =>
      let secretBase32 ← decryptSecret secretEnc
      match ← verifyCode (utf8Text secretBase32) code user.totpLastUsedCounter with
      | .ok counter =>
        setTotpLastCounter userId counter
        return true
      | _ => return false

inductive Gate where
  | ok
  | locked (until_ : ℤ)
  | failed
  deriving DecidableEq, Repr

def recordVerifyFailure (userId : TelegramId) (op : TotpOp) (ms : ℤ) : Vault Gate := do
  let lockedUntil ← recordFailure deps.limits userId ms
  writeAudit ms (some userId) (.totpVerifyFailed op)
  match lockedUntil with
  | some until_ =>
    writeAudit ms (some userId) (.totpRateLimited until_)
    return .locked until_
  | none => return .failed

def verifyTotpGated (userId : TelegramId) (code : String) (op : TotpOp) : Vault Gate := do
  let ms ← now
  match ← isLockedOut userId ms with
  | some until_ => return .locked until_
  | none =>
    if ← verifyTotp userId code then
      recordSuccess userId
      setUnlocked userId
      return .ok
    else recordVerifyFailure deps userId op ms

/-- The common shape of the replies to a code prompt: `act` runs on an accepted code. -/
def respondGated (msg : Msg) (op : TotpOp) (act : Vault Unit) : Vault Unit := do
  clearPending msg.userId
  match ← verifyTotpGated deps msg.userId (TextInput.trim msg.text) op with
  | .ok => act
  | .locked until_ =>
    let ms ← now
    deps.reply msg.chatId (.lockedFor (until_ - ms))
  | .failed => deps.reply msg.chatId (.codeInvalid op)

/-- The common shape of the privileged commands: enrolled, not locked out, then either the
action itself or a prompt for a code. -/
def promptGated (msg : Msg) (pending : PendingAction) (prompt : Notice) (act : Vault Unit) :
    Vault Unit := do
  match enrolled (← readDb (getUser msg.userId)) with
  | none => deps.reply msg.chatId .enrollFirst
  | some _ =>
    if ← rejectIfLocked deps msg.chatId msg.userId then pure ()
    else if ← isUnlocked msg.userId then act
    else
      setPending msg.userId pending
      deps.reply msg.chatId prompt

def handleAccount (msg : Msg) : Vault Unit := do
  match ← readDb (getUser msg.userId) with
  | none =>
    setPending msg.userId .disclaimer
    deps.reply msg.chatId .disclaimer
  | some existing =>
    if existing.totpEnrolledAt = none then
      let secretBase32 ← beginTotpEnrollment msg.userId
      setPending msg.userId .totpSetupConfirm
      deps.reply msg.chatId (.totpSecret secretBase32)
    else deps.reply msg.chatId .accountReady

def acceptDisclaimer (msg : Msg) : Vault Unit := do
  clearPending msg.userId
  let ms ← now
  accept deps.ensureAta msg.userId ms
  writeAudit ms (some msg.userId) .disclaimerAccepted
  let secretBase32 ← beginTotpEnrollment msg.userId
  setPending msg.userId .totpSetupConfirm
  setTotpSetupFailures msg.userId none
  deps.reply msg.chatId (.totpSecret secretBase32)

def handleAccept (msg : Msg) : Vault Unit := do
  let pending ← readMemory fun m => m.pending msg.userId
  if pending = some .disclaimer then acceptDisclaimer deps msg
  else deps.reply msg.chatId .noPendingAction

def handleDecline (msg : Msg) : Vault Unit := do
  clearPending msg.userId
  setTotpSetupFailures msg.userId none
  deps.reply msg.chatId .declined

def totpSetupAccepted (msg : Msg) (ms : ℤ) : Vault Unit := do
  clearPending msg.userId
  setTotpSetupFailures msg.userId none
  recordSuccess msg.userId
  writeAudit ms (some msg.userId) .totpEnrolled
  deps.reply msg.chatId .accountReady

/-- Failures of the setup also count for the rate limiter. -/
def totpSetupRejected (msg : Msg) (ms : ℤ) : Vault Unit := do
  let failures ← readMemory fun m => (m.totpSetupFailures msg.userId).getD 0 + 1
  writeAudit ms (some msg.userId) (.totpVerifyFailed (.totpSetupConfirm failures))
  match ← recordFailure deps.limits msg.userId ms with
  | some until_ =>
    clearPending msg.userId
    setTotpSetupFailures msg.userId none
    writeAudit ms (some msg.userId) (.totpRateLimited until_)
    deps.reply msg.chatId (.lockedFor (until_ - ms))
  | none =>
    if totpSetupMaxFailures ≤ failures then
      clearPending msg.userId
      setTotpSetupFailures msg.userId none
      deps.reply msg.chatId .tooManyInvalidCodes
    else
      setTotpSetupFailures msg.userId (some failures)
      deps.reply msg.chatId .invalidCodeTryAgain

def respondTotpSetupConfirm (msg : Msg) : Vault Unit := do
  let ms ← now
  if ← confirmTotp msg.userId (TextInput.trim msg.text) ms then totpSetupAccepted deps msg ms
  else totpSetupRejected deps msg ms

/-- The row is read again after the code; without one the property access throws. -/
def doDepositReveal (userId : TelegramId) (chatId : ℤ) : Vault Unit := do
  let user ← readDb (getUser userId)
  let ms ← now
  writeAudit ms (some userId) .depositReveal
  let user ← nonNull "depositAddress" user
  deps.reply chatId (.depositAddress user.depositAddress)

def handleDeposit (msg : Msg) : Vault Unit :=
  promptGated deps msg .depositReveal .depositCodePrompt (doDepositReveal deps msg.userId msg.chatId)

def respondDepositReveal (msg : Msg) : Vault Unit :=
  respondGated deps msg .depositReveal (doDepositReveal deps msg.userId msg.chatId)

def doBalanceReveal (userId : TelegramId) (chatId : ℤ) : Vault Unit := do
  let shares ← readDb (getShares userId)
  match ← deps.getNav with
  | none => deps.reply chatId .navUnavailable
  | some nav =>
    let navPerShare := computeNavPerShare nav.totalUsd nav.totalShares
    let usd := usdForShares shares navPerShare
    let ms ← now
    writeAudit ms (some userId) (.balanceReveal shares navPerShare usd)
    deps.reply chatId (.balance shares usd navPerShare)

def handleBalance (msg : Msg) : Vault Unit :=
  promptGated deps msg .balanceReveal .balanceCodePrompt (doBalanceReveal deps msg.userId msg.chatId)

def respondBalanceReveal (msg : Msg) : Vault Unit :=
  respondGated deps msg .balanceReveal (doBalanceReveal deps msg.userId msg.chatId)

def handleStats (msg : Msg) : Vault Unit := do
  match ← deps.getNav with
  | none => deps.reply msg.chatId .statsUnavailable
  | some nav =>
    let navPerShare := computeNavPerShare nav.totalUsd nav.totalShares
    let ms ← now
    let prior ← readDb (navSnapshotAtOrBefore (ms - dayMs))
    let delta := (prior.filter fun p => 0 < p.navPerShare).map fun p =>
      (navPerShare - p.navPerShare) / p.navPerShare * 100
    deps.reply msg.chatId (.stats nav.totalUsd navPerShare delta)

def handleMenu (msg : Msg) : Vault Unit := do
  match enrolled (← readDb (getUser msg.userId)) with
  | none => deps.reply msg.chatId .welcome
  | some _ => deps.reply msg.chatId .menu

def enqueue (user : UserRow) (destination : Address) (chatId : ℤ) (amountUsd navPerShare : ℚ) :
    Vault Unit := do
  let sharesBurned := amountUsd / navPerShare
  let feeShares := (splitFee sharesBurned deps.config.withdrawalFeeBps).feeShares
  let queuedAt ← now
  let id ← enqueueWithdrawal {
    telegramId := user.telegramId, destination, sharesBurned, feeShares, queuedAt }
  let ms ← now
  writeAudit ms (some user.telegramId)
    (.withdrawalQueued id amountUsd sharesBurned feeShares destination)
  deps.reply chatId (.withdrawalQueued id amountUsd)

/-- The amount is turned into shares at the NAV read now, not at the one it was checked with. -/
def doWithdraw (userId : TelegramId) (chatId : ℤ) (amountUsd : ℚ) : Vault Unit := do
  let user ← nonNull "whitelistAddress" (← readDb (getUser userId))
  match user.whitelistAddress.filter (· ≠ "") with
  | none => deps.reply chatId .noWhitelistAddress
  | some destination =>
    match ← deps.getNav with
    | none => deps.reply chatId .navUnavailable
    | some nav =>
      let navPerShare := computeNavPerShare nav.totalUsd nav.totalShares
      if navPerShare ≤ 0 then deps.reply chatId .navUnavailable
      else enqueue deps user destination chatId amountUsd navPerShare

inductive AmountEntry where
  | amount (usd : ℚ)
  | rejected (notice : Notice)

/-- An amount in USD, or a percentage of the user's balance. -/
def parseAmount (raw : String) (userUsd : ℚ) : AmountEntry :=
  if raw.toList.getLast? = some '%' then
    match TextInput.number (String.ofList raw.toList.dropLast) with
    | some pct =>
      if pct ≤ 0 ∨ 100 < pct then .rejected .invalidPercentage else .amount (userUsd * pct / 100)
    | none => .rejected .invalidPercentage
  else
    match TextInput.number raw with
    | some n => if n ≤ 0 then .rejected .invalidAmount else .amount n
    | none => .rejected .invalidAmount

/-- The first limit of the configuration that the amount breaks. -/
def checkAmount (userUsd amountUsd : ℚ) : Option Notice :=
  if amountUsd < deps.config.minWithdrawalUsd then
    some (.amountBelowMinimum deps.config.minWithdrawalUsd)
  else if userUsd + 1 / 10 ^ 6 < amountUsd then some (.amountExceedsBalance userUsd)
  else none

def checkCaps (userId : TelegramId) (amountUsd : ℚ) : Vault (Option Notice) := do
  let ms ← now
  let countToday ← readDb (countUserWithdrawalsLast24h userId ms)
  if deps.config.maxDailyWithdrawalsPerUser ≤ countToday then
    return some (.dailyWithdrawalLimit deps.config.maxDailyWithdrawalsPerUser)
  else
    let ms ← now
    let usdToday ← readDb (sumUserWithdrawalUsdLast24h userId ms)
    if deps.config.maxDailyWithdrawalUsdPerUser < usdToday + amountUsd then
      return some (.dailyUsdCap deps.config.maxDailyWithdrawalUsdPerUser usdToday)
    else
      let pending ← readDb countPendingWithdrawals
      if deps.config.maxPendingWithdrawals ≤ pending then return some .withdrawalQueueFull
      else return none

def confirmWithdrawal (msg : Msg) (prompt : Notice) (amountUsd : ℚ) : Vault Unit := do
  if ← isUnlocked msg.userId then doWithdraw deps msg.userId msg.chatId amountUsd
  else
    setPending msg.userId (.withdraw amountUsd)
    deps.reply msg.chatId prompt

def userUsdOf (userId : TelegramId) (nav : Nav) : Vault ℚ := do
  let shares ← readDb (getShares userId)
  return usdForShares shares (computeNavPerShare nav.totalUsd nav.totalShares)

/-- The checks of `/withdraw` on its argument, up to the confirmation. -/
def withdrawAmount (msg : Msg) (destination : Address) (raw : String) : Vault Unit := do
  match ← deps.getNav with
  | none => deps.reply msg.chatId .navUnavailable
  | some nav =>
    let userUsd ← userUsdOf msg.userId nav
    match parseAmount raw userUsd with
    | .rejected notice => deps.reply msg.chatId notice
    | .amount amountUsd =>
      match checkAmount deps userUsd amountUsd with
      | some notice => deps.reply msg.chatId notice
      | none =>
        match ← checkCaps deps msg.userId amountUsd with
        | some notice => deps.reply msg.chatId notice
        | none => confirmWithdrawal deps msg (.withdrawPrompt amountUsd destination) amountUsd

def handleWithdraw (msg : Msg) : Vault Unit := do
  match enrolled (← readDb (getUser msg.userId)) with
  | none => deps.reply msg.chatId .enrollFirst
  | some user =>
    match user.whitelistAddress.filter (· ≠ "") with
    | none => deps.reply msg.chatId .setDestinationFirst
    | some destination =>
      if ← rejectIfLocked deps msg.chatId msg.userId then pure ()
      else
        match TextInput.argument msg.text with
        | none =>
          setPending msg.userId .withdrawAmountEntry
          deps.reply msg.chatId .howMuch
        | some raw => withdrawAmount deps msg destination raw

/-- The amount typed after `/withdraw` without one: no percentage here, and no caps. -/
def respondWithdrawAmountEntry (msg : Msg) : Vault Unit := do
  clearPending msg.userId
  match (TextInput.number (TextInput.trim msg.text)).filter (0 < ·) with
  | none => deps.reply msg.chatId .invalidAmountEntry
  | some n =>
    match ((← readDb (getUser msg.userId)).bind UserRow.whitelistAddress).filter (· ≠ "") with
    | none => deps.reply msg.chatId .setDestinationFirst
    | some destination =>
      match ← deps.getNav with
      | none => deps.reply msg.chatId .navUnavailable
      | some nav =>
        let userUsd ← userUsdOf msg.userId nav
        match checkAmount deps userUsd n with
        | some notice => deps.reply msg.chatId notice
        | none => confirmWithdrawal deps msg (.withdrawEntryPrompt n destination) n

def respondWithdraw (msg : Msg) (amountUsd : ℚ) : Vault Unit :=
  respondGated deps msg .withdraw (doWithdraw deps msg.userId msg.chatId amountUsd)

def doSetWhitelist (userId : TelegramId) (chatId : ℤ) (address : Address) : Vault Unit := do
  let requestedAt ← now
  let result ← requestChange deps.cooldownMs userId address requestedAt
  let ms ← now
  writeAudit ms (some userId) (.whitelistSet address result.immediate result.activatesAt)
  if result.immediate then deps.reply chatId (.whitelistSet address)
  else deps.reply chatId (.whitelistQueued result.activatesAt)

/-- A valid new address, from an enrolled user. -/
def setWhitelistTo (msg : Msg) (user : UserRow) (addr : Address) : Vault Unit := do
  if ← rejectIfLocked deps msg.chatId msg.userId then pure ()
  else if ← isUnlocked msg.userId then doSetWhitelist deps msg.userId msg.chatId addr
  else if user.whitelistAddress = none then
    setPending msg.userId (.setwhitelistFirst addr)
    deps.reply msg.chatId (.firstWhitelistPrompt addr)
  else
    setPending msg.userId (.setwhitelistChange addr)
    deps.reply msg.chatId (.whitelistChangePrompt addr)

def handleSetWhitelist (msg : Msg) : Vault Unit := do
  match enrolled (← readDb (getUser msg.userId)) with
  | none => deps.reply msg.chatId .enrollFirst
  | some user =>
    match TextInput.argument msg.text with
    | none => deps.reply msg.chatId .setWhitelistUsage
    | some addr =>
      if ← isPublicKey addr then setWhitelistTo deps msg user addr
      else deps.reply msg.chatId .invalidAddress

def respondSetWhitelistAddressEntry (msg : Msg) : Vault Unit := do
  clearPending msg.userId
  let addr := TextInput.trim msg.text
  if ← isPublicKey addr then
    handleSetWhitelist deps { msg with text := s!"/setwhitelist {addr}" }
  else deps.reply msg.chatId .invalidAddress

def respondSetWhitelist (msg : Msg) (op : TotpOp) (address : Address) : Vault Unit :=
  respondGated deps msg op (doSetWhitelist deps msg.userId msg.chatId address)

def doCancelWhitelist (userId : TelegramId) (chatId : ℤ) : Vault Unit := do
  let _ ← now
  let cancelled ← cancelPending userId "user"
  let ms ← now
  writeAudit ms (some userId) (.whitelistCancel cancelled)
  deps.reply chatId (if cancelled then .whitelistCancelled else .nothingToCancel)

def handleCancelWhitelist (msg : Msg) : Vault Unit :=
  promptGated deps msg .cancelwhitelist .cancelWhitelistPrompt
    (doCancelWhitelist deps msg.userId msg.chatId)

def respondCancelWhitelist (msg : Msg) : Vault Unit :=
  respondGated deps msg .cancelwhitelist (doCancelWhitelist deps msg.userId msg.chatId)

def respond (msg : Msg) : PendingAction → Vault Unit
  | .depositReveal => respondDepositReveal deps msg
  | .balanceReveal => respondBalanceReveal deps msg
  | .setwhitelistFirst address => respondSetWhitelist deps msg .setwhitelistFirst address
  | .setwhitelistChange address => respondSetWhitelist deps msg .setwhitelistChange address
  | .cancelwhitelist => respondCancelWhitelist deps msg
  | .withdrawAmountEntry => respondWithdrawAmountEntry deps msg
  | .withdraw amountUsd => respondWithdraw deps msg amountUsd
  | .setwhitelistAddressEntry => respondSetWhitelistAddressEntry deps msg
  | .totpSetupConfirm => respondTotpSetupConfirm deps msg
  | .disclaimer => pure ()

/-- The pending action is the one read before the lockout is looked up. -/
def handleMessage (msg : Msg) : Vault Unit := do
  match ← readMemory fun m => m.pending msg.userId with
  | none => pure ()
  | some .disclaimer => pure ()
  | some pending =>
    if ← rejectIfLocked deps msg.chatId msg.userId then pure () else respond deps msg pending

end DepositorCommands
