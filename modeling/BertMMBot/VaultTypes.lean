import BertMMBot.AsyncContract
import Mathlib.Data.Rat.Floor
import Mathlib.Data.List.MinMax

/-! # The data of the depositor vault

Rows of the vault tables, the volatile memory of the bot process, and the alphabets through
which its code talks to the outside. Numbers of the source are exact rationals; lamports and
raw token units are integers. Audit details are kept as data rather than as JSON text. -/
namespace VaultTypes

open AsyncProgram AsyncContract

abbrev TelegramId := ℤ
abbrev Address := String
abbrev Bytes := List UInt8

/-- Base58 text of a signature is never empty, so it is truthy wherever the source tests it. -/
abbrev Signature := { text : String // text ≠ "" }

/-- A thrown value: an `Error` with its message, or anything else with its text. -/
inductive Thrown where
  | error (message : String)
  | other (text : String)
  deriving DecidableEq, Repr

/-- `e instanceof Error ? e.message : fallback` -/
def Thrown.messageOr (fallback : String) : Thrown → String
  | .error message => message
  | .other _ => fallback

/-- `e instanceof Error ? e.message : String(e)` -/
def Thrown.string : Thrown → String
  | .error message => message
  | .other text => text

/-- Encrypted bytes with their authentication tag behind them, and the iv; a row of the users has
a column for each. -/
structure EncryptedBlob where
  ciphertext : Bytes
  iv : Bytes
  deriving DecidableEq, Repr

inductive Role where
  | operator
  | depositor
  deriving DecidableEq, Repr

structure UserRow where
  telegramId : TelegramId
  role : Role
  depositAddress : Address
  depositSecretEnc : EncryptedBlob
  totpSecretEnc : Option EncryptedBlob
  totpEnrolledAt : Option ℤ
  totpLastUsedCounter : Option ℤ
  whitelistAddress : Option Address
  whitelistSetAt : Option ℤ
  disclaimerAt : ℤ
  createdAt : ℤ
  deriving DecidableEq, Repr

structure ShareRow where
  telegramId : TelegramId
  shares : ℚ
  deriving DecidableEq, Repr

structure DepositRow where
  id : ℕ
  telegramId : TelegramId
  inboundTxSig : String
  sweepTxSig : Option Signature
  solLamports : ℕ
  bertRaw : ℕ
  solUsd : ℚ
  bertUsd : ℚ
  navPerShareAt : ℚ
  sharesMinted : ℚ
  confirmedAt : ℤ
  sweptAt : Option ℤ
  deriving DecidableEq, Repr

inductive WithdrawalStatus where
  | queued
  | processing
  | completed
  | failed
  deriving DecidableEq, Repr

structure WithdrawalRow where
  id : ℕ
  telegramId : TelegramId
  status : WithdrawalStatus
  destination : Address
  sharesBurned : ℚ
  feeShares : ℚ
  navPerShareAt : Option ℚ
  solLamportsOut : Option ℤ
  bertRawOut : Option ℤ
  txSig : Option Signature
  failureReason : Option String
  queuedAt : ℤ
  processedAt : Option ℤ
  deriving DecidableEq, Repr

inductive WhitelistStatus where
  | pending
  | activated
  | cancelled
  deriving DecidableEq, Repr

structure WhitelistChangeRow where
  id : ℕ
  telegramId : TelegramId
  oldAddress : Option Address
  newAddress : Address
  requestedAt : ℤ
  activatesAt : ℤ
  status : WhitelistStatus
  cancelReason : Option String
  deriving DecidableEq, Repr

inductive SnapshotSource where
  | hourly
  | deposit
  | withdrawal
  | bootstrap
  deriving DecidableEq, Repr

structure NavSnapshotRow where
  ts : ℤ
  totalValueUsd : ℚ
  totalShares : ℚ
  navPerShare : ℚ
  source : SnapshotSource
  deriving DecidableEq, Repr

/-- The `op` recorded with a failed code verification. -/
inductive TotpOp where
  | depositReveal
  | balanceReveal
  | withdraw
  | setwhitelistFirst
  | setwhitelistChange
  | cancelwhitelist
  | totpSetupConfirm (failures : ℕ)
  deriving DecidableEq, Repr

/-- The store call after which a landed transfer could not be recorded. -/
inductive SyncStage where
  | markWithdrawalSent
  | completeWithdrawal
  deriving DecidableEq, Repr

inductive AuditEvent where
  | bootstrap (initialNavUsd : ℚ)
  | disclaimerAccepted
  | totpEnrolled
  | depositReveal
  | balanceReveal (shares navPerShare usd : ℚ)
  | whitelistSet (address : Address) (immediate : Bool) (activatesAt : ℤ)
  | whitelistCancel (cancelled : Bool)
  | whitelistActivated (id : ℕ) (oldAddress : Option Address) (newAddress : Address)
  | withdrawalQueued (id : ℕ) (amountUsd sharesBurned feeShares : ℚ) (destination : Address)
  | withdrawalCompleted (id : ℕ) (txSig : Signature)
      (sharesBurned feeShares usdOwed navPerShare : ℚ)
  | withdrawalFailed (id : ℕ) (reason : String)
  | withdrawalDbSyncFailed (id : ℕ) (txSig : Signature) (error : String) (stage : SyncStage)
  | withdrawalRequeued (id : ℕ) (previousReason : Option String)
  | totpVerifyFailed (op : TotpOp)
  | totpRateLimited (until_ : ℤ)
  | totpReset (targetUserId : TelegramId)
  | vaultPaused
  | vaultResumed
  | depositDetected (inboundTxSig : String) (solLamports bertRaw : ℕ)
  | depositSwept (inboundTxSig : String) (sweepTxSig : Signature) (solLamports bertRaw : ℕ)
      (confirmedAt : ℤ)
  | depositSweepFailed (inboundTxSig : String) (reason : String)
  | depositDeferredOracleUnavailable (inboundTxSig : String)
  | depositCredited (inboundTxSig : String) (depositUsd sharesMinted navPerShare : ℚ)
  | depositRecredited (inboundTxSig : String) (sweepTxSig : Signature)
      (targetTelegramId : TelegramId) (sharesMinted navPerShare : ℚ)
  deriving DecidableEq, Repr

structure AuditRow where
  id : ℕ
  ts : ℤ
  telegramId : Option TelegramId
  event : AuditEvent
  deriving DecidableEq, Repr

structure StoredPosition where
  nftMint : String
  lowerUsd : ℚ
  upperUsd : ℚ
  centerUsd : ℚ
  openedAt : ℤ
  deriving DecidableEq, Repr

/-- The SQLite file. Tables list their rows in rowid order. -/
structure Db where
  users : List UserRow
  shares : List ShareRow
  deposits : List DepositRow
  withdrawals : List WithdrawalRow
  whitelistChanges : List WhitelistChangeRow
  navSnapshots : List NavSnapshotRow
  auditLog : List AuditRow
  flags : String → Option String
  positionState : Option StoredPosition

def Db.empty : Db := ⟨[], [], [], [], [], [], [], fun _ => none, none⟩

inductive PendingAction where
  | disclaimer
  | totpSetupConfirm
  | depositReveal
  | balanceReveal
  | withdrawAmountEntry
  | withdraw (amountUsd : ℚ)
  | setwhitelistAddressEntry
  | setwhitelistFirst (address : Address)
  | setwhitelistChange (address : Address)
  | cancelwhitelist
  deriving DecidableEq, Repr

structure Mid where
  solUsd : ℚ
  bertUsd : ℚ
  deriving DecidableEq, Repr

/-- A quote of one price source. -/
structure PriceSample where
  source : String
  bertUsd : ℚ
  solUsd : ℚ
  bertPerSol : ℚ
  ts : ℤ
  deriving DecidableEq, Repr

structure MidPrice where
  bertPerSol : ℚ
  bertUsd : ℚ
  solUsd : ℚ
  ts : ℤ
  sources : List String
  deriving DecidableEq, Repr

def MidPrice.mid (p : MidPrice) : Mid := ⟨p.solUsd, p.bertUsd⟩

/-- What the process holds in memory: lost when it stops. `trustedMid` is the outcome of the
latest oracle evaluation of the main loop, if it has made one. -/
structure Memory where
  pending : TelegramId → Option PendingAction
  totpSetupFailures : TelegramId → Option ℕ
  unlockedUntil : TelegramId → Option ℤ
  failures : TelegramId → Option (List ℤ)
  lockedUntil : TelegramId → Option ℤ
  priceHistory : List MidPrice
  trustedMid : Option (Option MidPrice)

def Memory.fresh : Memory :=
  ⟨fun _ => none, fun _ => none, fun _ => none, fun _ => none, fun _ => none, [], none⟩

structure Balances where
  solLamports : ℕ
  bertRaw : ℕ
  deriving DecidableEq, Repr

/-- A liquidity position as the pool program stores it. -/
structure OnchainPosition where
  publicKey : String
  totalXAmount : ℕ
  totalYAmount : ℕ
  feeX : ℕ
  feeY : ℕ
  lowerBinId : ℤ
  upperBinId : ℤ
  deriving DecidableEq, Repr

structure Chain where
  wallet : Balances
  positions : List OnchainPosition
  deriving DecidableEq, Repr

/-- The value of the tracked position as the executor is told it. -/
structure PositionValue where
  totalValueUsd : ℚ
  solUsdInPosition : ℚ
  bertUsdInPosition : ℚ
  deriving DecidableEq, Repr

/-- What the history of the process keeps about payouts and sweeps: each call when it is
issued, each signature when it comes back, when a row is taken up, and process stops. -/
inductive TraceEvent where
  | take (id : ℕ)
  | transfer (id : ℕ) (destination : Address) (solLamports bertRaw : ℤ)
  | transferred (id : ℕ) (txSig : Signature)
  | sweep (inboundTxSig : String) (solLamports bertRaw : ℕ)
  | swept (inboundTxSig : String) (txSig : Signature)
  | stop
  deriving DecidableEq, Repr

/-- The SQL statements that write. -/
inductive Stmt where
  | createUser (telegramId : TelegramId)
  | setTotp (telegramId : TelegramId)
  | setTotpLastCounter (telegramId : TelegramId)
  | clearUserTotp (telegramId : TelegramId)
  | setWhitelistImmediate (telegramId : TelegramId)
  | addShares (telegramId : TelegramId) (delta : ℚ)
  | creditDeposit (inboundTxSig : String)
  | enqueueWithdrawal (telegramId : TelegramId) (sharesBurned : ℚ)
  | setWithdrawalProcessing (id : ℕ)
  | markWithdrawalSent (id : ℕ)
  | completeWithdrawal (id : ℕ)
  | failWithdrawal (id : ℕ)
  | requeueFailedWithdrawal (id : ℕ)
  | enqueueWhitelistChange (telegramId : TelegramId)
  | markWhitelistActivated (id : ℕ)
  | cancelPendingWhitelist (id : ℕ)
  | insertNavSnapshot (ts : ℤ)
  | writeAudit (event : AuditEvent)
  | setFlag (key : String)
  deriving DecidableEq, Repr

/-- What the bot tells a chat, with the values its text shows. -/
inductive Notice where
  | disclaimer
  | noPendingAction
  | totpSecret (secretBase32 : String)
  | accountReady
  | declined
  | enrollFirst
  | lockedFor (remainingMs : ℤ)
  | depositCodePrompt
  | depositAddress (address : Address)
  | tooManyInvalidCodes
  | invalidCodeTryAgain
  | codeInvalid (op : TotpOp)
  | balanceCodePrompt
  | navUnavailable
  | balance (shares usd navPerShare : ℚ)
  | statsUnavailable
  | stats (tvlUsd navPerShare : ℚ) (delta24hPct : Option ℚ)
  | welcome
  | menu
  | setDestinationFirst
  | howMuch
  | invalidPercentage
  | invalidAmount
  | invalidAmountEntry
  | amountBelowMinimum (minWithdrawalUsd : ℚ)
  | amountExceedsBalance (userUsd : ℚ)
  | dailyWithdrawalLimit (maxPerDay : ℕ)
  | dailyUsdCap (cap used : ℚ)
  | withdrawalQueueFull
  | withdrawPrompt (amountUsd : ℚ) (destination : Address)
  | withdrawEntryPrompt (amountUsd : ℚ) (destination : Address)
  | noWhitelistAddress
  | withdrawalQueued (id : ℕ) (amountUsd : ℚ)
  | setWhitelistUsage
  | invalidAddress
  | firstWhitelistPrompt (address : Address)
  | whitelistChangePrompt (address : Address)
  | whitelistSet (address : Address)
  | whitelistQueued (activatesAt : ℤ)
  | cancelWhitelistPrompt
  | whitelistCancelled
  | nothingToCancel
  | settings
  | customAmountPrompt
  | pasteAddressPrompt
  | actionCancelled
  | callbackAnswered
  | botPaused
  | botResumed
  | botStatus (degraded : Bool) (position : Option StoredPosition)
  | help
  | vaultPaused
  | vaultResumed
  | vaultStatus (paused : Bool) (snapshot : Option NavSnapshotRow) (totalShares : ℚ)
      (queued pendingWhitelist : ℕ) (recent : List AuditRow)
  | forceProcessUsage
  | invalidWithdrawalId (raw : String)
  | withdrawalNotFound (id : ℕ)
  | withdrawalHasTxSig (id : ℕ) (txSig : Signature)
  | withdrawalNotFailed (id : ℕ) (status : WithdrawalStatus)
  | withdrawalRequeued (id : ℕ)
  | recreditUsage
  | alreadyCredited (inboundTxSig : String) (race : Bool)
  | noDetectedAudit (inboundTxSig : String)
  | noSweptAudit (inboundTxSig : String)
  | noTelegramId
  | oracleUnavailable
  | recreditFailed (reason : String)
  | recredited (inboundTxSig : String) (sharesMinted : ℚ) (telegramId : TelegramId)
      (navPerShare : ℚ)
  | resetTotpUsage
  | noSuchUser (telegramId : TelegramId)
  | totpReset (telegramId : TelegramId)
  deriving DecidableEq, Repr

structure Keypair where
  publicKey : Address
  secretKey : Bytes
  deriving DecidableEq, Repr

/-- Points at which the host decides without letting another handler run. -/
inductive Choice where
  | statement (s : Stmt)
  | clock
  | generateKeypair
  | generateSecret
  | fromSecretKey (secretKey : Bytes)
  | masterKey
  | randomBytes (size : ℕ)
  | cipher (key iv plaintext : Bytes)
  | decipher (key iv enc tag : Bytes)
  | totpValidate (secret code : String)
  | publicKey (address : String)
  | killSwitch
  | consult

/-- A statement that is not executed yields what it throws; `cipher` yields the encrypted bytes and
their tag; `totpValidate` yields the step offset at which the code matched; at `consult` there is
nothing to decide. -/
def Choice.Outcome : Choice → Type
  | .statement _ => Option Thrown
  | .clock => ℤ
  | .generateKeypair => Keypair
  | .generateSecret => String
  | .fromSecretKey _ => Except Thrown Keypair
  | .masterKey => Bytes
  | .randomBytes _ => Bytes
  | .cipher _ _ _ => Bytes × Bytes
  | .decipher _ _ _ _ => Except Thrown Bytes
  | .totpValidate _ _ => Option ℤ
  | .publicKey _ => Bool
  | .killSwitch => Bool
  | .consult => Unit

structure Nav where
  totalUsd : ℚ
  totalShares : ℚ
  deriving DecidableEq, Repr

structure SignatureInfo where
  signature : String
  failed : Bool
  blockTime : Option ℤ
  deriving DecidableEq, Repr

structure TokenBalance where
  owner : Address
  mint : Address
  amount : ℕ
  deriving DecidableEq, Repr

/-- A parsed transaction with its metadata. -/
structure ParsedTransaction where
  accountKeys : List Address
  preBalances : List ℕ
  postBalances : List ℕ
  preTokenBalances : List TokenBalance
  postTokenBalances : List TokenBalance
  deriving DecidableEq, Repr

/-- A transfer out of a deposit address. -/
inductive SweepInstruction where
  | transfer (lamports : ℕ)
  | transferChecked (bertRaw : ℕ)
  deriving DecidableEq, Repr

/-- Awaited calls. A `none` answer is a `null` or `undefined` result. -/
inductive Query where
  | getMid
  | getWalletBalances
  | getPositionSnapshot
  | partialClose (needSolLamports needBertRaw : ℤ)
  | executeTransfer (destination : Address) (solLamports bertRaw : ℤ)
  | getPositionsByUserAndLbPair
  | getNav
  | getNavPerShare
  | reply (chatId : ℤ) (notice : Notice)
  | ensureAta (address : Address)
  | getLatestBlockhash
  | submitTx (instructions : List SweepInstruction)
  | getSignaturesForAddress (address : Address) (bertAta : Bool) (limit : ℕ)
  | getParsedTransaction (signature : String)
  | fetchAllSources
  | rebalanceStage

def Query.Reply : Query → Type
  | .getMid => Option Mid
  | .getWalletBalances => Option Balances
  | .getPositionSnapshot => Option PositionValue
  | .partialClose _ _ => Unit
  | .executeTransfer _ _ _ => Option Signature
  | .getPositionsByUserAndLbPair => List OnchainPosition
  | .getNav => Option Nav
  | .getNavPerShare => ℚ
  | .reply _ _ => Unit
  | .ensureAta _ => Unit
  | .getLatestBlockhash => Unit
  | .submitTx _ => Signature
  | .getSignaturesForAddress _ _ _ => List SignatureInfo
  | .getParsedTransaction _ => Option ParsedTransaction
  | .fetchAllSources => List PriceSample
  | .rebalanceStage => Bool

end VaultTypes
