import BertMMBot.KeyedTable
import BertMMBot.VaultProgram
import Mathlib.Data.List.Sort

/-! # The depositor store

One definition for each method of the store. Queries are functions of the database; every
writing statement is a synchronous point labelled by what it writes. -/
namespace DepositorStore

open VaultTypes VaultProgram KeyedTable

-- the order of timestamps that evaluates, whatever else of `ℤ` is in scope
local instance timestampOrder : Preorder ℤ := Int.instLinearOrder.toPreorder

def dayMs : ℤ := 24 * 3600 * 1000

def sqliteError (kind : String) : Thrown := .error s!"{kind} constraint failed"

/-- The rowid an `AUTOINCREMENT` column assigns; rows are never deleted. -/
def nextId (ids : List ℕ) : ℕ := ids.foldr max 0 + 1

theorem nextId_fresh {ids : List ℕ} {id : ℕ} (h : id ∈ ids) : id < nextId ids := by
  suffices id ≤ ids.foldr max 0 by simp only [nextId]; omega
  induction ids with
  | nil => cases h
  | cons a ids ih =>
    rcases List.mem_cons.mp h with rfl | hmem
    · exact Nat.le_max_left ..
    · exact (ih hmem).trans (Nat.le_max_right ..)

structure NewUser where
  telegramId : TelegramId
  role : Role
  depositAddress : Address
  depositSecretEnc : EncryptedBlob
  disclaimerAt : ℤ
  createdAt : ℤ

def createUser (args : NewUser) : Vault Unit :=
  statement (.createUser args.telegramId) fun db =>
    if db.users.any fun u => u.telegramId = args.telegramId ∨
        u.depositAddress = args.depositAddress then
      .error (sqliteError "UNIQUE")
    else
      .ok ((), { db with users := db.users ++ [{
        telegramId := args.telegramId, role := args.role,
        depositAddress := args.depositAddress, depositSecretEnc := args.depositSecretEnc,
        totpSecretEnc := none, totpEnrolledAt := none, totpLastUsedCounter := none,
        whitelistAddress := none, whitelistSetAt := none,
        disclaimerAt := args.disclaimerAt, createdAt := args.createdAt }] })

/-- An enrolment time of 0 means that a secret is stored but not confirmed. -/
def rowToUser (r : UserRow) : UserRow :=
  { r with totpEnrolledAt := if r.totpEnrolledAt = some 0 then none else r.totpEnrolledAt }

def getUser (telegramId : TelegramId) (db : Db) : Option UserRow :=
  (lookup UserRow.telegramId telegramId db.users).map rowToUser

def getUserByDepositAddress (addr : Address) (db : Db) : Option UserRow :=
  (lookup UserRow.depositAddress addr db.users).map rowToUser

/-- `ORDER BY created_at`, ties by rowid. -/
def listUsers (db : Db) : List UserRow :=
  (db.users.insertionSort fun a b => a.createdAt < b.createdAt ∨
    (a.createdAt = b.createdAt ∧ a.telegramId ≤ b.telegramId)).map rowToUser

structure UserSecrets where
  depositSecretEnc : EncryptedBlob
  totpSecretEnc : Option EncryptedBlob

def getUserSecrets (telegramId : TelegramId) (db : Db) : Option UserSecrets :=
  (lookup UserRow.telegramId telegramId db.users).map fun r =>
    ⟨r.depositSecretEnc, r.totpSecretEnc⟩

def updateUser (telegramId : TelegramId) (f : UserRow → UserRow) (db : Db) : Db :=
  { db with users := amend UserRow.telegramId telegramId f db.users }

def setTotp (telegramId : TelegramId) (secretEnc : EncryptedBlob) (enrolledAt : ℤ) : Vault Unit :=
  update (.setTotp telegramId) <| updateUser telegramId fun r =>
    { r with totpSecretEnc := some secretEnc, totpEnrolledAt := some enrolledAt }

def setTotpLastCounter (telegramId : TelegramId) (counter : ℤ) : Vault Unit :=
  update (.setTotpLastCounter telegramId) <| updateUser telegramId fun r =>
    { r with totpLastUsedCounter := some counter }

def clearUserTotp (telegramId : TelegramId) : Vault Unit :=
  statement (.clearUserTotp telegramId) fun db =>
    if (lookup UserRow.telegramId telegramId db.users).isSome then
      .ok ((), updateUser telegramId (fun r => { r with
        totpSecretEnc := none, totpEnrolledAt := none, totpLastUsedCounter := none }) db)
    else
      .error (.error s!"clearUserTotp: no user with telegram_id={telegramId}")

def setWhitelistImmediate (telegramId : TelegramId) (address : Address) (ts : ℤ) : Vault Unit :=
  update (.setWhitelistImmediate telegramId) <| updateUser telegramId fun r =>
    { r with whitelistAddress := some address, whitelistSetAt := some ts }

def getShares (telegramId : TelegramId) (db : Db) : ℚ :=
  ((lookup ShareRow.telegramId telegramId db.shares).map ShareRow.shares).getD 0

/-- Read-modify-write of one balance. A first row needs the user it references. -/
def sharesAfter (telegramId : TelegramId) (delta : ℚ) (db : Db) : Except Thrown (List ShareRow) :=
  match lookup ShareRow.telegramId telegramId db.shares with
  | some existing =>
    .ok (amend ShareRow.telegramId telegramId
      (fun r => { r with shares := existing.shares + delta }) db.shares)
  | none =>
    if (lookup UserRow.telegramId telegramId db.users).isSome then
      .ok (db.shares ++ [⟨telegramId, delta⟩])
    else
      .error (sqliteError "FOREIGN KEY")

def addShares (telegramId : TelegramId) (delta : ℚ) : Vault Unit :=
  statement (.addShares telegramId delta) fun db =>
    (sharesAfter telegramId delta db).map fun shares => ((), { db with shares })

def totalShares (db : Db) : ℚ := (db.shares.map ShareRow.shares).sum

structure NewDeposit where
  telegramId : TelegramId
  inboundTxSig : String
  sweepTxSig : Option Signature
  solLamports : ℕ
  bertRaw : ℕ
  solUsd : ℚ
  bertUsd : ℚ
  navPerShareAt : ℚ
  sharesMinted : ℚ
  confirmedAt : ℤ
  sweptAt : Option ℤ

def NewDeposit.row (args : NewDeposit) (id : ℕ) : DepositRow where
  id := id
  telegramId := args.telegramId
  inboundTxSig := args.inboundTxSig
  sweepTxSig := args.sweepTxSig
  solLamports := args.solLamports
  bertRaw := args.bertRaw
  solUsd := args.solUsd
  bertUsd := args.bertUsd
  navPerShareAt := args.navPerShareAt
  sharesMinted := args.sharesMinted
  confirmedAt := args.confirmedAt
  sweptAt := args.sweptAt

def hasDeposit (inboundTxSig : String) (db : Db) : Bool :=
  db.deposits.any fun d => d.inboundTxSig = inboundTxSig

def insertDeposit (args : NewDeposit) : Vault ℕ :=
  statement (.creditDeposit args.inboundTxSig) fun db =>
    if hasDeposit args.inboundTxSig db then .error (sqliteError "UNIQUE")
    else
      let id := nextId (db.deposits.map DepositRow.id)
      .ok (id, { db with deposits := db.deposits ++ [args.row id] })

def creditDeposit (args : NewDeposit) : Vault ℕ :=
  withTransaction do
    let id ← insertDeposit args
    addShares args.telegramId args.sharesMinted
    return id

def listDepositsForUser (telegramId : TelegramId) (db : Db) : List DepositRow :=
  db.deposits.filter fun d => d.telegramId = telegramId

structure NewWithdrawal where
  telegramId : TelegramId
  destination : Address
  sharesBurned : ℚ
  feeShares : ℚ
  queuedAt : ℤ

def NewWithdrawal.row (args : NewWithdrawal) (id : ℕ) : WithdrawalRow where
  id := id
  telegramId := args.telegramId
  status := .queued
  destination := args.destination
  sharesBurned := args.sharesBurned
  feeShares := args.feeShares
  navPerShareAt := none
  solLamportsOut := none
  bertRawOut := none
  txSig := none
  failureReason := none
  queuedAt := args.queuedAt
  processedAt := none

def enqueueWithdrawal (args : NewWithdrawal) : Vault ℕ :=
  statement (.enqueueWithdrawal args.telegramId args.sharesBurned) fun db =>
    let id := nextId (db.withdrawals.map WithdrawalRow.id)
    .ok (id, { db with withdrawals := db.withdrawals ++ [args.row id] })

def updateWithdrawal (id : ℕ) (f : WithdrawalRow → WithdrawalRow) (db : Db) : Db :=
  { db with withdrawals := amend WithdrawalRow.id id f db.withdrawals }

def getWithdrawalById (id : ℕ) (db : Db) : Option WithdrawalRow :=
  lookup WithdrawalRow.id id db.withdrawals

/-- The only status guard in an `UPDATE` of this table. -/
def startProcessing (r : WithdrawalRow) : WithdrawalRow :=
  if r.status = .queued then { r with status := .processing } else r

def setWithdrawalProcessing (id : ℕ) : Vault Unit :=
  update (.setWithdrawalProcessing id) (updateWithdrawal id startProcessing)

def recordTxSig (txSig : Signature) (r : WithdrawalRow) : WithdrawalRow :=
  if r.txSig = none then { r with txSig := some txSig } else r

def markWithdrawalSent (id : ℕ) (txSig : Signature) : Vault Unit :=
  statement (.markWithdrawalSent id) fun db =>
    if (db.withdrawals.filter fun r => r.id = id ∧ r.txSig = none).length = 1 then
      .ok ((), updateWithdrawal id (recordTxSig txSig) db)
    else
      .error (.error (s!"markWithdrawalSent: no row updated (id={id}, " ++
        "tx_sig may already be populated)"))

structure Completion where
  id : ℕ
  txSig : Signature
  solLamportsOut : ℤ
  bertRawOut : ℤ
  navPerShareAt : ℚ
  processedAt : ℤ

def Completion.apply (args : Completion) (r : WithdrawalRow) : WithdrawalRow :=
  { r with
    status := .completed, txSig := some args.txSig, solLamportsOut := some args.solLamportsOut,
    bertRawOut := some args.bertRawOut, navPerShareAt := some args.navPerShareAt,
    processedAt := some args.processedAt }

def completeWithdrawal (args : Completion) : Vault Unit :=
  withTransaction do
    match ← readDb (getWithdrawalById args.id) with
    | none => throw (.error s!"completeWithdrawal: id {args.id} not found")
    | some w => do
      update (.completeWithdrawal args.id) (updateWithdrawal args.id args.apply)
      addShares w.telegramId (-w.sharesBurned)

def failed (reason : String) (processedAt : ℤ) (r : WithdrawalRow) : WithdrawalRow :=
  { r with status := .failed, failureReason := some reason, processedAt := some processedAt }

def failWithdrawal (id : ℕ) (reason : String) (processedAt : ℤ) : Vault Unit :=
  update (.failWithdrawal id) (updateWithdrawal id (failed reason processedAt))

/-- `ORDER BY id`, the rowid order of the table. -/
def listWithdrawalsByStatus (status : WithdrawalStatus) (db : Db) : List WithdrawalRow :=
  db.withdrawals.filter fun r => r.status = status

def WithdrawalStatus.text : WithdrawalStatus → String
  | .queued => "queued"
  | .processing => "processing"
  | .completed => "completed"
  | .failed => "failed"

def requeued (r : WithdrawalRow) : WithdrawalRow :=
  { r with status := .queued, failureReason := none, processedAt := none }

def requeueFailedWithdrawal (id : ℕ) : Vault Unit := do
  match ← readDb (getWithdrawalById id) with
  | none => throw (.error s!"requeueFailedWithdrawal: id {id} not found")
  | some row =>
    if row.status ≠ .failed then
      throw (.error (s!"requeueFailedWithdrawal: id {id} is in status " ++
        s!"'{WithdrawalStatus.text row.status}', not 'failed'"))
    else if row.txSig.isSome then
      throw (.error (s!"requeueFailedWithdrawal: id {id} has tx_sig populated — " ++
        "funds may already be on-chain. Refusing to requeue."))
    else
      update (.requeueFailedWithdrawal id) (updateWithdrawal id requeued)

def countPendingWithdrawals (db : Db) : ℕ :=
  (db.withdrawals.filter fun r => r.status = .queued ∨ r.status = .processing).length

/-- Queued, processing or completed, and queued within the last day. -/
def userWithdrawalsLast24h (telegramId : TelegramId) (nowMs : ℤ) (db : Db) :
    List WithdrawalRow :=
  db.withdrawals.filter fun r => r.telegramId = telegramId ∧ r.status ≠ .failed ∧
    nowMs - dayMs ≤ r.queuedAt

def countUserWithdrawalsLast24h (telegramId : TelegramId) (nowMs : ℤ) (db : Db) : ℕ :=
  (userWithdrawalsLast24h telegramId nowMs db).length

structure NewWhitelistChange where
  telegramId : TelegramId
  oldAddress : Option Address
  newAddress : Address
  requestedAt : ℤ
  activatesAt : ℤ
  initialStatus : WhitelistStatus

def enqueueWhitelistChange (args : NewWhitelistChange) : Vault ℕ :=
  statement (.enqueueWhitelistChange args.telegramId) fun db =>
    let id := nextId (db.whitelistChanges.map WhitelistChangeRow.id)
    .ok (id, { db with whitelistChanges := db.whitelistChanges ++ [{
      id, telegramId := args.telegramId, oldAddress := args.oldAddress,
      newAddress := args.newAddress, requestedAt := args.requestedAt,
      activatesAt := args.activatesAt, status := args.initialStatus, cancelReason := none }] })

/-- `ORDER BY activates_at`. -/
def listDueWhitelistChanges (nowMs : ℤ) (db : Db) : List WhitelistChangeRow :=
  (db.whitelistChanges.filter fun c => c.status = .pending ∧ c.activatesAt ≤ nowMs).insertionSort
    fun a b => a.activatesAt ≤ b.activatesAt

/-- `ORDER BY requested_at DESC LIMIT 1`. -/
def mostRecentPendingChange (telegramId : TelegramId) (db : Db) : Option WhitelistChangeRow :=
  (db.whitelistChanges.filter fun c => c.telegramId = telegramId ∧ c.status = .pending).argmax
    WhitelistChangeRow.requestedAt

def updateWhitelistChange (id : ℕ) (f : WhitelistChangeRow → WhitelistChangeRow) (db : Db) : Db :=
  { db with whitelistChanges := amend WhitelistChangeRow.id id f db.whitelistChanges }

def markWhitelistActivated (id : ℕ) : Vault Unit :=
  update (.markWhitelistActivated id) <| updateWhitelistChange id fun r =>
    { r with status := .activated }

def cancelPendingWhitelist (id : ℕ) (reason : String) : Vault Unit :=
  update (.cancelPendingWhitelist id) <| updateWhitelistChange id fun r =>
    { r with status := .cancelled, cancelReason := some reason }

def countPendingWhitelistChanges (db : Db) : ℕ :=
  (db.whitelistChanges.filter fun c => c.status = .pending).length

/-- A second snapshot of the same millisecond replaces the first. -/
def insertNavSnapshot (row : NavSnapshotRow) : Vault Unit :=
  update (.insertNavSnapshot row.ts) fun db =>
    { db with navSnapshots :=
        if db.navSnapshots.any fun r => r.ts = row.ts then
          amend NavSnapshotRow.ts row.ts (fun _ => row) db.navSnapshots
        else db.navSnapshots ++ [row] }

def latestNavSnapshot (db : Db) : Option NavSnapshotRow :=
  db.navSnapshots.argmax NavSnapshotRow.ts

def navSnapshotAtOrBefore (ts : ℤ) (db : Db) : Option NavSnapshotRow :=
  (db.navSnapshots.filter fun r => r.ts ≤ ts).argmax NavSnapshotRow.ts

/-- Rows not yet priced are valued at the latest snapshot, or at 1 without one. -/
def sumUserWithdrawalUsdLast24h (telegramId : TelegramId) (nowMs : ℤ) (db : Db) : ℚ :=
  ((userWithdrawalsLast24h telegramId nowMs db).map fun r => (r.sharesBurned - r.feeShares) *
    (r.navPerShareAt.orElse fun _ =>
      (latestNavSnapshot db).map NavSnapshotRow.navPerShare).getD 1).sum

def writeAudit (ts : ℤ) (telegramId : Option TelegramId) (event : AuditEvent) : Vault Unit :=
  update (.writeAudit event) fun db =>
    { db with auditLog := db.auditLog ++
        [⟨nextId (db.auditLog.map AuditRow.id), ts, telegramId, event⟩] }

/-- `ORDER BY ts DESC, id DESC LIMIT limit`. -/
def listRecentAuditEvents (limit : ℕ) (db : Db) : List AuditRow :=
  (db.auditLog.insertionSort fun a b => b.ts < a.ts ∨ (b.ts = a.ts ∧ b.id ≤ a.id)).take limit

def setFlag (key value : String) : Vault Unit :=
  update (.setFlag key) fun db => { db with flags := Function.update db.flags key (some value) }

def getFlag (key : String) (db : Db) : Option String := db.flags key

def vaultPausedFlag : String := "vault_paused"

def isVaultPaused (db : Db) : Bool := (getFlag vaultPausedFlag db).getD "" = "1"

def degradedFlag : String := "degraded"

def isDegraded (db : Db) : Bool := getFlag degradedFlag db = some "1"

def getCurrentPosition (db : Db) : Option StoredPosition := db.positionState

end DepositorStore
