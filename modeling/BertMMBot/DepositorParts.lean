import BertMMBot.AsyncParts
import BertMMBot.VaultRuntime

/-! # What the handlers of one user are made of

Rows and memory are divided into what belongs to one user and what the users share. A handler
reads its sender's own part and the shared one, and writes rows and memory of its sender. -/
namespace DepositorParts

open AsyncProgram AsyncParts KeyedTable VaultTypes VaultProgram Encryption DepositorStore ShareMath
open AccountSecurity DepositorCommands MeteoraPosition VaultRuntime

structure Rows where
  users : List UserRow
  shares : List ShareRow
  deposits : List DepositRow
  withdrawals : List WithdrawalRow
  whitelistChanges : List WhitelistChangeRow
  auditLog : List AuditRow
  deriving DecidableEq

structure Desk where
  pending : Option PendingAction
  totpSetupFailures : Option ℕ
  unlockedUntil : Option ℤ
  failures : Option (List ℤ)
  lockedUntil : Option ℤ
  deriving DecidableEq

structure Own where
  rows : Rows
  desk : Desk
  deriving DecidableEq

/-- What belongs to no user alone: addresses in use, sums and counts over all rows, the ids
that the tables assign next, and the market. -/
structure Shared where
  depositAddresses : List Address
  totalShares : ℚ
  pendingWithdrawals : ℕ
  nextWithdrawal : ℕ
  nextChange : ℕ
  nextAudit : ℕ
  navSnapshots : List NavSnapshotRow
  positionState : Option StoredPosition
  priceHistory : List MidPrice
  deriving DecidableEq

def rowsOf (u : TelegramId) (db : Db) : Rows where
  users := db.users.filter fun r => r.telegramId = u
  shares := db.shares.filter fun r => r.telegramId = u
  deposits := db.deposits.filter fun r => r.telegramId = u
  withdrawals := db.withdrawals.filter fun r => r.telegramId = u
  whitelistChanges := db.whitelistChanges.filter fun r => r.telegramId = u
  auditLog := db.auditLog.filter fun r => r.telegramId = some u

def deskOf (u : TelegramId) (m : Memory) : Desk :=
  ⟨m.pending u, m.totpSetupFailures u, m.unlockedUntil u, m.failures u, m.lockedUntil u⟩

def own (u : TelegramId) (w : World) : Own := ⟨rowsOf u w.db, deskOf u w.memory⟩

def shared (w : World) : Shared where
  depositAddresses := w.db.users.map UserRow.depositAddress
  totalShares := totalShares w.db
  pendingWithdrawals := countPendingWithdrawals w.db
  nextWithdrawal := nextId (w.db.withdrawals.map WithdrawalRow.id)
  nextChange := nextId (w.db.whitelistChanges.map WhitelistChangeRow.id)
  nextAudit := nextId (w.db.auditLog.map AuditRow.id)
  navSnapshots := w.db.navSnapshots
  positionState := w.db.positionState
  priceHistory := w.memory.priceHistory

def withDesk (u : TelegramId) (f : Desk → Desk) (m : Memory) : Memory :=
  { m with
    pending := Function.update m.pending u (f (deskOf u m)).pending
    totpSetupFailures := Function.update m.totpSetupFailures u (f (deskOf u m)).totpSetupFailures
    unlockedUntil := Function.update m.unlockedUntil u (f (deskOf u m)).unlockedUntil
    failures := Function.update m.failures u (f (deskOf u m)).failures
    lockedUntil := Function.update m.lockedUntil u (f (deskOf u m)).lockedUntil }

def isStatement : Choice → Bool
  | .statement _ => true
  | _ => false

/-- The parts of a handler whose sender is `u`. Only where accounts are registered may a secret
be stored, a user row inserted or the disclaimer be shown. -/
inductive Part (u : TelegramId) (registering : Prop) : (α : Type) → Vault α → Prop where
  | ask {c : Choice} : isStatement c = false →
      Part u registering c.Outcome (Async.choose (I := vaultInterface) c)
  | call (q : Query) : Part u registering q.Reply (Async.call (I := vaultInterface) q)
  | read {α : Type} (f : Own → Shared → α) :
      Part u registering α (Async.read fun w => f (own u w) (shared w))
  | desk (f : Desk → Desk) :
      (∀ d, (f d).pending = some .disclaimer → d.pending = some .disclaimer) →
      Part u registering Unit (modifyMemory (withDesk u f))
  | audit (ms : ℤ) (event : AuditEvent) : Part u registering Unit (writeAudit ms (some u) event)
  | counter (counter : ℤ) : Part u registering Unit (setTotpLastCounter u counter)
  | enqueue (args : NewWithdrawal) : args.telegramId = u →
      Part u registering ℕ (enqueueWithdrawal args)
  | request (cooldownMs : ℤ) (address : Address) (now : ℤ) :
      Part u registering ChangeResult (requestChange cooldownMs u address now)
  | cancel (reason : String) : Part u registering Bool (cancelPending u reason)
  | invite : registering → Part u registering Unit (setPending u .disclaimer)
  | create (args : NewUser) : registering → args.telegramId = u →
      Part u registering Unit (createUser args)
  | secret (secretEnc : EncryptedBlob) (enrolledAt : ℤ) : registering →
      Part u registering Unit (setTotp u secretEnc enrolledAt)

variable {u : TelegramId} {registering : Prop} {venue : Venue} {cfg : BotConfig} {msg : Msg}
  {α : Type}

abbrev MadeBy (u : TelegramId) (registering : Prop) (m : Vault α) : Prop :=
  Made (Part u registering) m

theorem made_read {g : World → α} (f : Own → Shared → α) (h : ∀ w, g w = f (own u w) (shared w)) :
    MadeBy u registering (Async.read g) := by
  have heq : g = fun w => f (own u w) (shared w) := funext h
  rw [heq]
  exact .part (.read f)

theorem lookup_head {κ ρ : Type} [DecidableEq κ] (key : ρ → κ) (k : κ) (rows : List ρ) :
    lookup key k rows = (rows.filter fun r => key r = k).head? := List.head?_filter.symm

theorem made_getUser : MadeBy u registering (readDb (getUser u)) := by
  refine made_read (fun o _ => o.rows.users.head?.map rowToUser) fun w => ?_
  rw [getUser, lookup_head]
  rfl

theorem made_getUserSecrets : MadeBy u registering (readDb (getUserSecrets u)) := by
  refine made_read (fun o _ => o.rows.users.head?.map fun r =>
    ⟨r.depositSecretEnc, r.totpSecretEnc⟩) fun w => ?_
  rw [getUserSecrets, lookup_head]
  rfl

theorem made_getShares : MadeBy u registering (readDb (getShares u)) := by
  refine made_read (fun o _ => (o.rows.shares.head?.map ShareRow.shares).getD 0) fun w => ?_
  rw [getShares, lookup_head]
  rfl

theorem userWithdrawals_own (ms : ℤ) (w : World) : userWithdrawalsLast24h u ms w.db =
    (own u w).rows.withdrawals.filter fun r => r.status ≠ .failed ∧ ms - dayMs ≤ r.queuedAt := by
  change _ = (w.db.withdrawals.filter fun r => r.telegramId = u).filter _
  rw [List.filter_filter, userWithdrawalsLast24h]
  apply List.filter_congr
  intro r _
  simp only [Bool.decide_and, Bool.and_comm]

theorem made_countUserWithdrawals (ms : ℤ) :
    MadeBy u registering (readDb (countUserWithdrawalsLast24h u ms)) := by
  refine made_read (fun o _ => (o.rows.withdrawals.filter fun r =>
    r.status ≠ .failed ∧ ms - dayMs ≤ r.queuedAt).length) fun w => ?_
  rw [countUserWithdrawalsLast24h, userWithdrawals_own]

theorem made_sumUserWithdrawals (ms : ℤ) :
    MadeBy u registering (readDb (sumUserWithdrawalUsdLast24h u ms)) := by
  refine made_read (fun o c => ((o.rows.withdrawals.filter fun r =>
    r.status ≠ .failed ∧ ms - dayMs ≤ r.queuedAt).map fun r => (r.sharesBurned - r.feeShares) *
      (r.navPerShareAt.orElse fun _ => (c.navSnapshots.argmax NavSnapshotRow.ts).map
        NavSnapshotRow.navPerShare).getD 1).sum) fun w => ?_
  rw [sumUserWithdrawalUsdLast24h, userWithdrawals_own]
  rfl

theorem made_memory {g : Memory → α} (f : Desk → List MidPrice → α)
    (h : ∀ m, g m = f (deskOf u m) m.priceHistory) : MadeBy u registering (readMemory g) :=
  made_read (fun o c => f o.desk c.priceHistory) fun w => h w.memory

theorem made_lastMid : MadeBy u registering (readMemory lastMid) :=
  made_memory (fun _ history => history.getLast?.map MidPrice.mid) fun _ => rfl

theorem made_ask {c : Choice} (h : isStatement c = false) :
    MadeBy u registering (Async.choose (I := vaultInterface) c : Vault c.Outcome) := .part (.ask h)

theorem made_now : MadeBy u registering now := made_ask (c := Choice.clock) rfl

theorem made_nonNull (property : String) (a : Option α) :
    MadeBy u registering (nonNull property a) := by
  cases a with
  | some a => exact .pure a
  | none => exact .throw _

theorem made_encryptSecret (plaintext : Bytes) :
    MadeBy u registering (encryptSecret plaintext) := by
  refine .seq (made_ask (c := Choice.masterKey) rfl) fun key => ?_
  apply made_ite
  · exact fun _ => .throw _
  · intro _
    refine .seq (made_ask (c := Choice.randomBytes ivBytes) rfl) fun iv => ?_
    exact .seq (made_ask (c := Choice.cipher key iv plaintext) rfl) fun _ => .pure _

theorem made_decryptSecret (blob : EncryptedBlob) :
    MadeBy u registering (decryptSecret blob) := by
  refine .seq (made_ask (c := Choice.masterKey) rfl) fun key => ?_
  apply made_ite
  · exact fun _ => .throw _
  · intro _
    apply made_ite
    · exact fun _ => .throw _
    · intro _
      apply made_ite
      · exact fun _ => .throw _
      · intro _
        refine .seq (made_ask (c := Choice.decipher _ _ _ _) rfl) fun r => ?_
        cases r with
        | ok plaintext => exact .pure plaintext
        | error e => exact .throw e

theorem made_query (q : Query) :
    MadeBy u registering (Async.call (I := vaultInterface) q : Vault q.Reply) := .part (.call q)

theorem made_reply (chatId : ℤ) (notice : Notice) :
    MadeBy u registering ((commandsDeps venue cfg).reply chatId notice) := made_query _

theorem made_audit (ms : ℤ) (event : AuditEvent) :
    MadeBy u registering (writeAudit ms (some u) event) := .part (.audit ms event)

theorem made_desk {g : Memory → Memory} (f : Desk → Desk) (h : ∀ m, g m = withDesk u f m)
    (hf : ∀ d, (f d).pending = some .disclaimer → d.pending = some .disclaimer) :
    MadeBy u registering (modifyMemory g) := by
  have heq : g = withDesk u f := funext h
  rw [heq]
  exact .part (.desk f hf)

theorem made_setPending {action : PendingAction} (h : action ≠ .disclaimer) :
    MadeBy u registering (setPending u action) := by
  apply made_desk fun d => { d with pending := some action }
  · intro m
    simp [withDesk, deskOf]
  · intro d hd
    exact absurd (Option.some.inj hd) h

theorem made_clearPending : MadeBy u registering (clearPending u) := by
  apply made_desk fun d => { d with pending := none }
  · intro m
    simp [withDesk, deskOf]
  · intro d hd
    cases hd

theorem made_setTotpSetupFailures (failures : Option ℕ) :
    MadeBy u registering (setTotpSetupFailures u failures) := by
  apply made_desk fun d => { d with totpSetupFailures := failures }
  · intro m
    simp [withDesk, deskOf]
  · exact fun d hd => hd

theorem made_setUnlocked : MadeBy u registering (setUnlocked u) := by
  refine .seq made_now fun ms => ?_
  apply made_desk fun d => { d with unlockedUntil := some (ms + totpUnlockMs) }
  · intro m
    simp [withDesk, deskOf]
  · exact fun d hd => hd

theorem made_isUnlocked : MadeBy u registering (isUnlocked u) := by
  refine .seq (made_memory (fun d _ => d.unlockedUntil) fun _ => rfl) fun until_ => ?_
  cases until_ with
  | none => exact .pure _
  | some until_ => exact .seq made_now fun ms => .pure _

theorem made_isLockedOut (ms : ℤ) : MadeBy u registering (isLockedOut u ms) := by
  refine .seq (made_memory (fun d _ => d.lockedUntil) fun _ => rfl) fun until_ => ?_
  cases until_ with
  | none => exact .pure _
  | some until_ =>
    apply made_ite
    · exact fun _ => .pure _
    · intro _
      refine .seq ?_ fun _ => .pure _
      apply made_desk fun d => { d with lockedUntil := none }
      · intro m
        simp [withDesk, deskOf]
      · exact fun d hd => hd

theorem made_recordFailure (limits : RateLimits) (ms : ℤ) :
    MadeBy u registering (recordFailure limits u ms) := by
  refine .seq (made_memory (fun d _ => d.failures.getD []) fun _ => rfl) fun prior => ?_
  apply made_ite
  · intro _
    refine .seq ?_ fun _ => .pure _
    apply made_desk fun d => { d with failures := none, lockedUntil := some (ms + limits.lockoutMs) }
    · intro m
      simp [withDesk, deskOf]
    · exact fun d hd => hd
  · intro _
    refine .seq ?_ fun _ => .pure _
    apply made_desk fun d =>
      { d with failures := some ((prior.filter fun t => ms - t ≤ limits.windowMs) ++ [ms]) }
    · intro m
      simp [withDesk, deskOf]
    · exact fun d hd => hd

theorem made_recordSuccess : MadeBy u registering (recordSuccess u) := by
  apply made_desk fun d => { d with failures := none, lockedUntil := none }
  · intro m
    simp [withDesk, deskOf]
  · exact fun d hd => hd

theorem made_verifyCode (secret code : String) (last : Option ℤ) :
    MadeBy u registering (verifyCode secret code last) := by
  apply made_ite
  · intro _
    refine .seq (made_ask (c := Choice.totpValidate secret code) rfl) fun delta => ?_
    cases delta with
    | none => exact .pure _
    | some delta =>
      refine .seq (.seq made_now fun ms => .pure _) fun counter => ?_
      exact made_ite (fun _ => .pure _) fun _ => .pure _
  · exact fun _ => .pure _

theorem made_verifyTotp (code : String) : MadeBy u registering (verifyTotp u code) := by
  refine .seq made_getUser fun user => ?_
  cases enrolled user with
  | none => exact .pure _
  | some user =>
    refine .seq made_getUserSecrets fun secrets => ?_
    cases secrets.bind UserSecrets.totpSecretEnc with
    | none => exact .pure _
    | some secretEnc =>
      refine .seq (made_decryptSecret secretEnc) fun secretBase32 => ?_
      refine .seq (made_verifyCode _ code user.totpLastUsedCounter) fun result => ?_
      cases result with
      | ok counter => exact .seq (.part (.counter counter)) fun _ => .pure _
      | badFormat => exact .pure _
      | invalid => exact .pure _
      | replay counter => exact .pure _

theorem made_rejectIfLocked (chatId : ℤ) :
    MadeBy u registering (rejectIfLocked (commandsDeps venue cfg) chatId u) := by
  refine .seq made_now fun ms => ?_
  refine .seq (made_isLockedOut ms) fun until_ => ?_
  cases until_ with
  | none => exact .pure _
  | some until_ => exact .seq (made_reply _ _) fun _ => .pure _

theorem made_verifyTotpGated (code : String) (op : TotpOp) :
    MadeBy u registering (verifyTotpGated (commandsDeps venue cfg) u code op) := by
  refine .seq made_now fun ms => ?_
  refine .seq (made_isLockedOut ms) fun until_ => ?_
  cases until_ with
  | some until_ => exact .pure _
  | none =>
    refine .seq (made_verifyTotp code) fun accepted => ?_
    apply made_ite
    · intro _
      exact .seq made_recordSuccess fun _ => .seq made_setUnlocked fun _ => .pure _
    · intro _
      refine .seq (made_recordFailure _ ms) fun lockedUntil => ?_
      refine .seq (made_audit ms _) fun _ => ?_
      cases lockedUntil with
      | none => exact .pure _
      | some until_ => exact .seq (made_audit ms _) fun _ => .pure _

theorem made_respondGated (hu : msg.userId = u) (op : TotpOp) {act : Vault Unit}
    (hact : MadeBy u registering act) :
    MadeBy u registering (respondGated (commandsDeps venue cfg) msg op act) := by
  subst hu
  refine .seq made_clearPending fun _ => ?_
  refine .seq (made_verifyTotpGated _ op) fun gate => ?_
  cases gate with
  | ok => exact hact
  | locked until_ => exact .seq made_now fun ms => made_reply _ _
  | failed => exact made_reply _ _

theorem made_promptGated (hu : msg.userId = u) {pending : PendingAction}
    (hpending : pending ≠ .disclaimer) (prompt : Notice) {act : Vault Unit}
    (hact : MadeBy u registering act) :
    MadeBy u registering (promptGated (commandsDeps venue cfg) msg pending prompt act) := by
  subst hu
  refine .seq made_getUser fun user => ?_
  cases enrolled user with
  | none => exact made_reply _ _
  | some user =>
    refine .seq (made_rejectIfLocked _) fun rejected => ?_
    apply made_ite
    · exact fun _ => .pure _
    · intro _
      refine .seq made_isUnlocked fun unlocked => ?_
      apply made_ite
      · exact fun _ => hact
      · exact fun _ => .seq (made_setPending hpending) fun _ => made_reply _ _

theorem made_ensureAta (address : Address) :
    MadeBy u registering ((commandsDeps venue cfg).ensureAta address) := made_query _

theorem made_beginTotpEnrollment (hr : registering) :
    MadeBy u registering (beginTotpEnrollment u) := by
  refine .seq made_getUser fun user => ?_
  cases user with
  | none => exact .throw _
  | some user =>
    refine .seq (made_ask (c := Choice.generateSecret) rfl) fun secretBase32 => ?_
    refine .seq (made_encryptSecret _) fun enc => ?_
    exact .seq (.part (.secret enc 0 hr)) fun _ => .pure _

theorem made_handleAccount (hu : msg.userId = u) (hr : registering) :
    MadeBy u registering (handleAccount (commandsDeps venue cfg) msg) := by
  subst hu
  refine .seq made_getUser fun user => ?_
  cases user with
  | none => exact .seq (.part (.invite hr)) fun _ => made_reply _ _
  | some existing =>
    apply made_ite
    · intro _
      refine .seq (made_beginTotpEnrollment hr) fun secretBase32 => ?_
      exact .seq (made_setPending (by decide)) fun _ => made_reply _ _
    · exact fun _ => made_reply _ _

theorem made_accept (hr : registering) (ms : ℤ) :
    MadeBy u registering (accept (commandsDeps venue cfg).ensureAta u ms) := by
  refine .seq made_getUser fun user => ?_
  cases user with
  | some user => exact .pure _
  | none =>
    refine .seq (made_ask (c := Choice.generateKeypair) rfl) fun (kp : Keypair) => ?_
    refine .seq (made_encryptSecret _) fun enc => ?_
    exact .seq (.part (.create _ hr rfl)) fun _ => made_ensureAta _

theorem made_handleAccept (hu : msg.userId = u) (hr : registering) :
    MadeBy u registering (handleAccept (commandsDeps venue cfg) msg) := by
  subst hu
  refine .seq (made_memory (fun d _ => d.pending) fun _ => rfl) fun pending => ?_
  apply made_ite
  · intro _
    refine .seq made_clearPending fun _ => ?_
    refine .seq made_now fun ms => ?_
    refine .seq (made_accept hr ms) fun _ => ?_
    refine .seq (made_audit ms _) fun _ => ?_
    refine .seq (made_beginTotpEnrollment hr) fun secretBase32 => ?_
    refine .seq (made_setPending (by decide)) fun _ => ?_
    exact .seq (made_setTotpSetupFailures none) fun _ => made_reply _ _
  · exact fun _ => made_reply _ _

theorem made_handleDecline (hu : msg.userId = u) :
    MadeBy u registering (handleDecline (commandsDeps venue cfg) msg) := by
  subst hu
  refine .seq made_clearPending fun _ => ?_
  exact .seq (made_setTotpSetupFailures none) fun _ => made_reply _ _

theorem made_confirmTotp (hr : registering) (code : String) (ms : ℤ) :
    MadeBy u registering (confirmTotp u code ms) := by
  refine .seq made_getUserSecrets fun secrets => ?_
  cases secrets.bind UserSecrets.totpSecretEnc with
  | none => exact .pure _
  | some secretEnc =>
    refine .seq (made_decryptSecret secretEnc) fun secretBase32 => ?_
    refine .seq (made_verifyCode _ code none) fun result => ?_
    cases result with
    | ok counter =>
      exact .seq (.part (.secret secretEnc ms hr)) fun _ =>
        .seq (.part (.counter counter)) fun _ => .pure _
    | badFormat => exact .pure _
    | invalid => exact .pure _
    | replay counter => exact .pure _

theorem made_totpSetupAccepted (hu : msg.userId = u) (ms : ℤ) :
    MadeBy u registering (totpSetupAccepted (commandsDeps venue cfg) msg ms) := by
  subst hu
  refine .seq made_clearPending fun _ => ?_
  refine .seq (made_setTotpSetupFailures none) fun _ => ?_
  refine .seq made_recordSuccess fun _ => ?_
  exact .seq (made_audit ms _) fun _ => made_reply _ _

theorem made_totpSetupRejected (hu : msg.userId = u) (ms : ℤ) :
    MadeBy u registering (totpSetupRejected (commandsDeps venue cfg) msg ms) := by
  subst hu
  refine .seq (made_memory (fun d _ => d.totpSetupFailures.getD 0 + 1) fun _ => rfl)
    fun failures => ?_
  refine .seq (made_audit ms _) fun _ => ?_
  refine .seq (made_recordFailure _ ms) fun lockedUntil => ?_
  cases lockedUntil with
  | some until_ =>
    refine .seq made_clearPending fun _ => ?_
    refine .seq (made_setTotpSetupFailures none) fun _ => ?_
    exact .seq (made_audit ms _) fun _ => made_reply _ _
  | none =>
    apply made_ite
    · intro _
      refine .seq made_clearPending fun _ => ?_
      exact .seq (made_setTotpSetupFailures none) fun _ => made_reply _ _
    · exact fun _ => .seq (made_setTotpSetupFailures (some failures)) fun _ => made_reply _ _

theorem made_respondTotpSetupConfirm (hu : msg.userId = u) (hr : registering) :
    MadeBy u registering (respondTotpSetupConfirm (commandsDeps venue cfg) msg) := by
  refine .seq made_now fun ms => ?_
  refine .seq (hu ▸ made_confirmTotp hr _ ms) fun confirmed => ?_
  apply made_ite
  · exact fun _ => made_totpSetupAccepted hu ms
  · exact fun _ => made_totpSetupRejected hu ms

theorem made_readPosition (nftMint : String) (solUsd : ℚ) :
    MadeBy u registering (readPosition venue nftMint solUsd) := by
  refine .tryCatch ?_ fun _ => .pure _
  exact .seq (.seq (made_query _) fun _ => .pure _) fun pos => .pure _

theorem made_liveNav (floor : ℕ) (last : Mid) : MadeBy u registering (liveNav venue floor last) := by
  refine .seq (made_query _) fun bal => ?_
  refine .seq (made_nonNull _ _) fun bal => ?_
  refine .seq (made_read (fun _ c => c.positionState) fun _ => rfl) fun stored => ?_
  have hpos : MadeBy u registering (trackedPosition venue stored last.solUsd) := by
    cases stored with
    | none => exact .pure _
    | some stored => exact made_readPosition _ _
  refine .seq hpos fun pos => ?_
  exact .seq (made_read (fun _ c => c.totalShares) fun _ => rfl) fun total => .pure _

theorem made_getNav : MadeBy u registering (commandsDeps venue cfg).getNav := by
  have hfallback : MadeBy u registering (readDb snapshotFallback) :=
    made_read (fun _ c => (c.navSnapshots.argmax NavSnapshotRow.ts).map fun snap =>
      ⟨snap.totalValueUsd, c.totalShares⟩) fun _ => rfl
  refine .tryCatch (.seq made_lastMid fun last => ?_) fun _ => hfallback
  cases last with
  | none => exact hfallback
  | some last => exact made_liveNav _ _

theorem made_doDepositReveal (chatId : ℤ) :
    MadeBy u registering (doDepositReveal (commandsDeps venue cfg) u chatId) := by
  refine .seq made_getUser fun user => ?_
  refine .seq made_now fun ms => ?_
  refine .seq (made_audit ms _) fun _ => ?_
  exact .seq (made_nonNull _ _) fun user => made_reply _ _

theorem made_doBalanceReveal (chatId : ℤ) :
    MadeBy u registering (doBalanceReveal (commandsDeps venue cfg) u chatId) := by
  refine .seq made_getShares fun shares => ?_
  refine .seq made_getNav fun nav => ?_
  cases nav with
  | none => exact made_reply _ _
  | some nav =>
    refine .seq made_now fun ms => ?_
    exact .seq (made_audit ms _) fun _ => made_reply _ _

theorem made_handleStats : MadeBy u registering (handleStats (commandsDeps venue cfg) msg) := by
  refine .seq made_getNav fun nav => ?_
  cases nav with
  | none => exact made_reply _ _
  | some nav =>
    refine .seq made_now fun ms => ?_
    refine .seq ?_ fun prior => made_reply _ _
    exact made_read (fun _ c => (c.navSnapshots.filter fun r => r.ts ≤ ms - dayMs).argmax
      NavSnapshotRow.ts) fun _ => rfl

theorem made_handleMenu (hu : msg.userId = u) :
    MadeBy u registering (handleMenu (commandsDeps venue cfg) msg) := by
  subst hu
  refine .seq made_getUser fun user => ?_
  cases enrolled user with
  | none => exact made_reply _ _
  | some user => exact made_reply _ _

theorem getUser_id {db : Db} {user : UserRow} (h : getUser u db = some user) :
    user.telegramId = u := by
  obtain ⟨r, hr, rfl⟩ := Option.map_eq_some_iff.mp h
  exact (lookup_some hr).2

theorem made_enqueue {user : UserRow} (huser : user.telegramId = u) (destination : Address)
    (chatId : ℤ) (amountUsd navPerShare : ℚ) : MadeBy u registering
      (enqueue (commandsDeps venue cfg) user destination chatId amountUsd navPerShare) := by
  subst huser
  refine .seq made_now fun queuedAt => ?_
  refine .seq (.part (.enqueue _ rfl)) fun id => ?_
  refine .seq made_now fun ms => ?_
  exact .seq (made_audit ms _) fun _ => made_reply _ _

theorem made_doWithdraw (chatId : ℤ) (amountUsd : ℚ) :
    MadeBy u registering (doWithdraw (commandsDeps venue cfg) u chatId amountUsd) := by
  refine .bind (P := fun user => ∀ row, user = some row → row.telegramId = u) made_getUser
    (fun w row hrow => getUser_id hrow) fun user huser => ?_
  cases user with
  | none => exact .bind (P := fun _ => False) (.throw _) (fun _ => trivial) fun _ h => h.elim
  | some row =>
    refine .bind (P := fun user => user = row) (.pure row) (fun _ => rfl) fun user heq => ?_
    subst heq
    cases user.whitelistAddress.filter (· ≠ "") with
    | none => exact made_reply _ _
    | some destination =>
      refine .seq made_getNav fun nav => ?_
      cases nav with
      | none => exact made_reply _ _
      | some nav =>
        apply made_ite
        · exact fun _ => made_reply _ _
        · exact fun _ => made_enqueue (huser user rfl) _ _ _ _

theorem made_checkCaps (amountUsd : ℚ) :
    MadeBy u registering (checkCaps (commandsDeps venue cfg) u amountUsd) := by
  refine .seq made_now fun ms => ?_
  refine .seq (made_countUserWithdrawals ms) fun countToday => ?_
  apply made_ite
  · exact fun _ => .pure _
  · intro _
    refine .seq made_now fun ms => ?_
    refine .seq (made_sumUserWithdrawals ms) fun usdToday => ?_
    apply made_ite
    · exact fun _ => .pure _
    · intro _
      refine .seq (made_read (fun _ c => c.pendingWithdrawals) fun _ => rfl) fun pending => ?_
      exact made_ite (fun _ => .pure _) fun _ => .pure _

theorem made_confirmWithdrawal (hu : msg.userId = u) (prompt : Notice) (amountUsd : ℚ) :
    MadeBy u registering (confirmWithdrawal (commandsDeps venue cfg) msg prompt amountUsd) := by
  subst hu
  refine .seq made_isUnlocked fun unlocked => ?_
  apply made_ite
  · exact fun _ => made_doWithdraw _ _
  · intro _
    have hpending : PendingAction.withdraw amountUsd ≠ .disclaimer := by
      intro h
      cases h
    exact .seq (made_setPending hpending) fun _ => made_reply _ _

theorem made_userUsdOf (nav : Nav) : MadeBy u registering (userUsdOf u nav) :=
  .seq made_getShares fun _ => .pure _

theorem made_withdrawAmount (hu : msg.userId = u) (destination : Address) (raw : String) :
    MadeBy u registering (withdrawAmount (commandsDeps venue cfg) msg destination raw) := by
  refine .seq made_getNav fun nav => ?_
  cases nav with
  | none => exact made_reply _ _
  | some nav =>
    refine .seq (hu ▸ made_userUsdOf nav) fun userUsd => ?_
    cases parseAmount raw userUsd with
    | rejected notice => exact made_reply _ _
    | amount amountUsd =>
      dsimp only
      cases checkAmount (commandsDeps venue cfg) userUsd amountUsd with
      | some notice => exact made_reply _ _
      | none =>
        refine .seq (hu ▸ made_checkCaps amountUsd) fun refused => ?_
        cases refused with
        | some notice => exact made_reply _ _
        | none => exact made_confirmWithdrawal hu _ _

theorem made_handleWithdraw (hu : msg.userId = u) :
    MadeBy u registering (handleWithdraw (commandsDeps venue cfg) msg) := by
  subst hu
  refine .seq made_getUser fun user => ?_
  cases enrolled user with
  | none => exact made_reply _ _
  | some user =>
    dsimp only
    cases user.whitelistAddress.filter (· ≠ "") with
    | none => exact made_reply _ _
    | some destination =>
      refine .seq (made_rejectIfLocked _) fun rejected => ?_
      apply made_ite
      · exact fun _ => .pure _
      · intro _
        cases TextInput.argument msg.text with
        | none => exact .seq (made_setPending (by decide)) fun _ => made_reply _ _
        | some raw => exact made_withdrawAmount rfl _ _

theorem made_respondWithdrawAmountEntry (hu : msg.userId = u) :
    MadeBy u registering (respondWithdrawAmountEntry (commandsDeps venue cfg) msg) := by
  subst hu
  refine .seq made_clearPending fun _ => ?_
  cases (TextInput.number (TextInput.trim msg.text)).filter (0 < ·) with
  | none => exact made_reply _ _
  | some n =>
    refine .seq made_getUser fun user => ?_
    cases (user.bind UserRow.whitelistAddress).filter (· ≠ "") with
    | none => exact made_reply _ _
    | some destination =>
      refine .seq made_getNav fun nav => ?_
      cases nav with
      | none => exact made_reply _ _
      | some nav =>
        refine .seq (made_userUsdOf nav) fun userUsd => ?_
        cases checkAmount (commandsDeps venue cfg) userUsd n with
        | some notice => exact made_reply _ _
        | none => exact made_confirmWithdrawal rfl _ _

theorem made_doSetWhitelist (chatId : ℤ) (address : Address) :
    MadeBy u registering (doSetWhitelist (commandsDeps venue cfg) u chatId address) := by
  refine .seq made_now fun requestedAt => ?_
  refine .seq (.part (.request _ address requestedAt)) fun result => ?_
  refine .seq made_now fun ms => ?_
  refine .seq (made_audit ms _) fun _ => ?_
  exact made_ite (fun _ => made_reply _ _) fun _ => made_reply _ _

theorem made_setWhitelistTo (hu : msg.userId = u) (user : UserRow) (addr : Address) :
    MadeBy u registering (setWhitelistTo (commandsDeps venue cfg) msg user addr) := by
  subst hu
  have hfirst : PendingAction.setwhitelistFirst addr ≠ .disclaimer := by
    intro h
    cases h
  have hchange : PendingAction.setwhitelistChange addr ≠ .disclaimer := by
    intro h
    cases h
  refine .seq (made_rejectIfLocked _) fun rejected => ?_
  apply made_ite
  · exact fun _ => .pure _
  · intro _
    refine .seq made_isUnlocked fun unlocked => ?_
    apply made_ite
    · exact fun _ => made_doSetWhitelist _ _
    · intro _
      apply made_ite
      · exact fun _ => .seq (made_setPending hfirst) fun _ => made_reply _ _
      · exact fun _ => .seq (made_setPending hchange) fun _ => made_reply _ _

theorem made_handleSetWhitelist (hu : msg.userId = u) :
    MadeBy u registering (handleSetWhitelist (commandsDeps venue cfg) msg) := by
  refine .seq (hu ▸ made_getUser) fun user => ?_
  cases enrolled user with
  | none => exact made_reply _ _
  | some user =>
    dsimp only
    cases TextInput.argument msg.text with
    | none => exact made_reply _ _
    | some addr =>
      refine .seq (made_ask (c := Choice.publicKey addr) rfl) fun valid => ?_
      exact made_ite (fun _ => made_setWhitelistTo hu user addr) fun _ => made_reply _ _

theorem made_respondSetWhitelistAddressEntry (hu : msg.userId = u) :
    MadeBy u registering (respondSetWhitelistAddressEntry (commandsDeps venue cfg) msg) := by
  refine .seq (hu ▸ made_clearPending) fun _ => ?_
  refine .seq (made_ask (c := Choice.publicKey (TextInput.trim msg.text)) rfl) fun valid => ?_
  exact made_ite (fun _ => made_handleSetWhitelist hu) fun _ => made_reply _ _

theorem made_doCancelWhitelist (chatId : ℤ) :
    MadeBy u registering (doCancelWhitelist (commandsDeps venue cfg) u chatId) := by
  refine .seq made_now fun _ => ?_
  refine .seq (.part (.cancel "user")) fun cancelled => ?_
  refine .seq made_now fun ms => ?_
  exact .seq (made_audit ms _) fun _ => made_reply _ _

theorem made_handleDeposit (hu : msg.userId = u) :
    MadeBy u registering (handleDeposit (commandsDeps venue cfg) msg) :=
  made_promptGated hu (by decide) _ (hu ▸ made_doDepositReveal _)

theorem made_handleBalance (hu : msg.userId = u) :
    MadeBy u registering (handleBalance (commandsDeps venue cfg) msg) :=
  made_promptGated hu (by decide) _ (hu ▸ made_doBalanceReveal _)

theorem made_handleCancelWhitelist (hu : msg.userId = u) :
    MadeBy u registering (handleCancelWhitelist (commandsDeps venue cfg) msg) :=
  made_promptGated hu (by decide) _ (hu ▸ made_doCancelWhitelist _)

theorem made_respond (hu : msg.userId = u) (pending : PendingAction)
    (hr : pending = .totpSetupConfirm → registering) :
    MadeBy u registering (respond (commandsDeps venue cfg) msg pending) := by
  subst hu
  unfold respond
  cases pending with
  | disclaimer => exact .pure _
  | totpSetupConfirm => exact made_respondTotpSetupConfirm rfl (hr rfl)
  | depositReveal => exact made_respondGated rfl .depositReveal (made_doDepositReveal _)
  | balanceReveal => exact made_respondGated rfl .balanceReveal (made_doBalanceReveal _)
  | withdrawAmountEntry => exact made_respondWithdrawAmountEntry rfl
  | withdraw amountUsd => exact made_respondGated rfl .withdraw (made_doWithdraw _ _)
  | setwhitelistAddressEntry => exact made_respondSetWhitelistAddressEntry rfl
  | setwhitelistFirst address =>
    exact made_respondGated rfl .setwhitelistFirst (made_doSetWhitelist _ _)
  | setwhitelistChange address =>
    exact made_respondGated rfl .setwhitelistChange (made_doSetWhitelist _ _)
  | cancelwhitelist => exact made_respondGated rfl .cancelwhitelist (made_doCancelWhitelist _)

theorem made_handleMessage (hu : msg.userId = u) (hr : registering) :
    MadeBy u registering (handleMessage (commandsDeps venue cfg) msg) := by
  subst hu
  refine .seq (made_memory (fun d _ => d.pending) fun _ => rfl) fun pending => ?_
  cases pending with
  | none => exact .pure _
  | some pending =>
    have hgo : MadeBy msg.userId registering (do
        if ← rejectIfLocked (commandsDeps venue cfg) msg.chatId msg.userId then pure ()
        else respond (commandsDeps venue cfg) msg pending) :=
      .seq (made_rejectIfLocked _) fun _ =>
        made_ite (fun _ => .pure _) fun _ => made_respond rfl pending fun _ => hr
    cases pending with
    | disclaimer => exact .pure _
    | _ => exact hgo

theorem made_registered : MadeBy u registering (registered u) := by
  refine made_read (fun o _ => (o.rows.users.head?.map rowToUser).isSome) fun w => ?_
  change (getUser u w.db).isSome = _
  rw [getUser, lookup_head]
  rfl

/-- Whether a command or a button leads to the registration of an account. -/
def registers (name : String) : Prop :=
  name = "account" ∨ name = "accept" ∨ name = "nav:create_account" ∨ name = "enr:accept"

theorem made_handler {name : String} {kind : Kind} {run : Vault Unit}
    (hr : registers name → registering)
    (hh : handler (commanderDeps venue cfg) name msg = some (kind, run))
    (hkind : kind ≠ .operator) : MadeBy msg.userId registering run := by
  unfold handler at hh
  split at hh <;> cases hh
  · exact made_handleAccount rfl (hr (.inl rfl))
  · exact made_handleAccept rfl (hr (.inr (.inl rfl)))
  · exact made_handleDecline rfl
  · exact made_handleMenu rfl
  · exact made_handleStats
  · exact made_handleDeposit rfl
  · exact made_handleBalance rfl
  · exact made_handleWithdraw rfl
  · exact made_handleSetWhitelist rfl
  · exact made_handleCancelWhitelist rfl
  all_goals exact absurd rfl hkind

theorem made_route (hr : registers msg.text → registering) :
    MadeBy msg.userId registering (route (commandsDeps venue cfg) msg) := by
  unfold route
  split
  · exact made_handleMenu rfl
  · next h => exact made_handleAccount rfl (hr (.inr (.inr (.inl h))))
  · exact made_reply _ _
  · next h => exact made_handleAccept rfl (hr (.inr (.inr (.inr h))))
  · exact made_handleDecline rfl
  · exact made_handleDeposit rfl
  · exact made_handleBalance rfl
  · exact made_handleStats
  · exact made_handleWithdraw rfl
  · exact made_handleWithdraw rfl
  · exact made_handleWithdraw rfl
  · exact made_handleWithdraw rfl
  · exact made_handleWithdraw rfl
  · exact .seq (made_setPending (by decide)) fun _ => made_reply _ _
  · exact .seq (made_setPending (by decide)) fun _ => made_reply _ _
  · exact made_handleCancelWhitelist rfl
  · exact .seq made_clearPending fun _ => made_reply _ _
  · exact .pure _

theorem made_dispatchCallback :
    MadeBy msg.userId True (dispatchCallback (commandsDeps venue cfg) msg) := by
  refine .seq (.tryCatch (made_route fun _ => trivial) fun _ => .pure _) fun _ => ?_
  exact made_reply _ _

theorem made_dispatch (hop : msg.userId ≠ cfg.operatorTelegramId) :
    MadeBy msg.userId True (dispatch (commanderDeps venue cfg) msg) := by
  unfold dispatch
  cases TextInput.commandName msg.text with
  | none =>
    refine .seq made_registered fun known => ?_
    exact made_ite (fun _ => made_handleMessage rfl trivial) fun _ => .pure _
  | some name =>
    dsimp only
    cases hh : handler (commanderDeps venue cfg) name msg with
    | none => exact .pure _
    | some entry =>
      obtain ⟨kind, run⟩ := entry
      cases kind with
      | operator =>
        refine .bind (P := fun allowed => allowed = false) (.pure _)
          (fun _ => decide_eq_false hop) fun allowed hallowed => ?_
        subst hallowed
        exact .pure _
      | vault =>
        refine .seq made_registered fun allowed => ?_
        exact made_ite (fun _ => made_handler (fun _ => trivial) hh (by decide)) fun _ => .pure _
      | public_ =>
        refine .seq (.pure _) fun allowed => ?_
        exact made_ite (fun _ => made_handler (fun _ => trivial) hh (by decide)) fun _ => .pure _
      | enrollment =>
        refine .seq (.pure _) fun allowed => ?_
        exact made_ite (fun _ => made_handler (fun _ => trivial) hh (by decide)) fun _ => .pure _

end DepositorParts
