import BertMMBot.PipelineRefinement

/-! # The chat refines the ledger machine

Whatever a depositor or the operator sends, the handlers move the ledger only by queueing a
withdrawal of a positive number of shares, by requeueing a failed one, and by crediting a
deposit that was swept. -/
namespace CommandRefinement

open AsyncProgram AsyncContract VaultTypes VaultProgram Encryption DepositorStore LedgerMachine
open VaultDiscipline StoreDiscipline PipelineRefinement AccountSecurity DepositorCommands
open OperatorCommands

variable {α : Type} {P : Policy} {H : VaultHost} {w : World}

/-- Between two stretches of the chat anything may happen, so nothing is carried over. -/
abbrev Chat (P : Policy) (H : VaultHost) (m : Vault α) : Prop :=
  Keeps P H .telegram (fun _ => True) m

theorem Outside.chat {m : Vault α} (h : Outside m) (hH : HostOk P H) : Chat P H m :=
  h.keeps hH true_frame

theorem audit_chat (hH : HostOk P H) {ts : ℤ} {telegramId : Option TelegramId}
    {event : AuditEvent} (he : ∀ n, event ≠ .bootstrap n) :
    Chat P H (writeAudit ts telegramId event) :=
  Outside.chat (writeAudit_outside he) hH

theorem memory_chat {g : Memory → Memory} (hmid : ∀ m, (g m).trustedMid = m.trustedMid)
    (hhist : ∀ m, (g m).priceHistory = m.priceHistory)
    (hpending : ∀ m, PendingPositive m → PendingPositive (g m)) : Chat P H (modifyMemory g) := by
  refine keeps_modifyMemory true_frame fun w _ => ?_
  exact ⟨rfl, rfl, rfl, rfl, List.prefix_rfl, id, rfl, List.suffix_rfl, hmid _, hhist _,
    hpending _⟩

theorem setPending_chat (userId : TelegramId) (action : PendingAction)
    (h : ∀ usd, action = .withdraw usd → 0 < usd) : Chat P H (setPending userId action) := by
  refine memory_chat (fun _ => rfl) (fun _ => rfl) fun m hm u usd hu => ?_
  by_cases hself : u = userId
  · subst u
    simp only [Function.update_self, Option.some.injEq] at hu
    exact h usd hu
  · simp only [Function.update_of_ne hself] at hu
    exact hm u usd hu

theorem clearPending_chat (userId : TelegramId) : Chat P H (clearPending userId) := by
  refine memory_chat (fun _ => rfl) (fun _ => rfl) fun m hm u usd hu => ?_
  by_cases hself : u = userId
  · subst u
    simp at hu
  · simp only [Function.update_of_ne hself] at hu
    exact hm u usd hu

theorem setTotpSetupFailures_chat (userId : TelegramId) (failures : Option ℕ) :
    Chat P H (setTotpSetupFailures userId failures) :=
  memory_chat (fun _ => rfl) (fun _ => rfl) fun _ h => h

theorem isLockedOut_chat (userId : TelegramId) (ms : ℤ) : Chat P H (isLockedOut userId ms) := by
  refine keeps_read.bind ?_
  rintro (_ | until_)
  · exact keeps_pure
  · refine keeps_ite keeps_pure (Keeps.bind ?_ fun _ => keeps_pure)
    exact memory_chat (fun _ => rfl) (fun _ => rfl) fun _ h => h

theorem recordFailure_chat (limits : RateLimits) (userId : TelegramId) (ms : ℤ) :
    Chat P H (recordFailure limits userId ms) := by
  refine keeps_read.bind fun prior => keeps_ite ?_ ?_
  · refine Keeps.bind ?_ fun _ => keeps_pure
    exact memory_chat (fun _ => rfl) (fun _ => rfl) fun _ h => h
  · refine Keeps.bind ?_ fun _ => keeps_pure
    exact memory_chat (fun _ => rfl) (fun _ => rfl) fun _ h => h

theorem recordSuccess_chat (userId : TelegramId) : Chat P H (recordSuccess userId) :=
  memory_chat (fun _ => rfl) (fun _ => rfl) fun _ h => h

theorem isUnlocked_chat (userId : TelegramId) : Chat P H (isUnlocked userId) := by
  refine keeps_read.bind ?_
  rintro (_ | until_)
  · exact keeps_pure
  · exact keeps_choose.bind fun _ => keeps_pure

theorem setUnlocked_chat (userId : TelegramId) : Chat P H (setUnlocked userId) :=
  keeps_choose.bind fun _ => memory_chat (fun _ => rfl) (fun _ => rfl) fun _ h => h

theorem encryptSecret_chat (plaintext : Bytes) : Chat P H (encryptSecret plaintext) := by
  refine keeps_choose.bind fun key => keeps_ite keeps_throw ?_
  exact keeps_choose.bind fun iv => keeps_choose.bind fun _ => keeps_pure

theorem decryptSecret_chat (blob : EncryptedBlob) : Chat P H (decryptSecret blob) := by
  refine keeps_choose.bind fun key => keeps_ite keeps_throw (keeps_ite keeps_throw ?_)
  exact keeps_ite keeps_throw (keeps_choose.bind fun _ => keeps_liftExcept)

theorem verifyCode_chat (secret code : String) (last : Option ℤ) :
    Chat P H (verifyCode secret code last) := by
  refine keeps_ite (keeps_choose.bind ?_) keeps_pure
  rintro (_ | delta)
  · exact keeps_pure
  · refine (keeps_choose.bind fun _ => keeps_pure).bind fun counter => ?_
    exact keeps_ite keeps_pure keeps_pure

theorem verifyTotp_chat (hH : HostOk P H) (userId : TelegramId) (code : String) :
    Chat P H (verifyTotp userId code) := by
  refine keeps_read.bind fun user => ?_
  rcases enrolled user with _ | user
  · exact keeps_pure
  refine keeps_read.bind fun secrets => ?_
  rcases secrets.bind UserSecrets.totpSecretEnc with _ | secretEnc
  · exact keeps_pure
  refine (decryptSecret_chat _).bind fun secret => (verifyCode_chat _ _ _).bind ?_
  rintro (counter | _ | _ | counter)
  · exact (Outside.chat (setTotpLastCounter_outside ..) hH).bind fun _ => keeps_pure
  · exact keeps_pure
  · exact keeps_pure
  · exact keeps_pure

structure CommandsSafe (P : Policy) (H : VaultHost) (deps : CommandsDeps) : Prop where
  reply : ∀ chatId notice, Chat P H (deps.reply chatId notice)
  ensureAta : ∀ address, Chat P H (deps.ensureAta address)
  getNav : ∀ A, Steady .telegram A → Keeps P H .telegram A deps.getNav

variable {deps : CommandsDeps}

theorem rejectIfLocked_chat (hd : CommandsSafe P H deps) (chatId : ℤ) (userId : TelegramId) :
    Chat P H (rejectIfLocked deps chatId userId) := by
  refine keeps_choose.bind fun ms => (isLockedOut_chat userId ms).bind ?_
  rintro (_ | until_)
  · exact keeps_pure
  · exact (hd.reply _ _).bind fun _ => keeps_pure

theorem recordVerifyFailure_chat (hH : HostOk P H) (userId : TelegramId) (op : TotpOp) (ms : ℤ) :
    Chat P H (recordVerifyFailure deps userId op ms) := by
  refine (recordFailure_chat _ _ _).bind fun lockedUntil => (audit_chat hH (by simp)).bind fun _ => ?_
  cases lockedUntil with
  | none => exact keeps_pure
  | some until_ => exact (audit_chat hH (by simp)).bind fun _ => keeps_pure

theorem verifyTotpGated_chat (hH : HostOk P H) (userId : TelegramId) (code : String)
    (op : TotpOp) : Chat P H (verifyTotpGated deps userId code op) := by
  refine keeps_choose.bind fun ms => (isLockedOut_chat userId ms).bind ?_
  rintro (_ | until_)
  · refine (verifyTotp_chat hH userId code).bind fun accepted => keeps_ite ?_ ?_
    · refine (recordSuccess_chat userId).bind fun _ => ?_
      exact (setUnlocked_chat userId).bind fun _ => keeps_pure
    · exact recordVerifyFailure_chat hH userId op ms
  · exact keeps_pure

theorem respondGated_chat (hH : HostOk P H) (hd : CommandsSafe P H deps) (msg : Msg) (op : TotpOp)
    {act : Vault Unit} (hact : Chat P H act) : Chat P H (respondGated deps msg op act) := by
  refine (clearPending_chat _).bind fun _ => (verifyTotpGated_chat hH _ _ op).bind ?_
  rintro (_ | until_ | _)
  · exact hact
  · exact keeps_choose.bind fun _ => hd.reply _ _
  · exact hd.reply _ _

theorem promptGated_chat (hd : CommandsSafe P H deps) (msg : Msg) {pending : PendingAction}
    (hp : ∀ usd, pending = .withdraw usd → 0 < usd) (prompt : Notice) {act : Vault Unit}
    (hact : Chat P H act) : Chat P H (promptGated deps msg pending prompt act) := by
  refine keeps_read.bind fun user => ?_
  rcases enrolled user with _ | user
  · exact hd.reply _ _
  refine (rejectIfLocked_chat hd _ _).bind fun locked => keeps_ite keeps_pure ?_
  refine (isUnlocked_chat _).bind fun unlocked => keeps_ite hact ?_
  exact (setPending_chat _ _ hp).bind fun _ => hd.reply _ _

theorem accept_chat (hH : HostOk P H) (hd : CommandsSafe P H deps) (telegramId : TelegramId)
    (ms : ℤ) : Chat P H (accept deps.ensureAta telegramId ms) := by
  refine keeps_read.bind ?_
  rintro (_ | user)
  · refine keeps_choose.bind fun kp => (encryptSecret_chat _).bind fun enc => ?_
    exact (Outside.chat (createUser_outside _) hH).bind fun _ => hd.ensureAta _
  · exact keeps_pure

theorem beginTotpEnrollment_chat (hH : HostOk P H) (telegramId : TelegramId) :
    Chat P H (beginTotpEnrollment telegramId) := by
  refine keeps_read.bind ?_
  rintro (_ | user)
  · exact keeps_throw
  · refine keeps_choose.bind fun secret => (encryptSecret_chat _).bind fun enc => ?_
    exact (Outside.chat (setTotp_outside ..) hH).bind fun _ => keeps_pure

theorem confirmTotp_chat (hH : HostOk P H) (telegramId : TelegramId) (code : String) (ms : ℤ) :
    Chat P H (confirmTotp telegramId code ms) := by
  refine keeps_read.bind fun secrets => ?_
  rcases secrets.bind UserSecrets.totpSecretEnc with _ | secretEnc
  · exact keeps_pure
  refine (decryptSecret_chat _).bind fun secret => (verifyCode_chat _ _ _).bind ?_
  rintro (counter | _ | _ | counter)
  · refine (Outside.chat (setTotp_outside ..) hH).bind fun _ => ?_
    exact (Outside.chat (setTotpLastCounter_outside ..) hH).bind fun _ => keeps_pure
  · exact keeps_pure
  · exact keeps_pure
  · exact keeps_pure

theorem handleAccount_chat (hH : HostOk P H) (hd : CommandsSafe P H deps) (msg : Msg) :
    Chat P H (handleAccount deps msg) := by
  refine keeps_read.bind ?_
  rintro (_ | existing)
  · exact (setPending_chat _ _ (by simp)).bind fun _ => hd.reply _ _
  · refine keeps_ite ((beginTotpEnrollment_chat hH _).bind fun secret => ?_) (hd.reply _ _)
    exact (setPending_chat _ _ (by simp)).bind fun _ => hd.reply _ _

theorem handleAccept_chat (hH : HostOk P H) (hd : CommandsSafe P H deps) (msg : Msg) :
    Chat P H (handleAccept deps msg) := by
  refine keeps_read.bind fun pending => keeps_ite ?_ (hd.reply _ _)
  refine (clearPending_chat _).bind fun _ => keeps_choose.bind fun ms => ?_
  refine (accept_chat hH hd _ _).bind fun _ => (audit_chat hH (by simp)).bind fun _ => ?_
  refine (beginTotpEnrollment_chat hH _).bind fun secret => ?_
  refine (setPending_chat _ _ (by simp)).bind fun _ => ?_
  exact (setTotpSetupFailures_chat _ _).bind fun _ => hd.reply _ _

theorem handleDecline_chat (hd : CommandsSafe P H deps) (msg : Msg) :
    Chat P H (handleDecline deps msg) := by
  refine (clearPending_chat _).bind fun _ => ?_
  exact (setTotpSetupFailures_chat _ _).bind fun _ => hd.reply _ _

theorem totpSetupAccepted_chat (hH : HostOk P H) (hd : CommandsSafe P H deps) (msg : Msg)
    (ms : ℤ) : Chat P H (totpSetupAccepted deps msg ms) := by
  refine (clearPending_chat _).bind fun _ => (setTotpSetupFailures_chat _ _).bind fun _ => ?_
  refine (recordSuccess_chat _).bind fun _ => (audit_chat hH (by simp)).bind fun _ => ?_
  exact hd.reply _ _

theorem totpSetupRejected_chat (hH : HostOk P H) (hd : CommandsSafe P H deps) (msg : Msg)
    (ms : ℤ) : Chat P H (totpSetupRejected deps msg ms) := by
  refine keeps_read.bind fun failures => (audit_chat hH (by simp)).bind fun _ => ?_
  refine (recordFailure_chat _ _ _).bind ?_
  rintro (_ | until_)
  · refine keeps_ite ?_ ((setTotpSetupFailures_chat _ _).bind fun _ => hd.reply _ _)
    refine (clearPending_chat _).bind fun _ => ?_
    exact (setTotpSetupFailures_chat _ _).bind fun _ => hd.reply _ _
  · refine (clearPending_chat _).bind fun _ => (setTotpSetupFailures_chat _ _).bind fun _ => ?_
    exact (audit_chat hH (by simp)).bind fun _ => hd.reply _ _

theorem respondTotpSetupConfirm_chat (hH : HostOk P H) (hd : CommandsSafe P H deps) (msg : Msg) :
    Chat P H (respondTotpSetupConfirm deps msg) := by
  refine keeps_choose.bind fun ms => (confirmTotp_chat hH _ _ ms).bind fun accepted => ?_
  exact keeps_ite (totpSetupAccepted_chat hH hd msg ms) (totpSetupRejected_chat hH hd msg ms)

theorem doDepositReveal_chat (hH : HostOk P H) (hd : CommandsSafe P H deps) (userId : TelegramId)
    (chatId : ℤ) : Chat P H (doDepositReveal deps userId chatId) := by
  refine keeps_read.bind fun user => keeps_choose.bind fun ms => ?_
  exact (audit_chat hH (by simp)).bind fun _ => keeps_nonNull.bind fun _ => hd.reply _ _

theorem doBalanceReveal_chat (hH : HostOk P H) (hd : CommandsSafe P H deps) (userId : TelegramId)
    (chatId : ℤ) : Chat P H (doBalanceReveal deps userId chatId) := by
  refine keeps_read.bind fun shares => (hd.getNav _ (steady_true .telegram)).bind ?_
  rintro (_ | nav)
  · exact hd.reply _ _
  · refine keeps_choose.bind fun ms => ?_
    exact (audit_chat hH (by simp)).bind fun _ => hd.reply _ _

theorem handleStats_chat (hd : CommandsSafe P H deps) (msg : Msg) :
    Chat P H (handleStats deps msg) := by
  refine (hd.getNav _ (steady_true .telegram)).bind ?_
  rintro (_ | nav)
  · exact hd.reply _ _
  · exact keeps_choose.bind fun ms => keeps_read.bind fun prior => hd.reply _ _

theorem handleMenu_chat (hd : CommandsSafe P H deps) (msg : Msg) :
    Chat P H (handleMenu deps msg) := by
  refine keeps_read.bind fun user => ?_
  rcases enrolled user with _ | user
  · exact hd.reply _ _
  · exact hd.reply _ _

theorem steady_user (userId : TelegramId) :
    Steady .telegram fun w => userId ∈ userIds w.db :=
  ⟨fun h hu => h.users.subset hu, fun h hu => List.IsPrefix.subset h hu⟩

theorem getUser_mem {userId : TelegramId} {user : UserRow} {db : Db}
    (h : getUser userId db = some user) : user.telegramId ∈ userIds db := by
  obtain ⟨r, hr, rfl⟩ := Option.map_eq_some_iff.mp h
  exact List.mem_map.mpr ⟨r, (KeyedTable.lookup_some hr).1, rfl⟩

theorem enqueueWithdrawal_triple (hH : HostOk P H) (args : NewWithdrawal)
    (hpos : 0 < args.sharesBurned) :
    Triple P H .telegram (fun w => args.telegramId ∈ userIds w.db) (enqueueWithdrawal args)
      (fun _ _ => True) fun _ => True := by
  refine triple_statement (fun _ _ => trivial) (fun _ _ => trivial) ?_ hH
  rintro w id db _ howner hallow ⟨⟩
  refine ⟨.single (.enqueue (args.row _) rfl rfl ?_ howner hpos hallow), trivial⟩
  refine KeyedTable.lookup_none.mpr fun r hr hid => ?_
  have hlt := nextId_fresh (List.mem_map_of_mem (f := WithdrawalRow.id) hr)
  exact absurd hid (Nat.ne_of_lt hlt)

theorem enqueue_triple (hH : HostOk P H) (hd : CommandsSafe P H deps) (user : UserRow)
    (destination : Address) (chatId : ℤ) {amountUsd navPerShare : ℚ} (hpos : 0 < amountUsd)
    (hnav : 0 < navPerShare) :
    Triple P H .telegram (fun w => user.telegramId ∈ userIds w.db)
      (enqueue deps user destination chatId amountUsd navPerShare) (fun _ _ => True)
      fun _ => True := by
  refine Triple.bind (B := fun _ w => user.telegramId ∈ userIds w.db)
    (triple_choose fun _ _ _ h => h) fun queuedAt => ?_
  have hshares : 0 < amountUsd / navPerShare := div_pos hpos hnav
  refine Triple.bind (enqueueWithdrawal_triple hH ⟨user.telegramId, destination,
    amountUsd / navPerShare, _, queuedAt⟩ hshares) fun id => ?_
  exact keeps_choose.bind fun ms => (audit_chat hH (by simp)).bind fun _ => hd.reply _ _

theorem doWithdraw_chat (hH : HostOk P H) (hd : CommandsSafe P H deps) (userId : TelegramId)
    (chatId : ℤ) {amountUsd : ℚ} (hpos : 0 < amountUsd) :
    Chat P H (doWithdraw deps userId chatId amountUsd) := by
  have hread : Triple P H .telegram (fun _ => True) (readDb (getUser userId))
      (fun user w => ∀ u, user = some u → u.telegramId ∈ userIds w.db) fun _ => True := by
    refine triple_read fun w _ _ u hu => ?_
    exact getUser_mem hu
  have hsome : ∀ user : Option UserRow, Triple P H .telegram
      (fun w => ∀ u, user = some u → u.telegramId ∈ userIds w.db)
      (nonNull "whitelistAddress" user) (fun u w => u.telegramId ∈ userIds w.db)
      fun _ => True := by
    rintro (_ | u)
    · exact triple_throw fun _ _ => trivial
    · exact triple_pure fun _ h => h u rfl
  refine Triple.bind hread fun user => (hsome user).bind fun user => ?_
  have hreply : ∀ notice, Triple P H .telegram (fun w => user.telegramId ∈ userIds w.db)
      (deps.reply chatId notice) (fun _ _ => True) fun _ => True :=
    fun notice => (hd.reply chatId notice).mono (fun _ _ => trivial) (fun _ _ h => h) fun _ h => h
  rcases user.whitelistAddress.filter (· ≠ "") with _ | destination
  · exact hreply _
  refine Triple.bind ((hd.getNav _ (steady_user user.telegramId)).mono (fun _ h => h)
    (fun _ _ h => h) fun _ _ => trivial) ?_
  rintro (_ | nav)
  · exact hreply _
  · refine triple_ite (fun _ => hreply _) fun hnav => ?_
    exact enqueue_triple hH hd user destination chatId hpos (not_le.mp hnav)

theorem checkAmount_pos {userUsd amountUsd : ℚ}
    (h : checkAmount deps userUsd amountUsd = none) : 0 < amountUsd := by
  unfold checkAmount at h
  split at h
  · cases h
  · next hlow => exact deps.config.minWithdrawalUsd_pos.trans_le (not_lt.mp hlow)

theorem checkCaps_chat (userId : TelegramId) (amountUsd : ℚ) :
    Chat P H (checkCaps deps userId amountUsd) := by
  refine keeps_choose.bind fun ms => keeps_read.bind fun count => keeps_ite keeps_pure ?_
  refine keeps_choose.bind fun ms => keeps_read.bind fun usd => keeps_ite keeps_pure ?_
  exact keeps_read.bind fun pending => keeps_ite keeps_pure keeps_pure

theorem confirmWithdrawal_chat (hH : HostOk P H) (hd : CommandsSafe P H deps) (msg : Msg)
    (prompt : Notice) {amountUsd : ℚ} (hpos : 0 < amountUsd) :
    Chat P H (confirmWithdrawal deps msg prompt amountUsd) := by
  refine (isUnlocked_chat _).bind fun unlocked => ?_
  refine keeps_ite (doWithdraw_chat hH hd _ _ hpos) ?_
  refine (setPending_chat _ _ ?_).bind fun _ => hd.reply _ _
  rintro usd ⟨⟩
  exact hpos

theorem withdrawAmount_chat (hH : HostOk P H) (hd : CommandsSafe P H deps) (msg : Msg)
    (destination : Address) (raw : String) :
    Chat P H (withdrawAmount deps msg destination raw) := by
  refine (hd.getNav _ (steady_true .telegram)).bind ?_
  rintro (_ | nav)
  · exact hd.reply _ _
  refine (keeps_read.bind fun shares => keeps_pure).bind fun userUsd => ?_
  rcases parseAmount raw userUsd with amountUsd | notice
  · rcases hc : checkAmount deps userUsd amountUsd with _ | notice
    · have hpos := checkAmount_pos hc
      simp only [hc]
      refine (checkCaps_chat _ _).bind ?_
      rintro (_ | notice)
      · exact confirmWithdrawal_chat hH hd msg _ hpos
      · exact hd.reply _ _
    · simp only [hc]
      exact hd.reply _ _
  · exact hd.reply _ _

theorem handleWithdraw_chat (hH : HostOk P H) (hd : CommandsSafe P H deps) (msg : Msg) :
    Chat P H (handleWithdraw deps msg) := by
  refine keeps_read.bind fun user => ?_
  rcases enrolled user with _ | user
  · exact hd.reply _ _
  dsimp only
  rcases user.whitelistAddress.filter (· ≠ "") with _ | destination
  · exact hd.reply _ _
  refine (rejectIfLocked_chat hd _ _).bind fun locked => keeps_ite keeps_pure ?_
  rcases TextInput.argument msg.text with _ | raw
  · exact (setPending_chat _ _ (by simp)).bind fun _ => hd.reply _ _
  · exact withdrawAmount_chat hH hd msg destination raw

theorem respondWithdrawAmountEntry_chat (hH : HostOk P H) (hd : CommandsSafe P H deps)
    (msg : Msg) : Chat P H (respondWithdrawAmountEntry deps msg) := by
  unfold respondWithdrawAmountEntry
  refine Keeps.bind ?_ ?_
  · exact clearPending_chat _
  intro _
  split
  · exact hd.reply _ _
  rename_i n _
  refine keeps_read.bind fun user => ?_
  rcases (user.bind UserRow.whitelistAddress).filter (· ≠ "") with _ | destination
  · exact hd.reply _ _
  refine (hd.getNav _ (steady_true .telegram)).bind ?_
  rintro (_ | nav)
  · exact hd.reply _ _
  refine (keeps_read.bind fun shares => keeps_pure).bind fun userUsd => ?_
  rcases hc : checkAmount deps userUsd n with _ | notice
  · exact confirmWithdrawal_chat hH hd msg _ (checkAmount_pos hc)
  · exact hd.reply _ _

theorem requestChange_chat (hH : HostOk P H) (cooldownMs : ℤ) (telegramId : TelegramId)
    (newAddress : Address) (ms : ℤ) :
    Chat P H (requestChange cooldownMs telegramId newAddress ms) := by
  refine keeps_read.bind ?_
  rintro (_ | user)
  · exact keeps_throw
  dsimp only
  rcases user.whitelistAddress with _ | old
  · refine keeps_transaction true_frame ?_
    refine (enqueueWhitelistChange_outside _).frames.bind fun id => ?_
    exact (setWhitelistImmediate_outside ..).frames.bind fun _ => frames_pure _
  · exact (Outside.chat (enqueueWhitelistChange_outside _) hH).bind fun id => keeps_pure

theorem doSetWhitelist_chat (hH : HostOk P H) (hd : CommandsSafe P H deps) (userId : TelegramId)
    (chatId : ℤ) (address : Address) : Chat P H (doSetWhitelist deps userId chatId address) := by
  refine keeps_choose.bind fun requestedAt => (requestChange_chat hH _ _ _ _).bind fun result => ?_
  refine keeps_choose.bind fun ms => (audit_chat hH (by simp)).bind fun _ => ?_
  exact keeps_ite (hd.reply _ _) (hd.reply _ _)

theorem handleSetWhitelist_chat (hH : HostOk P H) (hd : CommandsSafe P H deps) (msg : Msg) :
    Chat P H (handleSetWhitelist deps msg) := by
  refine keeps_read.bind fun user => ?_
  rcases enrolled user with _ | user
  · exact hd.reply _ _
  dsimp only
  rcases TextInput.argument msg.text with _ | addr
  · exact hd.reply _ _
  refine keeps_choose.bind fun valid : Bool => keeps_ite ?_ (hd.reply _ _)
  refine (rejectIfLocked_chat hd _ _).bind fun locked => keeps_ite keeps_pure ?_
  refine (isUnlocked_chat _).bind fun unlocked => ?_
  refine keeps_ite (doSetWhitelist_chat hH hd _ _ _) (keeps_ite ?_ ?_)
  · exact (setPending_chat _ _ (by simp)).bind fun _ => hd.reply _ _
  · exact (setPending_chat _ _ (by simp)).bind fun _ => hd.reply _ _

theorem respondSetWhitelistAddressEntry_chat (hH : HostOk P H) (hd : CommandsSafe P H deps)
    (msg : Msg) : Chat P H (respondSetWhitelistAddressEntry deps msg) := by
  refine (clearPending_chat _).bind fun _ => keeps_choose.bind fun valid : Bool => ?_
  exact keeps_ite (handleSetWhitelist_chat hH hd _) (hd.reply _ _)

theorem doCancelWhitelist_chat (hH : HostOk P H) (hd : CommandsSafe P H deps)
    (userId : TelegramId) (chatId : ℤ) : Chat P H (doCancelWhitelist deps userId chatId) := by
  refine keeps_choose.bind fun _ => Keeps.bind ?_ fun cancelled => ?_
  · refine keeps_read.bind ?_
    rintro (_ | p)
    · exact keeps_pure
    · exact (Outside.chat (cancelPendingWhitelist_outside ..) hH).bind fun _ => keeps_pure
  · exact keeps_choose.bind fun ms => (audit_chat hH (by simp)).bind fun _ => hd.reply _ _

theorem respond_chat (hH : HostOk P H) (hd : CommandsSafe P H deps) (msg : Msg)
    (pending : PendingAction) (hpos : ∀ usd, pending = .withdraw usd → 0 < usd) :
    Chat P H (respond deps msg pending) := by
  cases pending with
  | disclaimer => exact keeps_pure
  | totpSetupConfirm => exact respondTotpSetupConfirm_chat hH hd msg
  | depositReveal => exact respondGated_chat hH hd msg _ (doDepositReveal_chat hH hd _ _)
  | balanceReveal => exact respondGated_chat hH hd msg _ (doBalanceReveal_chat hH hd _ _)
  | withdrawAmountEntry => exact respondWithdrawAmountEntry_chat hH hd msg
  | withdraw usd => exact respondGated_chat hH hd msg _ (doWithdraw_chat hH hd _ _ (hpos usd rfl))
  | setwhitelistAddressEntry => exact respondSetWhitelistAddressEntry_chat hH hd msg
  | setwhitelistFirst address =>
    exact respondGated_chat hH hd msg _ (doSetWhitelist_chat hH hd _ _ _)
  | setwhitelistChange address =>
    exact respondGated_chat hH hd msg _ (doSetWhitelist_chat hH hd _ _ _)
  | cancelwhitelist => exact respondGated_chat hH hd msg _ (doCancelWhitelist_chat hH hd _ _)

theorem handleMessage_chat (hH : HostOk P H) (hd : CommandsSafe P H deps) (msg : Msg) :
    Chat P H (handleMessage deps msg) := by
  have hread : Triple P H .telegram (fun _ => True) (readMemory fun m => m.pending msg.userId)
      (fun pending _ => (∀ usd, pending = some (.withdraw usd) → 0 < usd) ∧ True)
      fun _ => True :=
    triple_read fun w hl _ => ⟨fun usd h => hl.pending msg.userId usd h, trivial⟩
  refine Triple.bind hread fun pending => triple_of_fact fun hpos => ?_
  rcases pending with _ | pending
  · exact keeps_pure
  have hrespond : Chat P H (do
      if ← rejectIfLocked deps msg.chatId msg.userId then pure () else respond deps msg pending) := by
    refine (rejectIfLocked_chat hd _ _).bind fun locked => keeps_ite keeps_pure ?_
    exact respond_chat hH hd msg pending fun usd h => hpos usd (by rw [h])
  cases pending with
  | disclaimer => exact keeps_pure
  | _ => exact hrespond

structure OperatorSafe (P : Policy) (H : VaultHost) (ops : OperatorCommandsDeps) : Prop where
  reply : ∀ chatId notice, Chat P H (ops.reply chatId notice)
  getMid : Triple P H .telegram (fun _ => True) ops.getMid (Consulted P fun _ => True)
    fun _ => True

variable {ops : OperatorCommandsDeps}

theorem handlePause_chat (hH : HostOk P H) (ho : OperatorSafe P H ops) (msg : Msg) :
    Chat P H (handlePause ops msg) := by
  refine (Outside.chat (setFlag_outside _ _) hH).bind fun _ => keeps_choose.bind fun ms => ?_
  exact (audit_chat hH (by simp)).bind fun _ => ho.reply _ _

theorem handleResume_chat (hH : HostOk P H) (ho : OperatorSafe P H ops) (msg : Msg) :
    Chat P H (handleResume ops msg) := by
  refine (Outside.chat (setFlag_outside _ _) hH).bind fun _ => keeps_choose.bind fun ms => ?_
  exact (audit_chat hH (by simp)).bind fun _ => ho.reply _ _

theorem handleStatus_chat (ho : OperatorSafe P H ops) (msg : Msg) :
    Chat P H (handleStatus ops msg) :=
  keeps_read.bind fun _ => ho.reply _ _

theorem requeueFailedWithdrawal_chat (hH : HostOk P H) (id : ℕ) :
    Chat P H (requeueFailedWithdrawal id) := by
  have hread : Triple P H .telegram (fun _ => True) (readDb (getWithdrawalById id))
      (fun row w => row = getWithdrawalById id w.db) fun _ => True :=
    triple_read fun _ _ _ => rfl
  refine Triple.bind hread ?_
  rintro (_ | row)
  · exact triple_throw fun _ _ => trivial
  refine triple_ite (fun _ => triple_throw fun _ _ => trivial) fun hst => ?_
  refine triple_ite (fun _ => triple_throw fun _ _ => trivial) fun hsig => ?_
  refine triple_update (fun _ _ => trivial) (fun w _ hrow hallow => ?_) hH
  obtain rfl : row.id = id := (KeyedTable.lookup_some hrow.symm).2
  exact ⟨.single (.requeue row hrow.symm (not_not.mp hst) (by simpa using hsig) hallow), trivial⟩

theorem requeue_chat (hH : HostOk P H) (ho : OperatorSafe P H ops) (msg : Msg) (id : ℕ)
    (w : WithdrawalRow) : Chat P H (requeue ops msg id w) := by
  refine (requeueFailedWithdrawal_chat hH id).bind fun _ => keeps_choose.bind fun ms => ?_
  exact (audit_chat hH (by simp)).bind fun _ => ho.reply _ _

theorem handleForceProcess_chat (hH : HostOk P H) (ho : OperatorSafe P H ops) (msg : Msg) :
    Chat P H (handleForceProcess ops msg) := by
  unfold handleForceProcess
  rcases TextInput.argument msg.text with _ | raw
  · exact ho.reply _ _
  dsimp only
  rcases withdrawalId raw with _ | id
  · exact ho.reply _ _
  refine keeps_read.bind ?_
  rintro (_ | w)
  · exact ho.reply _ _
  dsimp only
  rcases w.txSig with _ | txSig
  · exact keeps_ite (ho.reply _ _) (requeue_chat hH ho msg id w)
  · exact ho.reply _ _

theorem recredit_triple (ho : OperatorSafe P H ops) (msg : Msg) (telegramId : TelegramId)
    (inboundTxSig : String) (sweepTxSig : Signature) (solLamports bertRaw : ℕ)
    (confirmedAt : ℤ) {mid : Mid} (hp : P.price mid) (navPerShare : ℚ) :
    Triple P H .telegram (fun w => P.ready w.memory)
      (recredit ops msg telegramId inboundTxSig sweepTxSig solLamports bertRaw confirmedAt mid
        navPerShare) (fun _ _ => True) fun _ => True := by
  refine Triple.tryCatch (D := fun _ => True) ?_ fun e => ?_
  · refine Triple.mono (A := fun w => P.ready w.memory) (B := fun _ w => P.ready w.memory)
      (E := fun w => P.ready w.memory) ?_ (fun _ h => h) (fun _ _ _ => trivial) fun _ _ => trivial
    refine keeps_choose.bind fun sweptAt => keeps_choose.bind fun ms => ?_
    exact (credit_keeps _ hp).bind fun _ => keeps_pure
  · have hrefuse : Chat P H (refuseRecredit ops msg inboundTxSig e) :=
      keeps_ite (ho.reply _ _) (ho.reply _ _)
    exact hrefuse.bind fun _ => keeps_pure

theorem recreditFrom_chat (hH : HostOk P H) (ho : OperatorSafe P H ops) (msg : Msg)
    (inboundTxSig : String) (telegramId : TelegramId) (detected : ℕ × ℕ)
    (swept : Signature × ℕ × ℕ × ℤ) :
    Chat P H (recreditFrom ops msg inboundTxSig telegramId detected swept) := by
  refine Triple.bind ho.getMid ?_
  rintro (_ | mid)
  · exact ho.reply _ _
  refine triple_of_fact fun hprice => ?_
  refine Triple.bind (B := fun _ w => P.ready w.memory) (triple_read fun _ _ h => h.1) ?_
  intro navPerShare
  refine (recredit_triple ho _ _ _ _ _ _ _ hprice _).bind fun credited => keeps_ite ?_ keeps_pure
  refine keeps_read.bind fun deposits => keeps_choose.bind fun ms => ?_
  exact (audit_chat hH (by simp)).bind fun _ => ho.reply _ _

theorem handleRecreditDeposit_chat (hH : HostOk P H) (ho : OperatorSafe P H ops) (msg : Msg) :
    Chat P H (handleRecreditDeposit ops msg) := by
  unfold handleRecreditDeposit
  rcases TextInput.argument msg.text with _ | inboundTxSig
  · exact ho.reply _ _
  refine keeps_read.bind fun known => keeps_ite (ho.reply _ _) (keeps_read.bind fun recent => ?_)
  rcases scanAudit inboundTxSig recent ⟨none, none, none⟩ with
    ⟨_ | detected, _ | swept, _ | telegramId⟩
  case some.some.some => exact recreditFrom_chat hH ho _ _ _ _ _
  all_goals exact ho.reply _ _

theorem handleResetTotp_chat (hH : HostOk P H) (ho : OperatorSafe P H ops) (msg : Msg) :
    Chat P H (handleResetTotp ops msg) := by
  unfold handleResetTotp
  rcases TextInput.resetTotpTarget msg.text with _ | targetId
  · exact ho.reply _ _
  refine keeps_read.bind ?_
  rintro (_ | user)
  · exact ho.reply _ _
  refine (Outside.chat (clearUserTotp_outside _) hH).bind fun _ => keeps_choose.bind fun ms => ?_
  exact (audit_chat hH (by simp)).bind fun _ => ho.reply _ _

end CommandRefinement
