import BertMMBot.ChatJournal

/-! # Messages and buttons in the journal

Enrolment, the commands of the operator, and the dispatch that leads from a message or a
button press to its handler: whatever arrives, its session keeps to the machine. -/
namespace DispatchJournal

open AsyncProgram AsyncContract AsyncFibers AsyncRecords RecordedTriples KeyedTable
open VaultTypes VaultProgram Encryption DepositorStore ShareMath AccountSecurity DepositorCommands
open DepositPipeline OperatorCommands
open VaultJournal JournalMachine JournalTriples JournalStore ChatSessions ChatJournal
open VaultDiscipline (Environment)
open LedgerMachine (Fiber)
open MeteoraPosition (Venue)
open VaultRuntime (BotConfig commandsDeps commanderDeps reply ensureAta)

variable {venue : Venue} {cfg : BotConfig} {env : Environment} {w w' : World}
  {h h' L L' : Journal} {p q : JournalPoint} {u : TelegramId} {A : JournalPoint → Prop}
  {e : Line} {msg : Msg} {α β : Type}

theorem setTotpSetupFailures_passed (hA : Steady venue cfg env .telegram A) (u : TelegramId)
    (failures : Option ℕ) : Passed venue cfg env .telegram A (setTotpSetupFailures u failures) := by
  apply passed_memory hA
  · intro m
    rfl
  · intro m
    rfl

theorem recordSuccess_passed (hA : Steady venue cfg env .telegram A) (u : TelegramId) :
    Passed venue cfg env .telegram A (recordSuccess u) := by
  apply passed_memory hA
  · intro m
    rfl
  · intro m
    rfl

theorem setTotp_minor (secretEnc : EncryptedBlob) (enrolledAt : ℤ) :
    Minor ((Change.setEnrolment u (some enrolledAt)).apply w) (w.withDb (updateUser u (fun r =>
      { r with totpSecretEnc := some secretEnc, totpEnrolledAt := some enrolledAt }) w.db)) := by
  refine ⟨⟨?_, rfl, rfl, rfl, rfl, rfl⟩, rfl, rfl⟩
  exact (accounts_updateUser (fun _ => rfl) w.db).trans (accounts_enrol (some enrolledAt) w.db).symm

theorem setTotp_chatted (hA : Steady venue cfg env .telegram A) {enrolledAt : ℤ}
    (hconfirms : ∀ w h, A (w, h) → enrolledAt = 0 ∨ Confirms u w
      (.choice .telegram (Choice.statement (.setTotp u)) w (none : Option Thrown) :: h))
    (secretEnc : EncryptedBlob) :
    Obeys venue cfg env .telegram A (setTotp u secretEnc enrolledAt) := by
  refine Triple.mono (E := A) ?_ (fun _ ha => ha) (fun _ _ hb => hb) fun _ _ => trivial
  refine followed_statement (P := A) hA (fun _ ha => ha) (fun _ _ _ _ => trivial) ?_
  intro w h _ db _ ha hdb
  cases hdb
  have hpermitted : Permitted venue cfg .telegram w
      (.choice .telegram (Choice.statement (.setTotp u)) w (none : Option Thrown) :: h)
      (.setEnrolment u (some enrolledAt)) := by
    refine ⟨rfl, ?_⟩
    rcases hconfirms w h ha with rfl | hc
    · exact .inr (.inl rfl)
    · exact .inr (.inr hc)
  exact ⟨(changed _ hpermitted).trans (minored (setTotp_minor secretEnc enrolledAt)), trivial⟩

theorem generateSecret_passed (hA : Steady venue cfg env .telegram A) :
    Passed venue cfg env .telegram A generateSecret :=
  passed_choose (c := .generateSecret) hA fun _ _ _ => trivial

theorem beginTotpEnrollment_followed (u : TelegramId) :
    Followed venue cfg env .telegram A (beginTotpEnrollment u) (fun _ _ => True)
      fun _ => True := by
  refine Triple.mono (A := fun _ => True) (B := fun _ _ => True) (E := fun _ => True) ?_
    (fun _ _ => trivial) (fun _ _ hb => hb) fun _ he => he
  refine Triple.bind keeps_read fun user => ?_
  cases user with
  | none => exact triple_throw fun _ _ => trivial
  | some user =>
    refine Triple.bind (generateSecret_passed steady_true) fun secret => ?_
    refine Triple.bind (encryptSecret_passed steady_true _) fun enc => ?_
    refine Triple.bind (setTotp_chatted steady_true (fun _ _ _ => .inl rfl) enc) fun _ => ?_
    exact triple_pure fun _ _ => trivial

theorem handleAccount_chatted :
    Obeys venue cfg env .telegram A (handleAccount (commandsDeps venue cfg) msg) := by
  refine weaken (A := fun _ => True) ?_ fun _ _ => trivial
  refine passed_then keeps_read fun user => ?_
  cases user with
  | none =>
    refine passed_then (setPending_passed steady_true _ (by simp)) fun _ => ?_
    exact obeys_reply (by trivial) _
  | some existing =>
    apply triple_ite
    · intro _
      refine any_then (beginTotpEnrollment_followed msg.userId) fun secret => ?_
      refine passed_then (setPending_passed steady_true _ (by simp)) fun _ => ?_
      exact obeys_reply (by trivial) _
    · intro _
      exact obeys_reply (by trivial) _

theorem createUser_chatted {args : NewUser} :
    Obeys venue cfg env .telegram A (createUser args) := by
  refine Triple.mono (A := fun _ => True) (B := fun _ _ => True) (E := fun _ => True) ?_
    (fun _ _ => trivial) (fun _ _ hb => hb) fun _ he => he
  refine followed_statement steady_true (fun _ ha => ha) (fun _ _ _ _ => trivial) ?_
  intro w h _ db _ _ hdb
  by_cases htaken : w.db.users.any fun v => v.telegramId = args.telegramId ∨
      v.depositAddress = args.depositAddress
  · rw [if_pos htaken] at hdb
    cases hdb
  · rw [if_neg htaken] at hdb
    cases hdb
    refine ⟨changed (.addUser _) ⟨by decide, (fun hcli => by cases hcli), ?_, rfl, rfl⟩,
      trivial⟩
    intro a ha
    obtain ⟨r, hr, rfl⟩ := List.mem_map.mp ha
    simp only [List.any_eq_true, not_exists, not_and] at htaken
    have hfree := htaken r hr
    constructor
    · intro heq
      exact hfree (by simp [show r.telegramId = args.telegramId from heq])
    · intro heq
      exact hfree (by simp [show r.depositAddress = args.depositAddress from heq])

theorem accept_followed (ms : ℤ) :
    Followed venue cfg env .telegram A (accept (commandsDeps venue cfg).ensureAta u ms)
      (fun _ _ => True) fun _ => True := by
  refine weaken (A := fun _ => True) ?_ fun _ _ => trivial
  refine passed_then keeps_read fun user => ?_
  cases user with
  | some user => exact obeys_pure
  | none =>
    have hpair : Passed venue cfg env .telegram (fun _ => True) generateKeypair :=
      passed_choose (c := .generateKeypair) steady_true fun _ _ _ => trivial
    refine passed_then hpair fun kp => passed_then (encryptSecret_passed steady_true _) fun enc => ?_
    refine any_then createUser_chatted fun _ => ?_
    exact obeys_of (ensureAta_passed steady_true _)

theorem acceptDisclaimer_chatted :
    Obeys venue cfg env .telegram A (acceptDisclaimer (commandsDeps venue cfg) msg) := by
  refine weaken (A := fun _ => True) ?_ fun _ _ => trivial
  refine passed_then (clearPending_passed steady_true _) fun _ => ?_
  refine passed_then (now_passed steady_true) fun ms => ?_
  refine any_then (accept_followed ms) fun _ => ?_
  refine passed_then (writeAudit_passed steady_true (fun _ _ _ => rfl) ms _) fun _ => ?_
  refine any_then (beginTotpEnrollment_followed msg.userId) fun secret => ?_
  refine passed_then (setPending_passed steady_true _ (by simp)) fun _ => ?_
  refine passed_then (setTotpSetupFailures_passed steady_true _ _) fun _ => ?_
  exact obeys_reply (by trivial) _

theorem handleAccept_chatted :
    Obeys venue cfg env .telegram A (handleAccept (commandsDeps venue cfg) msg) := by
  refine weaken (A := fun _ => True) ?_ fun _ _ => trivial
  refine passed_then keeps_read fun pending => ?_
  apply triple_ite
  · intro _
    exact acceptDisclaimer_chatted
  · intro _
    exact obeys_reply (by trivial) _

theorem handleDecline_chatted :
    Obeys venue cfg env .telegram A (handleDecline (commandsDeps venue cfg) msg) := by
  refine weaken (A := fun _ => True) ?_ fun _ _ => trivial
  refine passed_then (clearPending_passed steady_true _) fun _ => ?_
  refine passed_then (setTotpSetupFailures_passed steady_true _ _) fun _ => ?_
  exact obeys_reply (by trivial) _

def Validated (L : Journal) : Prop :=
  ∃ secret code w₁ delta, (Entry.choice .telegram (Choice.totpValidate secret code) w₁
    (some delta : Option ℤ) : Line) ∈ L

theorem steady_validated :
    Steady venue cfg env .telegram fun p => Validated (own .telegram p.2) := by
  apply steady_own (F := Validated) (by decide)
  rintro e L - - ⟨secret, code, w, delta, hmem⟩
  exact ⟨secret, code, w, delta, List.mem_cons_of_mem e hmem⟩

theorem verifyCode_followed (secret code : String) (lastUsedCounter : Option ℤ) :
    Followed venue cfg env .telegram (fun _ => True) (verifyCode secret code lastUsedCounter)
      (fun result p => ∀ counter, result = .ok counter → Validated (own .telegram p.2))
      fun _ => True := by
  apply triple_ite
  · intro _
    have hask : Followed venue cfg env .telegram (fun _ => True) (totpValidate secret code)
        (fun found p => ∀ delta, found = some delta → Validated (own .telegram p.2))
        fun _ => True := by
      refine triple_choose (I := vaultInterface) (c := Choice.totpValidate secret code) ?_
      intro w h found _ _ _
      refine ⟨told rfl rfl rfl trivial, ?_⟩
      rintro delta rfl
      exact ⟨secret, code, w, delta, mem_own_self rfl rfl⟩
    refine hask.bind fun found => ?_
    cases found with
    | none => exact triple_pure fun p _ counter hf => by cases hf
    | some delta =>
      have hcounter : Passed venue cfg env .telegram (fun p => Validated (own .telegram p.2))
          currentCounter := (now_passed steady_validated).bind fun _ => keeps_pure
      refine Triple.bind (Triple.mono hcounter (fun p hp => hp delta rfl) (fun _ _ hb => hb)
        fun _ _ => trivial) fun counter => ?_
      apply triple_ite
      · intro _
        exact triple_pure fun p _ counter hf => by cases hf
      · intro _
        exact triple_pure fun p hp _ _ => hp
  · intro _
    exact triple_pure fun p _ counter hf => by cases hf

theorem confirmTotp_followed (u : TelegramId) (code : String) (ms : ℤ) :
    Followed venue cfg env .telegram A (confirmTotp u code ms) (fun _ _ => True)
      fun _ => True := by
  refine Triple.mono (A := fun _ => True) (B := fun _ _ => True) (E := fun _ => True) ?_
    (fun _ _ => trivial) (fun _ _ hb => hb) fun _ he => he
  refine Triple.bind keeps_read fun secrets => ?_
  cases secrets.bind UserSecrets.totpSecretEnc with
  | none => exact triple_pure fun _ _ => trivial
  | some secretEnc =>
    refine Triple.bind (decryptSecret_passed steady_true secretEnc) fun secret => ?_
    refine Triple.bind (verifyCode_followed _ code none) fun result => ?_
    cases result with
    | badFormat => exact triple_pure fun _ _ => trivial
    | invalid => exact triple_pure fun _ _ => trivial
    | replay counter => exact triple_pure fun _ _ => trivial
    | ok counter =>
      refine Triple.bind (B := fun _ _ => True) ?_ fun _ => ?_
      · refine weaken (A := fun p => Validated (own .telegram p.2)) ?_ fun p hp => hp counter rfl
        apply setTotp_chatted steady_validated
        intro w h hvalid
        exact .inr ⟨h, rfl, hvalid⟩
      · refine Triple.bind (setTotpLastCounter_passed steady_true counter) fun _ => ?_
        exact triple_pure fun _ _ => trivial

theorem respondTotpSetupConfirm_chatted :
    Obeys venue cfg env .telegram A (respondTotpSetupConfirm (commandsDeps venue cfg) msg) := by
  refine weaken (A := fun _ => True) ?_ fun _ _ => trivial
  refine passed_then (now_passed steady_true) fun ms => ?_
  refine any_then (confirmTotp_followed msg.userId _ ms) fun confirmed => ?_
  apply triple_ite
  · intro _
    refine passed_then (clearPending_passed steady_true _) fun _ => ?_
    refine passed_then (setTotpSetupFailures_passed steady_true _ _) fun _ => ?_
    refine passed_then (recordSuccess_passed steady_true _) fun _ => ?_
    refine passed_then (writeAudit_passed steady_true (fun _ _ _ => rfl) ms _) fun _ => ?_
    exact obeys_reply (by trivial) _
  · intro _
    refine passed_then keeps_read fun failures => ?_
    refine passed_then (writeAudit_passed steady_true (fun _ _ _ => rfl) ms _) fun _ => ?_
    refine passed_then (recordFailure_passed steady_true _ _ _) fun lockedUntil => ?_
    cases lockedUntil with
    | some until_ =>
      refine passed_then (clearPending_passed steady_true _) fun _ => ?_
      refine passed_then (setTotpSetupFailures_passed steady_true _ _) fun _ => ?_
      refine passed_then (writeAudit_passed steady_true (fun _ _ _ => rfl) ms _) fun _ => ?_
      exact obeys_reply (by trivial) _
    | none =>
      apply triple_ite
      · intro _
        refine passed_then (clearPending_passed steady_true _) fun _ => ?_
        refine passed_then (setTotpSetupFailures_passed steady_true _ _) fun _ => ?_
        exact obeys_reply (by trivial) _
      · intro _
        refine passed_then (setTotpSetupFailures_passed steady_true _ _) fun _ => ?_
        exact obeys_reply (by trivial) _

theorem respond_action_chatted (action : PendingAction) :
    Obeys venue cfg env .telegram
      (fun p => Welcome venue cfg msg.userId p ∧ Answering msg action (own .telegram p.2))
      (respond (commandsDeps venue cfg) msg action) := by
  cases action with
  | depositReveal =>
    apply respond_chatted
    exact weaken (doDepositReveal_chatted msg.userId msg.chatId) fun p hp => answered_granted hp
  | balanceReveal =>
    apply respond_chatted
    exact weaken (doBalanceReveal_chatted msg.userId msg.chatId) fun p hp => answered_granted hp
  | setwhitelistFirst address => exact respondSetWhitelist_chatted _ _ address
  | setwhitelistChange address => exact respondSetWhitelist_chatted _ _ address
  | cancelwhitelist =>
    apply respond_chatted
    exact weaken (doCancelWhitelist_chatted msg.userId msg.chatId) fun p hp => answered_granted hp
  | withdrawAmountEntry => exact respondWithdrawAmountEntry_chatted
  | withdraw amountUsd => exact respondWithdraw_chatted amountUsd
  | setwhitelistAddressEntry =>
    exact weaken respondSetWhitelistAddressEntry_chatted fun p hp => hp.1.1
  | totpSetupConfirm => exact respondTotpSetupConfirm_chatted
  | disclaimer => exact obeys_pure

theorem handleStats_chatted :
    Obeys venue cfg env .telegram A (handleStats (commandsDeps venue cfg) msg) := by
  refine weaken (A := fun _ => True) ?_ fun _ _ => trivial
  refine passed_then (getNav_passed steady_true cfg.minSolFloorLamports) fun nav => ?_
  cases nav with
  | none => exact obeys_reply (by trivial) _
  | some nav =>
    refine passed_then (now_passed steady_true) fun ms => passed_then keeps_read fun prior => ?_
    exact obeys_reply (by trivial) _

theorem handleMenu_chatted :
    Obeys venue cfg env .telegram A (handleMenu (commandsDeps venue cfg) msg) := by
  refine weaken (A := fun _ => True) ?_ fun _ _ => trivial
  refine passed_then keeps_read fun user => ?_
  cases enrolled user with
  | none => exact obeys_reply (by trivial) _
  | some user => exact obeys_reply (by trivial) _

theorem setFlag_chatted (msg : Msg) (key value : String) {event : AuditEvent}
    (hev : ∀ id ts v, sweptRow ⟨id, ts, v, event⟩ = none) {notice : Notice} (hn : Casual notice) :
    Obeys venue cfg env .telegram A (do
      setFlag key value
      let ms ← now
      writeAudit ms (some msg.userId) event
      reply msg.chatId notice) := by
  refine weaken (A := fun _ => True) ?_ fun _ _ => trivial
  refine passed_then (setFlag_passed steady_true key value) fun _ => ?_
  refine passed_then (now_passed steady_true) fun ms => ?_
  refine passed_then (writeAudit_passed steady_true hev ms _) fun _ => ?_
  exact obeys_reply hn _

theorem requeue_chatted (id : ℕ) (row : WithdrawalRow) :
    Obeys venue cfg env .telegram A (requeue (commanderDeps venue cfg).operator msg id row) := by
  refine weaken (A := fun _ => True) ?_ fun _ _ => trivial
  refine any_then ?_ fun _ => ?_
  · refine passed_then keeps_read fun found => ?_
    cases found with
    | none => exact triple_throw fun _ _ => trivial
    | some found =>
      apply triple_ite
      · intro _
        exact triple_throw fun _ _ => trivial
      · intro _
        apply triple_ite
        · intro _
          exact triple_throw fun _ _ => trivial
        · intro _
          refine followed_statement steady_true (fun _ ha => ha) (fun _ _ _ _ => trivial) ?_
          intro w h _ db _ _ hdb
          cases hdb
          exact ⟨changed (.amendWithdrawal id requeued) fun _ => rfl, trivial⟩
  · refine passed_then (now_passed steady_true) fun ms => ?_
    refine passed_then (writeAudit_passed steady_true (fun _ _ _ => rfl) ms _) fun _ => ?_
    exact obeys_reply (by trivial) _

theorem handleForceProcess_chatted :
    Obeys venue cfg env .telegram A (handleForceProcess (commanderDeps venue cfg).operator msg) := by
  refine weaken (A := fun _ => True) ?_ fun _ _ => trivial
  unfold handleForceProcess
  cases TextInput.argument msg.text with
  | none => exact obeys_reply (by trivial) _
  | some raw =>
    dsimp only
    cases withdrawalId raw with
    | none => exact obeys_reply (by trivial) _
    | some id =>
      refine passed_then keeps_read fun row => ?_
      cases row with
      | none => exact obeys_reply (by trivial) _
      | some row =>
        dsimp only
        cases row.txSig with
        | some txSig => exact obeys_reply (by trivial) _
        | none =>
          apply triple_ite
          · intro _
            exact obeys_reply (by trivial) _
          · intro _
            exact requeue_chatted id row

theorem scanAudit_swept {sig : String} {rows : List AuditRow} {trail trail' : AuditTrail}
    {swept : Signature × ℕ × ℕ × ℤ} (hscan : scanAudit sig rows trail = trail')
    (hswept : trail'.swept = some swept) :
    trail.swept = some swept ∨ ∃ row ∈ rows, ∃ ms, row.event =
      .depositSwept sig swept.1 swept.2.1 swept.2.2.1 ms := by
  induction rows generalizing trail with
  | nil =>
    subst hscan
    exact .inl hswept
  | cons row rows ih =>
    have deeper : ∀ t, scanAudit sig rows t = trail' → t.swept = trail.swept →
        trail.swept = some swept ∨ ∃ a ∈ row :: rows, ∃ ms, a.event =
          .depositSwept sig swept.1 swept.2.1 swept.2.2.1 ms := by
      intro t ht hsame
      rcases ih ht with hfirst | ⟨a, ha, hev⟩
      · exact .inl (hsame ▸ hfirst)
      · exact .inr ⟨a, List.mem_cons_of_mem row ha, hev⟩
    unfold scanAudit at hscan
    split at hscan
    · subst hscan
      exact .inl hswept
    · split at hscan
      · split at hscan
        · exact deeper _ hscan rfl
        · exact deeper _ hscan rfl
      · next sig' txSig sol bert ms hev =>
        split at hscan
        · next hsig =>
          rcases ih hscan with hfirst | ⟨a, ha, hev'⟩
          · cases hfirst
            refine .inr ⟨row, List.mem_cons_self .., ms, ?_⟩
            rw [hev, hsig.1]
          · exact .inr ⟨a, List.mem_cons_of_mem row ha, hev'⟩
        · exact deeper _ hscan rfl
      · exact deeper _ hscan rfl

theorem recent_mem {limit : ℕ} {db : Db} {row : AuditRow}
    (hr : row ∈ listRecentAuditEvents limit db) : row ∈ db.auditLog :=
  (List.mem_insertionSort _).mp (List.mem_of_mem_take hr)

/-- What the audit log told the operator, at the latest look at the oracle. -/
def Consulted (msg : Msg) (sig : String) (u : TelegramId) (detected : ℕ × ℕ)
    (swept : Signature × ℕ × ℕ × ℤ) (L : Journal) : Prop :=
  ∃ w₀ w₁ o, Opened (.message msg) w₀ L ∧ TextInput.argument msg.text = some sig ∧
    Entry.choice .telegram Choice.consult w₁ o ∈ L ∧
    scanAudit sig (listRecentAuditEvents 5000 w₁.db) ⟨none, none, none⟩ =
      ⟨some detected, some swept, some u⟩

theorem steady_consulted {sig : String} {detected : ℕ × ℕ} {swept : Signature × ℕ × ℕ × ℤ} :
    Steady venue cfg env .telegram
      fun p => Consulted msg sig u detected swept (own .telegram p.2) := by
  apply steady_own (F := Consulted msg sig u detected swept) (by decide)
  rintro e L - - ⟨w₀, w₁, o, hopen, harg, hmem, hscan⟩
  exact ⟨w₀, w₁, o, opened_cons hopen, harg, List.mem_cons_of_mem e hmem, hscan⟩

theorem consulted_traced {sig : String} {detected : ℕ × ℕ} {swept : Signature × ℕ × ℕ × ℤ}
    (hc : Consulted msg sig u detected swept (own .telegram h)) : Traced sig .telegram h := by
  obtain ⟨w₀, w₁, o, -, -, hmem, hscan⟩ := hc
  refine ⟨w₁, o, hmem, ?_⟩
  rcases scanAudit_swept hscan rfl with hnone | ⟨row, hrow, ms, hev⟩
  · cases hnone
  · refine ⟨⟨row.telegramId, sig, swept.1, swept.2.1, swept.2.2.1⟩, ?_, rfl⟩
    refine List.mem_filterMap.mpr ⟨row, recent_mem hrow, ?_⟩
    simp only [sweptRow, hev]

theorem recredit_chatted {sig : String} {detected : ℕ × ℕ} {swept : Signature × ℕ × ℕ × ℤ}
    (mid : Mid) (navPerShare : ℚ) :
    Followed venue cfg env .telegram
      (fun p => Consulted msg sig u detected swept (own .telegram p.2))
      (recredit (commanderDeps venue cfg).operator msg u sig swept.1 detected.1 detected.2
        swept.2.2.2 mid navPerShare) (fun _ _ => True) fun _ => True := by
  apply Triple.tryCatch (D := fun _ => True)
  · refine Triple.mono (B := fun _ _ => True)
      (E := fun p => Consulted msg sig u detected swept (own .telegram p.2)) ?_ (fun _ ha => ha)
      (fun _ _ hb => hb) fun _ _ => trivial
    refine Triple.bind (now_passed steady_consulted) fun sweptAt => ?_
    refine Triple.bind (now_passed steady_consulted) fun ms => ?_
    refine Triple.bind (B := fun _ _ => True) ?_ fun _ => triple_pure fun _ _ => trivial
    refine Triple.mono (credit_passed steady_consulted ?_ ?_ ?_) (fun _ ha => ha)
      (fun _ _ _ => trivial) fun _ he => he
    · intro w h d hc
      exact hc
    · intro p hc
      exact consulted_traced hc
    · rintro p id sharesMinted ⟨w₀, w₁, o, hopen, harg, hmem, hscan⟩
      exact ⟨msg, w₀, w₁, o, swept.1, swept.2.1, swept.2.2.1, swept.2.2.2, hopen, harg, hmem,
        hscan⟩
  · intro e
    refine Triple.bind (B := fun _ _ => True) ?_ fun _ => triple_pure fun _ _ => trivial
    apply triple_ite
    · intro _
      exact obeys_reply (by trivial) _
    · intro _
      exact obeys_reply (by trivial) _

theorem recreditFrom_chatted {sig : String} {detected : ℕ × ℕ} {swept : Signature × ℕ × ℕ × ℤ}
    (harg : TextInput.argument msg.text = some sig) :
    Obeys venue cfg env .telegram
      (fun p => (∃ w₀, Opened (.message msg) w₀ (own .telegram p.2)) ∧
        scanAudit sig (listRecentAuditEvents 5000 p.1.db) ⟨none, none, none⟩ =
          ⟨some detected, some swept, some u⟩)
      (recreditFrom (commanderDeps venue cfg).operator msg sig u detected swept) := by
  have hask : Followed venue cfg env .telegram
      (fun p => (∃ w₀, Opened (.message msg) w₀ (own .telegram p.2)) ∧
        scanAudit sig (listRecentAuditEvents 5000 p.1.db) ⟨none, none, none⟩ =
          ⟨some detected, some swept, some u⟩) VaultRuntime.getMid
      (fun _ p => Consulted msg sig u detected swept (own .telegram p.2)) fun _ => True := by
    refine Triple.bind (B := fun _ p => Consulted msg sig u detected swept (own .telegram p.2)) ?_
      fun _ => triple_read fun _ _ hc => hc
    refine triple_choose (I := vaultInterface) (c := Choice.consult) ?_
    rintro w h o - ⟨⟨w₀, hopen⟩, hscan⟩ -
    have htold : own .telegram (.choice .telegram Choice.consult w o :: h : Journal) =
        .choice .telegram Choice.consult w o :: own .telegram h := own_choice
    refine ⟨told rfl rfl rfl trivial, w₀, w, o, ?_, harg, mem_own_self rfl rfl, hscan⟩
    exact htold ▸ opened_cons hopen
  refine hask.bind fun mid => ?_
  cases mid with
  | none => exact obeys_reply (by trivial) _
  | some mid =>
    refine passed_then keeps_read fun navPerShare => ?_
    refine any_then (recredit_chatted mid navPerShare) fun credited => ?_
    apply triple_ite
    · intro _
      refine passed_then keeps_read fun deposits => passed_then (now_passed steady_true) fun ms => ?_
      refine passed_then (writeAudit_passed steady_true (fun _ _ _ => rfl) ms _) fun _ => ?_
      exact obeys_reply (by trivial) _
    · intro _
      exact obeys_pure

theorem handleRecreditDeposit_chatted :
    Obeys venue cfg env .telegram
      (fun p => ∃ w₀, Opened (.message msg) w₀ (own .telegram p.2))
      (handleRecreditDeposit (commanderDeps venue cfg).operator msg) := by
  unfold handleRecreditDeposit
  cases harg : TextInput.argument msg.text with
  | none => exact obeys_reply (by trivial) _
  | some sig =>
    dsimp only
    refine passed_then keeps_read fun credited => ?_
    apply triple_ite
    · intro _
      exact obeys_reply (by trivial) _
    · intro _
      refine followed_then followed_readDb fun recent => ?_
      rcases htrail : scanAudit sig recent ⟨none, none, none⟩ with ⟨detected, swept, userId⟩
      cases detected with
      | none => exact obeys_reply (by trivial) _
      | some detected =>
        cases swept with
        | none => exact obeys_reply (by trivial) _
        | some swept =>
          cases userId with
          | none => exact obeys_reply (by trivial) _
          | some userId =>
            refine weaken (recreditFrom_chatted harg) ?_
            rintro p ⟨hopen, rfl⟩
            exact ⟨hopen, htrail⟩

theorem not_enrolled_after {db : Db} : ¬Enrolled u (updateUser u (enrol none) db) := by
  rintro ⟨a, ha, hen⟩
  have hself : ∀ r, (Account.enrol none r).telegramId = r.telegramId := fun _ => rfl
  rw [accountOf, accounts_enrol, lookup_amend_self hself] at ha
  obtain ⟨b, -, rfl⟩ := Option.map_eq_some_iff.mp ha
  simp [Account.isEnrolled, Account.enrol] at hen

theorem clearUserTotp_followed (u : TelegramId) :
    Followed venue cfg env .telegram (fun _ => True) (clearUserTotp u)
      (fun _ p => ¬Enrolled u p.1.db) fun _ => True := by
  refine followed_statement steady_true (fun _ ha => ha) (fun _ _ _ _ => trivial) ?_
  intro w h _ db _ _ hdb
  have hminor : Minor ((Change.setEnrolment u none).apply w) (w.withDb (updateUser u (fun r =>
      { r with totpSecretEnc := none, totpEnrolledAt := none, totpLastUsedCounter := none }) w.db)) := by
    refine ⟨⟨?_, rfl, rfl, rfl, rfl, rfl⟩, rfl, rfl⟩
    exact (accounts_updateUser (fun _ => rfl) w.db).trans (accounts_enrol none w.db).symm
  split at hdb
  · cases hdb
    refine ⟨(changed (.setEnrolment u none) ⟨rfl, .inl rfl⟩).trans (minored hminor), ?_⟩
    intro hen
    exact not_enrolled_after ((enrolled_alike hminor.toAlike).mp hen)
  · cases hdb

theorem handleResetTotp_chatted :
    Obeys venue cfg env .telegram A (handleResetTotp (commanderDeps venue cfg).operator msg) := by
  refine weaken (A := fun _ => True) ?_ fun _ _ => trivial
  unfold handleResetTotp
  cases TextInput.resetTotpTarget msg.text with
  | none => exact obeys_reply (by trivial) _
  | some targetId =>
    refine passed_then keeps_read fun user => ?_
    cases user with
    | none => exact obeys_reply (by trivial) _
    | some user =>
      refine Triple.bind (clearUserTotp_followed targetId) fun _ => ?_
      refine passed_then (now_passed steady_notEnrolled) fun ms => ?_
      refine passed_then (writeAudit_passed steady_notEnrolled (fun _ _ _ => rfl) ms _) fun _ => ?_
      apply reply_chatted
      intro w h hnot
      exact hnot

def Commanding (L : Journal) : Prop :=
  (∃ msg w, Opened (.message msg) w L ∧ TextInput.commandName msg.text ≠ none) ∨
    ∃ msg w, Opened (.button msg) w L

theorem commanding_asking (hc : Commanding L) : Asking venue cfg u L := by
  intro amountUsd L'
  rcases hc with ⟨msg, w, ho, hname⟩ | ⟨msg, w, ho⟩
  · exact .command ho hname
  · exact .button ho

theorem handler_chatted {name : String} {kind : VaultRuntime.Kind} {run : Vault Unit}
    (hh : VaultRuntime.handler (commanderDeps venue cfg) name msg = some (kind, run)) :
    Obeys venue cfg env .telegram
      (fun p => (Session msg.userId p ∧ Asking venue cfg msg.userId (own .telegram p.2)) ∧
        ∃ w₀, Opened (.message msg) w₀ (own .telegram p.2)) run := by
  have asked : ∀ {m : Vault Unit}, Obeys venue cfg env .telegram
      (fun p => Session msg.userId p ∧ Asking venue cfg msg.userId (own .telegram p.2)) m →
      Obeys venue cfg env .telegram
        (fun p => (Session msg.userId p ∧ Asking venue cfg msg.userId (own .telegram p.2)) ∧
          ∃ w₀, Opened (.message msg) w₀ (own .telegram p.2)) m :=
    fun hm => weaken hm fun _ hp => hp.1
  unfold VaultRuntime.handler at hh
  split at hh <;> cases hh
  · exact handleAccount_chatted
  · exact handleAccept_chatted
  · exact handleDecline_chatted
  · exact handleMenu_chatted
  · exact handleStats_chatted
  · exact asked (weaken handleDeposit_chatted fun p hp => hp.1)
  · exact asked (weaken handleBalance_chatted fun p hp => hp.1)
  · exact asked handleWithdraw_chatted
  · exact asked (weaken handleSetWhitelist_chatted fun p hp => hp.1)
  · exact asked (weaken handleCancelWhitelist_chatted fun p hp => hp.1)
  · exact setFlag_chatted msg _ _ (fun _ _ _ => rfl) (by trivial)
  · exact setFlag_chatted msg _ _ (fun _ _ _ => rfl) (by trivial)
  · refine weaken (A := fun _ => True) ?_ fun _ _ => trivial
    refine Triple.bind (B := fun notice _ => Casual notice ∧ True)
      (triple_read fun _ _ _ => ⟨trivial, trivial⟩) fun notice => ?_
    exact triple_of_fact fun hn => obeys_reply hn _
  · exact handleForceProcess_chatted
  · exact weaken handleRecreditDeposit_chatted fun p hp => hp.2
  · exact handleResetTotp_chatted
  · exact obeys_reply (by trivial) _
  · refine weaken (A := fun _ => True) ?_ fun _ _ => trivial
    exact passed_then (setFlag_passed steady_true _ _) fun _ => obeys_reply (by trivial) _
  · refine weaken (A := fun _ => True) ?_ fun _ _ => trivial
    refine Triple.bind (B := fun notice _ => Casual notice ∧ True)
      (triple_read fun _ _ _ => ⟨trivial, trivial⟩) fun notice => ?_
    exact triple_of_fact fun hn => obeys_reply hn _
  · exact obeys_reply (by trivial) _

def Begun (j : Job) (p : JournalPoint) : Prop :=
  own .telegram p.2 = [.start .telegram j p.1]

theorem begun_session {j : Job} (hu : j.user = some u) (hb : Begun j p) : Session u p := by
  unfold Session
  rw [hb]
  refine ⟨hu, ?_⟩
  intro e he
  rw [List.mem_singleton.mp he]
  rfl

theorem begun_opened {j : Job} (hb : Begun j p) : Opened j p.1 (own .telegram p.2) := by
  unfold Opened
  rw [hb]
  rfl

theorem handleMessage_chatted (hname : TextInput.commandName msg.text = none) :
    Obeys venue cfg env .telegram (Begun (.message msg))
      (handleMessage (commandsDeps venue cfg) msg) := by
  refine followed_then followed_readMemory fun pending => ?_
  have answer : ∀ action, Obeys venue cfg env .telegram
      (fun p => Begun (.message msg) p ∧ p.1.memory.pending msg.userId = some action) (do
        if ← rejectIfLocked (commandsDeps venue cfg) msg.chatId msg.userId then pure ()
        else respond (commandsDeps venue cfg) msg action) := by
    intro action
    refine weaken (A := fun p => Session msg.userId p ∧
      Answering msg action (own .telegram p.2)) ?_ ?_
    · have hsteady : Steady venue cfg env .telegram (fun p => Session msg.userId p ∧
          Answering msg action (own .telegram p.2)) := steady_session.and steady_answering
      refine followed_then (rejectIfLocked_followed hsteady _ _) fun rejected => ?_
      cases rejected with
      | true => exact obeys_pure
      | false =>
        refine weaken (respond_action_chatted action) ?_
        rintro p ⟨⟨hsession, hanswering⟩, hadmitted⟩
        exact ⟨⟨hsession, hadmitted rfl⟩, hanswering⟩
    · rintro p ⟨hb, hpending⟩
      exact ⟨begun_session rfl hb, p.1, begun_opened hb, hname, hpending⟩
  cases pending with
  | none => exact obeys_pure
  | some action =>
    cases action with
    | disclaimer => exact obeys_pure
    | _ => exact answer _

theorem dispatch_chatted :
    Obeys venue cfg env .telegram (Begun (.message msg))
      (VaultRuntime.dispatch (commanderDeps venue cfg) msg) := by
  unfold VaultRuntime.dispatch
  cases hname : TextInput.commandName msg.text with
  | none =>
    refine passed_then keeps_read fun known => ?_
    apply triple_ite
    · intro _
      exact handleMessage_chatted hname
    · intro _
      exact obeys_pure
  | some name =>
    dsimp only
    cases hh : VaultRuntime.handler (commanderDeps venue cfg) name msg with
    | none => exact obeys_pure
    | some entry =>
      obtain ⟨kind, run⟩ := entry
      refine passed_then ?_ fun allowed => ?_
      · cases kind with
        | vault => exact keeps_read
        | operator => exact keeps_pure
        | public_ => exact keeps_pure
        | enrollment => exact keeps_pure
      · apply triple_ite
        · intro _
          refine weaken (handler_chatted hh) ?_
          intro p hb
          refine ⟨⟨begun_session rfl hb,
            commanding_asking (.inl ⟨msg, p.1, begun_opened hb, ?_⟩)⟩, p.1, begun_opened hb⟩
          rw [hname]
          simp
        · intro _
          exact obeys_pure

theorem pending_chatted {action : PendingAction} {notice : Notice}
    (haction : ∀ usd, action ≠ .withdraw usd) (hn : Casual notice) :
    Obeys venue cfg env .telegram A (do
      setPending msg.userId action
      reply msg.chatId notice) := by
  refine weaken (A := fun _ => True) ?_ fun _ _ => trivial
  exact passed_then (setPending_passed steady_true _ haction) fun _ => obeys_reply hn _

theorem route_chatted :
    Obeys venue cfg env .telegram
      (fun p => Session msg.userId p ∧ Asking venue cfg msg.userId (own .telegram p.2))
      (VaultRuntime.route (commandsDeps venue cfg) msg) := by
  have withdraw : ∀ text, Obeys venue cfg env .telegram
      (fun p => Session msg.userId p ∧ Asking venue cfg msg.userId (own .telegram p.2))
      (handleWithdraw (commandsDeps venue cfg) { msg with text }) := by
    intro text
    exact @handleWithdraw_chatted venue cfg env { msg with text }
  unfold VaultRuntime.route
  split
  · exact handleMenu_chatted
  · exact handleAccount_chatted
  · exact obeys_reply (by trivial) _
  · exact handleAccept_chatted
  · exact handleDecline_chatted
  · exact weaken handleDeposit_chatted fun p hp => hp.1
  · exact weaken handleBalance_chatted fun p hp => hp.1
  · exact handleStats_chatted
  · exact withdraw _
  · exact withdraw _
  · exact withdraw _
  · exact withdraw _
  · exact withdraw _
  · exact pending_chatted (by simp) (by trivial)
  · exact pending_chatted (by simp) (by trivial)
  · exact weaken handleCancelWhitelist_chatted fun p hp => hp.1
  · refine weaken (A := fun _ => True) ?_ fun _ _ => trivial
    exact passed_then (clearPending_passed steady_true _) fun _ => obeys_reply (by trivial) _
  · exact obeys_pure

theorem dispatchCallback_chatted :
    Obeys venue cfg env .telegram (Begun (.button msg))
      (VaultRuntime.dispatchCallback (commandsDeps venue cfg) msg) := by
  refine any_then ?_ fun _ => obeys_reply (by trivial) _
  apply Triple.tryCatch (D := fun _ => True)
  · refine weaken route_chatted ?_
    intro p hb
    exact ⟨begun_session rfl hb, commanding_asking (.inr ⟨msg, p.1, begun_opened hb⟩)⟩
  · intro e
    exact triple_pure fun _ _ => trivial

end DispatchJournal
