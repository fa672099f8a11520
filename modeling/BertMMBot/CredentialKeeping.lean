import BertMMBot.CredentialMachine
import BertMMBot.DepositorParts
import BertMMBot.PlayedJournals

/-! # Enrolled credentials

The beginning of an enrolment overwrites the stored secret without a check of its own. Every
handler that leads to it has found the user without a confirmed one, and no other handler of
the chat writes credentials at all. -/
namespace CredentialKeeping

open AsyncProgram AsyncContract AsyncFibers AsyncRecords AsyncWiring AsyncParts
open RecordedTriples KeyedTable VaultTypes VaultProgram Encryption DepositorStore
open AccountSecurity DepositorCommands OperatorCommands DepositorParts VaultJournal
open CredentialMachine
open LoopBounds (Credential credential credentials)
open JournalMachine (Reading)
open VaultDiscipline (Environment)
open LedgerMachine (Fiber)
open MeteoraPosition (Venue)
open VaultRuntime (BotConfig commandsDeps commanderDeps reply ensureAta)
open PlayedRuns (plainVenue plainConfig oneSol)
open PlayedJournals

variable {venue : Venue} {cfg : BotConfig} {env : Environment} {i : Fiber} {w w' : World}
  {h newer older : Journal} {p q : JournalPoint} {u : TelegramId} {c : Credential} {e : Line}
  {msg : Msg} {α : Type} {A : JournalPoint → Prop}

theorem within_requestChange (cooldownMs : ℤ) (address : Address) (now : ℤ) :
    Within keepingBounds True (requestChange cooldownMs u address now) := by
  apply OperatorBounds.within_requestChange
  · intro x args
    apply within_statement
    intro db a db' hdb
    cases hdb
    rfl
  · exact of_footprint (LoopBounds.within_setWhitelistImmediate _ _ _)
  · intro m hm
    refine within_transaction (fun w₀ _ hw => ?_) hm
    exact congrArg (fun v => (credentials w₀.db, v.2)) hw

theorem within_cancelPending (reason : String) :
    Within keepingBounds True (cancelPending u reason) :=
  OperatorBounds.within_cancelPending fun _ => within_update fun _ => rfl

theorem part_keeps (hA : Firm cfg env .telegram A) {m : Vault α} (hm : Part u False α m) :
    Keeps (credentialMachine cfg env) .telegram A m := by
  cases hm with
  | ask => exact firm_within (x := True) hA (within_choose trivial)
  | call q => exact firm_within hA (within_call trivial trivial)
  | read f => exact keeps_read
  | desk f hf =>
    refine triple_modify ?_
    intro w h _ ha
    have hw : Aside w (w.withMemory (withDesk u f w.memory)) := by
      refine ⟨rfl, ?_⟩
      intro v hv
      by_cases huv : v = u
      · subst huv
        simp only [World.withMemory_memory, withDesk, Function.update_self] at hv
        exact hf _ hv
      · simpa only [World.withMemory_memory, withDesk, Function.update_of_ne huv] using hv
    exact ⟨.single (.aside hw), hA.aside hw ha⟩
  | audit ms event =>
    exact firm_within (x := True) hA (of_footprint (LoopBounds.within_writeAudit _ _ _))
  | counter counter =>
    refine firm_within (x := True) hA (within_update fun db => ?_)
    apply LoopBounds.credentials_updateUser
    intro r
    rfl
  | enqueue args hu =>
    refine firm_within (x := True) hA (within_statement ?_)
    intro db a db' hdb
    cases hdb
    rfl
  | request cooldownMs address now => exact firm_within hA (within_requestChange _ _ _)
  | cancel reason => exact firm_within hA (within_cancelPending _)
  | invite hr => exact hr.elim
  | create args hr => exact hr.elim
  | secret secretEnc enrolledAt hr => exact hr.elim

theorem firm_made (hA : Firm cfg env .telegram A) {m : Vault α} (hm : MadeBy u False m) :
    Keeps (credentialMachine cfg env) .telegram A m :=
  made_keeps (fun hpart => part_keeps hA hpart) hm

theorem made_obeys {m : Vault α} (hm : MadeBy u False m) : Obeys cfg env .telegram A m :=
  weaken (obeys_of (firm_made firm_true hm)) fun _ _ => trivial

theorem reply_obeys (chatId : ℤ) (notice : Notice) :
    Obeys cfg env .telegram A ((commandsDeps venue cfg).reply chatId notice) :=
  made_obeys (u := 0) (made_reply chatId notice)

theorem createUser_enters {args : NewUser} {db db' : Db} {a : Unit}
    (hdb : (if db.users.any fun r => r.telegramId = args.telegramId ∨
        r.depositAddress = args.depositAddress then .error (sqliteError "UNIQUE")
      else .ok ((), { db with users := db.users ++ [{
        telegramId := args.telegramId, role := args.role,
        depositAddress := args.depositAddress, depositSecretEnc := args.depositSecretEnc,
        totpSecretEnc := none, totpEnrolledAt := none, totpLastUsedCounter := none,
        whitelistAddress := none, whitelistSetAt := none,
        disclaimerAt := args.disclaimerAt, createdAt := args.createdAt }] }) :
        Except Thrown (Unit × Db)) = .ok (a, db')) :
    ∃ c : Credential, c.telegramId = args.telegramId ∧ c.totpEnrolledAt = none ∧
      credentialOf c.telegramId db = none ∧ credentials db' = credentials db ++ [c] := by
  split at hdb
  · cases hdb
  · next hfresh =>
    cases hdb
    refine ⟨⟨args.telegramId, args.depositAddress, args.depositSecretEnc, none, none⟩, rfl, rfl,
      ?_, ?_⟩
    · rw [credentialOf_eq, Option.map_eq_none_iff, lookup_none]
      intro r hr hid
      exact hfresh (List.any_eq_true.mpr ⟨r, hr, decide_eq_true (.inl hid)⟩)
    · simp [credentials, credential]

theorem beginTotpEnrollment_obeys :
    Obeys cfg env .telegram (fun p => ¬Enrolled u p.1.db) (beginTotpEnrollment u) := by
  refine keeps_then keeps_read fun user => ?_
  cases user with
  | none => exact triple_throw fun _ _ => trivial
  | some user =>
    refine keeps_then (firm_made firm_notEnrolled (u := u) (made_ask rfl)) fun secretBase32 => ?_
    refine keeps_then (firm_made firm_notEnrolled (u := u) (made_encryptSecret _)) fun enc => ?_
    refine Triple.bind (B := fun _ _ => True) (statement_follows ?_) fun _ =>
      triple_pure fun _ _ => trivial
    intro w h _ db hnot hdb
    cases hdb
    exact ⟨.offer u enc hnot ⟨credentials_rewritten (fun _ => rfl) w.db, rfl⟩, trivial⟩

/-- The disclaimer is shown to users without an account; a secret is offered to those whose
account is not confirmed. -/
theorem handleAccount_obeys :
    Obeys cfg env .telegram A (handleAccount (commandsDeps venue cfg) msg) := by
  refine Triple.bind (B := fun user p => getUser msg.userId p.1.db = user)
    (triple_read fun _ _ _ => rfl) fun user => ?_
  cases user with
  | none =>
    refine Triple.bind (B := fun _ _ => True) (triple_modify ?_) fun _ => reply_obeys _ _
    intro w h _ hnone
    exact ⟨.single (.invite msg.userId (getUser_none hnone)), trivial⟩
  | some existing =>
    apply triple_ite
    · intro hunconfirmed
      have hpre : ∀ p : JournalPoint, getUser msg.userId p.1.db = some existing →
          ¬Enrolled msg.userId p.1.db := by
        intro p hget he
        obtain ⟨c, hc, hiff⟩ := getUser_credential hget
        obtain ⟨c', hc', hen⟩ := (enrolled_iff _).mp he
        cases hc.symm.trans hc'
        have hsome := hiff.mpr hen
        rw [hunconfirmed] at hsome
        cases hsome
      refine Triple.bind (weaken beginTotpEnrollment_obeys hpre) fun secretBase32 => ?_
      exact made_obeys (.seq (made_setPending (by decide)) fun _ => made_reply _ _)
    · intro _
      exact reply_obeys _ _

theorem accept_keeps (ms : ℤ) : Follows cfg env .telegram (fun p => ¬Enrolled u p.1.db)
    (accept (commandsDeps venue cfg).ensureAta u ms) fun _ p => ¬Enrolled u p.1.db := by
  refine keeps_then keeps_read fun user => ?_
  cases user with
  | some user => exact triple_pure fun _ hnot => hnot
  | none =>
    refine keeps_then (firm_made firm_notEnrolled (u := u) (made_ask rfl)) fun (kp : Keypair) => ?_
    refine keeps_then (firm_made firm_notEnrolled (u := u) (made_encryptSecret _)) fun enc => ?_
    refine Triple.bind (B := fun _ p => ¬Enrolled u p.1.db) (statement_follows ?_) fun _ => ?_
    · intro w h _ db hnot hdb
      obtain ⟨c, hid, hnone, hfresh, hcred⟩ := createUser_enters hdb
      have hrows : credentials (w.withDb db).db = credentials w.db ++ [c] := hcred
      have henters := credentialOf_enters hrows hfresh
      subst hid
      refine ⟨.enter c hfresh hnone hcred rfl, ?_⟩
      intro he
      obtain ⟨c', hc', hen⟩ := (enrolled_iff _).mp he
      cases henters.1.symm.trans hc'
      exact hen.1 hnone
    · exact Triple.mono (firm_made firm_notEnrolled (u := u) (made_ensureAta _)) (fun _ h => h)
        (fun _ _ h => h) fun _ _ => trivial

theorem acceptDisclaimer_obeys :
    Obeys cfg env .telegram (fun p => ¬Enrolled msg.userId p.1.db)
      (acceptDisclaimer (commandsDeps venue cfg) msg) := by
  refine keeps_then (firm_made firm_notEnrolled made_clearPending) fun _ => ?_
  refine keeps_then (firm_made firm_notEnrolled (u := msg.userId) made_now) fun ms => ?_
  refine Triple.bind (accept_keeps ms) fun _ => ?_
  refine keeps_then (firm_made firm_notEnrolled (made_audit ms _)) fun _ => ?_
  refine Triple.bind beginTotpEnrollment_obeys fun secretBase32 => ?_
  refine made_obeys (.seq (made_setPending (by decide)) fun _ => ?_)
  exact .seq (made_setTotpSetupFailures none) fun _ => made_reply _ _

theorem handleAccept_obeys :
    Obeys cfg env .telegram A (handleAccept (commandsDeps venue cfg) msg) := by
  apply Triple.bind (B := fun pending p =>
    Unenrolled p.1 ∧ p.1.memory.pending msg.userId = pending)
  · exact triple_read fun _ hinv _ => ⟨hinv, rfl⟩
  intro pending
  apply triple_ite
  · intro hpending
    refine weaken acceptDisclaimer_obeys ?_
    rintro p ⟨hinv, hp⟩
    exact hinv msg.userId (hp.trans hpending)
  · intro _
    exact reply_obeys _ _

theorem confirmTotp_obeys (code : String) (ms : ℤ) :
    Obeys cfg env .telegram
      (fun p => p.1.memory.pending u ≠ some .disclaimer ∧ Reading ms p.2)
      (confirmTotp u code ms) := by
  refine Triple.bind (B := fun secrets p => (p.1.memory.pending u ≠ some .disclaimer ∧
    Reading ms p.2) ∧ getUserSecrets u p.1.db = secrets) (triple_read fun _ _ ha => ⟨ha, rfl⟩) ?_
  intro secrets
  cases hsecret : secrets.bind UserSecrets.totpSecretEnc with
  | none => exact triple_pure fun _ _ => trivial
  | some secretEnc =>
    have hfirm : Firm cfg env .telegram fun p => (p.1.memory.pending u ≠ some .disclaimer ∧
        Reading ms p.2) ∧ ∃ c, credentialOf u p.1.db = some c ∧ c.totpSecretEnc = some secretEnc :=
      (firm_undisclaimed.and firm_reading).and firm_credential
    refine weaken (A := fun p => (p.1.memory.pending u ≠ some .disclaimer ∧ Reading ms p.2) ∧
      ∃ c, credentialOf u p.1.db = some c ∧ c.totpSecretEnc = some secretEnc) ?_ ?_
    · refine keeps_then (firm_made hfirm (u := u) (made_decryptSecret secretEnc)) fun secretBase32 => ?_
      refine keeps_then (firm_made hfirm (u := u) (made_verifyCode _ code none)) ?_
      intro result
      cases result with
      | ok counter =>
        refine Triple.bind (B := fun _ _ => True) (statement_follows ?_) fun _ =>
          made_obeys (.seq (.part (.counter counter)) fun _ => .pure _)
        rintro w h _ db ⟨⟨hpending, hreading⟩, c, hc, hstored⟩ hdb
        cases hdb
        have hid : c.telegramId = u := (lookup_some hc).2
        subst hid
        have hreads := reading_suffix (List.suffix_cons (Entry.choice .telegram
          (Choice.statement (.setTotp c.telegramId)) w (none : Option Thrown)) h) hreading
        exact ⟨.confirm c secretEnc ms hc hstored hpending hreads
          ⟨credentials_rewritten (fun _ => rfl) w.db, rfl⟩, trivial⟩
      | badFormat => exact triple_pure fun _ _ => trivial
      | invalid => exact triple_pure fun _ _ => trivial
      | replay counter => exact triple_pure fun _ _ => trivial
    · rintro p ⟨ha, hget⟩
      refine ⟨ha, ?_⟩
      subst hget
      obtain ⟨secrets, hrow, hstored⟩ := Option.bind_eq_some_iff.mp hsecret
      obtain ⟨r, hr, rfl⟩ := Option.map_eq_some_iff.mp hrow
      refine ⟨credential r, ?_, hstored⟩
      rw [credentialOf_eq, hr]
      rfl

theorem respondTotpSetupConfirm_obeys :
    Obeys cfg env .telegram (fun p => p.1.memory.pending msg.userId ≠ some .disclaimer)
      (respondTotpSetupConfirm (commandsDeps venue cfg) msg) := by
  refine Triple.bind (B := fun ms p => p.1.memory.pending msg.userId ≠ some .disclaimer ∧
    Reading ms p.2) ?_ fun ms => ?_
  · refine triple_choose (I := vaultInterface) (c := Choice.clock) ?_
    intro w h ms _ hp _
    exact ⟨told rfl rfl rfl, hp, .telegram, w, List.mem_cons_self ..⟩
  · refine Triple.bind (confirmTotp_obeys _ ms) fun confirmed => ?_
    apply triple_ite
    · intro _
      exact made_obeys (made_totpSetupAccepted rfl ms)
    · intro _
      exact made_obeys (made_totpSetupRejected rfl ms)

theorem respond_obeys (pending : PendingAction) :
    Obeys cfg env .telegram (fun p => p.1.memory.pending msg.userId ≠ some .disclaimer)
      (respond (commandsDeps venue cfg) msg pending) := by
  by_cases hsetup : pending = .totpSetupConfirm
  · subst hsetup
    exact respondTotpSetupConfirm_obeys
  · exact made_obeys (made_respond rfl pending fun h => absurd h hsetup)

theorem handleMessage_obeys :
    Obeys cfg env .telegram A (handleMessage (commandsDeps venue cfg) msg) := by
  refine Triple.bind (B := fun pending p => p.1.memory.pending msg.userId = pending)
    (triple_read fun _ _ _ => rfl) fun pending => ?_
  have answer : ∀ action : PendingAction, action ≠ .disclaimer → Obeys cfg env .telegram
      (fun p => p.1.memory.pending msg.userId = some action) (do
        if ← rejectIfLocked (commandsDeps venue cfg) msg.chatId msg.userId then pure ()
        else respond (commandsDeps venue cfg) msg action) := by
    intro action haction
    refine weaken (A := fun p => p.1.memory.pending msg.userId ≠ some .disclaimer) ?_ ?_
    · refine keeps_then (firm_made firm_undisclaimed (made_rejectIfLocked _)) fun rejected => ?_
      cases rejected with
      | true => exact triple_pure fun _ _ => trivial
      | false => exact respond_obeys action
    · intro p hp hdisclaimer
      exact haction (Option.some.inj (hp.symm.trans hdisclaimer))
  cases pending with
  | none => exact triple_pure fun _ _ => trivial
  | some action =>
    by_cases haction : action = .disclaimer
    · subst haction
      exact triple_pure fun _ _ => trivial
    · cases action with
      | disclaimer => exact absurd rfl haction
      | _ => exact answer _ haction

section Operator

variable {x : Prop}

theorem within_now : Within keepingBounds x now := OperatorBounds.within_now roomy_keeping

theorem within_reply (chatId : ℤ) (notice : Notice) :
    Within keepingBounds True (reply chatId notice) := OperatorBounds.within_reply roomy_keeping _ _

theorem within_setFlag (name value : String) : Within keepingBounds x (setFlag name value) :=
  within_update fun _ => rfl

theorem within_requeue (id : ℕ) : Within keepingBounds x (requeueFailedWithdrawal id) :=
  OperatorBounds.within_requeueFailedWithdrawal roomy_keeping trivial fun _ _ => rfl

theorem within_handleRecreditDeposit :
    Within keepingBounds True (handleRecreditDeposit (commanderDeps venue cfg).operator msg) :=
  OperatorBounds.within_handleRecreditDeposit roomy_keeping (of_footprint LoopBounds.within_getMid)
    fun _ => of_footprint (LoopBounds.within_credit _)

end Operator

theorem handleResetTotp_obeys (hop : msg.userId = cfg.operatorTelegramId)
    (hname : TextInput.commandName msg.text = some "resettotp") :
    Obeys cfg env .telegram (Serving msg)
      (handleResetTotp (commanderDeps venue cfg).operator msg) := by
  unfold handleResetTotp
  cases htarget : TextInput.resetTotpTarget msg.text with
  | none => exact within_obeys (within_reply _ _)
  | some targetId =>
    refine keeps_then keeps_read fun user => ?_
    cases user with
    | none => exact within_obeys (within_reply _ _)
    | some user =>
      refine Triple.bind (B := fun _ _ => True) (statement_follows ?_) fun _ => ?_
      · rintro w h _ db ⟨w₀, hopened⟩ hdb
        have hreset : IsReset cfg targetId h (.choice .telegram
            (Choice.statement (.clearUserTotp targetId)) w (none : Option Thrown)) :=
          ⟨⟨w, rfl⟩, msg, w₀, hopened, hop, hname, htarget⟩
        split at hdb
        · cases hdb
          exact ⟨.reset targetId _ hreset ⟨credentials_rewritten (fun _ => rfl) w.db, rfl⟩, trivial⟩
        · cases hdb
      · exact within_obeys (OperatorBounds.within_conclude roomy_keeping _ _ _ _)

theorem operator_obeys {name : String} {run : Vault Unit}
    (hname : TextInput.commandName msg.text = some name)
    (hop : msg.userId = cfg.operatorTelegramId)
    (hh : VaultRuntime.handler (commanderDeps venue cfg) name msg = some (.operator, run)) :
    Obeys cfg env .telegram (Serving msg) run := by
  unfold VaultRuntime.handler at hh
  split at hh <;> cases hh
  · exact within_obeys (OperatorBounds.within_switch roomy_keeping (within_setFlag _ _) _ _)
  · exact within_obeys (OperatorBounds.within_switch roomy_keeping (within_setFlag _ _) _ _)
  · exact within_obeys (within_bind (within_read _) fun _ => within_reply _ _)
  · exact within_obeys (OperatorBounds.within_handleForceProcess roomy_keeping within_requeue)
  · exact within_obeys within_handleRecreditDeposit
  · exact handleResetTotp_obeys hop hname
  · exact within_obeys (within_reply _ _)
  · exact within_obeys (within_bind (within_setFlag _ _) fun _ => within_reply _ _)
  · exact within_obeys (within_bind (within_read _) fun _ => within_reply _ _)
  · exact within_obeys (within_reply _ _)

theorem handler_obeys {name : String} {kind : VaultRuntime.Kind} {run : Vault Unit}
    (hh : VaultRuntime.handler (commanderDeps venue cfg) name msg = some (kind, run))
    (hkind : kind ≠ .operator) : Obeys cfg env .telegram A run := by
  by_cases hr : registers name
  · rcases hr with rfl | rfl | rfl | rfl <;> cases hh
    · exact handleAccount_obeys
    · exact handleAccept_obeys
  · exact made_obeys (made_handler hr hh hkind)

theorem dispatch_obeys : Obeys cfg env .telegram (Serving msg)
    (VaultRuntime.dispatch (commanderDeps venue cfg) msg) := by
  unfold VaultRuntime.dispatch
  cases hname : TextInput.commandName msg.text with
  | none =>
    refine keeps_then keeps_read fun known => ?_
    exact triple_ite (fun _ => handleMessage_obeys) fun _ => triple_pure fun _ _ => trivial
  | some name =>
    dsimp only
    cases hh : VaultRuntime.handler (commanderDeps venue cfg) name msg with
    | none => exact triple_pure fun _ _ => trivial
    | some entry =>
      obtain ⟨kind, run⟩ := entry
      by_cases hkind : kind = .operator
      · subst hkind
        by_cases hop : msg.userId = cfg.operatorTelegramId
        · refine keeps_then keeps_pure fun allowed => ?_
          exact triple_ite (fun _ => operator_obeys hname hop hh) fun _ =>
            triple_pure fun _ _ => trivial
        · refine Triple.bind (B := fun allowed _ => allowed = false ∧ True)
            (triple_pure fun _ _ => ⟨decide_eq_false hop, trivial⟩) fun allowed => ?_
          refine triple_of_fact fun hrefused => ?_
          subst hrefused
          exact triple_pure fun _ _ => trivial
      · have hauthorized : Keeps (credentialMachine cfg env) .telegram (Serving msg)
            (VaultRuntime.authorized (commanderDeps venue cfg) msg kind) := by
          cases kind with
          | operator => exact keeps_pure
          | vault => exact keeps_read
          | public_ => exact keeps_pure
          | enrollment => exact keeps_pure
        refine keeps_then hauthorized fun allowed => ?_
        exact triple_ite (fun _ => handler_obeys hh hkind) fun _ => triple_pure fun _ _ => trivial

theorem route_obeys :
    Obeys cfg env .telegram A (VaultRuntime.route (commandsDeps venue cfg) msg) := by
  by_cases hr : registers msg.text
  · unfold VaultRuntime.route
    rcases hr with hr | hr | hr | hr <;> rw [hr]
    · exact triple_pure fun _ _ => trivial
    · exact triple_pure fun _ _ => trivial
    · exact handleAccount_obeys
    · exact handleAccept_obeys
  · exact made_obeys (made_route hr)

theorem dispatchCallback_obeys : Obeys cfg env .telegram A
    (VaultRuntime.dispatchCallback (commandsDeps venue cfg) msg) := by
  have hroute : Obeys cfg env .telegram A
      (tryCatch (VaultRuntime.route (commandsDeps venue cfg) msg) fun _ => pure ()) :=
    Triple.tryCatch route_obeys fun _ => triple_pure fun _ _ => trivial
  exact Triple.bind hroute fun _ => reply_obeys _ _

theorem body_statement {t : JournalPoint} {w₀ : World} {st : Stmt}
    {f : Db → Except Thrown (α × Db)} {B : α → JournalPoint → Prop}
    (hk : (credentialMachine cfg env).Kept i t (w.withDb w₀.db, h))
    (hok : ∀ a db, f w.db = .ok (a, db) →
      (credentialMachine cfg env).Kept i t (w.withDb w₀.db,
        .choice i (Choice.statement st) (w.withDb w₀.db) (none : Option Thrown) :: h) →
      B a (w.withDb db,
        .choice i (Choice.statement st) (w.withDb w₀.db) (none : Option Thrown) :: h)) :
    Body (credentialMachine cfg env) i (fun old new => new.withDb old.db) w₀ t B
      (fun p => (credentialMachine cfg env).Kept i t p ∧ True) (statement st f w) h := by
  refine ⟨hk, ?_⟩
  intro (o : Option Thrown) _
  have htold : (credentialMachine cfg env).Kept i t (w.withDb w₀.db,
      .choice i (Choice.statement st) (w.withDb w₀.db) o :: h) := hk.more (told rfl rfl rfl)
  cases o with
  | some e => exact ⟨htold.act (.aside ⟨rfl, fun _ hu => hu⟩), trivial⟩
  | none =>
    change Body (credentialMachine cfg env) i _ w₀ t B _ (execute f w) _
    simp only [execute, Async.attempt]
    rcases hdb : f w.db with e | ⟨a, db⟩
    · exact ⟨htold, trivial⟩
    · exact hok a db hdb htold

theorem foundVault_obeys (b : VaultRuntime.BootstrapParams) (kp : Keypair) (enc : EncryptedBlob)
    (ms : ℤ) : Obeys cfg env i A (VaultRuntime.foundVault b kp enc ms) := by
  apply triple_transaction
  intro t w h hk _
  apply body_bind
  refine body_statement hk ?_
  intro _ db hdb hk
  obtain ⟨c, -, hnone, hfresh, hcred⟩ := createUser_enters hdb
  apply body_bind
  refine body_statement hk ?_
  intro _ db hdb hk
  obtain ⟨shares, rfl⟩ := JournalStore.addShares_ok hdb
  apply body_bind
  refine body_statement hk ?_
  intro _ db hdb hk
  cases hdb
  refine body_statement hk ?_
  intro _ db hdb hk
  cases hdb
  exact ⟨hk.act (.enter c hfresh hnone hcred rfl), trivial⟩

theorem vaultBootstrap_obeys (b : VaultRuntime.BootstrapParams) :
    Obeys cfg env i A (VaultRuntime.vaultBootstrap ensureAta b) := by
  refine weaken (A := fun _ => True) ?_ fun _ _ => trivial
  apply triple_ite
  · intro _
    refine keeps_then (firm_within (x := True) firm_true within_now) fun ms => ?_
    refine keeps_then keeps_read fun users => ?_
    apply triple_ite
    · intro _
      exact triple_throw fun _ _ => trivial
    · intro _
      refine keeps_then (firm_within (x := True) firm_true (within_choose trivial)) fun kp => ?_
      have henc : Within keepingBounds True (encryptSecret kp.secretKey) :=
        within_encryptSecret (fun c hc => by cases c <;> cases hc <;> trivial) _
      refine keeps_then (firm_within firm_true henc) fun enc => ?_
      refine Triple.bind (foundVault_obeys _ _ _ _) fun _ => within_obeys ?_
      exact within_call trivial trivial
  · intro _
    exact triple_throw fun _ _ => trivial

theorem job_obeys (j : Job) : Obeys cfg env j.fiber
    (fun p => own j.fiber p.2 = [.start j.fiber j p.1]) (j.program venue cfg) := by
  cases j with
  | tick => exact within_obeys (of_footprint (LoopBounds.within_tick venue cfg))
  | drain =>
    exact within_obeys (of_footprint (LoopBounds.within_drainOf (LoopBounds.footed_hostDeps _)))
  | message msg =>
    refine weaken dispatch_obeys ?_
    intro p hp
    refine ⟨p.1, ?_⟩
    change (own .telegram p.2).getLast? = _
    rw [show own .telegram p.2 = _ from hp]
    rfl
  | button msg => exact dispatchCallback_obeys
  | bootstrap b => exact vaultBootstrap_obeys b

theorem unenrolled_restart (cfg : BotConfig) (env : Environment) (w : World) (h : Journal)
    (_ : (credentialMachine cfg env).inv (w, h)) :
    (credentialMachine cfg env).inv (w.restart, .stop w :: h) := by
  intro u hu
  cases hu

abbrev credentialDiscipline (venue : Venue) (cfg : BotConfig) (env : Environment) :=
  (credentialMachine cfg env).discipline (vaultJobs venue cfg) (unenrolled_restart cfg env)

theorem credential_safe : (credentialDiscipline venue cfg env).JobsSafe := by
  rintro i m ⟨j, rfl, rfl⟩ p hp
  apply triple_job
  · intro w h
    exact .begin j
  · intro w h
    refine weaken (job_obeys j) ?_
    rintro p rfl
    exact own_start
  · exact hp

theorem keeping_turn (hclock : PastOrigin q.2) (hp : Keeping cfg p)
    (turn : (credentialMachine cfg env).Turn World.restart p q) : Keeping cfg q := by
  cases turn with
  | act ha => exact keeping_act hclock hp ha
  | answer hr =>
    have hw := quiet_aside (env.quiet hr)
    refine keeping_changes hp (changes_same fun u c hc => ?_)
    exact (credentialOf_congr hw.credentials).trans hc
  | stop => exact keeping_changes (keeping_line hp rfl) (changes_same fun _ _ hc => hc)

theorem turn_suffix (turn : (credentialMachine cfg env).Turn World.restart p q) : p.2 <:+ q.2 := by
  cases turn with
  | act ha =>
    cases ha with
    | begin => exact List.suffix_cons ..
    | tell => exact List.suffix_cons ..
    | _ => exact List.suffix_rfl
  | answer => exact List.suffix_rfl
  | stop => exact List.suffix_cons ..

/-- A user's deposit address and key never change; the secret of an enrolled user is neither
replaced nor cleared, and no stored secret is cleared at all, unless the operator has sent
`/resettotp` for the user since. -/
theorem credentials_kept (hj : Journaled venue cfg env.host p) (hclock : PastOrigin p.2)
    (hsplit : p.2 = newer ++ e :: older) (hc : credentialOf u e.state.db = some c) :
    ∃ c', credentialOf u p.1.db = some c' ∧ Retained (ResetSince cfg u older p.2) c c' := by
  obtain ⟨chain, config, ex, rfl⟩ := hj
  have hholds : (credentialDiscipline venue cfg env).Holds (idle (World.initial chain, [])) := by
    refine idle_holds ?_
    intro u hu
    cases hu
  have hkept : PastOrigin config.state.2 → Keeping cfg config.state := by
    refine execution_invariant (P := fun p => PastOrigin p.2 → Keeping cfg p) credential_safe
      hholds ?_ ex ?_
    · intro p q _ hp turn hclock
      have hearlier : PastOrigin p.2 := fun ms hr => hclock ms (reading_suffix (turn_suffix turn) hr)
      exact keeping_turn hclock (hp hearlier) turn
    · intro _ newer e older u c hnil
      simp [idle] at hnil
  exact hkept hclock newer e older u c hsplit hc

def registeringTwice : JournaledRun := settlingIn ++ [
  told 2100000 "/account" 2,
  told 2100000 "/accept" 2,
  pressed 2100000 "nav:create_account" 2]

def showsConfirmed (u : TelegramId) (e : Line) : Bool :=
  match credentialOf u e.state.db with
  | some c => decide (c.totpEnrolledAt ≠ none ∧ c.totpEnrolledAt ≠ some 0)
  | none => false

theorem showsConfirmed_credential (he : showsConfirmed u e = true) :
    ∃ c, credentialOf u e.state.db = some c ∧ Confirmed c := by
  unfold showsConfirmed at he
  cases hc : credentialOf u e.state.db with
  | none => simp [hc] at he
  | some c =>
    simp only [hc] at he
    have hboth := of_decide_eq_true he
    exact ⟨c, rfl, hboth⟩

theorem pastOrigin_of (h₀ : 0 ∉ h.filterMap JournalLaws.readingOf) : PastOrigin h := by
  rintro ms ⟨i, w, hmem⟩ rfl
  exact h₀ (List.mem_filterMap.mpr ⟨_, hmem, rfl⟩)

theorem credentials_kept_registeringTwice :
    ∃ newer e older c, (registeringTwice.point plainVenue plainConfig
        oneSol).2 = newer ++ e :: older ∧
      credentialOf 2 e.state.db = some c ∧ Confirmed c ∧
      ∃ c', credentialOf 2 (registeringTwice.point plainVenue plainConfig
          oneSol).1.db = some c' ∧
        Retained (ResetSince plainConfig 2 older (registeringTwice.point
          plainVenue plainConfig oneSol).2) c c' := by
  have hany : (registeringTwice.point plainVenue plainConfig
      oneSol).2.any (showsConfirmed 2) = true := by
    decide +kernel
  have hclock : PastOrigin (registeringTwice.point plainVenue plainConfig
      oneSol).2 := pastOrigin_of (by decide +kernel)
  obtain ⟨newer, e, older, hsplit, he⟩ := any_split hany
  obtain ⟨c, hc, hconfirmed⟩ := showsConfirmed_credential he
  exact ⟨newer, e, older, c, hsplit, hc, hconfirmed,
    credentials_kept (played_journaled _ _ _ _) hclock hsplit hc⟩

end CredentialKeeping
