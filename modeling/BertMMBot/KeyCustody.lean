import BertMMBot.CredentialKeeping
import BertMMBot.KeptInvariants
import BertMMBot.PlayedJournals

/-! # Keys in custody

A deposit address is worth nothing without its key, and nothing but the row of its user keeps the
key. Every row is written with a key that has just been sealed for its address, secrets of codes
are sealed before they are stored, and nothing else is written to either column: whatever has
happened, the bot can open what it has stored. -/
namespace KeyCustody

open AsyncProgram AsyncContract AsyncFibers AsyncRecords AsyncWiring AsyncParts RecordedTriples
open KeptInvariants KeyedTable VaultTypes VaultProgram Encryption DepositorStore AccountSecurity
open DepositorCommands OperatorCommands DepositorParts VaultJournal
open CredentialMachine
open LoopBounds (Credential credential credentials)
open CredentialKeeping (within_requestChange within_cancelPending within_reply within_setFlag
  within_requeue within_handleRecreditDeposit)
open VaultDiscipline (Environment)
open LedgerMachine (Fiber)
open MeteoraPosition (Venue)
open VaultRuntime (BotConfig commandsDeps commanderDeps ensureAta)
open PlayedJournals PlayedTurns

/-- The cipher is AES-256-GCM, every process is started with this master key of 32 bytes, and a
pair of keys is one. -/
structure Sealing (H : VaultHost) (gcm : Aes256Gcm) (key : Bytes) (address : Bytes → Address) :
    Prop where
  keypair : ∀ w kp, H.choose .generateKeypair w kp → address kp.secretKey = kp.publicKey
  masterKey : ∀ w loaded, H.choose .masterKey w loaded → loaded = key
  keyLength : key.length = keyBytes
  randomBytes : ∀ size w bytes, H.choose (.randomBytes size) w bytes → bytes.length = size
  cipher : ∀ key iv plaintext w out, H.choose (.cipher key iv plaintext) w out →
    out = gcm.cipher key iv plaintext
  decipher : ∀ key iv enc tag w r, H.choose (.decipher key iv enc tag) w r →
    r = gcm.decipher key iv enc tag

/-- This is what `encrypt` makes of the plaintext, for some iv. -/
def Sealed (gcm : Aes256Gcm) (key : Bytes) (blob : EncryptedBlob) (plaintext : Bytes) : Prop :=
  blob.iv.length = ivBytes ∧
    blob.ciphertext = (gcm.cipher key blob.iv plaintext).1 ++ (gcm.cipher key blob.iv plaintext).2

variable {gcm : Aes256Gcm} {key : Bytes} {address : Bytes → Address}

/-- The secrets of a row can be taken out again, and the key is that of its deposit address. -/
structure Held (gcm : Aes256Gcm) (key : Bytes) (address : Bytes → Address) (c : Credential) :
    Prop where
  deposit : ∃ secretKey, Sealed gcm key c.depositSecretEnc secretKey ∧
    address secretKey = c.depositAddress
  codes : ∀ enc, c.totpSecretEnc = some enc → ∃ secret, Sealed gcm key enc secret

def InCustody (gcm : Aes256Gcm) (key : Bytes) (address : Bytes → Address) (w : World) : Prop :=
  ∀ c ∈ credentials w.db, Held gcm key address c

variable {w w' : World} {db : Db} {α : Type} {u : TelegramId} {msg : Msg} {venue : Venue}
  {cfg : BotConfig} {env : Environment} {i : Fiber}

theorem custody_congr (hc : credentials w'.db = credentials w.db)
    (hw : InCustody gcm key address w) : InCustody gcm key address w' := by
  intro c hmem
  rw [hc] at hmem
  exact hw c hmem

theorem custody_shows : Shows keepingBounds (InCustody gcm key address) := by
  intro w w' hview hw
  exact custody_congr (congrArg Prod.fst hview) hw

theorem custody_unbroken (gcm : Aes256Gcm) (key : Bytes) (address : Bytes → Address)
    (env : Environment) : Unbroken env.host (InCustody gcm key address) := by
  intro q w a w' hr hw
  exact custody_congr (quiet_aside (env.quiet hr)).credentials hw

theorem custody_restores :
    Restores (fun old new : World => new.withDb old.db) (InCustody gcm key address) :=
  fun _ _ hw => custody_congr rfl hw

theorem custody_created {args : NewUser} {a : Unit}
    (hkey : ∃ secretKey, Sealed gcm key args.depositSecretEnc secretKey ∧
      address secretKey = args.depositAddress) (hw : InCustody gcm key address w)
    (hdb : (if w.db.users.any fun r => r.telegramId = args.telegramId ∨
        r.depositAddress = args.depositAddress then .error (sqliteError "UNIQUE")
      else .ok ((), { w.db with users := w.db.users ++ [{
        telegramId := args.telegramId, role := args.role,
        depositAddress := args.depositAddress, depositSecretEnc := args.depositSecretEnc,
        totpSecretEnc := none, totpEnrolledAt := none, totpLastUsedCounter := none,
        whitelistAddress := none, whitelistSetAt := none,
        disclaimerAt := args.disclaimerAt, createdAt := args.createdAt }] }) :
        Except Thrown (Unit × Db)) = .ok (a, db)) :
    InCustody gcm key address (w.withDb db) := by
  split at hdb
  · cases hdb
  · cases hdb
    intro c hmem
    simp only [World.withDb_db, credentials, List.map_append, List.mem_append, List.map_cons,
      List.map_nil, List.mem_singleton] at hmem
    rcases hmem with hmem | rfl
    · exact hw c hmem
    · exact ⟨hkey, fun enc henc => by cases henc⟩

theorem custody_rewritten {f : UserRow → UserRow} (secretEnc : Option EncryptedBlob)
    (enrolledAt : Option ℤ)
    (hf : ∀ r, credential (f r) = withSecret secretEnc enrolledAt (credential r))
    (hsecret : ∀ enc, secretEnc = some enc → ∃ secret, Sealed gcm key enc secret)
    (hw : InCustody gcm key address w) : InCustody gcm key address (w.withDb (updateUser u f w.db)) := by
  intro c hmem
  rw [World.withDb_db, credentials_rewritten hf] at hmem
  obtain ⟨c₀, hmem₀, rfl⟩ := List.mem_map.mp hmem
  have hheld := hw c₀ hmem₀
  by_cases hid : c₀.telegramId = u
  · rw [if_pos hid]
    exact ⟨hheld.deposit, hsecret⟩
  · rw [if_neg hid]
    exact hheld

theorem decrypt_sealed {blob : EncryptedBlob} {plaintext : Bytes} (hkey : key.length = keyBytes)
    (hsealed : Sealed gcm key blob plaintext) :
    decrypt blob.ciphertext blob.iv key = decipher key blob.iv
      (gcm.cipher key blob.iv plaintext).1 (gcm.cipher key blob.iv plaintext).2 := by
  obtain ⟨hiv, hciphertext⟩ := hsealed
  have htag := gcm.tag_length key blob.iv plaintext
  have hlength : ¬ blob.ciphertext.length < tagBytes := by
    rw [hciphertext, List.length_append, htag]
    omega
  have hcut : blob.ciphertext.length - tagBytes = (gcm.cipher key blob.iv plaintext).1.length := by
    rw [hciphertext, List.length_append, htag, Nat.add_sub_cancel]
  unfold decrypt
  rw [if_neg (not_not.mpr hkey), if_neg (not_not.mpr hiv), if_neg hlength, hcut, hciphertext,
    List.take_left, List.drop_left]

theorem decrypted {blob : EncryptedBlob} {plaintext : Bytes}
    (hs : Sealing env.host gcm key address) (hsealed : Sealed gcm key blob plaintext)
    {x : Except Thrown Bytes} (h : Ends env.host (decryptSecret blob w) x w') :
    x = .ok plaintext := by
  cases h with
  | @sync _ _ _ loaded _ _ hloaded hrest =>
    have hkey : loaded = key := hs.masterKey w loaded hloaded
    have hdecrypt : Ends env.host (decrypt blob.ciphertext blob.iv key w) x w' := hkey ▸ hrest
    rw [decrypt_sealed hs.keyLength hsealed] at hdecrypt
    cases hdecrypt with
    | @sync _ _ _ r _ _ hr hdone =>
      have hout : r = .ok plaintext :=
        (hs.decipher _ _ _ _ w r hr).trans (gcm.decipher_cipher _ _ _)
      have hended : Ends env.host ((liftExcept r : Vault Bytes) w) x w' := hdone
      rw [hout] at hended
      cases hended
      rfl

abbrev Guards (gcm : Aes256Gcm) (key : Bytes) (address : Bytes → Address)
    (env : Environment) (i : Fiber) (m : Vault α) : Prop :=
  Upholds Job (custody_unbroken gcm key address env) i m

theorem guards_within {x : Prop} {m : Vault α} (hm : Within keepingBounds x m) :
    Guards gcm key address env i m := upholds_within custody_shows hm

theorem guards_statement {st : Stmt} {f : Db → Except Thrown (α × Db)}
    (hf : ∀ w a db, InCustody gcm key address w → f w.db = .ok (a, db) →
      InCustody gcm key address (w.withDb db)) : Guards gcm key address env i (statement st f) := by
  apply upholds_then (Q := fun _ => True)
  · exact delivers_choose (I := vaultInterface) (c := Choice.statement st) fun _ _ _ _ => trivial
  · intro (o : Option Thrown) _
    cases o with
    | some e =>
      have hfault : Guards gcm key address env i (Async.modify (World.fault · st) : Vault Unit) :=
        upholds_modify fun w hw => custody_congr rfl hw
      exact hfault.bind fun _ => keeps_throw
    | none =>
      apply upholds_attempt
      intro w a w' hw hrun
      rcases hdb : f w.db with e | ⟨b, db⟩
      · simp [hdb] at hrun
      · simp only [hdb, Except.ok.injEq, Prod.mk.injEq] at hrun
        obtain ⟨rfl, rfl⟩ := hrun
        exact hf w b db hw hdb

theorem guards_setTotp {secretEnc : EncryptedBlob} {enrolledAt : ℤ}
    (hsecret : ∃ secret, Sealed gcm key secretEnc secret) :
    Guards gcm key address env i (setTotp u secretEnc enrolledAt) := by
  apply guards_statement
  intro w a db hw hdb
  cases hdb
  refine custody_rewritten (some secretEnc) (some enrolledAt) (fun _ => rfl) ?_ hw
  rintro enc ⟨⟩
  exact hsecret

theorem guards_part {m : Vault α} (hm : Part u False α m) : Guards gcm key address env i m := by
  cases hm with
  | ask => exact guards_within (x := True) (within_choose trivial)
  | call q => exact guards_within (within_call trivial trivial)
  | read f => exact keeps_read
  | desk f _ => exact upholds_modify fun w hw => custody_congr rfl hw
  | audit ms event =>
    exact guards_within (x := True) (of_footprint (LoopBounds.within_writeAudit _ _ _))
  | counter counter =>
    refine guards_within (x := True) (within_update fun db => ?_)
    apply LoopBounds.credentials_updateUser
    intro r
    rfl
  | enqueue args hu =>
    refine guards_within (x := True) (within_statement ?_)
    intro db a db' hdb
    cases hdb
    rfl
  | request cooldownMs address now => exact guards_within (within_requestChange _ _ _)
  | cancel reason => exact guards_within (within_cancelPending _)
  | invite hr => exact hr.elim
  | create args hr => exact hr.elim
  | secret secretEnc enrolledAt hr => exact hr.elim

theorem guards_made {m : Vault α} (hm : MadeBy u False m) : Guards gcm key address env i m :=
  made_keeps (fun hpart => guards_part hpart) hm

section Handlers

variable (hs : Sealing env.host gcm key address)

include hs

theorem delivers_encryptSecret (plaintext : Bytes) :
    Delivers Job (custody_unbroken gcm key address env) i
      (encryptSecret plaintext) fun enc => Sealed gcm key enc plaintext := by
  apply delivers_then (Q := fun loaded => loaded = key)
  · exact delivers_choose (I := vaultInterface) (c := Choice.masterKey) fun w loaded _ =>
      hs.masterKey w loaded
  rintro loaded rfl
  apply triple_ite
  · exact fun _ => triple_throw fun _ _ => trivial
  intro _
  apply delivers_then (Q := fun iv => iv.length = ivBytes)
  · exact delivers_choose (I := vaultInterface) (c := Choice.randomBytes ivBytes) fun w iv _ =>
      hs.randomBytes ivBytes w iv
  intro iv hiv
  apply delivers_then (Q := fun out => out = gcm.cipher loaded iv plaintext)
  · exact delivers_choose (I := vaultInterface) (c := Choice.cipher loaded iv plaintext)
      fun w out _ => hs.cipher loaded iv plaintext w out
  rintro out rfl
  exact triple_pure fun _ _ => ⟨hiv, rfl⟩

theorem delivers_generateKeypair :
    Delivers Job (custody_unbroken gcm key address env) i
      generateKeypair fun kp => address kp.secretKey = kp.publicKey :=
  delivers_choose (I := vaultInterface) (c := Choice.generateKeypair) fun w kp _ => hs.keypair w kp

theorem accept_guards (ms : ℤ) :
    Guards gcm key address env i (accept (commandsDeps venue cfg).ensureAta u ms) := by
  apply keeps_read.bind
  intro user
  cases user with
  | some user => exact keeps_pure
  | none =>
    apply upholds_then (delivers_generateKeypair hs)
    intro kp hpair
    apply upholds_then (delivers_encryptSecret hs kp.secretKey)
    intro enc henc
    apply Keeps.bind (guards_statement _)
    · exact fun _ => guards_made (u := u) (made_ensureAta _)
    · exact fun w a db hw hdb => custody_created ⟨kp.secretKey, henc, hpair⟩ hw hdb

theorem beginTotpEnrollment_guards : Guards gcm key address env i (beginTotpEnrollment u) := by
  apply keeps_read.bind
  intro user
  cases user with
  | none => exact keeps_throw
  | some user =>
    apply Keeps.bind (guards_made (u := u) (made_ask (c := Choice.generateSecret) rfl))
    intro secretBase32
    apply upholds_then (delivers_encryptSecret hs (utf8Bytes secretBase32))
    intro enc henc
    exact (guards_setTotp ⟨utf8Bytes secretBase32, henc⟩).bind fun _ => keeps_pure

theorem handleAccount_guards :
    Guards gcm key address env i (handleAccount (commandsDeps venue cfg) msg) := by
  apply keeps_read.bind
  intro user
  cases user with
  | none =>
    have hpending : Guards gcm key address env i (setPending msg.userId .disclaimer) :=
      upholds_modify fun w hw => custody_congr rfl hw
    exact hpending.bind fun _ => guards_made (u := 0) (made_reply _ _)
  | some existing =>
    apply keeps_ite
    · apply (beginTotpEnrollment_guards hs).bind
      intro secretBase32
      exact guards_made (.seq (made_setPending (by decide)) fun _ => made_reply _ _)
    · exact guards_made (u := 0) (made_reply _ _)

theorem handleAccept_guards :
    Guards gcm key address env i (handleAccept (commandsDeps venue cfg) msg) := by
  apply keeps_read.bind
  intro pending
  apply keeps_ite
  · apply (guards_made made_clearPending).bind
    intro _
    apply (guards_made (u := msg.userId) made_now).bind
    intro ms
    apply (accept_guards hs ms).bind
    intro _
    apply (guards_made (made_audit ms _)).bind
    intro _
    apply (beginTotpEnrollment_guards hs).bind
    intro secretBase32
    apply guards_made (u := msg.userId)
    apply Made.seq (made_setPending (by decide))
    intro _
    exact .seq (made_setTotpSetupFailures none) fun _ => made_reply _ _
  · exact guards_made (u := 0) (made_reply _ _)

omit hs in
theorem confirmTotp_guards (code : String) (ms : ℤ) :
    Guards gcm key address env i (confirmTotp u code ms) := by
  apply upholds_then (Q := fun secrets : Option UserSecrets =>
    ∀ enc, secrets.bind UserSecrets.totpSecretEnc = some enc → ∃ secret, Sealed gcm key enc secret)
  · apply delivers_read
    intro w hw enc henc
    obtain ⟨secrets, hrow, hstored⟩ := Option.bind_eq_some_iff.mp henc
    obtain ⟨r, hr, rfl⟩ := Option.map_eq_some_iff.mp hrow
    exact (hw (credential r) (List.mem_map_of_mem (lookup_some hr).1)).codes enc hstored
  · intro secrets hopens
    cases hsecret : secrets.bind UserSecrets.totpSecretEnc with
    | none => exact keeps_pure
    | some secretEnc =>
      apply (guards_made (u := u) (made_decryptSecret secretEnc)).bind
      intro secretBase32
      apply (guards_made (u := u) (made_verifyCode _ code none)).bind
      intro result
      cases result with
      | ok counter =>
        apply (guards_setTotp (hopens secretEnc hsecret)).bind
        exact fun _ => guards_made (.seq (.part (.counter counter)) fun _ => .pure _)
      | badFormat => exact keeps_pure
      | invalid => exact keeps_pure
      | replay counter => exact keeps_pure

omit hs in
theorem respond_guards (pending : PendingAction) :
    Guards gcm key address env i (respond (commandsDeps venue cfg) msg pending) := by
  by_cases hsetup : pending = .totpSetupConfirm
  · subst hsetup
    apply (guards_made (u := msg.userId) made_now).bind
    intro ms
    apply (confirmTotp_guards _ ms).bind
    intro confirmed
    apply keeps_ite
    · exact guards_made (made_totpSetupAccepted rfl ms)
    · exact guards_made (made_totpSetupRejected rfl ms)
  · exact guards_made (made_respond rfl pending fun h => absurd h hsetup)

omit hs in
theorem handleMessage_guards :
    Guards gcm key address env i (handleMessage (commandsDeps venue cfg) msg) := by
  have hanswer : ∀ action, Guards gcm key address env i (do
      if ← rejectIfLocked (commandsDeps venue cfg) msg.chatId msg.userId then pure ()
      else respond (commandsDeps venue cfg) msg action) := by
    intro action
    apply (guards_made (made_rejectIfLocked _)).bind
    intro rejected
    exact keeps_ite keeps_pure (respond_guards action)
  apply keeps_read.bind
  intro pending
  cases pending with
  | none => exact keeps_pure
  | some action =>
    cases action with
    | disclaimer => exact keeps_pure
    | _ => exact hanswer _

theorem handler_guards {name : String} {kind : VaultRuntime.Kind} {run : Vault Unit}
    (hh : VaultRuntime.handler (commanderDeps venue cfg) name msg = some (kind, run))
    (hkind : kind ≠ .operator) : Guards gcm key address env i run := by
  by_cases hr : registers name
  · rcases hr with rfl | rfl | rfl | rfl <;> cases hh
    · exact handleAccount_guards hs
    · exact handleAccept_guards hs
  · exact guards_made (made_handler hr hh hkind)

theorem route_guards :
    Guards gcm key address env i (VaultRuntime.route (commandsDeps venue cfg) msg) := by
  by_cases hr : registers msg.text
  · unfold VaultRuntime.route
    rcases hr with hr | hr | hr | hr <;> rw [hr]
    · exact keeps_pure
    · exact keeps_pure
    · exact handleAccount_guards hs
    · exact handleAccept_guards hs
  · exact guards_made (made_route hr)

end Handlers

theorem handleResetTotp_guards :
    Guards gcm key address env i (handleResetTotp (commanderDeps venue cfg).operator msg) := by
  unfold handleResetTotp
  cases TextInput.resetTotpTarget msg.text with
  | none => exact guards_within (within_reply _ _)
  | some targetId =>
    apply keeps_read.bind
    intro user
    cases user with
    | none => exact guards_within (within_reply _ _)
    | some user =>
      have hclear : Guards gcm key address env i (clearUserTotp targetId) := by
        apply guards_statement
        intro w a db hw hdb
        split at hdb
        · cases hdb
          exact custody_rewritten none none (fun _ => rfl) (fun enc henc => by cases henc) hw
        · cases hdb
      apply hclear.bind
      intro _
      exact guards_within (OperatorBounds.within_conclude roomy_keeping _ _ _ _)

theorem operator_guards {name : String} {run : Vault Unit}
    (hh : VaultRuntime.handler (commanderDeps venue cfg) name msg = some (.operator, run)) :
    Guards gcm key address env i run := by
  unfold VaultRuntime.handler at hh
  split at hh <;> cases hh
  · exact guards_within (OperatorBounds.within_switch roomy_keeping (within_setFlag _ _) _ _)
  · exact guards_within (OperatorBounds.within_switch roomy_keeping (within_setFlag _ _) _ _)
  · exact guards_within (within_bind (within_read _) fun _ => within_reply _ _)
  · exact guards_within (OperatorBounds.within_handleForceProcess roomy_keeping within_requeue)
  · exact guards_within within_handleRecreditDeposit
  · exact handleResetTotp_guards
  · exact guards_within (within_reply _ _)
  · exact guards_within (within_bind (within_setFlag _ _) fun _ => within_reply _ _)
  · exact guards_within (within_bind (within_read _) fun _ => within_reply _ _)
  · exact guards_within (within_reply _ _)

section Jobs

variable (hs : Sealing env.host gcm key address)

include hs

theorem dispatch_guards :
    Guards gcm key address env i (VaultRuntime.dispatch (commanderDeps venue cfg) msg) := by
  unfold VaultRuntime.dispatch
  cases TextInput.commandName msg.text with
  | none =>
    apply keeps_read.bind
    intro known
    exact keeps_ite handleMessage_guards keeps_pure
  | some name =>
    dsimp only
    cases hh : VaultRuntime.handler (commanderDeps venue cfg) name msg with
    | none => exact keeps_pure
    | some entry =>
      obtain ⟨kind, run⟩ := entry
      have hrun : Guards gcm key address env i run := by
        by_cases hkind : kind = .operator
        · subst hkind
          exact operator_guards hh
        · exact handler_guards hs hh hkind
      have hauthorized : Guards gcm key address env i
          (VaultRuntime.authorized (commanderDeps venue cfg) msg kind) := by
        cases kind with
        | operator => exact keeps_pure
        | vault => exact keeps_read
        | public_ => exact keeps_pure
        | enrollment => exact keeps_pure
      apply hauthorized.bind
      intro allowed
      exact keeps_ite hrun keeps_pure

theorem dispatchCallback_guards :
    Guards gcm key address env i (VaultRuntime.dispatchCallback (commandsDeps venue cfg) msg) := by
  have hroute : Guards gcm key address env i
      (tryCatch (VaultRuntime.route (commandsDeps venue cfg) msg) fun _ => pure ()) :=
    (route_guards hs).tryCatch fun _ => keeps_pure
  exact hroute.bind fun _ => guards_made (u := msg.userId) (made_reply _ _)

omit hs in
theorem leaves_statement {st : Stmt} {f : Db → Except Thrown (α × Db)}
    (hf : ∀ a db, f w.db = .ok (a, db) → InCustody gcm key address (w.withDb db)) :
    Leaves (InCustody gcm key address) (statement st f w) := by
  intro (o : Option Thrown)
  cases o with
  | some e => trivial
  | none =>
    change Leaves (InCustody gcm key address) (execute f w)
    simp only [execute, Async.attempt]
    rcases hdb : f w.db with e | ⟨a, db⟩
    · trivial
    · exact hf a db hdb

omit hs in
theorem foundVault_guards (b : VaultRuntime.BootstrapParams) {kp : Keypair} {enc : EncryptedBlob}
    (hkey : ∃ secretKey, Sealed gcm key enc secretKey ∧ address secretKey = kp.publicKey) (ms : ℤ) :
    Guards gcm key address env i (VaultRuntime.foundVault b kp enc ms) := by
  apply upholds_transaction custody_restores
  intro w hw
  apply Leaves.bind (leaves_statement fun a db hdb => custody_created hkey hw hdb)
  intro _ w hw
  apply Leaves.bind
  · apply leaves_statement
    intro _ db hdb
    obtain ⟨shares, rfl⟩ := JournalStore.addShares_ok hdb
    exact custody_congr rfl hw
  intro _ w hw
  apply Leaves.bind
  · apply leaves_statement
    intro _ db hdb
    cases hdb
    exact custody_congr rfl hw
  intro _ w hw
  apply leaves_statement
  intro _ db hdb
  cases hdb
  exact custody_congr rfl hw

theorem vaultBootstrap_guards (b : VaultRuntime.BootstrapParams) :
    Guards gcm key address env i (VaultRuntime.vaultBootstrap ensureAta b) := by
  apply keeps_ite
  · apply Keeps.bind (guards_within (x := True) CredentialKeeping.within_now)
    intro ms
    apply keeps_read.bind
    intro users
    apply keeps_ite
    · exact keeps_throw
    · apply upholds_then (delivers_generateKeypair hs)
      intro kp hpair
      apply upholds_then (delivers_encryptSecret hs kp.secretKey)
      intro enc henc
      apply (foundVault_guards b ⟨kp.secretKey, henc, hpair⟩ ms).bind
      intro _
      exact guards_within (within_call trivial trivial)
  · exact keeps_throw

theorem job_guards (j : Job) : Guards gcm key address env i (j.program venue cfg) := by
  cases j with
  | tick => exact guards_within (of_footprint (LoopBounds.within_tick venue cfg))
  | drain =>
    exact guards_within (of_footprint (LoopBounds.within_drainOf (LoopBounds.footed_hostDeps _)))
  | message msg => exact dispatch_guards hs
  | button msg => exact dispatchCallback_guards hs
  | bootstrap b => exact vaultBootstrap_guards hs b

/-- Whatever has happened, the key of every deposit address and the secret of every user's codes
can be taken out of the row that is stored. -/
theorem secrets_open {p : JournalPoint} {r : UserRow} (hj : Journaled venue cfg env.host p)
    (hr : r ∈ p.1.db.users) :
    (∃ secretKey, address secretKey = r.depositAddress ∧ ∀ w x w',
      Ends env.host (decryptSecret r.depositSecretEnc w) x w' → x = .ok secretKey) ∧
    ∀ enc, r.totpSecretEnc = some enc → ∃ secret, ∀ w x w',
      Ends env.host (decryptSecret enc w) x w' → x = .ok secret := by
  obtain ⟨chain, c, ex, rfl⟩ := hj
  have hstart : InCustody gcm key address (World.initial chain) := by
    intro c hc
    cases hc
  have hrestart : ∀ w, InCustody gcm key address w → InCustody gcm key address w.restart :=
    fun w hw => custody_congr rfl hw
  have hcustody : InCustody gcm key address c.state.1 :=
    execution_keeps (custody_unbroken gcm key address env) hrestart (fun j => job_guards hs j) hstart ex
  obtain ⟨⟨secretKey, hsealed, haddress⟩, hcodes⟩ :=
    hcustody (credential r) (List.mem_map_of_mem hr)
  refine ⟨⟨secretKey, haddress, fun w x w' h => decrypted hs hsealed h⟩, ?_⟩
  intro enc henc
  obtain ⟨secret, hsecret⟩ := hcodes enc henc
  exact ⟨secret, fun w x w' h => decrypted hs hsecret h⟩

end Jobs

open PlayedRuns (playedCipher playedDecipher playedMasterKey cipherTexts depositKey playedSecret)

theorem untagged : ∀ t ∈ cipherTexts, t.tag ≠ List.replicate tagBytes 0 := by decide

theorem playedCipher_tag (key iv plaintext : Bytes) :
    (playedCipher key iv plaintext).2.length = tagBytes := by
  have htags : ∀ t ∈ cipherTexts, t.tag.length = tagBytes := by decide
  unfold playedCipher
  split
  · next t ht => exact htags t (List.mem_of_find?_eq_some ht)
  · exact List.length_replicate

theorem playedDecipher_playedCipher (key iv plaintext : Bytes) :
    playedDecipher key iv (playedCipher key iv plaintext).1 (playedCipher key iv plaintext).2 =
      .ok plaintext := by
  unfold playedCipher
  split
  · next t ht =>
    have hmem := List.mem_of_find?_eq_some ht
    have hentry : t.key = key ∧ t.iv = iv ∧ t.plaintext = plaintext := by
      simpa using List.find?_some ht
    obtain ⟨rfl, rfl, rfl⟩ := hentry
    have htable : ∀ t ∈ cipherTexts, playedDecipher t.key t.iv t.enc t.tag = .ok t.plaintext := by
      simp only [cipherTexts, List.forall_mem_cons]
      exact ⟨rfl, rfl, by simp⟩
    exact htable t hmem
  · have hnone : (cipherTexts.find? fun t => t.key = key ∧ t.iv = iv ∧
        t.enc = plaintext.map (255 - ·) ∧ t.tag = List.replicate tagBytes 0) = none := by
      apply List.find?_eq_none.mpr
      intro t ht hfound
      exact untagged t ht (of_decide_eq_true hfound).2.2.2
    have hturned : ∀ b : UInt8, 255 - (255 - b) = b := by grind
    unfold playedDecipher
    rw [hnone]
    simp only [if_true, List.map_map, Function.comp_def, hturned, List.map_id']

def playedGcm : Aes256Gcm :=
  ⟨playedCipher, playedDecipher, playedCipher_tag, playedDecipher_playedCipher⟩

def addressOf (secretKey : Bytes) : Address :=
  if secretKey = depositKey then "FVen3X669xLzsi6N2V91DoiyzHzg1uAgqiT8jZ9nS96Z" else ""

def unscrambled : (c : Choice) → c.Outcome → Prop
  | .generateKeypair, (kp : Keypair) => addressOf kp.secretKey = kp.publicKey
  | .masterKey, loaded => loaded = playedMasterKey
  | .randomBytes size, (bytes : Bytes) => bytes.length = size
  | .cipher key iv plaintext, out => out = playedCipher key iv plaintext
  | .decipher key iv enc tag, r => r = playedDecipher key iv enc tag
  | _, _ => True

def plainSealing : Environment where
  host := ⟨fun c _ o => unscrambled c o, fun _ w _ w' => VaultDiscipline.Quiet w w'⟩
  quiet h := h

theorem sealing_plain : Sealing plainSealing.host playedGcm playedMasterKey addressOf where
  keypair _ _ h := h
  masterKey _ _ h := h
  keyLength := rfl
  randomBytes _ _ _ h := h
  cipher _ _ _ _ _ h := h
  decipher _ _ _ _ _ _ h := h

def said (clock : ℤ) (text : String) : PlayedRuns.Scene × Job :=
  ({ clock, keypair := ⟨"FVen3X669xLzsi6N2V91DoiyzHzg1uAgqiT8jZ9nS96Z", depositKey⟩ },
    .message ⟨2, 2, text⟩)

def enrolling : JournaledRun :=
  [said 1000000 "/account", said 1000000 "/accept", said 1000000 "123456"]

theorem scene_unscrambled {sc : PlayedRuns.Scene}
    (hsc : addressOf sc.keypair.secretKey = sc.keypair.publicKey) (c : Choice) (w : World) :
    unscrambled c (sc.choose c w) := by
  cases c with
  | generateKeypair => exact hsc
  | masterKey => rfl
  | randomBytes size => exact List.length_replicate
  | cipher key iv plaintext => rfl
  | decipher key iv enc tag => rfl
  | _ => trivial

theorem enrolling_journaled : Journaled PlayedRuns.plainVenue PlayedRuns.plainConfig
    plainSealing.host (enrolling.point PlayedRuns.plainVenue PlayedRuns.plainConfig
      PlayedRuns.oneSol) := by
  have hpairs : ∀ e ∈ enrolling, addressOf e.1.keypair.secretKey = e.1.keypair.publicKey := by
    decide
  refine ⟨PlayedRuns.oneSol, idle (enrolling.point PlayedRuns.plainVenue PlayedRuns.plainConfig
    PlayedRuns.oneSol), ?_, rfl⟩
  apply playAll_reaches (p := fun _ _ => true) _ (meetsAll_any _ _)
  intro e he
  obtain ⟨p, hp, rfl⟩ := List.mem_map.mp he
  refine ⟨⟨_, p.2, rfl, rfl⟩, fun c w _ => ?_, fun q w => ⟨?_, rfl⟩⟩
  · exact scene_unscrambled (hpairs p hp) c w.1
  · exact p.1.quiet q w.1

/-- Both secrets lie in the row as AES-256-GCM has them, and come out as they went in. -/
theorem secrets_open_enrolling : ∃ r ∈ (enrolling.point PlayedRuns.plainVenue
      PlayedRuns.plainConfig PlayedRuns.oneSol).1.db.users,
    r.depositAddress = "FVen3X669xLzsi6N2V91DoiyzHzg1uAgqiT8jZ9nS96Z" ∧
    r.totpSecretEnc = some playedSecret ∧
    (∃ secretKey, addressOf secretKey = r.depositAddress ∧ ∀ w x w',
      Ends plainSealing.host (decryptSecret r.depositSecretEnc w) x w' → x = .ok secretKey) ∧
    ∀ enc, r.totpSecretEnc = some enc → ∃ secret, ∀ w x w',
      Ends plainSealing.host (decryptSecret enc w) x w' → x = .ok secret := by
  have hrow : ∃ r ∈ (enrolling.point PlayedRuns.plainVenue PlayedRuns.plainConfig
      PlayedRuns.oneSol).1.db.users,
      r.depositAddress = "FVen3X669xLzsi6N2V91DoiyzHzg1uAgqiT8jZ9nS96Z" ∧
        r.totpSecretEnc = some playedSecret := by
    decide +kernel
  obtain ⟨r, hr, haddress, hcodes⟩ := hrow
  exact ⟨r, hr, haddress, hcodes, secrets_open sealing_plain enrolling_journaled hr⟩

end KeyCustody
