import BertMMBot.DepositorParts
import BertMMBot.LoopBounds
import BertMMBot.OperatorBounds
import BertMMBot.RecordedOutcomes
import BertMMBot.VaultJournal

/-! # The vault's pause flag

`/pausevault` sets a flag in the database before it replies, and only `/resumevault` clears it.
So from that reply until the operator resumes, whatever the other fibers do, the flag is found
set at every line of the journal. -/
namespace PauseFlag

open AsyncProgram AsyncContract AsyncFibers AsyncRecords AsyncWiring AsyncParts
open RecordedTriples RecordedOutcomes VaultTypes VaultProgram DepositorStore DepositPipeline
open AccountSecurity DepositorCommands OperatorCommands DepositorParts VaultJournal
open VaultRuntime (BotConfig commandsDeps commanderDeps reply ensureAta)
open VaultDiscipline (Environment)
open LedgerMachine (Fiber)
open MeteoraPosition (Venue)

/-- The host, and the rebalancer with it, leaves the flag to the operator. -/
structure Bystander extends Environment where
  flag : ∀ {q : Query} {w w' : World} {a : Except Thrown q.Reply}, host.respond q w a w' →
    w'.db.flags vaultPausedFlag = w.db.flags vaultPausedFlag

def orders (cfg : BotConfig) (name : String) : Line → Bool
  | .start .telegram (.message msg) _ =>
    TextInput.commandName msg.text = some name ∧ msg.userId = cfg.operatorTelegramId
  | _ => false

def pausedReply : Line → Bool
  | .call .telegram (Query.reply _ .vaultPaused) _ => true
  | _ => false

/-- `/pausevault` has replied, and `/resumevault` has not come in since. -/
def frozen (cfg : BotConfig) : Journal → Bool
  | [] => false
  | e :: h =>
    if orders cfg "resumevault" e then false
    else pausedReply e && (own .telegram h).any (orders cfg "pausevault") || frozen cfg h

variable {venue : Venue} {cfg : BotConfig} {env : Bystander} {i j : Fiber} {w w' : World}
  {h : Journal} {p q : JournalPoint} {e : Line} {u : TelegramId} {msg : Msg} {α : Type} {x : Prop}
  {A : JournalPoint → Prop}

theorem frozen_line (horder : orders cfg "resumevault" e = false)
    (hreply : pausedReply e = false ∨ (own .telegram h).any (orders cfg "pausevault") = false) :
    frozen cfg (e :: h) = frozen cfg h := by
  rw [frozen, if_neg (by simp [horder])]
  rcases hreply with hreply | hreply <;> simp [hreply]

theorem frozen_choice {c : Choice} {o : c.Outcome} :
    frozen cfg (.choice i c w o :: h) = frozen cfg h := frozen_line rfl (.inl rfl)

theorem frozen_answer {q : Query} {a : Except Thrown q.Reply} :
    frozen cfg (.answer i q a w :: h) = frozen cfg h := frozen_line rfl (.inl rfl)

inductive Act (cfg : BotConfig) : Fiber → JournalPoint → JournalPoint → Prop where
  | tell {i : Fiber} {w : World} {h : Journal} (e : Line) : e.fiber = some i → e.state = w →
      (frozen cfg (e :: h) = true → frozen cfg h = true ∨ isVaultPaused w.db = true) →
      Act cfg i (w, h) (w, e :: h)
  | aside {i : Fiber} {w w' : World} {h : Journal} :
      isVaultPaused w'.db = isVaultPaused w.db → Act cfg i (w, h) (w', h)
  | pause {i : Fiber} {w w' : World} {h : Journal} : isVaultPaused w'.db = true →
      Act cfg i (w, h) (w', h)
  | resume {w w' : World} {h : Journal} : frozen cfg h = false →
      Act cfg .telegram (w, h) (w', h)

/-- While the vault is frozen the flag is set, and was at every line so far. -/
structure Sound (cfg : BotConfig) (p : JournalPoint) : Prop where
  now : frozen cfg p.2 = true → isVaultPaused p.1.db = true
  ever : ∀ newer e older, p.2 = newer ++ e :: older → frozen cfg older = true →
    isVaultPaused e.state.db = true

theorem sound_told (hp : Sound cfg (w, h)) (he : e.state = w)
    (hfrozen : frozen cfg (e :: h) = true → frozen cfg h = true ∨ isVaultPaused w.db = true) :
    Sound cfg (w, e :: h) := by
  constructor
  · intro hnow
    rcases hfrozen hnow with hbefore | hflag
    · exact hp.now hbefore
    · exact hflag
  · intro newer e' older hsplit hold
    cases newer with
    | nil =>
      obtain ⟨rfl, rfl⟩ := List.cons.inj hsplit
      rw [he]
      exact hp.now hold
    | cons x newer =>
      obtain ⟨rfl, rfl⟩ := List.cons.inj hsplit
      exact hp.ever newer e' older rfl hold

theorem act_sound (hp : Sound cfg p) (ha : Act cfg i p q) : Sound cfg q := by
  cases ha with
  | tell e _ he hfrozen => exact sound_told hp he hfrozen
  | aside hsame => exact ⟨fun hnow => hsame.trans (hp.now hnow), hp.ever⟩
  | pause hflag => exact ⟨fun _ => hflag, hp.ever⟩
  | resume hfree => exact ⟨fun hnow => absurd (hfree.symm.trans hnow) (by decide), hp.ever⟩

theorem isVaultPaused_congr {db db' : Db}
    (h : db'.flags vaultPausedFlag = db.flags vaultPausedFlag) :
    isVaultPaused db' = isVaultPaused db := by
  unfold isVaultPaused getFlag
  rw [h]

theorem respond_flag {q : Query} {a : Except Thrown q.Reply} (hr : env.host.respond q w a w') :
    isVaultPaused w'.db = isVaultPaused w.db := isVaultPaused_congr (env.flag hr)

def pauseMachine (cfg : BotConfig) (env : Bystander) :
    Machine Job vaultInterface World Thrown Fiber env.host where
  act := Act cfg
  inv := Sound cfg
  act_inv := act_sound
  respond_inv hp hr := ⟨fun hnow => (respond_flag hr).trans (hp.now hnow), hp.ever⟩

def flagBounds : Bounds vaultInterface World Bool where
  choice _ := True
  call _ := True
  view w := isVaultPaused w.db

theorem roomy_flag : OperatorBounds.Roomy flagBounds :=
  ⟨trivial, fun _ _ => trivial, fun _ => trivial, fun _ _ => rfl, fun _ _ => rfl⟩

theorem of_room {m : Vault α} (hm : Within (LoopBounds.loopRoom True) x m) :
    Within flagBounds x m := by
  apply hm.mono (fun _ _ => trivial) (fun _ _ => trivial)
  intro w w' hview
  have hflags : w'.db.flags = w.db.flags := congrArg (fun v => v.1.2.2) hview
  exact isVaultPaused_congr (congrFun hflags vaultPausedFlag)

def Apart (cfg : BotConfig) (i : Fiber) (p : JournalPoint) : Prop :=
  i = .telegram → (own .telegram p.2).any (orders cfg "pausevault") = false

theorem apart_own (he : e.fiber = some i) (hs : e.isStart = false)
    (hne : orders cfg "pausevault" e = false) (ha : Apart cfg i (w, h)) :
    Apart cfg i (w', e :: h) := by
  rintro rfl
  rw [own_tell he hs, List.any_cons, hne]
  exact ha rfl

theorem told_choice {c : Choice} {o : c.Outcome} :
    (pauseMachine cfg env).Acts i (w, h) (w, .choice i c w o :: h) :=
  .single (.tell _ rfl rfl fun hnow => .inl (frozen_choice.symm.trans hnow))

theorem told_answer {q : Query} {a : Except Thrown q.Reply} :
    (pauseMachine cfg env).Acts i (w, h) (w, .answer i q a w :: h) :=
  .single (.tell _ rfl rfl fun hnow => .inl (frozen_answer.symm.trans hnow))

theorem pausedReply_fiber {q : Query} (hi : i ≠ .telegram) :
    pausedReply (.call i q w) = false := by
  cases i with
  | telegram => exact absurd rfl hi
  | main => rfl
  | cli => rfl

theorem apart_admits : Admits (pauseMachine cfg env) i flagBounds (Apart cfg i) where
  local_ hview _ ha := ⟨.single (.aside hview), ha⟩
  choice := fun _ _ _ ha => ⟨told_choice, apart_own rfl rfl rfl ha⟩
  call := by
    intro q w h _ _ ha
    refine ⟨.single (.tell _ rfl rfl ?_), apart_own rfl rfl rfl ha⟩
    intro hnow
    left
    have hsame : frozen cfg (.call i q w :: h) = frozen cfg h := by
      apply frozen_line rfl
      by_cases hi : i = .telegram
      · exact .inr (ha hi)
      · exact .inl (pausedReply_fiber hi)
    exact hsame.symm.trans hnow
  answer := fun _ _ ha => ⟨told_answer, apart_own rfl rfl rfl ha⟩
  rely := by
    intro p q hd ha hi
    cases hd with
    | answer => exact ha hi
    | other hj hact =>
      subst hi
      cases hact with
      | tell e he =>
        rw [own_other he (Ne.symm hj)]
        exact ha rfl
      | aside => exact ha rfl
      | pause => exact ha rfl
      | resume => exact absurd rfl hj

/-- The flag is set, and the fiber is the only one that could clear it. -/
def Paused (p : JournalPoint) : Prop := isVaultPaused p.1.db = true

theorem paused_admits : Admits (pauseMachine cfg env) .telegram flagBounds Paused where
  local_ hview _ ha := ⟨.single (.aside hview), hview.trans ha⟩
  choice := fun _ _ _ ha => ⟨told_choice, ha⟩
  call := fun _ _ ha => ⟨.single (.tell _ rfl rfl fun _ => .inr ha), ha⟩
  answer := fun _ _ ha => ⟨told_answer, ha⟩
  rely := by
    intro p q hd ha
    cases hd with
    | answer hr => exact (respond_flag hr).trans ha
    | other hj hact =>
      cases hact with
      | tell => exact ha
      | aside hsame => exact hsame.trans ha
      | pause hflag => exact hflag
      | resume => exact absurd rfl hj

abbrev Leaves (cfg : BotConfig) (env : Bystander) (i : Fiber) (m : Vault α) : Prop :=
  Keeps (pauseMachine cfg env) i (Apart cfg i) m

theorem leaves_within {m : Vault α} (hm : Within flagBounds x m) : Leaves cfg env i m :=
  triple_within apart_admits hm

theorem within_update {st : Stmt} {f : Db → Db} (hf : ∀ db, (f db).flags = db.flags) :
    Within flagBounds x (update st f) := by
  apply OperatorBounds.within_update (fun _ _ => rfl) trivial
  exact fun w => isVaultPaused_congr (congrFun (hf w.db) vaultPausedFlag)

theorem within_statement {st : Stmt} {f : Db → Except Thrown (α × Db)}
    (hf : ∀ db a db', f db = .ok (a, db') → db'.flags = db.flags) :
    Within flagBounds x (statement st f) := by
  apply OperatorBounds.within_statement (fun _ _ => rfl) trivial
  intro w a db hdb
  exact isVaultPaused_congr (congrFun (hf w.db a db hdb) vaultPausedFlag)

theorem within_withTransaction {m : Vault α} (hm : Within flagBounds False m) :
    Within flagBounds x (withTransaction m) :=
  within_transaction (fun _ _ _ => rfl) hm

theorem within_enqueueWhitelistChange (args : NewWhitelistChange) :
    Within flagBounds x (enqueueWhitelistChange args) := by
  apply within_statement
  intro db a db' hdb
  cases hdb
  rfl

theorem within_requestChange (cooldownMs : ℤ) (address : Address) (ms : ℤ) :
    Within flagBounds x (requestChange cooldownMs u address ms) :=
  OperatorBounds.within_requestChange within_enqueueWhitelistChange (within_update fun _ => rfl)
    within_withTransaction

theorem within_cancelPending (reason : String) : Within flagBounds x (cancelPending u reason) :=
  OperatorBounds.within_cancelPending fun _ => within_update fun _ => rfl

theorem within_createUser (args : NewUser) : Within flagBounds x (createUser args) := by
  apply within_statement
  intro db a db' hdb
  split at hdb
  · cases hdb
  · cases hdb
    rfl

theorem part_leaves {m : Vault α} (hm : Part u True α m) : Leaves cfg env i m := by
  cases hm with
  | ask => exact leaves_within (x := False) (within_choose trivial)
  | call q => exact leaves_within (within_call trivial trivial)
  | read f => exact keeps_read
  | desk f => exact leaves_within (x := False) (within_modify fun _ => rfl)
  | audit ms event =>
    exact leaves_within (x := False) (OperatorBounds.within_writeAudit roomy_flag _ _ _)
  | counter counter => exact leaves_within (x := False) (within_update fun _ => rfl)
  | enqueue args =>
    apply leaves_within (x := False)
    apply within_statement
    intro db a db' hdb
    cases hdb
    rfl
  | request cooldownMs address ms => exact leaves_within (x := False) (within_requestChange _ _ _)
  | cancel reason => exact leaves_within (x := False) (within_cancelPending _)
  | invite => exact leaves_within (x := False) (within_modify fun _ => rfl)
  | create args => exact leaves_within (x := False) (within_createUser args)
  | secret secretEnc enrolledAt => exact leaves_within (x := False) (within_update fun _ => rfl)

theorem made_leaves {m : Vault α} (hm : MadeBy u True m) : Leaves cfg env i m :=
  made_keeps (fun hpart => part_leaves hpart) hm

theorem within_setDegraded (value : String) : Within flagBounds x (setFlag degradedFlag value) := by
  apply OperatorBounds.within_update (fun _ _ => rfl) trivial
  intro w
  have hne : vaultPausedFlag ≠ degradedFlag := by decide
  exact isVaultPaused_congr (Function.update_of_ne hne (some value) w.db.flags)

theorem within_clearUserTotp (targetId : TelegramId) :
    Within flagBounds x (clearUserTotp targetId) := by
  apply within_statement
  intro db a db' hdb
  split at hdb
  · cases hdb
    rfl
  · cases hdb

theorem operator_leaves {name : String} {run : Vault Unit} (hpause : name ≠ "pausevault")
    (hresume : name ≠ "resumevault")
    (hh : VaultRuntime.handler (commanderDeps venue cfg) name msg = some (.operator, run)) :
    Leaves cfg env i run := by
  have hrequeue : ∀ id, Within flagBounds True (requeueFailedWithdrawal id) := fun id =>
    OperatorBounds.within_requeueFailedWithdrawal roomy_flag trivial fun _ _ => rfl
  unfold VaultRuntime.handler at hh
  split at hh <;> cases hh
  · exact absurd rfl hpause
  · exact absurd rfl hresume
  · exact leaves_within (within_bind (within_read _) fun _ =>
      OperatorBounds.within_reply roomy_flag _ _)
  · exact leaves_within (OperatorBounds.within_handleForceProcess roomy_flag hrequeue)
  · exact leaves_within (OperatorBounds.within_handleRecreditDeposit roomy_flag
      (of_room LoopBounds.within_getMid) fun _ => of_room (LoopBounds.within_credit _))
  · exact leaves_within (OperatorBounds.within_handleResetTotp roomy_flag within_clearUserTotp)
  · exact leaves_within (OperatorBounds.within_reply roomy_flag _ _)
  · exact leaves_within (within_bind (within_setDegraded _) fun _ =>
      OperatorBounds.within_reply roomy_flag _ _)
  · exact leaves_within (within_bind (within_read _) fun _ =>
      OperatorBounds.within_reply roomy_flag _ _)
  · exact leaves_within (OperatorBounds.within_reply roomy_flag _ _)

theorem setFlag_triple {value : String} {B : JournalPoint → Prop}
    (hchoice : ∀ w h o, A (w, h) →
      A (w, .choice .telegram (Choice.statement (.setFlag vaultPausedFlag)) w o :: h))
    (hset : ∀ w h, A (w, h) → Act cfg .telegram (w, h)
      (w.withDb { w.db with flags := Function.update w.db.flags vaultPausedFlag (some value) }, h) ∧
      B (w.withDb { w.db with
        flags := Function.update w.db.flags vaultPausedFlag (some value) }, h)) :
    Triple (pauseMachine cfg env) .telegram A (setFlag vaultPausedFlag value) (fun _ => B)
      fun _ => True := by
  apply Triple.bind (B := fun (_ : Option Thrown) => A)
  · apply triple_choose
    intro w h o _ ha _
    exact ⟨told_choice, hchoice w h o ha⟩
  · intro (o : Option Thrown)
    cases o with
    | some e =>
      apply Triple.bind (B := fun _ _ => True)
      · apply triple_modify
        intro w h _ _
        exact ⟨.single (.aside rfl), trivial⟩
      · intro _
        exact triple_throw fun _ _ => trivial
    | none =>
      unfold afterStatement execute
      apply triple_attempt
      · intro w h a w' _ ha hrun
        cases hrun
        obtain ⟨hact, hb⟩ := hset w h ha
        exact ⟨.single hact, hb⟩
      · intro w h e _ _
        trivial

theorem handlePause_triple : Triple (pauseMachine cfg env) .telegram (fun _ => True)
    (handlePause (commanderDeps venue cfg).operator msg) (fun _ _ => True) fun _ => True := by
  apply Triple.bind (B := fun _ => Paused)
  · apply setFlag_triple
    · intro w h o _
      trivial
    · intro w h _
      have hset : isVaultPaused (w.withDb { w.db with
          flags := Function.update w.db.flags vaultPausedFlag (some "1") }).db = true := by
        simp [isVaultPaused, getFlag]
      exact ⟨.pause hset, hset⟩
  · intro _
    exact (triple_within paused_admits (OperatorBounds.within_conclude roomy_flag _ _ _ _)).mono
      (fun _ hp => hp) (fun _ _ _ => trivial) fun _ _ => trivial

theorem handleResume_triple : Triple (pauseMachine cfg env) .telegram
    (fun p => frozen cfg p.2 = false ∧ Apart cfg .telegram p)
    (handleResume (commanderDeps venue cfg).operator msg) (fun _ _ => True) fun _ => True := by
  apply Triple.bind (B := fun _ => Apart cfg .telegram)
  · apply setFlag_triple
    · rintro w h o ⟨hfree, hapart⟩
      exact ⟨frozen_choice.trans hfree, apart_own rfl rfl rfl hapart⟩
    · rintro w h ⟨hfree, hapart⟩
      exact ⟨.resume hfree, hapart⟩
  · intro _
    exact (leaves_within (OperatorBounds.within_conclude roomy_flag _ _ _ _)).mono
      (fun _ hp => hp) (fun _ _ _ => trivial) fun _ _ => trivial

theorem unauthorized_triple {run : Vault Unit} (hother : msg.userId ≠ cfg.operatorTelegramId) :
    Triple (pauseMachine cfg env) i (fun _ => True) (do
      if ← VaultRuntime.authorized (commanderDeps venue cfg) msg .operator then run else pure ())
      (fun _ _ => True) fun _ => True := by
  apply Triple.bind (B := fun allowed _ => allowed = false ∧ True)
  · exact triple_pure fun _ _ => ⟨decide_eq_false hother, trivial⟩
  · intro allowed
    apply triple_of_fact
    intro hrefused
    subst hrefused
    exact triple_pure fun _ _ => trivial

theorem orders_message {name : String} :
    orders cfg name (.start .telegram (.message msg) w) = true ↔
      TextInput.commandName msg.text = some name ∧ msg.userId = cfg.operatorTelegramId := by
  simp [orders]

theorem dispatch_triple : Triple (pauseMachine cfg env) .telegram
    (fun p => p = (w, .start .telegram (.message msg) w :: h))
    (VaultRuntime.dispatch (commanderDeps venue cfg) msg) (fun _ _ => True) fun _ => True := by
  have hauthorized : ∀ kind, Leaves cfg env .telegram
      (VaultRuntime.authorized (commanderDeps venue cfg) msg kind) := by
    intro kind
    cases kind with
    | vault => exact keeps_read
    | _ => exact keeps_pure
  -- whatever is not an order to pause leaves the flag alone
  have hothers : TextInput.commandName msg.text ≠ some "pausevault" →
      TextInput.commandName msg.text ≠ some "resumevault" →
      Leaves cfg env .telegram (VaultRuntime.dispatch (commanderDeps venue cfg) msg) := by
    intro hpause hresume
    unfold VaultRuntime.dispatch
    cases hname : TextInput.commandName msg.text with
    | none =>
      apply Keeps.bind keeps_read
      intro known
      exact keeps_ite (made_leaves (made_handleMessage rfl trivial)) keeps_pure
    | some name =>
      dsimp only
      cases hh : VaultRuntime.handler (commanderDeps venue cfg) name msg with
      | none => exact keeps_pure
      | some entry =>
        obtain ⟨kind, run⟩ := entry
        have hrun : Leaves cfg env .telegram run := by
          by_cases hkind : kind = .operator
          · subst hkind
            apply operator_leaves _ _ hh
            · rintro rfl
              exact hpause hname
            · rintro rfl
              exact hresume hname
          · exact made_leaves (made_handler (fun _ => trivial) hh hkind)
        exact Keeps.bind (hauthorized kind) fun allowed => keeps_ite hrun keeps_pure
  by_cases hpause : TextInput.commandName msg.text = some "pausevault"
  · unfold VaultRuntime.dispatch
    rw [hpause]
    by_cases hop : msg.userId = cfg.operatorTelegramId
    · apply Triple.bind (B := fun _ _ => True) (triple_pure fun _ _ => trivial)
      intro allowed
      exact triple_ite (fun _ => handlePause_triple) fun _ => triple_pure fun _ _ => trivial
    · exact (unauthorized_triple hop).mono (fun _ _ => trivial) (fun _ _ _ => trivial)
        fun _ _ => trivial
  · by_cases hresume : TextInput.commandName msg.text = some "resumevault"
    · unfold VaultRuntime.dispatch
      rw [hresume]
      by_cases hop : msg.userId = cfg.operatorTelegramId
      · have horder : orders cfg "resumevault" (.start .telegram (.message msg) w) = true :=
          orders_message.mpr ⟨hresume, hop⟩
        have hne : orders cfg "pausevault" (.start .telegram (.message msg) w) = false := by
          rw [Bool.eq_false_iff, Ne, orders_message]
          exact fun hboth => hpause hboth.1
        apply Triple.bind (B := fun _ p => frozen cfg p.2 = false ∧ Apart cfg .telegram p)
        · apply triple_pure
          rintro p rfl
          constructor
          · rw [frozen, if_pos horder]
          · intro _
            rw [own_start, List.any_cons, hne]
            rfl
        · intro allowed
          exact triple_ite (fun _ => handleResume_triple) fun _ => triple_pure fun _ _ => trivial
      · exact (unauthorized_triple hop).mono (fun _ _ => trivial) (fun _ _ _ => trivial)
          fun _ _ => trivial
    · refine (hothers hpause hresume).mono ?_ (fun _ _ _ => trivial) fun _ _ => trivial
      rintro p rfl _
      rw [own_start, List.any_cons, Bool.or_eq_false_iff]
      constructor
      · rw [Bool.eq_false_iff, Ne, orders_message]
        exact fun hboth => hpause hboth.1
      · rfl

theorem within_vaultBootstrap (b : VaultRuntime.BootstrapParams) :
    Within flagBounds True (VaultRuntime.vaultBootstrap ensureAta b) := by
  have hfound : ∀ (kp : Keypair) (enc : EncryptedBlob) (ms : ℤ),
      Within flagBounds True (VaultRuntime.foundVault b kp enc ms) := by
    intro kp enc ms
    apply within_withTransaction
    apply within_bind (within_createUser _)
    intro _
    apply within_bind (of_room (LoopBounds.within_addShares _ _))
    intro _
    apply within_bind (of_room (LoopBounds.within_insertNavSnapshot _))
    intro _
    exact OperatorBounds.within_writeAudit roomy_flag _ _ _
  apply within_ite _ fun _ => within_throw _
  intro _
  apply within_bind (within_choose trivial)
  intro ms
  apply within_bind (within_read _)
  intro users
  apply within_ite fun _ => within_throw _
  intro _
  apply within_bind (within_choose trivial)
  intro kp
  apply within_bind (Encryption.within_encryptSecret
    (fun c hc => by cases c <;> cases hc <;> trivial) kp.secretKey)
  intro enc
  exact within_bind (hfound kp enc ms) fun _ => within_call trivial trivial

theorem job_leaves {j : Job} (hj : ∀ msg, j ≠ .message msg) :
    Leaves cfg env j.fiber (j.program venue cfg) := by
  cases j with
  | tick => exact leaves_within (of_room (LoopBounds.within_tick venue cfg))
  | drain =>
    exact leaves_within (of_room (LoopBounds.within_drainOf (LoopBounds.footed_hostDeps _)))
  | message msg => exact absurd rfl (hj msg)
  | button msg => exact made_leaves made_dispatchCallback
  | bootstrap b => exact leaves_within (within_vaultBootstrap b)

theorem job_triple (j : Job) : Triple (pauseMachine cfg env) j.fiber
    (fun p => p = (w, .start j.fiber j w :: h)) (j.program venue cfg) (fun _ _ => True)
    fun _ => True := by
  by_cases hj : ∃ msg, j = .message msg
  · obtain ⟨msg, rfl⟩ := hj
    exact dispatch_triple
  · refine (job_leaves (fun msg hmsg => hj ⟨msg, hmsg⟩)).mono ?_ (fun _ _ _ => trivial)
      fun _ _ => trivial
    rintro p rfl hi
    cases j with
    | button msg => rfl
    | message msg => exact absurd ⟨msg, rfl⟩ hj
    | tick => cases hi
    | drain => cases hi
    | bootstrap b => cases hi

theorem start_told (j : Job) (w : World) (h : Journal) :
    Act cfg j.fiber (w, h) (w, .start j.fiber j w :: h) := by
  refine .tell _ rfl rfl ?_
  intro hnow
  rw [frozen] at hnow
  split at hnow
  · cases hnow
  · exact .inl hnow

theorem sound_restart (w : World) (h : Journal) (hp : (pauseMachine cfg env).inv (w, h)) :
    (pauseMachine cfg env).inv (w.restart, .stop w :: h) := by
  have hstopped : Sound cfg (w, .stop w :: h) :=
    sound_told hp rfl fun hnow => .inl ((frozen_line rfl (.inl rfl)).symm.trans hnow)
  exact ⟨hstopped.now, hstopped.ever⟩

theorem pause_safe :
    ((pauseMachine cfg env).discipline (vaultJobs venue cfg) sound_restart).JobsSafe := by
  rintro i m ⟨j, rfl, rfl⟩ p hp
  exact triple_job (start_told j) (fun w h => job_triple j) hp

theorem journaled_frozen (hj : Journaled venue cfg env.host p) : Sound cfg p := by
  obtain ⟨chain, c, ex, rfl⟩ := hj
  have hempty : Sound cfg (World.initial chain, []) := by
    constructor
    · intro hnow
      cases hnow
    · intro newer e older hsplit
      simp at hsplit
  exact (execution_preserves_holds pause_safe (idle_holds hempty) ex).inv

end PauseFlag
