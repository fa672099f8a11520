import BertMMBot.ChatSessions

/-! # The chat in the journal

Each handler of a message or of a button is followed line by line: what its session has
shown so far is what the lines it adds, and the changes it makes, are permitted by. -/
namespace ChatJournal

open AsyncProgram AsyncContract AsyncFibers AsyncRecords RecordedTriples KeyedTable
open VaultTypes VaultProgram DepositorStore ShareMath AccountSecurity DepositorCommands
open VaultJournal JournalMachine JournalTriples JournalStore ChatSessions
open VaultDiscipline (Environment)
open LedgerMachine (Fiber)
open MeteoraPosition (Venue)
open VaultRuntime (BotConfig commandsDeps reply ensureAta)

variable {venue : Venue} {cfg : BotConfig} {env : Environment} {w w' : World}
  {h h' L L' : Journal} {p q : JournalPoint} {u : TelegramId} {A : JournalPoint → Prop}
  {e : Line} {msg : Msg} {α β : Type}

theorem setPending_passed (hA : Steady venue cfg env .telegram A) (u : TelegramId)
    {action : PendingAction} (haction : ∀ usd, action ≠ .withdraw usd) :
    Passed venue cfg env .telegram A (setPending u action) := by
  apply triple_modify
  intro w h _ ha
  have hchange : Permitted venue cfg .telegram w h (.setPending u (some action)) := by
    refine ⟨rfl, ?_⟩
    intro usd heq
    exact haction usd (Option.some.inj heq)
  have halike : Alike w ((Change.setPending u (some action)).apply w) :=
    ⟨rfl, rfl, rfl, rfl, rfl, rfl⟩
  exact ⟨changed _ hchange, hA.alike halike ha⟩

theorem clearPending_passed (hA : Steady venue cfg env .telegram A) (u : TelegramId) :
    Passed venue cfg env .telegram A (clearPending u) := by
  apply triple_modify
  intro w h _ ha
  have hchange : Permitted venue cfg .telegram w h (.setPending u none) := by
    refine ⟨rfl, ?_⟩
    intro usd heq
    cases heq
  have halike : Alike w ((Change.setPending u none).apply w) := ⟨rfl, rfl, rfl, rfl, rfl, rfl⟩
  exact ⟨changed _ hchange, hA.alike halike ha⟩

theorem respondGated_chatted (hA : Steady venue cfg env .telegram A)
    (hopen : ∀ p, A p → ∃ w₀, Opened (.message msg) w₀ (own .telegram p.2)) (op : TotpOp)
    {act : Vault Unit}
    (hact : Obeys venue cfg env .telegram
      (fun p => A p ∧ Enrolled msg.userId p.1.db ∧ Proven venue cfg msg.userId p) act) :
    Obeys venue cfg env .telegram A (respondGated (commandsDeps venue cfg) msg op act) := by
  refine passed_then (clearPending_passed hA msg.userId) fun _ => ?_
  refine followed_then (verifyTotpGated_followed hA hopen op) fun gate => ?_
  cases gate with
  | ok => exact weaken hact fun p hp => ⟨hp.1, hp.2 rfl⟩
  | locked until_ =>
    refine weaken (A := A) ?_ fun p hp => hp.1
    exact passed_then (now_passed hA) fun ms => obeys_reply (by trivial) _
  | failed => exact obeys_reply (by trivial) _

theorem enrolled_chatted {k : UserRow → Vault Unit}
    (hk : ∀ user, Obeys venue cfg env .telegram (fun p => A p ∧ Enrolled u p.1.db) (k user)) :
    Obeys venue cfg env .telegram A (do
      match enrolled (← readDb (getUser u)) with
      | none => reply msg.chatId .enrollFirst
      | some user => k user) := by
  refine followed_then followed_readDb fun user => ?_
  cases hen : enrolled user with
  | none => exact obeys_reply (by trivial) _
  | some row =>
    dsimp only
    refine weaken (hk row) ?_
    rintro p ⟨ha, rfl⟩
    exact ⟨ha, (enrolled_getUser hen).2⟩

theorem promptGated_chatted {pending : PendingAction} {prompt : Notice} {act : Vault Unit}
    (hpending : ∀ usd, pending ≠ .withdraw usd) (hprompt : Casual prompt)
    (hact : Obeys venue cfg env .telegram
      (fun p => Welcome venue cfg msg.userId p ∧ Enrolled msg.userId p.1.db ∧ Fresh venue cfg msg.userId p)
      act) :
    Obeys venue cfg env .telegram (Session msg.userId)
      (promptGated (commandsDeps venue cfg) msg pending prompt act) := by
  refine enrolled_chatted fun user => ?_
  have hsteady : Steady venue cfg env .telegram
      (fun p => Session msg.userId p ∧ Enrolled msg.userId p.1.db) :=
    steady_session.and steady_enrolled
  refine followed_then (rejectIfLocked_followed hsteady msg.chatId msg.userId) fun rejected => ?_
  cases rejected with
  | true => exact obeys_pure
  | false =>
    have hwelcome : Steady venue cfg env .telegram
        (fun p => Welcome venue cfg msg.userId p ∧ Enrolled msg.userId p.1.db) :=
      steady_welcome.and steady_enrolled
    refine weaken (A := fun p => Welcome venue cfg msg.userId p ∧ Enrolled msg.userId p.1.db) ?_ ?_
    · refine followed_then (isUnlocked_followed hwelcome msg.userId) fun unlocked => ?_
      cases unlocked with
      | true => exact weaken hact fun p hp => ⟨hp.1.1, hp.1.2, fresh_of_unlocked (hp.2 rfl)⟩
      | false =>
        refine weaken (A := fun _ => True) ?_ fun _ _ => trivial
        refine passed_then (setPending_passed steady_true _ hpending) fun _ => ?_
        exact obeys_reply hprompt _
    · rintro p ⟨⟨hsession, hen⟩, hadmitted⟩
      exact ⟨⟨hsession, hadmitted rfl⟩, hen⟩

theorem reply_chatted {notice : Notice} {chatId : ℤ}
    (hg : ∀ w h, A (w, h) → Guarded venue cfg h (.call .telegram (Query.reply chatId notice) w)) :
    Obeys venue cfg env .telegram A (reply chatId notice) := by
  refine triple_call (I := vaultInterface) (q := Query.reply chatId notice) ?_ ?_
  · intro w h _ ha
    exact told rfl rfl rfl (hg w h ha)
  · intro w h w' h' a _ _ _
    refine ⟨told rfl rfl rfl (answer_guarded chatId notice a).1, ?_⟩
    cases a <;> exact trivial

theorem doDepositReveal_chatted (u : TelegramId) (chatId : ℤ) :
    Obeys venue cfg env .telegram (Granted venue cfg u)
      (doDepositReveal (commandsDeps venue cfg) u chatId) := by
  refine followed_then followed_readDb fun user => ?_
  cases user with
  | none =>
    refine weaken (A := fun _ => True) ?_ fun _ _ => trivial
    refine passed_then (now_passed steady_true) fun ms => ?_
    refine passed_then (writeAudit_passed steady_true (fun _ _ _ => rfl) ms (some u)) fun _ => ?_
    refine Triple.bind (B := fun _ _ => False) (triple_throw fun _ _ => trivial) fun user => ?_
    exact reply_chatted fun _ _ hfalse => hfalse.elim
  | some user =>
    have hA : Steady venue cfg env .telegram (fun p => Granted venue cfg u p ∧
        Owns u user.depositAddress p.1.db) := steady_granted.and steady_owned
    refine weaken (A := fun p => Granted venue cfg u p ∧ Owns u user.depositAddress p.1.db) ?_ ?_
    · refine passed_then (now_passed hA) fun ms => ?_
      refine passed_then (writeAudit_passed hA (fun _ _ _ => rfl) ms (some u)) fun _ => ?_
      apply reply_chatted
      rintro w h ⟨hgranted, howns⟩
      exact ⟨rfl, u, hgranted.1, hgranted.2, howns⟩
    · rintro p ⟨hgranted, hu⟩
      exact ⟨hgranted, getUser_owns hu⟩

theorem doBalanceReveal_chatted (u : TelegramId) (chatId : ℤ) :
    Obeys venue cfg env .telegram (Granted venue cfg u)
      (doBalanceReveal (commandsDeps venue cfg) u chatId) := by
  refine passed_then keeps_read fun shares => ?_
  refine passed_then (getNav_passed steady_granted cfg.minSolFloorLamports) fun nav => ?_
  cases nav with
  | none => exact obeys_reply (by trivial) _
  | some nav =>
    refine passed_then (now_passed steady_granted) fun ms => ?_
    refine passed_then (writeAudit_passed steady_granted (fun _ _ _ => rfl) ms (some u)) fun _ => ?_
    apply reply_chatted
    intro w h hgranted
    exact ⟨rfl, u, hgranted.1, hgranted.2⟩

theorem mem_own {i : Fiber} (hmem : e ∈ own i h) : e ∈ h := by
  induction h with
  | nil => cases hmem
  | cons x h ih =>
    have deeper : e ∈ own i h → e ∈ x :: h := fun hin => List.mem_cons_of_mem x (ih hin)
    cases x with
    | stop => cases hmem
    | start i' j s =>
      simp only [own] at hmem
      split at hmem
      · next hi =>
        subst hi
        rw [List.mem_singleton.mp hmem]
        exact List.mem_cons_self ..
      · exact deeper hmem
    | choice | call | answer =>
      simp only [own] at hmem
      split at hmem
      · rcases List.mem_cons.mp hmem with rfl | hin
        · exact List.mem_cons_self ..
        · exact deeper hin
      · exact deeper hmem

/-- The user may act, and the session has read the clock like this. -/
def Timed (venue : Venue) (cfg : BotConfig) (u : TelegramId) (ms : ℤ) (p : JournalPoint) : Prop :=
  Granted venue cfg u p ∧ ∃ w, Entry.choice .telegram Choice.clock w ms ∈ own .telegram p.2

theorem steady_timed {ms : ℤ} : Steady venue cfg env .telegram (Timed venue cfg u ms) := by
  refine steady_granted.and (steady_own (i := .telegram)
    (F := fun L => ∃ w, Entry.choice .telegram Choice.clock w ms ∈ L) (by decide) ?_)
  rintro e L - - ⟨w, hmem⟩
  exact ⟨w, List.mem_cons_of_mem e hmem⟩

theorem timed_reading {ms : ℤ} (ht : Timed venue cfg u ms p) : Reading ms p.2 := by
  obtain ⟨w, hmem⟩ := ht.2
  exact ⟨.telegram, w, mem_own hmem⟩

theorem account_of_getUser {db : Db} {user : UserRow} (hu : getUser u db = some user) :
    (accountOf u db).isSome := by
  obtain ⟨a, ha, -⟩ := getUser_account hu
  simp [ha]

theorem requestChange_chatted (u : TelegramId) (address : Address) (ms : ℤ) :
    Followed venue cfg env .telegram (Timed venue cfg u ms)
      (requestChange (commandsDeps venue cfg).cooldownMs u address ms) (fun _ _ => True)
      (Timed venue cfg u ms) := by
  refine followed_readDb.bind fun user => ?_
  cases user with
  | none => exact triple_throw fun p hp => hp.1
  | some user =>
    dsimp only
    cases hw : user.whitelistAddress with
    | none =>
      apply followed_transaction fun p hp => hp.1
      rintro t w h - ⟨-, hu⟩ hshown
      apply within_bind
      refine within_statement steady_timed hshown (fun o => ?_) ?_
      · exact ⟨rfl, hshown.holds.1.1, hshown.holds.1.2⟩
      · intro id db hdb hshown
        cases hdb
        apply within_bind
        refine within_statement steady_timed hshown (fun _ => trivial) ?_
        intro _ db hdb hshown
        cases hdb
        let c : WhitelistChangeRow :=
          ⟨nextId (w.db.whitelistChanges.map WhitelistChangeRow.id), u, none, address, ms, ms,
            .activated, none⟩
        have hrequesting : Requesting c w _ :=
          ⟨rfl, ⟨w, List.mem_cons_of_mem _ (List.mem_cons_self ..), rfl⟩,
            timed_reading hshown.holds, rfl⟩
        have hpermitted : Permitted venue cfg .telegram w _ (.firstWhitelist c) :=
          ⟨rfl, hrequesting, (getUser_whitelist hu).trans hw, rfl, account_of_getUser hu, rfl⟩
        refine ⟨(hshown.kept.more (changed _ hpermitted)).more (minored ?_), trivial⟩
        refine ⟨⟨?_, rfl, rfl, rfl, rfl, rfl⟩, rfl, rfl⟩
        have hleft := accounts_whitelist (u := u) address
          { w.db with whitelistChanges := w.db.whitelistChanges ++ [c] }
        refine Eq.trans ?_ hleft.symm
        exact accounts_updateUser (fun _ => rfl) _
    | some old =>
      refine Triple.bind (B := fun _ _ => True) ?_ fun _ => triple_pure fun _ _ => trivial
      refine followed_statement steady_timed (fun p hp => hp.1) ?_ ?_
      · rintro w h o ⟨⟨hgranted, -⟩, -⟩
        exact ⟨rfl, hgranted.1, hgranted.2⟩
      · rintro w h id db - ⟨htimed, hu⟩ hdb
        cases hdb
        let c : WhitelistChangeRow :=
          ⟨nextId (w.db.whitelistChanges.map WhitelistChangeRow.id), u, some old, address, ms,
            ms + (commandsDeps venue cfg).cooldownMs, .pending, none⟩
        obtain ⟨i, w₁, hread⟩ := timed_reading htimed
        have hrequesting : Requesting c w _ :=
          ⟨rfl, ⟨w, List.mem_cons_self .., rfl⟩, ⟨i, w₁, List.mem_cons_of_mem _ hread⟩, rfl⟩
        have hold : whitelistOf u w.db = some old := (getUser_whitelist hu).trans hw
        exact ⟨changed (.requestWhitelist c)
          ⟨rfl, hrequesting, hold, Option.some_ne_none old, rfl, rfl⟩, trivial⟩

theorem doSetWhitelist_chatted (u : TelegramId) (chatId : ℤ) (address : Address) :
    Obeys venue cfg env .telegram (Granted venue cfg u)
      (doSetWhitelist (commandsDeps venue cfg) u chatId address) := by
  refine followed_then (followed_now steady_granted) fun requestedAt => ?_
  refine weaken (A := Timed venue cfg u requestedAt) ?_ ?_
  · refine followed_then (requestChange_chatted u address requestedAt) fun result => ?_
    refine passed_then (now_passed steady_true) fun ms => ?_
    refine passed_then (writeAudit_passed steady_true (fun _ _ _ => rfl) ms (some u)) fun _ => ?_
    apply triple_ite
    · intro _
      exact obeys_reply (by trivial) _
    · intro _
      exact obeys_reply (by trivial) _
  · rintro p ⟨hgranted, L, hL⟩
    refine ⟨hgranted, p.1, ?_⟩
    rw [hL]
    exact List.mem_cons_self ..

/-- The cancel of `u` was carried out, and the table has not changed since. -/
def Carried (venue : Venue) (cfg : BotConfig) (u : TelegramId) (cancelled : Bool)
    (p : JournalPoint) : Prop :=
  Granted venue cfg u p ∧ if cancelled then CancelledLast u p.1 p.2
    else mostRecentPendingChange u p.1.db = none

theorem carried_line (env : Environment) {cancelled : Bool} (he : e.fiber = some .telegram)
    (hs : e.isStart = false) (hp : Plain e) (ha : Alike w w')
    (hc : Carried venue cfg u cancelled (w, h)) : Carried venue cfg u cancelled (w', e :: h) := by
  obtain ⟨hgranted, hdone⟩ := hc
  have hsteady : Steady venue cfg env .telegram (Granted venue cfg u) := steady_granted
  refine ⟨hsteady.tell he hs hp (hsteady.alike ha hgranted), ?_⟩
  cases cancelled with
  | true =>
    obtain ⟨w₀, c, reason, hmem, hrecent, htable⟩ := hdone
    refine ⟨w₀, c, reason, ?_, hrecent, ha.whitelistChanges.trans htable⟩
    change _ ∈ own .telegram (e :: h)
    rw [own_tell he hs]
    exact List.mem_cons_of_mem e hmem
  | false =>
    have hnone : mostRecentPendingChange u w.db = none := hdone
    change mostRecentPendingChange u w'.db = none
    rw [mostRecentPendingChange, ha.whitelistChanges]
    exact hnone

theorem cancelPending_followed (u : TelegramId) :
    Followed venue cfg env .telegram (Granted venue cfg u) (cancelPending u "user")
      (Carried venue cfg u) (Granted venue cfg u) := by
  refine followed_readDb.bind fun c => ?_
  cases c with
  | none =>
    apply triple_pure
    rintro p ⟨hgranted, hnone⟩
    exact ⟨hgranted, hnone⟩
  | some c =>
    have hrow : ∀ db, mostRecentPendingChange u db = some c →
        c ∈ db.whitelistChanges ∧ c.telegramId = u ∧ c.status = .pending := by
      intro db hc
      have hmem := List.argmax_mem hc
      simpa using hmem
    refine Triple.bind (B := fun _ => Carried venue cfg u true) ?_ fun _ =>
      triple_pure fun _ h => h
    refine followed_statement steady_granted (fun p hp => hp.1) ?_ ?_
    · rintro w h o ⟨hgranted, hc⟩
      obtain ⟨hmem, rfl, -⟩ := hrow _ hc
      exact ⟨rfl, c, hmem, rfl, hgranted.1, hgranted.2⟩
    · rintro w h _ db - ⟨hgranted, hc⟩ hdb
      cases hdb
      obtain ⟨hmem, -, hpending⟩ := hrow _ hc
      have hsteady : Steady venue cfg env .telegram (Granted venue cfg u) := steady_granted
      refine ⟨changed (.cancelWhitelist c "user") ⟨rfl, hmem, hpending⟩, ?_, w, c, "user",
        mem_own_self rfl rfl, hc, rfl⟩
      exact hsteady.tell rfl rfl trivial hgranted

theorem doCancelWhitelist_chatted (u : TelegramId) (chatId : ℤ) :
    Obeys venue cfg env .telegram (Granted venue cfg u)
      (doCancelWhitelist (commandsDeps venue cfg) u chatId) := by
  refine passed_then (now_passed steady_granted) fun _ => ?_
  refine followed_then (cancelPending_followed u) fun cancelled => ?_
  apply Triple.bind (B := fun _ => Carried venue cfg u cancelled)
  · apply triple_choose
    intro w h ms _ hc _
    exact ⟨told rfl rfl rfl trivial, carried_line env rfl rfl trivial (.refl w) hc⟩
  intro ms
  apply Triple.bind (B := fun _ => Carried venue cfg u cancelled)
  · refine followed_statement steady_true (fun _ _ => trivial) (fun _ _ _ _ => trivial) ?_
    intro w h _ db _ hc hdb
    cases hdb
    have hevent : ∀ id ts v, sweptRow ⟨id, ts, v, .whitelistCancel cancelled⟩ = none :=
      fun _ _ _ => rfl
    have hminor := writeAudit_minor (w := w) hevent (nextId (w.db.auditLog.map AuditRow.id)) ms
      (some u)
    exact ⟨minored hminor, carried_line env rfl rfl trivial hminor.toAlike hc⟩
  intro _
  cases cancelled with
  | true => exact reply_chatted fun w h hc => ⟨rfl, u, hc.1.1, hc.2⟩
  | false => exact reply_chatted fun w h hc => ⟨rfl, u, hc.1.1, hc.2⟩

def Entitled (u : TelegramId) (p : JournalPoint) : Prop :=
  Enrolled u p.1.db ∨ Lapsed u (own .telegram p.2)

/-- The user is enrolled, or answers the question for an amount. -/
def Eligible (u : TelegramId) (p : JournalPoint) : Prop :=
  Enrolled u p.1.db ∨ AmountEntry u (own .telegram p.2)

theorem steady_entitled : Steady venue cfg env .telegram (Entitled u) :=
  steady_enrolled.or (steady_own (F := Lapsed u) (by decide) fun _ _ _ _ hl => lapsed_cons hl)

theorem steady_eligible : Steady venue cfg env .telegram (Eligible u) :=
  steady_enrolled.or
    (steady_own (F := AmountEntry u) (by decide) fun _ _ _ _ ha => amountEntry_cons ha)

/-- Everything a withdrawal needs was shown at the latest line. -/
def Ready (venue : Venue) (cfg : BotConfig) (u : TelegramId) (amountUsd : ℚ) (p : JournalPoint) :
    Prop :=
  Welcome venue cfg u p ∧ Entitled u p ∧ Vetted venue cfg u amountUsd (own .telegram p.2) ∧
    ∃ w ms, Cleared venue cfg u w ms (own .telegram p.2) ∧ accounts p.1.db = accounts w.db ∧
    Origin venue cfg u amountUsd (own .telegram p.2) (own .telegram p.2)

def Destined (venue : Venue) (cfg : BotConfig) (u : TelegramId) (amountUsd : ℚ)
    (destination : Address) (p : JournalPoint) : Prop :=
  Ordered venue cfg u amountUsd destination (own .telegram p.2) ∧ Entitled u p

theorem steady_destined {amountUsd : ℚ} {destination : Address} :
    Steady venue cfg env .telegram (Destined venue cfg u amountUsd destination) :=
  (steady_own (F := Ordered venue cfg u amountUsd destination) (by decide)
    fun _ _ he hp ho => ordered_cons he hp ho).and steady_entitled

theorem steady_priced {navPerShare : ℚ} :
    Steady venue cfg env .telegram fun p => Priced venue cfg navPerShare (own .telegram p.2) :=
  steady_own (F := Priced venue cfg navPerShare) (by decide) fun _ _ _ _ hp => priced_cons hp

theorem enqueue_chatted {user : UserRow} {destination : Address} {amountUsd navPerShare : ℚ}
    (hpos : 0 < navPerShare) (chatId : ℤ) :
    Obeys venue cfg env .telegram
      (fun p => Destined venue cfg user.telegramId amountUsd destination p ∧
        Priced venue cfg navPerShare (own .telegram p.2))
      (enqueue (commandsDeps venue cfg) user destination chatId amountUsd navPerShare) := by
  have hA : Steady venue cfg env .telegram
      (fun p => Destined venue cfg user.telegramId amountUsd destination p ∧
        Priced venue cfg navPerShare (own .telegram p.2)) := steady_destined.and steady_priced
  have hread : Followed venue cfg env .telegram
      (fun p => Destined venue cfg user.telegramId amountUsd destination p ∧
        Priced venue cfg navPerShare (own .telegram p.2)) now
      (fun ms p => ∃ w h, (Destined venue cfg user.telegramId amountUsd destination (w, h) ∧
        Priced venue cfg navPerShare (own .telegram h)) ∧
          p = (w, .choice .telegram Choice.clock w ms :: h)) fun _ => True := by
    refine triple_choose (I := vaultInterface) (c := Choice.clock) ?_
    intro w h ms _ ha _
    exact ⟨told rfl rfl rfl trivial, w, h, ha, rfl⟩
  refine hread.bind fun queuedAt => ?_
  refine Triple.bind (B := fun _ _ => True) ?_ fun id => ?_
  · refine Triple.mono (E := fun p => Destined venue cfg user.telegramId amountUsd destination p ∧
      Priced venue cfg navPerShare (own .telegram p.2)) ?_ (fun _ hp => hp) (fun _ _ hb => hb)
      fun _ _ => trivial
    refine followed_statement hA ?_ ?_ ?_
    · rintro p ⟨w, h, ha, rfl⟩
      exact hA.tell rfl rfl trivial ha
    · rintro w h o ⟨w₀, h₀, ha, heq⟩
      cases heq
      obtain ⟨⟨hordered, hentitled⟩, -⟩ := hA.tell (w := w)
        (e := .choice .telegram Choice.clock w queuedAt) rfl rfl trivial ha
      exact ⟨rfl, hordered.authorized, hentitled⟩
    · rintro w h id db - ⟨w₀, h₀, ha, heq⟩ hdb
      cases heq
      cases hdb
      refine ⟨changed (.addWithdrawal _) ⟨rfl, amountUsd, navPerShare, h₀, rfl, ha.1.1, ha.2, hpos,
        rfl⟩, trivial⟩
  · refine passed_then (now_passed steady_true) fun ms => ?_
    refine passed_then (writeAudit_passed steady_true (fun _ _ _ => rfl) ms _) fun _ => ?_
    exact obeys_reply (by trivial) _

theorem doWithdraw_chatted (u : TelegramId) (chatId : ℤ) (amountUsd : ℚ) :
    Obeys venue cfg env .telegram (Ready venue cfg u amountUsd)
      (doWithdraw (commandsDeps venue cfg) u chatId amountUsd) := by
  refine followed_then followed_readDb fun user => ?_
  cases user with
  | none => exact triple_throw fun _ _ => trivial
  | some user =>
    refine Triple.bind (B := fun found p => found = user ∧ Ready venue cfg u amountUsd p ∧
      getUser u p.1.db = some user) (triple_pure fun p hp => ⟨rfl, hp⟩) ?_
    intro found
    refine triple_of_fact fun hfound => ?_
    subst hfound
    cases hdest : found.whitelistAddress.filter (· ≠ "") with
    | none =>
      dsimp only
      exact obeys_reply (by trivial) _
    | some destination =>
      dsimp only
      have hw := (Option.filter_eq_some_iff.mp hdest).1
      refine weaken (A := fun p => found.telegramId = u ∧
        Destined venue cfg u amountUsd destination p) ?_ ?_
      · refine triple_of_fact fun hid => ?_
        subst hid
        have hA : Steady venue cfg env .telegram
            (Destined venue cfg found.telegramId amountUsd destination) := steady_destined
        have hnav := Triple.ran (fun p q hr => rely_own (by decide) hr)
          (getNav_passed hA cfg.minSolFloorLamports)
        refine Triple.bind (Triple.mono hnav (fun _ hp => hp) (fun _ _ hb => hb)
          fun _ _ => trivial) fun nav => ?_
        cases nav with
        | none => exact obeys_reply (by trivial) _
        | some nav =>
          apply triple_ite
          · intro _
            exact obeys_reply (by trivial) _
          · intro hnonpos
            refine weaken (enqueue_chatted (not_le.mp hnonpos) chatId) ?_
            rintro p ⟨hdestined, p₀, -, hran⟩
            exact ⟨hdestined, nav, _, _, _, _, List.suffix_rfl, hran, rfl⟩
      · rintro p ⟨⟨hwelcome, hentitled, hvetted, w, ms, hcleared, haccounts, horigin⟩, hu⟩
        obtain ⟨a, -, -, hid, -⟩ := getUser_account hu
        refine ⟨hid, ⟨hwelcome.1.1, hwelcome.2, ⟨w, ms, _, List.suffix_rfl, hcleared, ?_, horigin⟩,
          hvetted, hwelcome.1.2⟩, hentitled⟩
        have hcongr : whitelistOf u p.1.db = whitelistOf u w.db := by
          simp only [whitelistOf, accountOf_congr haccounts]
        rw [← hcongr, getUser_whitelist hu, hw]

/-- Whatever the amount will be, this session may name it without a prompt. -/
def Asking (venue : Venue) (cfg : BotConfig) (u : TelegramId) (L : Journal) : Prop :=
  ∀ amountUsd L', Origin venue cfg u amountUsd L L'

/-- A withdrawal may go ahead in this session as soon as its user is found unlocked. -/
def Bidding (venue : Venue) (cfg : BotConfig) (u : TelegramId) (p : JournalPoint) : Prop :=
  Welcome venue cfg u p ∧ Eligible u p ∧ Asking venue cfg u (own .telegram p.2)

theorem steady_asking :
    Steady venue cfg env .telegram fun p => Asking venue cfg u (own .telegram p.2) :=
  steady_own (F := Asking venue cfg u) (by decide) fun _ _ _ _ ha amountUsd L' =>
    origin_cons (ha amountUsd L')

theorem steady_bidding : Steady venue cfg env .telegram (Bidding venue cfg u) :=
  steady_welcome.and (steady_eligible.and steady_asking)

theorem prompts_cons {amountUsd : ℚ} {destination : Address} {notice : Notice}
    (hn : Prompts venue cfg u w L amountUsd destination notice) :
    Prompts venue cfg u w (e :: L) amountUsd destination notice := by
  cases hn with
  | checked hen hsuffix hpassed => exact .checked hen (hsuffix.trans (List.suffix_cons ..)) hpassed
  | entry hentry => exact .entry (amountEntry_cons hentry)

theorem prompts_vetted {amountUsd : ℚ} {destination : Address} {notice : Notice}
    (hn : Prompts venue cfg u w L amountUsd destination notice) : Vetted venue cfg u amountUsd L := by
  cases hn with
  | checked _ hsuffix hpassed => exact .checked hsuffix hpassed
  | entry hentry => exact .entry hentry

theorem prompts_enrolled {amountUsd : ℚ} {destination : Address} {notice : Notice}
    (hsame : Enrolled u w.db → Enrolled u w'.db)
    (hn : Prompts venue cfg u w L amountUsd destination notice) :
    Prompts venue cfg u w' L amountUsd destination notice := by
  cases hn with
  | checked hen hsuffix hpassed => exact .checked (hsame hen) hsuffix hpassed
  | entry hentry => exact .entry hentry

theorem steady_prompts {amountUsd : ℚ} {destination : Address} {notice : Notice} :
    Steady venue cfg env .telegram fun p =>
      Prompts venue cfg u p.1 (own .telegram p.2) amountUsd destination notice where
  tell he hs _ hn := by
    rw [own_tell he hs]
    exact prompts_cons hn
  alike ha hn := prompts_enrolled (enrolled_alike ha).mpr hn
  disturb hd hn := by
    rw [(disturbs_chat hd).own]
    exact prompts_enrolled ((disturbs_chat hd).enrolled u).mpr hn

theorem prompt_chatted {notice : Notice} {amountUsd : ℚ} (destination : Address) (chatId : ℤ) :
    Obeys venue cfg env .telegram (fun p => Session u p ∧
        Prompts venue cfg u p.1 (own .telegram p.2) amountUsd destination notice)
      (do setPending u (.withdraw amountUsd); reply chatId notice) := by
  refine triple_modify_call (I := vaultInterface) (q := Query.reply chatId notice) ?_ ?_
  · rintro w h _ ⟨hsession, hn⟩
    exact .single (.prompt chatId u amountUsd destination notice hsession.1 hn)
  · intro w h w' h' a _ _ _
    refine ⟨told rfl rfl rfl (answer_guarded chatId notice a).1, ?_⟩
    cases a <;> exact trivial

theorem entitled_of_unlocked (he : Eligible u p) (hu : Unlocked u p) : Entitled u p := by
  by_cases hen : Enrolled u p.1.db
  · exact .inl hen
  · obtain ⟨w, ms, until_, L, hL, hopen, hlt, haccounts⟩ := hu
    have hentry := he.resolve_left hen
    refine .inr ⟨hentry, w, ms, until_, ?_, hopen, hlt, ?_⟩
    · rw [hL]
      exact List.mem_cons_self ..
    · intro hen'
      exact hen (enrolled_congr (accountOf_congr haccounts) hen')

theorem confirmWithdrawal_chatted {prompt : Notice} {amountUsd : ℚ} (destination : Address) :
    Obeys venue cfg env .telegram (fun p => Bidding venue cfg msg.userId p ∧
        Prompts venue cfg msg.userId p.1 (own .telegram p.2) amountUsd destination prompt)
      (confirmWithdrawal (commandsDeps venue cfg) msg prompt amountUsd) := by
  refine followed_then (isUnlocked_followed (steady_bidding.and steady_prompts) msg.userId) ?_
  intro unlocked
  cases unlocked with
  | true =>
    refine weaken (doWithdraw_chatted msg.userId msg.chatId amountUsd) ?_
    rintro p ⟨⟨⟨hwelcome, heligible, hasking⟩, hn⟩, hunlocked⟩
    have hunlocked := hunlocked rfl
    have hfresh : Fresh venue cfg msg.userId p := fresh_of_unlocked hunlocked
    obtain ⟨w, ms, hcleared, haccounts⟩ := hfresh
    exact ⟨hwelcome, entitled_of_unlocked heligible hunlocked, prompts_vetted hn, w, ms, hcleared,
      haccounts, hasking _ _⟩
  | false =>
    refine weaken (prompt_chatted destination msg.chatId) ?_
    exact fun p hp => ⟨hp.1.1.1.1, hp.1.2⟩

theorem parseAmount_casual {raw : String} {userUsd : ℚ} {notice : Notice}
    (hp : parseAmount raw userUsd = .rejected notice) : Casual notice := by
  unfold parseAmount at hp
  split at hp
  · split at hp
    · split at hp
      · cases hp
        exact trivial
      · cases hp
    · cases hp
      exact trivial
  · split at hp
    · split at hp
      · cases hp
        exact trivial
      · cases hp
    · cases hp
      exact trivial

theorem checkAmount_cases {deps : CommandsDeps} {userUsd amountUsd : ℚ} {notice : Notice}
    (hc : checkAmount deps userUsd amountUsd = some notice) :
    Casual notice ∨ notice = .amountExceedsBalance userUsd ∧
      deps.config.minWithdrawalUsd ≤ amountUsd ∧ userUsd + 1 / 10 ^ 6 < amountUsd := by
  unfold checkAmount at hc
  split at hc
  · cases hc
    exact .inl trivial
  · next hmin =>
    split at hc
    · next hover =>
      cases hc
      exact .inr ⟨rfl, not_lt.mp hmin, hover⟩
    · cases hc

theorem checkCaps_followed (hA : Steady venue cfg env .telegram A) (u : TelegramId)
    (amountUsd : ℚ) :
    Followed venue cfg env .telegram A (checkCaps (commandsDeps venue cfg) u amountUsd)
      (fun refused p => A p ∧ (∀ notice, refused = some notice → Casual notice) ∧
        (refused = none → ∃ w, CapsPassed venue cfg u amountUsd w (own .telegram p.2))) A := by
  have stop : ∀ {notice : Notice}, Casual notice → Followed venue cfg env .telegram A
      (pure (some notice)) (fun refused p => A p ∧ ∀ n, refused = some n → Casual n) A := by
    intro notice hn
    apply triple_pure
    intro p ha
    refine ⟨ha, ?_⟩
    rintro n ⟨⟩
    exact hn
  have hchecked : Followed venue cfg env .telegram A
      (checkCaps (commandsDeps venue cfg) u amountUsd)
      (fun refused p => A p ∧ ∀ notice, refused = some notice → Casual notice) A := by
    refine Triple.bind (now_passed hA) fun ms => Triple.bind keeps_read fun countToday => ?_
    apply triple_ite
    · intro _
      exact stop (by trivial)
    · intro _
      refine Triple.bind (now_passed hA) fun ms => Triple.bind keeps_read fun usdToday => ?_
      apply triple_ite
      · intro _
        exact stop (by trivial)
      · intro _
        refine Triple.bind keeps_read fun pending => ?_
        apply triple_ite
        · intro _
          exact stop (by trivial)
        · intro _
          exact triple_pure fun p ha => ⟨ha, fun n hn => by cases hn⟩
  refine Triple.mono (Triple.ran (fun p q hr => rely_own (by decide) hr) hchecked)
    (fun _ ha => ha) ?_ fun _ ha => ha
  rintro refused p ⟨⟨ha, hcasual⟩, p₀, -, hran⟩
  refine ⟨ha, hcasual, ?_⟩
  rintro rfl
  exact ⟨p₀.1, _, _, hran⟩

theorem withdrawAmount_chatted (destination : Address) (raw : String) :
    Obeys venue cfg env .telegram
      (fun p => Bidding venue cfg msg.userId p ∧ Enrolled msg.userId p.1.db)
      (withdrawAmount (commandsDeps venue cfg) msg destination raw) := by
  have hA : Steady venue cfg env .telegram
      (fun p => Bidding venue cfg msg.userId p ∧ Enrolled msg.userId p.1.db) :=
    steady_bidding.and steady_enrolled
  refine passed_then (getNav_passed hA cfg.minSolFloorLamports) fun nav => ?_
  cases nav with
  | none => exact obeys_reply (by trivial) _
  | some nav =>
    refine passed_then (keeps_read.bind fun _ => keeps_pure) fun userUsd => ?_
    cases hparse : parseAmount raw userUsd with
    | rejected notice =>
      dsimp only
      exact obeys_reply (parseAmount_casual hparse) _
    | amount amountUsd =>
      cases hcheck : checkAmount (commandsDeps venue cfg) userUsd amountUsd with
      | some notice =>
        simp only [hcheck]
        rcases checkAmount_cases hcheck with hcasual | ⟨rfl, -, -⟩
        · exact obeys_reply hcasual _
        · exact reply_chatted fun w h hp => ⟨rfl, msg.userId, hp.1.1.1.1, .inl hp.2⟩
      | none =>
        simp only [hcheck]
        refine followed_then (checkCaps_followed hA msg.userId amountUsd) ?_
        intro refused
        cases refused with
        | none =>
          refine weaken (confirmWithdrawal_chatted destination) ?_
          rintro p ⟨⟨hbidding, hen⟩, -, hpassed⟩
          obtain ⟨w₀, hpassed⟩ := hpassed rfl
          exact ⟨hbidding, .checked hen List.suffix_rfl hpassed⟩
        | some notice =>
          refine weaken (A := fun p => Casual notice ∧ True) ?_ ?_
          · exact triple_of_fact fun hn => obeys_reply hn _
          · exact fun p hp => ⟨hp.2.1 _ rfl, trivial⟩

theorem handleWithdraw_chatted :
    Obeys venue cfg env .telegram
      (fun p => Session msg.userId p ∧ Asking venue cfg msg.userId (own .telegram p.2))
      (handleWithdraw (commandsDeps venue cfg) msg) := by
  refine enrolled_chatted fun user => ?_
  cases user.whitelistAddress.filter (· ≠ "") with
  | none => exact obeys_reply (by trivial) _
  | some destination =>
    have hsteady : Steady venue cfg env .telegram (fun p => (Session msg.userId p ∧
        Asking venue cfg msg.userId (own .telegram p.2)) ∧ Enrolled msg.userId p.1.db) :=
      (steady_session.and steady_asking).and steady_enrolled
    refine followed_then (rejectIfLocked_followed hsteady msg.chatId msg.userId) fun rejected => ?_
    cases rejected with
    | true => exact obeys_pure
    | false =>
      refine weaken (A := fun p => Bidding venue cfg msg.userId p ∧ Enrolled msg.userId p.1.db) ?_ ?_
      · cases TextInput.argument msg.text with
        | none =>
          refine passed_then (setPending_passed (steady_bidding.and steady_enrolled) _ (by simp)) ?_
          intro _
          exact obeys_reply (by trivial) _
        | some raw => exact withdrawAmount_chatted destination raw
      · rintro p ⟨⟨⟨hsession, hasking⟩, hen⟩, hadmitted⟩
        exact ⟨⟨⟨hsession, hadmitted rfl⟩, .inl hen, hasking⟩, hen⟩

/-- What a plain message answers, as it was when the message came in. -/
def Answering (msg : Msg) (action : PendingAction) (L : Journal) : Prop :=
  ∃ w₀, Opened (.message msg) w₀ L ∧ TextInput.commandName msg.text = none ∧
    w₀.memory.pending msg.userId = some action

theorem answering_cons {action : PendingAction} (ha : Answering msg action L) :
    Answering msg action (e :: L) := by
  obtain ⟨w₀, ho, hrest⟩ := ha
  exact ⟨w₀, opened_cons ho, hrest⟩

theorem steady_answering {action : PendingAction} :
    Steady venue cfg env .telegram fun p => Answering msg action (own .telegram p.2) :=
  steady_own (F := Answering msg action) (by decide) fun _ _ _ _ ha => answering_cons ha

theorem respondWithdrawAmountEntry_chatted :
    Obeys venue cfg env .telegram
      (fun p => Welcome venue cfg msg.userId p ∧ Answering msg .withdrawAmountEntry (own .telegram p.2))
      (respondWithdrawAmountEntry (commandsDeps venue cfg) msg) := by
  have hA : Steady venue cfg env .telegram (fun p => Bidding venue cfg msg.userId p ∧
      Answering msg .withdrawAmountEntry (own .telegram p.2)) := steady_bidding.and steady_answering
  have hentry : ∀ {L : Journal}, Answering msg .withdrawAmountEntry L → AmountEntry msg.userId L := by
    rintro L ⟨w₀, ho, hname, hpending⟩
    exact ⟨msg, w₀, ho, rfl, hname, hpending⟩
  refine weaken (A := fun p => Bidding venue cfg msg.userId p ∧
    Answering msg .withdrawAmountEntry (own .telegram p.2)) ?_ ?_
  · refine passed_then (clearPending_passed hA msg.userId) fun _ => ?_
    cases hnumber : (TextInput.number (TextInput.trim msg.text)).filter (0 < ·) with
    | none => exact obeys_reply (by trivial) _
    | some n =>
      refine passed_then keeps_read fun user => ?_
      cases (user.bind UserRow.whitelistAddress).filter (· ≠ "") with
      | none => exact obeys_reply (by trivial) _
      | some destination =>
        have hnav := Triple.ran (fun p q hr => rely_own (by decide) hr)
          (getNav_passed hA cfg.minSolFloorLamports)
        refine Triple.bind (Triple.mono hnav (fun _ hp => hp) (fun _ _ hb => hb)
          fun _ _ => trivial) fun nav => ?_
        cases nav with
        | none => exact obeys_reply (by trivial) _
        | some nav =>
          refine followed_then (B := fun userUsd p => (Bidding venue cfg msg.userId p ∧
            Answering msg .withdrawAmountEntry (own .telegram p.2)) ∧
            (∃ s L₀, Ran .telegram (VaultRuntime.getNav venue cfg.minSolFloorLamports s) L₀
              (.ok (some nav)) p.1 (own .telegram p.2)) ∧
            userUsd = usdForShares (getShares msg.userId p.1.db)
              (computeNavPerShare nav.totalUsd nav.totalShares)) ?_ fun userUsd => ?_
          · refine Triple.bind followed_readDb fun shares => ?_
            apply triple_pure
            rintro p ⟨⟨ha, p₀, -, hran⟩, rfl⟩
            exact ⟨ha, ⟨p₀.1, _, hran⟩, rfl⟩
          cases hcheck : checkAmount (commandsDeps venue cfg) userUsd n with
          | some notice =>
            dsimp only
            rcases checkAmount_cases hcheck with hcasual | ⟨rfl, hmin, hover⟩
            · exact obeys_reply hcasual _
            · apply reply_chatted
              rintro w h ⟨⟨hbidding, hanswering⟩, ⟨s, L₀, hran⟩, rfl⟩
              refine ⟨rfl, msg.userId, hbidding.1.1.1, ?_⟩
              by_cases hen : Enrolled msg.userId w.db
              · exact .inl hen
              · obtain ⟨w₀, ho, hname, hpending⟩ := hanswering
                exact .inr ⟨msg, w₀, n, nav, s, w, L₀, _, ho, rfl, hname, hpending, hnumber,
                  List.suffix_rfl, hran, hover, hmin, hen⟩
          | none =>
            refine weaken (confirmWithdrawal_chatted destination) ?_
            rintro p ⟨⟨hbidding, hanswering⟩, -, -⟩
            exact ⟨hbidding, .entry (hentry hanswering)⟩
  · rintro p ⟨hwelcome, hanswering⟩
    exact ⟨⟨hwelcome, .inr (hentry hanswering), fun _ _ => .entry (hentry hanswering)⟩, hanswering⟩

theorem answered_granted {action : PendingAction}
    (hp : (Welcome venue cfg u p ∧ Answering msg action (own .telegram p.2)) ∧ Enrolled u p.1.db ∧
      Proven venue cfg u p) : Granted venue cfg u p :=
  granted_of_fresh hp.1.1 hp.2.2.fresh hp.2.1

theorem respond_chatted (action : PendingAction) {op : TotpOp} {act : Vault Unit}
    (hact : Obeys venue cfg env .telegram (fun p => (Welcome venue cfg msg.userId p ∧
      Answering msg action (own .telegram p.2)) ∧ Enrolled msg.userId p.1.db ∧
        Proven venue cfg msg.userId p) act) :
    Obeys venue cfg env .telegram
      (fun p => Welcome venue cfg msg.userId p ∧ Answering msg action (own .telegram p.2))
      (respondGated (commandsDeps venue cfg) msg op act) := by
  refine respondGated_chatted (steady_welcome.and steady_answering) ?_ op hact
  rintro p ⟨-, w₀, ho, -⟩
  exact ⟨w₀, ho⟩

theorem respondWithdraw_chatted (amountUsd : ℚ) :
    Obeys venue cfg env .telegram
      (fun p => Welcome venue cfg msg.userId p ∧ Answering msg (.withdraw amountUsd) (own .telegram p.2))
      (respondWithdraw (commandsDeps venue cfg) msg amountUsd) := by
  apply respond_chatted
  refine weaken (doWithdraw_chatted msg.userId msg.chatId amountUsd) ?_
  rintro p ⟨⟨hwelcome, w₀, ho, hname, hpending⟩, hen, haccepted, w, ms, hcleared, haccounts⟩
  exact ⟨hwelcome, .inl hen, .prompted ho hpending, w, ms, hcleared, haccounts,
    .code ho rfl hname hpending haccepted⟩

theorem setWhitelistTo_chatted (user : UserRow) (address : Address) :
    Obeys venue cfg env .telegram (fun p => Session msg.userId p ∧ Enrolled msg.userId p.1.db)
      (setWhitelistTo (commandsDeps venue cfg) msg user address) := by
  have hsteady : Steady venue cfg env .telegram
      (fun p => Session msg.userId p ∧ Enrolled msg.userId p.1.db) :=
    steady_session.and steady_enrolled
  refine followed_then (rejectIfLocked_followed hsteady msg.chatId msg.userId) fun rejected => ?_
  cases rejected with
  | true => exact obeys_pure
  | false =>
    refine weaken (A := fun p => Welcome venue cfg msg.userId p ∧ Enrolled msg.userId p.1.db) ?_ ?_
    · refine followed_then (isUnlocked_followed (steady_welcome.and steady_enrolled) msg.userId) ?_
      intro unlocked
      cases unlocked with
      | true =>
        refine weaken (doSetWhitelist_chatted msg.userId msg.chatId address) ?_
        rintro p ⟨⟨hwelcome, hen⟩, hfresh⟩
        exact granted_of_fresh hwelcome (fresh_of_unlocked (hfresh rfl)) hen
      | false =>
        refine weaken (A := fun _ => True) ?_ fun _ _ => trivial
        change Obeys venue cfg env .telegram _ (if user.whitelistAddress = none then _ else _)
        apply triple_ite
        · intro _
          refine passed_then (setPending_passed steady_true _ ?_) fun _ => ?_
          · intro usd heq
            cases heq
          · exact obeys_reply (by trivial) _
        · intro _
          refine passed_then (setPending_passed steady_true _ ?_) fun _ => ?_
          · intro usd heq
            cases heq
          · exact obeys_reply (by trivial) _
    · rintro p ⟨⟨hsession, hen⟩, hadmitted⟩
      exact ⟨⟨hsession, hadmitted rfl⟩, hen⟩

theorem isPublicKey_passed (hA : Steady venue cfg env .telegram A) (address : String) :
    Passed venue cfg env .telegram A (isPublicKey address) :=
  passed_choose (c := .publicKey address) hA fun _ _ _ => trivial

theorem handleSetWhitelist_chatted :
    Obeys venue cfg env .telegram (Session msg.userId)
      (handleSetWhitelist (commandsDeps venue cfg) msg) := by
  refine enrolled_chatted fun user => ?_
  cases TextInput.argument msg.text with
  | none => exact obeys_reply (by trivial) _
  | some addr =>
    refine passed_then (isPublicKey_passed (steady_session.and steady_enrolled) addr) fun valid => ?_
    apply triple_ite
    · intro _
      exact setWhitelistTo_chatted user addr
    · intro _
      exact obeys_reply (by trivial) _

theorem respondSetWhitelistAddressEntry_chatted :
    Obeys venue cfg env .telegram (Session msg.userId)
      (respondSetWhitelistAddressEntry (commandsDeps venue cfg) msg) := by
  refine passed_then (clearPending_passed steady_session msg.userId) fun _ => ?_
  refine passed_then (isPublicKey_passed steady_session _) fun valid => ?_
  apply triple_ite
  · intro _
    let msg' : Msg := { msg with text := s!"/setwhitelist {TextInput.trim msg.text}" }
    exact @handleSetWhitelist_chatted venue cfg env msg'
  · intro _
    exact obeys_reply (by trivial) _

theorem respondSetWhitelist_chatted (action : PendingAction) (op : TotpOp) (address : Address) :
    Obeys venue cfg env .telegram
      (fun p => Welcome venue cfg msg.userId p ∧ Answering msg action (own .telegram p.2))
      (respondSetWhitelist (commandsDeps venue cfg) msg op address) := by
  apply respond_chatted
  exact weaken (doSetWhitelist_chatted msg.userId msg.chatId address) fun p hp => answered_granted hp

theorem handleDeposit_chatted :
    Obeys venue cfg env .telegram (Session msg.userId) (handleDeposit (commandsDeps venue cfg) msg) := by
  apply promptGated_chatted (by simp) (by trivial)
  refine weaken (doDepositReveal_chatted msg.userId msg.chatId) ?_
  rintro p ⟨hwelcome, hen, hfresh⟩
  exact granted_of_fresh hwelcome hfresh hen

theorem handleBalance_chatted :
    Obeys venue cfg env .telegram (Session msg.userId) (handleBalance (commandsDeps venue cfg) msg) := by
  apply promptGated_chatted (by simp) (by trivial)
  refine weaken (doBalanceReveal_chatted msg.userId msg.chatId) ?_
  rintro p ⟨hwelcome, hen, hfresh⟩
  exact granted_of_fresh hwelcome hfresh hen

theorem handleCancelWhitelist_chatted :
    Obeys venue cfg env .telegram (Session msg.userId)
      (handleCancelWhitelist (commandsDeps venue cfg) msg) := by
  apply promptGated_chatted (by simp) (by trivial)
  refine weaken (doCancelWhitelist_chatted msg.userId msg.chatId) ?_
  rintro p ⟨hwelcome, hen, hfresh⟩
  exact granted_of_fresh hwelcome hfresh hen

end ChatJournal
