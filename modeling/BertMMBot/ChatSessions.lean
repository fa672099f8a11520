import BertMMBot.JournalStore

/-! # Sessions of the chat

What a session has shown so far, how its handlers are followed, and what the rate limiter,
the unlock window and a code add to it. -/
namespace ChatSessions

open AsyncProgram AsyncContract AsyncFibers AsyncRecords RecordedTriples KeyedTable
open VaultTypes VaultProgram Encryption DepositorStore ShareMath AccountSecurity DepositorCommands
open VaultJournal JournalMachine JournalTriples JournalStore
open VaultDiscipline (Environment)
open LedgerMachine (Fiber)
open MeteoraPosition (Venue)
open VaultRuntime (BotConfig commandsDeps reply ensureAta)

variable {venue : Venue} {cfg : BotConfig} {env : Environment} {w w' : World}
  {h h' L L' : Journal} {p q : JournalPoint} {u : TelegramId} {A : JournalPoint → Prop}
  {e : Line} {msg : Msg} {α β : Type}

theorem opened_cons {j : Job} (ho : Opened j w L) : Opened j w (e :: L) := by
  unfold Opened at ho ⊢
  cases L with
  | nil => cases ho
  | cons x L => rwa [List.getLast?_cons_cons]

theorem speaker_cons (hs : speaker L = some u) : speaker (e :: L) = some u := by
  unfold speaker at hs ⊢
  cases L with
  | nil => cases hs
  | cons x L => rwa [List.getLast?_cons_cons]

theorem admitted_cons (ha : Admitted venue cfg u L) : Admitted venue cfg u (e :: L) := by
  obtain ⟨chatId, w, L₀, ms, s, hsuffix, hran, hfree⟩ := ha
  exact ⟨chatId, w, L₀, ms, s, hsuffix.trans (List.suffix_cons ..), hran, hfree⟩

theorem authorized_cons (ha : Authorized venue cfg u L) : Authorized venue cfg u (e :: L) := by
  obtain ⟨hspeaks, hadmitted, w, ms, L', hsuffix, hcleared⟩ := ha
  exact ⟨speaker_cons hspeaks, admitted_cons hadmitted, w, ms, L',
    hsuffix.trans (List.suffix_cons ..), hcleared⟩

theorem amountEntry_cons (ha : AmountEntry u L) : AmountEntry u (e :: L) := by
  obtain ⟨msg, w, ho, hrest⟩ := ha
  exact ⟨msg, w, opened_cons ho, hrest⟩

theorem lapsed_cons (hl : Lapsed u L) : Lapsed u (e :: L) := by
  obtain ⟨hentry, w, ms, until_, hmem, hrest⟩ := hl
  exact ⟨amountEntry_cons hentry, w, ms, until_, List.mem_cons_of_mem e hmem, hrest⟩

theorem promptOf_plain (he : e.fiber = some .telegram) (hp : Plain e) : promptOf e = none := by
  unfold promptOf
  split
  · exact absurd hp id
  · exact absurd hp id
  · rfl

theorem unprompted_cons (he : e.fiber = some .telegram) (hp : Plain e)
    (hu : ∀ x ∈ L, promptOf x = none) : ∀ x ∈ e :: L, promptOf x = none := by
  intro x hx
  rcases List.mem_cons.mp hx with rfl | hmem
  · exact promptOf_plain he hp
  · exact hu x hmem

theorem origin_cons {amountUsd : ℚ} (ho : Origin venue cfg u amountUsd L L') :
    Origin venue cfg u amountUsd (e :: L) L' := by
  cases ho with
  | code hopen hu hname hpending haccepted =>
    exact .code (opened_cons hopen) hu hname hpending haccepted
  | entry ha => exact .entry (amountEntry_cons ha)
  | command hopen hname => exact .command (opened_cons hopen) hname
  | button hopen => exact .button (opened_cons hopen)

theorem vetted_cons {amountUsd : ℚ} (hv : Vetted venue cfg u amountUsd L) :
    Vetted venue cfg u amountUsd (e :: L) := by
  cases hv with
  | entry ha => exact .entry (amountEntry_cons ha)
  | prompted hopen hpending => exact .prompted (opened_cons hopen) hpending
  | checked hsuffix hpassed => exact .checked (hsuffix.trans (List.suffix_cons ..)) hpassed

theorem ordered_cons {amountUsd : ℚ} {destination : Address}
    (he : e.fiber = some .telegram) (hp : Plain e)
    (ho : Ordered venue cfg u amountUsd destination L) :
    Ordered venue cfg u amountUsd destination (e :: L) := by
  obtain ⟨hspeaks, hadmitted, ⟨w, ms, L', hsuffix, hcleared, hdest, horigin⟩, hvetted,
    hunprompted⟩ := ho
  exact ⟨speaker_cons hspeaks, admitted_cons hadmitted, ⟨w, ms, L',
    hsuffix.trans (List.suffix_cons ..), hcleared, hdest, origin_cons horigin⟩,
    vetted_cons hvetted, unprompted_cons he hp hunprompted⟩

theorem priced_cons {navPerShare : ℚ} (hp : Priced venue cfg navPerShare L) :
    Priced venue cfg navPerShare (e :: L) := by
  obtain ⟨nav, s, L₀, s', L', hsuffix, hran, hnav⟩ := hp
  exact ⟨nav, s, L₀, s', L', hsuffix.trans (List.suffix_cons ..), hran, hnav⟩

/-- The chat is busy with a message or a button press of this user, and has not asked for a
confirmation yet. -/
def Session (u : TelegramId) (p : JournalPoint) : Prop :=
  speaker (own .telegram p.2) = some u ∧ ∀ e ∈ own .telegram p.2, promptOf e = none

def Welcome (venue : Venue) (cfg : BotConfig) (u : TelegramId) (p : JournalPoint) : Prop :=
  Session u p ∧ Admitted venue cfg u (own .telegram p.2)

def Granted (venue : Venue) (cfg : BotConfig) (u : TelegramId) (p : JournalPoint) : Prop :=
  Authorized venue cfg u (own .telegram p.2) ∧ Enrolled u p.1.db

theorem steady_session : Steady venue cfg env .telegram (Session u) :=
  steady_own (F := fun L => speaker L = some u ∧ ∀ e ∈ L, promptOf e = none) (by decide)
    fun _ _ he hp hs => ⟨speaker_cons hs.1, unprompted_cons he hp hs.2⟩

theorem steady_admitted :
    Steady venue cfg env .telegram fun p => Admitted venue cfg u (own .telegram p.2) :=
  steady_own (F := Admitted venue cfg u) (by decide) fun _ _ _ _ ha => admitted_cons ha

theorem steady_welcome : Steady venue cfg env .telegram (Welcome venue cfg u) :=
  steady_session.and steady_admitted

theorem steady_granted : Steady venue cfg env .telegram (Granted venue cfg u) :=
  (steady_own (F := Authorized venue cfg u) (by decide) fun _ _ _ _ ha => authorized_cons ha).and
    steady_enrolled

/-- The lines end with the reading at which the code was accepted or the window found open,
and nobody's account has changed since. -/
def Fresh (venue : Venue) (cfg : BotConfig) (u : TelegramId) (p : JournalPoint) : Prop :=
  ∃ w ms, Cleared venue cfg u w ms (own .telegram p.2) ∧ accounts p.1.db = accounts w.db

structure Proven (venue : Venue) (cfg : BotConfig) (u : TelegramId) (p : JournalPoint) : Prop where
  accepted : Accepted venue cfg u (own .telegram p.2)
  fresh : Fresh venue cfg u p

theorem granted_of_fresh (hw : Welcome venue cfg u p) (hf : Fresh venue cfg u p) (he : Enrolled u p.1.db) :
    Granted venue cfg u p := by
  obtain ⟨w, ms, hcleared, -⟩ := hf
  exact ⟨⟨hw.1.1, hw.2, w, ms, _, List.suffix_rfl, hcleared⟩, he⟩

theorem own_clock {ms : ℤ} : own .telegram (.choice .telegram Choice.clock w ms :: h : Journal) =
    .choice .telegram Choice.clock w ms :: own .telegram h := own_choice

theorem followed_now (hA : Steady venue cfg env .telegram A) :
    Followed venue cfg env .telegram A now (fun ms p => A p ∧ ∃ L,
      own .telegram p.2 = .choice .telegram Choice.clock p.1 ms :: L) A := by
  refine triple_choose (I := vaultInterface) (c := Choice.clock) ?_
  intro w h ms _ ha _
  refine ⟨told rfl rfl rfl trivial, hA.tell rfl rfl trivial ha, own .telegram h, ?_⟩
  exact own_choice

theorem isLockedOut_done (u : TelegramId) (ms : ℤ) (w : World) :
    ∃ r m, isLockedOut u ms w = .done (.ok r) (w.withMemory m) ∧
      m.pending = w.memory.pending ∧ m.unlockedUntil = w.memory.unlockedUntil ∧
      (r = none → ¬Locked u ms w.memory) := by
  cases hl : w.memory.lockedUntil u with
  | none =>
    refine ⟨none, w.memory, ?_, rfl, rfl, ?_⟩
    · simp only [isLockedOut, readMemory, Async.read, bind_apply, Run.bind, hl]
      rfl
    · rintro - ⟨until_, hu, -⟩
      rw [hl] at hu
      cases hu
  | some until_ =>
    by_cases hms : ms < until_
    · refine ⟨some until_, w.memory, ?_, rfl, rfl, ?_⟩
      · simp only [isLockedOut, readMemory, Async.read, bind_apply, Run.bind, hl, if_pos hms]
        rfl
      · intro hnone
        cases hnone
    · let m := { w.memory with lockedUntil := Function.update w.memory.lockedUntil u none }
      refine ⟨none, m, ?_, rfl, rfl, ?_⟩
      · simp only [isLockedOut, readMemory, Async.read, bind_apply, Run.bind, hl, if_neg hms]
        rfl
      · rintro - ⟨until', hu, hlt⟩
        rw [hl] at hu
        cases hu
        exact hms hlt

theorem withMemory_minor {m : Memory} (hp : m.pending = w.memory.pending)
    (hu : m.unlockedUntil = w.memory.unlockedUntil) : Minor w (w.withMemory m) :=
  ⟨⟨rfl, rfl, rfl, rfl, rfl, rfl⟩, hp, hu⟩

theorem rejectIfLocked_ran (deps : CommandsDeps) (chatId : ℤ) {ms : ℤ} {m : Memory} {L₀ : Journal}
    (hfree : isLockedOut u ms w = .done (.ok none) (w.withMemory m)) :
    Ran .telegram (rejectIfLocked deps chatId u w) L₀ (.ok false) (w.withMemory m)
      (.choice .telegram Choice.clock w ms :: L₀) := by
  refine Ran.sync (o := ms) ?_
  change Ran Fiber.telegram ((isLockedOut u ms w).bind _) _ _ _ _
  rw [hfree]
  exact Ran.done _ _ _

theorem rejectIfLocked_followed (hA : Steady venue cfg env .telegram A) (chatId : ℤ)
    (u : TelegramId) :
    Followed venue cfg env .telegram A (rejectIfLocked (commandsDeps venue cfg) chatId u)
      (fun rejected p => A p ∧ (rejected = false → Admitted venue cfg u (own .telegram p.2))) A := by
  refine (followed_now hA).bind fun ms => ?_
  have hlook : Followed venue cfg env .telegram
      (fun p => A p ∧ ∃ L, own .telegram p.2 = .choice .telegram Choice.clock p.1 ms :: L)
      (isLockedOut u ms)
      (fun r p => A p ∧ (r = none → Admitted venue cfg u (own .telegram p.2))) A := by
    apply triple_done
    rintro w h - ⟨ha, L, hL⟩
    obtain ⟨r, m, hrun, hp, hu, hfree⟩ := isLockedOut_done u ms w
    have hm := withMemory_minor hp hu
    refine ⟨r, _, hrun, minored hm, hA.alike hm.toAlike ha, ?_⟩
    rintro rfl
    refine ⟨chatId, w, L, ms, w.withMemory m, ?_, rejectIfLocked_ran _ chatId hrun, hfree rfl⟩
    rw [hL]
  refine hlook.bind ?_
  rintro (_ | until_)
  · exact triple_pure fun p hp => ⟨hp.1, fun _ => hp.2 rfl⟩
  · have hreply : Passed venue cfg env .telegram A (reply chatId (.lockedFor (until_ - ms))) :=
      reply_passed hA (by trivial) chatId
    refine Triple.bind (Triple.mono hreply (fun _ hp => hp.1) (fun _ _ ha => ha) fun _ ha => ha) ?_
    intro _
    exact triple_pure fun p ha => ⟨ha, fun hf => by cases hf⟩

/-- The latest line is a reading at which the unlock window was found open. -/
def Unlocked (u : TelegramId) (p : JournalPoint) : Prop :=
  ∃ (w : World) (ms until_ : ℤ) (L : Journal),
    own .telegram p.2 = .choice .telegram Choice.clock w ms :: L ∧
    w.memory.unlockedUntil u = some until_ ∧ ms < until_ ∧ accounts p.1.db = accounts w.db

theorem fresh_of_unlocked (hu : Unlocked u p) : Fresh venue cfg u p := by
  obtain ⟨w, ms, until_, L, hL, hopen, hlt, haccounts⟩ := hu
  refine ⟨w, ms, ?_, haccounts⟩
  rw [hL]
  exact .unlocked hopen hlt

theorem isUnlocked_followed (hA : Steady venue cfg env .telegram A) (u : TelegramId) :
    Followed venue cfg env .telegram A (isUnlocked u)
      (fun unlocked p => A p ∧ (unlocked = true → Unlocked u p)) A := by
  refine followed_readMemory.bind ?_
  rintro (_ | until_)
  · exact triple_pure fun p hp => ⟨hp.1, fun hf => by cases hf⟩
  · have hread : Followed venue cfg env .telegram
        (fun p => A p ∧ p.1.memory.unlockedUntil u = some until_) now
        (fun ms p => A p ∧ p.1.memory.unlockedUntil u = some until_ ∧
          ∃ L, own .telegram p.2 = .choice .telegram Choice.clock p.1 ms :: L) A := by
      refine triple_choose (I := vaultInterface) (c := Choice.clock) ?_
      rintro w h ms - ⟨ha, hu⟩ -
      exact ⟨told rfl rfl rfl trivial, hA.tell rfl rfl trivial ha, hu, _, own_choice⟩
    refine hread.bind fun ms => triple_pure ?_
    rintro p ⟨ha, hu, L, hL⟩
    exact ⟨ha, fun hopen => ⟨p.1, ms, until_, L, hL, hu, of_decide_eq_true hopen, rfl⟩⟩

theorem verifyCode_passed (hA : Steady venue cfg env .telegram A) (secret code : String)
    (lastUsedCounter : Option ℤ) :
    Passed venue cfg env .telegram A (verifyCode secret code lastUsedCounter) := by
  apply keeps_ite
  · refine (passed_choose (c := .totpValidate secret code) hA fun _ _ _ => trivial).bind ?_
    intro delta
    cases (delta : Option ℤ) with
    | none => exact keeps_pure
    | some delta =>
      refine Keeps.bind ((now_passed hA).bind fun _ => keeps_pure) fun counter => ?_
      exact keeps_ite keeps_pure keeps_pure
  · exact keeps_pure

theorem verifyTotp_followed (hA : Steady venue cfg env .telegram A) (u : TelegramId)
    (code : String) :
    Followed venue cfg env .telegram A (verifyTotp u code)
      (fun right p => A p ∧ (right = true → Enrolled u p.1.db)) A := by
  refine followed_readDb.bind fun user => ?_
  cases hen : enrolled user with
  | none => exact triple_pure fun p hp => ⟨hp.1, fun hf => by cases hf⟩
  | some row =>
    have hAE : Steady venue cfg env .telegram (fun p => A p ∧ Enrolled u p.1.db) :=
      hA.and steady_enrolled
    have henrolled : ∀ p : JournalPoint, A p ∧ getUser u p.1.db = user → A p ∧ Enrolled u p.1.db := by
      rintro p ⟨ha, rfl⟩
      exact ⟨ha, (enrolled_getUser hen).2⟩
    refine Triple.mono (A := fun p => A p ∧ Enrolled u p.1.db)
      (B := fun _ p => A p ∧ Enrolled u p.1.db) (E := fun p => A p ∧ Enrolled u p.1.db) ?_
      henrolled (fun _ p hp => ⟨hp.1, fun _ => hp.2⟩) fun p hp => hp.1
    refine Keeps.bind keeps_read fun secrets => ?_
    cases secrets.bind UserSecrets.totpSecretEnc with
    | none => exact keeps_pure
    | some secretEnc =>
      refine (decryptSecret_passed hAE secretEnc).bind fun secret => ?_
      refine (verifyCode_passed hAE _ code row.totpLastUsedCounter).bind fun result => ?_
      cases result with
      | ok counter => exact (setTotpLastCounter_passed hAE counter).bind fun _ => keeps_pure
      | badFormat => exact keeps_pure
      | invalid => exact keeps_pure
      | replay counter => exact keeps_pure

theorem recordFailure_passed (hA : Steady venue cfg env .telegram A) (limits : RateLimits)
    (u : TelegramId) (ms : ℤ) : Passed venue cfg env .telegram A (recordFailure limits u ms) := by
  refine Keeps.bind keeps_read fun prior => ?_
  apply keeps_ite
  · refine Keeps.bind (passed_memory hA ?_ ?_) fun _ => keeps_pure
    · intro m
      rfl
    · intro m
      rfl
  · refine Keeps.bind (passed_memory hA ?_ ?_) fun _ => keeps_pure
    · intro m
      rfl
    · intro m
      rfl

theorem recordVerifyFailure_followed (hA : Steady venue cfg env .telegram A) (u : TelegramId)
    (op : TotpOp) (ms : ℤ) :
    Followed venue cfg env .telegram A (recordVerifyFailure (commandsDeps venue cfg) u op ms)
      (fun gate p => A p ∧ gate ≠ .ok) A := by
  refine Triple.bind (recordFailure_passed hA _ u ms) fun lockedUntil => ?_
  refine Triple.bind (writeAudit_passed hA (fun _ _ _ => rfl) ms (some u)) fun _ => ?_
  cases lockedUntil with
  | none => exact triple_pure fun p ha => ⟨ha, by simp⟩
  | some until_ =>
    refine Triple.bind (writeAudit_passed hA (fun _ _ _ => rfl) ms (some u)) fun _ => ?_
    exact triple_pure fun p ha => ⟨ha, by simp⟩

def cleared (u : TelegramId) (m : Memory) : Memory := { m with
  failures := Function.update m.failures u none
  lockedUntil := Function.update m.lockedUntil u none }

theorem verifyTotpGated_ran (deps : CommandsDeps) {code : String} (op : TotpOp) {s₀ s₂ : World}
    {L₀ L₂ : Journal} {ms : ℤ} (ms' : ℤ) {m : Memory}
    (hfree : isLockedOut u ms s₀ = .done (.ok none) (s₀.withMemory m))
    (hran : Ran .telegram (verifyTotp u code (s₀.withMemory m))
      (.choice .telegram Choice.clock s₀ ms :: L₀) (.ok true) s₂ L₂) :
    ∃ s, Ran .telegram (verifyTotpGated deps u code op s₀) L₀ (.ok .ok) s
      (.choice .telegram Choice.clock (s₂.withMemory (cleared u s₂.memory)) ms' :: L₂) := by
  let s₃ := s₂.withMemory (cleared u s₂.memory)
  refine ⟨s₃.withMemory (withUnlocked u (ms' + totpUnlockMs) s₃.memory), ?_⟩
  refine Ran.sync (o := ms) ?_
  change Ran Fiber.telegram ((isLockedOut u ms s₀).bind _) _ _ _ _
  rw [hfree]
  apply Ran.bind (Ran.done _ _ _)
  apply Ran.bind hran
  exact Ran.sync (o := ms') (Ran.done _ _ _)

theorem verifyTotpGated_followed (hA : Steady venue cfg env .telegram A)
    (hopen : ∀ p, A p → ∃ w₀, Opened (.message msg) w₀ (own .telegram p.2)) (op : TotpOp) :
    Followed venue cfg env .telegram A
      (verifyTotpGated (commandsDeps venue cfg) msg.userId (TextInput.trim msg.text) op)
      (fun gate p => A p ∧ (gate = .ok → Enrolled msg.userId p.1.db ∧
        Proven venue cfg msg.userId p)) A := by
  apply triple_at
  intro s₀ h₀ _ ha₀
  have hclock : Followed venue cfg env .telegram (fun p => p = (s₀, h₀)) now
      (fun ms p => p = (s₀, .choice .telegram Choice.clock s₀ ms :: h₀)) A := by
    refine triple_choose (I := vaultInterface) (c := Choice.clock) ?_
    rintro w h ms - hp -
    cases hp
    exact ⟨told rfl rfl rfl trivial, rfl⟩
  refine hclock.bind fun ms => ?_
  have ha₁ : A (s₀, .choice .telegram Choice.clock s₀ ms :: h₀) := hA.tell rfl rfl trivial ha₀
  obtain ⟨r, m, hrun, hpending, hunlocked, -⟩ := isLockedOut_done msg.userId ms s₀
  have hm := withMemory_minor hpending hunlocked
  have ha₂ : A (s₀.withMemory m, .choice .telegram Choice.clock s₀ ms :: h₀) :=
    hA.alike hm.toAlike ha₁
  have hlook : Followed venue cfg env .telegram
      (fun p => p = (s₀, .choice .telegram Choice.clock s₀ ms :: h₀)) (isLockedOut msg.userId ms)
      (fun r' p => r' = r ∧ p = (s₀.withMemory m, .choice .telegram Choice.clock s₀ ms :: h₀))
      A := by
    apply triple_done
    rintro w h - hp
    cases hp
    exact ⟨r, _, hrun, minored hm, rfl, rfl⟩
  refine hlook.bind fun r' => triple_of_fact fun hr => ?_
  subst hr
  cases r' with
  | some until_ =>
    apply triple_pure
    rintro p rfl
    exact ⟨ha₂, fun hf => by cases hf⟩
  | none =>
    have hverify := Triple.ran (fun p q hr => rely_own (by decide) hr)
      (Triple.mono (verifyTotp_followed hA msg.userId (TextInput.trim msg.text))
        (P := fun p => p = (s₀.withMemory m, .choice .telegram Choice.clock s₀ ms :: h₀))
        (by rintro p rfl; exact ha₂) (fun _ _ hb => hb) fun _ he => he)
    refine hverify.bind fun right => ?_
    cases right with
    | false =>
      refine Triple.mono (recordVerifyFailure_followed hA msg.userId op ms) (fun p hp => hp.1.1)
        ?_ fun _ he => he
      rintro gate p ⟨ha, hne⟩
      exact ⟨ha, fun hf => absurd hf hne⟩
    | true =>
      apply triple_at
      rintro s₂ h₂ - ⟨⟨ha, hen⟩, p₀, rfl, hran⟩
      have hen := hen rfl
      let s₃ := s₂.withMemory (cleared msg.userId s₂.memory)
      have hm₃ : Minor s₂ s₃ := withMemory_minor rfl rfl
      have hsuccess : Followed venue cfg env .telegram (fun p => p = (s₂, h₂))
          (recordSuccess msg.userId) (fun _ p => p = (s₃, h₂)) A := by
        apply triple_modify
        rintro w h - hp
        cases hp
        exact ⟨minored hm₃, rfl⟩
      have hreread : Followed venue cfg env .telegram (fun p => p = (s₃, h₂)) now
          (fun ms' p => p = (s₃, .choice .telegram Choice.clock s₃ ms' :: h₂)) A := by
        refine triple_choose (I := vaultInterface) (c := Choice.clock) ?_
        rintro w h ms' - hp -
        cases hp
        exact ⟨told rfl rfl rfl trivial, rfl⟩
      have ha₃ : A (s₃, h₂) := hA.alike hm₃.toAlike ha
      have hunlock : Followed venue cfg env .telegram (fun p => p = (s₃, h₂))
          (setUnlocked msg.userId) (fun _ p => A p ∧ Enrolled msg.userId p.1.db ∧
            Proven venue cfg msg.userId p) A := by
        refine hreread.bind fun ms' => ?_
        apply triple_modify
        rintro w h - hp
        cases hp
        have ha₄ : A (s₃, .choice .telegram Choice.clock s₃ ms' :: h₂) := hA.tell rfl rfl trivial ha₃
        have haccepted : Accepted venue cfg msg.userId
            (own .telegram (.choice .telegram Choice.clock s₃ ms' :: h₂)) := by
          obtain ⟨w₀, hopened⟩ := hopen _ ha₄
          simp only [own_clock] at hran
          obtain ⟨s, hgated⟩ := verifyTotpGated_ran (commandsDeps venue cfg) op ms' hrun hran
          rw [← own_clock] at hgated
          exact ⟨msg, op, w₀, s₀, _, s, hopened, rfl, hgated⟩
        let s₄ := s₃.withMemory (withUnlocked msg.userId (ms' + totpUnlockMs) s₃.memory)
        have hchange : Permitted venue cfg .telegram s₃
            (.choice .telegram Choice.clock s₃ ms' :: h₂)
            (.setUnlocked msg.userId (ms' + totpUnlockMs)) :=
          ⟨rfl, s₃, ms', _, own_choice, haccepted, rfl⟩
        have halike : Alike s₃ s₄ := ⟨rfl, rfl, rfl, rfl, rfl, rfl⟩
        refine ⟨changed _ hchange, hA.alike halike ha₄, hen, haccepted, s₃, ms', ?_, rfl⟩
        simp only [own_clock] at haccepted ⊢
        exact .accepted haccepted
      refine hsuccess.bind fun _ => hunlock.bind fun _ => triple_pure ?_
      rintro p ⟨ha, hen, hproven⟩
      exact ⟨ha, fun _ => ⟨hen, hproven⟩⟩

end ChatSessions
