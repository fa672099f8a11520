import BertMMBot.PlayedJournals

/-! # What a code opens, and what a reset closes

The privileged actions of the chat are lines of its journal. Each has an accepted code of its
user behind it, given in the same message or less than an unlock window earlier; after a
reset there is none until a new enrolment, lapsed sessions apart. -/
namespace TotpGating

open AsyncProgram AsyncContract AsyncFibers AsyncRecords RecordedTriples KeyedTable
open VaultTypes VaultProgram DepositorStore DepositorCommands
open VaultJournal JournalMachine JournalTriples JournalLaws
open VaultDiscipline (Environment)
open LedgerMachine (Fiber)
open MeteoraPosition (Venue)
open VaultRuntime (BotConfig commandsDeps)
open PlayedRuns (plainVenue plainConfig oneSol)
open PlayedJournals

variable {venue : Venue} {cfg : BotConfig} {env : Environment} {i : Fiber} {w w' : World}
  {h h' newer older : Journal} {p : JournalPoint} {u v : TelegramId} {e : Line} {db : Db}

/-- The line does something that only its user may ask for. -/
inductive Performs (u : TelegramId) (h : Journal) : Line → Prop where
  | depositReveal (i : Fiber) (chatId : ℤ) {address : Address} {w : World} : Owns u address w.db →
      Performs u h (.call i (Query.reply chatId (.depositAddress address)) w)
  | balanceReveal (i : Fiber) (chatId : ℤ) (shares usd navPerShare : ℚ) (w : World) :
      speaker (own .telegram h) = some u →
      Performs u h (.call i (Query.reply chatId (.balance shares usd navPerShare)) w)
  | enqueueWithdrawal (i : Fiber) (shares : ℚ) (w : World) (o : Option Thrown) :
      Performs u h (.choice i (Choice.statement (.enqueueWithdrawal u shares)) w o)
  | enqueueWhitelistChange (i : Fiber) (w : World) (o : Option Thrown) :
      Performs u h (.choice i (Choice.statement (.enqueueWhitelistChange u)) w o)
  | cancelPendingWhitelist (i : Fiber) {w : World} {c : WhitelistChangeRow} (o : Option Thrown) :
      c ∈ w.db.whitelistChanges → c.telegramId = u →
      Performs u h (.choice i (Choice.statement (.cancelPendingWhitelist c.id)) w o)

theorem performs_promptOf (hp : Performs u h e) : promptOf e = none := by
  cases hp with
  | depositReveal i => cases i <;> rfl
  | balanceReveal i => cases i <;> rfl
  | enqueueWithdrawal => rfl
  | enqueueWhitelistChange => rfl
  | cancelPendingWhitelist => rfl

theorem owns_unique {w : World} (ht : Tidy w) {address : Address} (hu : Owns u address w.db)
    (hv : Owns v address w.db) : u = v := by
  obtain ⟨a, ha, rfl, hadda⟩ := hu
  obtain ⟨b, hb, rfl, haddb⟩ := hv
  rw [keyed_unique ht.addresses ha hb (hadda.trans haddb.symm)]

theorem performs_authorized {P : JournalPoint → Prop} (hs : Stood venue cfg P older e)
    (hp : Performs u older e) : Authorized venue cfg u (own .telegram older) ∧
      (Enrolled u e.state.db ∨ Lapsed u (own .telegram older)) := by
  have hg := hs.guarded
  cases hp with
  | depositReveal _ _ howns =>
    obtain ⟨-, v, hauthorized, hen, hv⟩ := hg
    obtain rfl := owns_unique hs.tidy howns hv
    exact ⟨hauthorized, .inl hen⟩
  | balanceReveal _ _ _ _ _ _ hspeaks =>
    obtain ⟨-, v, hauthorized, hen⟩ := hg
    obtain rfl := Option.some.inj (hspeaks.symm.trans hauthorized.speaks)
    exact ⟨hauthorized, .inl hen⟩
  | enqueueWithdrawal => exact ⟨hg.2.1, hg.2.2⟩
  | enqueueWhitelistChange => exact ⟨hg.2.1, .inl hg.2.2⟩
  | cancelPendingWhitelist _ _ hc hu =>
    obtain ⟨-, c', hc', hid, hauthorized, hen⟩ := hg
    obtain rfl := keyed_unique hs.tidy.changes hc' hc hid
    subst hu
    exact ⟨hauthorized, .inl hen⟩

/-- A code of the user was accepted, and the window of that reading ends at `until_`. -/
def OpenedBy (venue : Venue) (cfg : BotConfig) (u : TelegramId) (until_ : ℤ) (h : Journal) :
    Prop :=
  ∃ (newer : Journal) (w : World) (ms : ℤ) (older : Journal),
    h = newer ++ .choice .telegram Choice.clock w ms :: older ∧
    Accepted venue cfg u (.choice .telegram Choice.clock w ms :: own .telegram older) ∧
    until_ = ms + totpUnlockMs

theorem openedBy_cons {until_ : ℤ} (ho : OpenedBy venue cfg u until_ h) :
    OpenedBy venue cfg u until_ (e :: h) := by
  obtain ⟨newer, w, ms, older, rfl, hrest⟩ := ho
  exact ⟨e :: newer, w, ms, older, rfl, hrest⟩

theorem windows_opened : Preserved venue cfg
    fun p => ∀ u until_, p.1.memory.unlockedUntil u = some until_ →
      OpenedBy venue cfg u until_ p.2 where
  initial _ u until_ hu := by cases hu
  line e _ _ _ h u until_ hu := openedBy_cons (h u until_ hu)
  minor hm h := by
    rw [hm.unlockedUntil]
    exact h
  change {i w h₀} c _ hc h := by
    intro u until_ hu
    cases c with
    | setUnlocked v until' =>
      by_cases hv : u = v
      · subst v
        obtain ⟨-, w₁, ms, L, hown, haccepted, rfl⟩ := hc
        obtain ⟨newer, older, rfl, rfl⟩ := own_split (hown.trans (List.nil_append _).symm) rfl
        rw [hown] at haccepted
        simp only [Change.apply, World.withMemory_memory, withUnlocked, Function.update_self,
          Option.some.injEq] at hu
        exact ⟨newer, w₁, ms, older, rfl, haccepted, hu.symm⟩
      · simp only [Change.apply, World.withMemory_memory, withUnlocked,
          Function.update_of_ne hv] at hu
        exact h u until_ hu
    | _ => exact h u until_ hu
  prompt _ _ _ h u until_ hu := openedBy_cons (h u until_ hu)
  restart _ u until_ hu := by cases hu

/-- The session accepted a code of the user, or found the window open that an earlier code
had opened less than an unlock time before. -/
def Gated (venue : Venue) (cfg : BotConfig) (u : TelegramId) (h : Journal) : Prop :=
  (∃ L, L <:+ own .telegram h ∧ Accepted venue cfg u L) ∨
    ∃ (w : World) (ms : ℤ) (newer older : Journal),
      h = newer ++ .choice .telegram Choice.clock w ms :: older ∧
      .choice .telegram Choice.clock w ms :: own .telegram older <:+ own .telegram h ∧
      ∃ (newer' : Journal) (w' : World) (ms' : ℤ) (older' : Journal),
        older = newer' ++ .choice .telegram Choice.clock w' ms' :: older' ∧
        Accepted venue cfg u (.choice .telegram Choice.clock w' ms' :: own .telegram older') ∧
        ms' ≤ ms ∧ ms < ms' + totpUnlockMs

/-- Whatever is revealed, queued, requested or cancelled for a user was opened by a code of
that user, and admitted while the rate limiter held nobody off. -/
theorem privileged_gated (hj : Journaled venue cfg env.host p) (hclock : Ticking p.2)
    (hsplit : p.2 = newer ++ e :: older) (hp : Performs u older e) :
    speaker (own .telegram older) = some u ∧ Admitted venue cfg u (own .telegram older) ∧
      Gated venue cfg u older := by
  have hstood := journaled_line windows_opened hj hsplit (performs_promptOf hp)
  obtain ⟨hspeaks, hadmitted, w, ms, L', hsuffix, hcleared⟩ := (performs_authorized hstood hp).1
  refine ⟨hspeaks, hadmitted, ?_⟩
  cases hcleared with
  | accepted haccepted => exact .inl ⟨_, hsuffix, haccepted⟩
  | @unlocked L until_ hopen hlt =>
    obtain ⟨l, hl⟩ := hsuffix
    obtain ⟨newer₁, older₁, rfl, rfl⟩ := own_split hl.symm rfl
    have hread : p.2 = (newer ++ e :: newer₁) ++
        .choice .telegram Choice.clock w ms :: older₁ := by
      rw [hsplit]
      simp
    have hwindow := (journaled_line windows_opened hj hread rfl).held u until_ hopen
    obtain ⟨newer₂, w₂, ms₂, older₂, rfl, haccepted, rfl⟩ := hwindow
    have hreading : Reading ms₂ (newer₂ ++ .choice .telegram Choice.clock w₂ ms₂ :: older₂) :=
      ⟨.telegram, w₂, by simp⟩
    exact .inr ⟨w, ms, newer₁, _, rfl, ⟨l, hl⟩, newer₂, w₂, ms₂, older₂, rfl, haccepted,
      ticking_reading hclock hread hreading, hlt⟩

def queues (u : TelegramId) : Line → Bool
  | .choice _ (Choice.statement (.enqueueWithdrawal v _)) _ _ => v = u
  | _ => false

theorem queues_performs (he : queues u e = true) : Performs u h e := by
  unfold queues at he
  split at he
  · obtain rfl := of_decide_eq_true he
    exact .enqueueWithdrawal ..
  · cases he

/-- In a played run a withdrawal is queued two and a half minutes after the code. -/
theorem privileged_gated_withdrawing : ∃ newer e older,
    (withdrawing.point plainVenue plainConfig oneSol).2 = newer ++ e :: older ∧
      Performs 2 older e ∧ speaker (own .telegram older) = some 2 ∧
      Admitted plainVenue plainConfig 2 (own .telegram older) ∧
      Gated plainVenue plainConfig 2 older := by
  have hany : (withdrawing.point plainVenue plainConfig oneSol).2.any (queues 2) = true := by
    decide +kernel
  obtain ⟨newer, e, older, hsplit, he⟩ := any_split hany
  have hp : Performs 2 older e := queues_performs he
  exact ⟨newer, e, older, hsplit, hp,
    privileged_gated (played_journaled _ _ _ _) (by decide +kernel) hsplit hp⟩

theorem change_enrolled {c : Change} (hc : Permitted venue cfg i w h c)
    (hen : Enrolled u (c.apply w).db) : Enrolled u w.db ∨ Confirms u w h := by
  cases c with
  | addUser row =>
    obtain ⟨-, -, hfresh, hnone, -⟩ := hc
    obtain ⟨a, ha, hae⟩ := hen
    simp only [Change.apply, World.withDb_db, accountOf, accounts, List.map_append] at ha
    by_cases hu : u = row.telegramId
    · subst u
      have hlast := lookup_append_fresh (a := account row)
        (lookup_none.mpr fun x hx => (hfresh x hx).1)
      obtain rfl := Option.some.inj (hlast.symm.trans ha)
      simp [Account.isEnrolled, account, hnone] at hae
    · exact .inl ⟨a, (lookup_append_of_ne (a := account row) hu).symm.trans ha, hae⟩
  | setEnrolment v enrolledAt =>
    by_cases hv : u = v
    · subst v
      rcases hc.2 with rfl | rfl | hconfirms
      · obtain ⟨a, ha, hae⟩ := hen
        simp only [Change.apply, World.withDb_db, accountOf, accounts_enrol] at ha
        rw [lookup_amend_self (f := Account.enrol none) fun _ => rfl] at ha
        obtain ⟨b, -, rfl⟩ := Option.map_eq_some_iff.mp ha
        simp [Account.isEnrolled, Account.enrol] at hae
      · obtain ⟨a, ha, hae⟩ := hen
        simp only [Change.apply, World.withDb_db, accountOf, accounts_enrol] at ha
        rw [lookup_amend_self (f := Account.enrol (some 0)) fun _ => rfl] at ha
        obtain ⟨b, -, rfl⟩ := Option.map_eq_some_iff.mp ha
        simp [Account.isEnrolled, Account.enrol] at hae
      · exact .inr hconfirms
    · obtain ⟨a, ha, hae⟩ := hen
      simp only [Change.apply, World.withDb_db, accountOf, accounts_enrol] at ha
      rw [lookup_amend_of_ne (f := Account.enrol enrolledAt) (fun _ => rfl) hv] at ha
      exact .inl ⟨a, ha, hae⟩
  | firstWhitelist c =>
    exact .inl ((enrolled_amend (accounts_whitelist c.newAddress _) (fun _ => rfl)
      fun _ => rfl).mp hen)
  | activateWhitelist c =>
    exact .inl ((enrolled_amend (accounts_whitelist c.newAddress w.db) (fun _ => rfl)
      fun _ => rfl).mp hen)
  | _ => exact .inl hen

def isCall : Line → Bool
  | .call .. => true
  | _ => false

/-- Since a part of the journal the user has confirmed a new setup code. -/
def Reenrolled (u : TelegramId) (newer older : Journal) : Prop :=
  ∃ newer₁ w newer₂, newer = newer₁ ++ .choice .telegram (Choice.statement (.setTotp u)) w
      (none : Option Thrown) :: newer₂ ∧
    Confirms u w (.choice .telegram (Choice.statement (.setTotp u)) w (none : Option Thrown) ::
      (newer₂ ++ older))

theorem reenrolled_cons (hr : Reenrolled u newer older) : Reenrolled u (e :: newer) older := by
  obtain ⟨newer₁, w, newer₂, rfl, hconfirms⟩ := hr
  exact ⟨e :: newer₁, w, newer₂, rfl, hconfirms⟩

theorem enrolled_since : Preserved venue cfg
    fun p => ∀ (newer : Journal) (x : Line) (older : Journal), p.2 = newer ++ x :: older →
      isCall x = true → ¬Enrolled u x.state.db → Enrolled u p.1.db →
      Reenrolled u newer (x :: older) where
  initial _ newer x older hsplit := by simp at hsplit
  line e _ hstate _ h := by
    intro newer x older hsplit hx hnot hen
    cases newer with
    | nil =>
      obtain ⟨rfl, rfl⟩ := List.cons.inj hsplit
      rw [hstate] at hnot
      exact absurd hen hnot
    | cons y newer =>
      obtain ⟨rfl, hdeeper⟩ := List.cons.inj hsplit
      exact reenrolled_cons (h newer x older hdeeper hx hnot hen)
  minor hm h newer x older hsplit hx hnot hen :=
    h newer x older hsplit hx hnot ((enrolled_alike hm.toAlike).mp hen)
  change {i w h₀} c _ hc h := by
    intro newer x older hsplit hx hnot hen
    rcases change_enrolled hc hen with hbefore | ⟨below, hbelow, hrest⟩
    · exact h newer x older hsplit hx hnot hbefore
    · have hsplit' : h₀ = newer ++ x :: older := hsplit
      rw [hbelow] at hsplit'
      cases newer with
      | nil =>
        obtain ⟨rfl, -⟩ := List.cons.inj hsplit'
        cases hx
      | cons y newer =>
        obtain ⟨rfl, rfl⟩ := List.cons.inj hsplit'
        exact ⟨[], w, newer, rfl, _, rfl, hrest⟩
  prompt {w h₀ v amountUsd destination notice} chatId _ _ h := by
    intro newer x older hsplit hx hnot hen
    cases newer with
    | nil =>
      obtain ⟨rfl, rfl⟩ := List.cons.inj hsplit
      exact absurd hen hnot
    | cons y newer =>
      obtain ⟨rfl, hdeeper⟩ := List.cons.inj hsplit
      exact reenrolled_cons (h newer x older hdeeper hx hnot hen)
  restart h := h

/-- A privileged action, or another reply that gives the balance of its user away: the refusal of
an amount beyond it, and the prompt for a share of it. -/
inductive Exercises (u : TelegramId) (h : Journal) : Line → Prop where
  | action {e : Line} : Performs u h e → Exercises u h e
  | refusal (i : Fiber) (chatId : ℤ) (userUsd : ℚ) (w : World) :
      speaker (own .telegram h) = some u →
      Exercises u h (.call i (Query.reply chatId (.amountExceedsBalance userUsd)) w)
  | prompt (chatId : ℤ) (amountUsd : ℚ) (destination : Address) (w : World) :
      speaker (own .telegram h) = some u →
      Exercises u h (.call .telegram (Query.reply chatId (.withdrawPrompt amountUsd destination)) w)

/-- A question for an amount is only answered by a user who is not enrolled any more while the
unlock window is shut, and with no more than the balance. -/
def NeverLapsed (venue : Venue) (cfg : BotConfig) (u : TelegramId) (h : Journal) : Prop :=
  ∀ h', h' <:+ h → ¬Lapsed u (own .telegram h') ∧ ¬Overdrawn venue cfg u (own .telegram h')

theorem exercises_enrolled {P : JournalPoint → Prop} (hP : Preserved venue cfg P)
    (hj : Journaled venue cfg env.host p) (hlapsed : NeverLapsed venue cfg u p.2)
    (hsplit : p.2 = newer ++ e :: older) (he : Exercises u older e) :
    ∃ w, w.db = e.state.db ∧ Enrolled u w.db ∧ P (w, older) := by
  have hnever := hlapsed older (by
    rw [hsplit]
    exact (List.suffix_cons ..).trans (List.suffix_append ..))
  cases he with
  | action hp =>
    have hstood := journaled_line hP hj hsplit (performs_promptOf hp)
    exact ⟨_, rfl, (performs_authorized hstood hp).2.resolve_right hnever.1, hstood.held⟩
  | refusal i chatId userUsd w hspeaks =>
    have hquiet : promptOf (.call i (Query.reply chatId (.amountExceedsBalance userUsd)) w) =
        none := by
      cases i <;> rfl
    have hstood := journaled_line hP hj hsplit hquiet
    obtain ⟨-, v, hv, hright⟩ := hstood.guarded
    obtain rfl := Option.some.inj (hspeaks.symm.trans hv)
    exact ⟨_, rfl, hright.resolve_right hnever.2, hstood.held⟩
  | prompt chatId amountUsd destination w hspeaks =>
    obtain ⟨v, w₀, notice, ⟨_, _, hdb, hline⟩, hv, ⟨_, _, hprompts⟩, hheld⟩ :=
      journaled_prompt hP hj hsplit (by simp [promptOf])
    obtain rfl := Option.some.inj (hspeaks.symm.trans hv)
    cases hprompts with
    | checked hen =>
      obtain ⟨-, -, rfl⟩ := Entry.call.inj hline
      exact ⟨w₀, hdb.symm, hen, hheld⟩
    | entry => cases hline

/-- What a reset closes stays closed until its user has confirmed a new setup code. -/
theorem reset_closes (hj : Journaled venue cfg env.host p)
    (hlapsed : NeverLapsed venue cfg u p.2) {chatId : ℤ} {mid : Journal} (hsplit : p.2 =
      newer ++ e :: (mid ++ .call .telegram (Query.reply chatId (.totpReset u)) w :: older))
    (he : Exercises u (mid ++ .call .telegram (Query.reply chatId (.totpReset u)) w :: older) e) :
    Reenrolled u mid (.call .telegram (Query.reply chatId (.totpReset u)) w :: older) := by
  obtain ⟨w', -, hen, hheld⟩ := exercises_enrolled (enrolled_since (u := u)) hj hlapsed hsplit he
  have hreset : p.2 = (newer ++ e :: mid) ++
      .call .telegram (Query.reply chatId (.totpReset u)) w :: older := by
    rw [hsplit]
    simp
  have hnot : ¬Enrolled u w.db := (journaled_line preserved_true hj hreset rfl).guarded
  exact hheld mid _ older rfl rfl hnot hen

def resets (u : TelegramId) : Line → Bool
  | .call .telegram (Query.reply _ (.totpReset v)) _ => v = u
  | _ => false

theorem resets_call (he : resets u e = true) :
    ∃ chatId w, e = .call .telegram (Query.reply chatId (.totpReset u)) w := by
  unfold resets at he
  split at he
  · obtain rfl := of_decide_eq_true he
    exact ⟨_, _, rfl⟩
  · cases he

def setsTotp (u : TelegramId) : Line → Bool
  | .choice .telegram (Choice.statement (.setTotp v)) _ _ => v = u
  | _ => false

theorem setsTotp_reenrolled (hr : Reenrolled u newer older) : newer.any (setsTotp u) = true := by
  obtain ⟨newer₁, w, newer₂, rfl, -⟩ := hr
  rw [List.any_eq_true]
  exact ⟨_, List.mem_append_right _ (List.mem_cons_self ..), decide_eq_true rfl⟩

/-- Below a line that `f` finds stands the reply to a reset; `g` finds nothing in between. -/
def sinceReset (u : TelegramId) (g : Line → Bool) : Journal → Bool
  | [] => false
  | e :: h => resets u e || (!g e && sinceReset u g h)

theorem sinceReset_split {g : Line → Bool} (hs : sinceReset u g h = true) :
    ∃ mid chatId w older,
      h = mid ++ .call .telegram (Query.reply chatId (.totpReset u)) w :: older ∧
        mid.any g = false := by
  induction h with
  | nil => cases hs
  | cons e h ih =>
    by_cases he : resets u e = true
    · obtain ⟨chatId, w, rfl⟩ := resets_call he
      exact ⟨[], chatId, w, h, rfl, rfl⟩
    · simp only [sinceReset, he, Bool.false_or, Bool.and_eq_true, Bool.not_eq_true'] at hs
      obtain ⟨mid, chatId, w, older, rfl, hnone⟩ := ih hs.2
      exact ⟨e :: mid, chatId, w, older, rfl, by simp [hs.1, hnone]⟩

/-- A line that `f` finds, with what stands below it as `sinceReset` says. -/
def findsSinceReset (u : TelegramId) (f g : Line → Bool) : Journal → Bool
  | [] => false
  | e :: h => (f e && sinceReset u g h) || findsSinceReset u f g h

theorem findsSinceReset_split {f g : Line → Bool} (hs : findsSinceReset u f g h = true) :
    ∃ newer e mid chatId w older, h =
      newer ++ e :: (mid ++ .call .telegram (Query.reply chatId (.totpReset u)) w :: older) ∧
        f e = true ∧ mid.any g = false := by
  induction h with
  | nil => cases hs
  | cons e h ih =>
    by_cases he : (f e && sinceReset u g h) = true
    · obtain ⟨hf, hreset⟩ := (Bool.and_eq_true ..).mp he
      obtain ⟨mid, chatId, w, older, rfl, hnone⟩ := sinceReset_split hreset
      exact ⟨[], e, mid, chatId, w, older, rfl, hf, hnone⟩
    · simp only [findsSinceReset, he, Bool.false_or] at hs
      obtain ⟨newer, x, mid, chatId, w, older, rfl, hrest⟩ := ih hs
      exact ⟨e :: newer, x, mid, chatId, w, older, rfl, hrest⟩

/-- The operator resets user 2 while the unlock window is open, and the user presses the
button for a custom amount. -/
def resetWithin : JournaledRun :=
  holding ++ [told 2150000 "/resettotp 2" 1, pressed 2160000 "wd:custom" 2, told 2170000 "50" 2]

/-- A withdrawal is queued after the reset, without a new enrolment. -/
theorem queued_after_reset : ∃ p newer e mid chatId w older,
    Journaled plainVenue plainConfig PlayedRuns.anyEnvironment.host p ∧ Ticking p.2 ∧
      p.2 = newer ++ e :: (mid ++ .call .telegram (Query.reply chatId (.totpReset 2)) w :: older) ∧
      Exercises 2 (mid ++ .call .telegram (Query.reply chatId (.totpReset 2)) w :: older) e ∧
      ¬Reenrolled 2 mid (.call .telegram (Query.reply chatId (.totpReset 2)) w :: older) := by
  have hfound : findsSinceReset 2 (queues 2) (setsTotp 2)
      (resetWithin.point plainVenue plainConfig oneSol).2 = true := by decide +kernel
  obtain ⟨newer, e, mid, chatId, w, older, hsplit, he, hnone⟩ := findsSinceReset_split hfound
  refine ⟨_, newer, e, mid, chatId, w, older, played_journaled _ _ _ _, by decide +kernel,
    hsplit, .action (queues_performs he), ?_⟩
  intro hr
  rw [setsTotp_reenrolled hr] at hnone
  cases hnone

/-- No session began as an answer to the question for an amount. -/
def asksNoAmount (u : TelegramId) : Line → Bool
  | .start _ _ w => w.memory.pending u ≠ some .withdrawAmountEntry
  | _ => true

theorem neverLapsed_of_all (hall : h.all (asksNoAmount u) = true) :
    NeverLapsed venue cfg u h := by
  intro h' hsuffix
  have hnone : ∀ {msg w}, Opened (.message msg) w (own .telegram h') →
      w.memory.pending u ≠ some .withdrawAmountEntry := by
    intro msg w hopen
    have hmem : (Entry.start .telegram (.message msg) w : Line) ∈ h :=
      hsuffix.subset (ChatJournal.mem_own (List.mem_of_getLast? hopen))
    exact of_decide_eq_true (List.all_eq_true.mp hall _ hmem)
  constructor
  · rintro ⟨⟨msg, w, hopen, -, -, hpending⟩, -⟩
    exact hnone hopen hpending
  · rintro ⟨msg, w, -, -, -, -, -, -, hopen, -, -, hpending, -⟩
    exact hnone hopen hpending

/-- The user enrols again after the reset and asks for a withdrawal. -/
def resetAndEnrolled : JournaledRun :=
  holding ++ [told 2150000 "/resettotp 2" 1, told 2160000 "/account" 2, told 2170000 "123456" 2,
    told 2180000 "/withdraw 60%" 2]

/-- The withdrawal after that has a new enrolment behind it. -/
theorem reset_closes_resetAndEnrolled : ∃ newer e mid chatId w older,
    (resetAndEnrolled.point plainVenue plainConfig oneSol).2 =
      newer ++ e :: (mid ++ .call .telegram (Query.reply chatId (.totpReset 2)) w :: older) ∧
      Exercises 2 (mid ++ .call .telegram (Query.reply chatId (.totpReset 2)) w :: older) e ∧
      Reenrolled 2 mid (.call .telegram (Query.reply chatId (.totpReset 2)) w :: older) := by
  have hfound : findsSinceReset 2 (queues 2) (fun _ => false)
      (resetAndEnrolled.point plainVenue plainConfig oneSol).2 = true := by decide +kernel
  obtain ⟨newer, e, mid, chatId, w, older, hsplit, he, -⟩ := findsSinceReset_split hfound
  have hp : Exercises 2 (mid ++ .call .telegram (Query.reply chatId (.totpReset 2)) w :: older) e :=
    .action (queues_performs he)
  exact ⟨newer, e, mid, chatId, w, older, hsplit, hp,
    reset_closes (played_journaled _ _ _ _) (neverLapsed_of_all (by decide +kernel)) hsplit hp⟩

end TotpGating
