import BertMMBot.ConfirmedWithdrawals

/-! # Caps on withdrawals

`/withdraw` and the buttons check the caps before they ask for a code, and an amount typed after
the question for one is not checked at all. A checked withdrawal is within the caps when it is
queued if nothing has come up since its check. -/
namespace WithdrawalCaps

open AsyncProgram AsyncContract AsyncFibers AsyncRecords RecordedTriples KeyedTable
open VaultTypes VaultProgram DepositorStore DepositorCommands ShareMath
open VaultJournal JournalMachine JournalLaws
open ConfirmedWithdrawals (promptOf_prompts promptOf_other Answers)
open VaultDiscipline (Environment)
open LedgerMachine (Fiber)
open MeteoraPosition (Venue)
open VaultRuntime (BotConfig commandsDeps)
open PlayedRuns (plainVenue plainConfig oneSol anyEnvironment)
open PlayedJournals

variable {venue : Venue} {cfg : BotConfig} {env : Environment} {w w₀ : World}
  {h older L L₀ : Journal} {p : JournalPoint} {e : Line} {u : TelegramId} {db : Db}
  {r : WithdrawalRow} {ms ms' : ℤ} {amountUsd : ℚ}

/-- The caps of the configuration, for one user at one time. -/
structure WithinCaps (config : CommandsConfig) (u : TelegramId) (ms : ℤ) (db : Db) : Prop where
  count : countUserWithdrawalsLast24h u ms db ≤ config.maxDailyWithdrawalsPerUser
  usd : sumUserWithdrawalUsdLast24h u ms db ≤ config.maxDailyWithdrawalUsdPerUser
  pending : countPendingWithdrawals db ≤ config.maxPendingWithdrawals

/-- What `sumUserWithdrawalUsdLast24h` counts for a share that is not paid out yet. -/
def reportedPerShare (db : Db) : ℚ := ((latestNavSnapshot db).map NavSnapshotRow.navPerShare).getD 1

def inserted (r : WithdrawalRow) : WithdrawalRow :=
  NewWithdrawal.row ⟨r.telegramId, r.destination, r.sharesBurned, r.feeShares, r.queuedAt⟩ r.id

/-- The tables right after `enqueueWithdrawal`. -/
def afterEnqueue (r : WithdrawalRow) (db : Db) : Db :=
  { db with withdrawals := db.withdrawals ++ [inserted r] }

theorem afterEnqueue_rows : userWithdrawalsLast24h r.telegramId r.queuedAt (afterEnqueue r db) =
    userWithdrawalsLast24h r.telegramId r.queuedAt db ++ [inserted r] := by
  have hday : r.queuedAt - dayMs ≤ r.queuedAt := by
    have hpos : (0 : ℤ) ≤ dayMs := by decide
    omega
  have hcounts : (inserted r).telegramId = r.telegramId ∧ (inserted r).status ≠ .failed ∧
      r.queuedAt - dayMs ≤ (inserted r).queuedAt := ⟨rfl, by simp [inserted, NewWithdrawal.row], hday⟩
  simp only [userWithdrawalsLast24h, afterEnqueue, List.filter_append]
  rw [List.filter_singleton, decide_eq_true hcounts]
  rfl

theorem afterEnqueue_count : countUserWithdrawalsLast24h r.telegramId r.queuedAt (afterEnqueue r db) =
    countUserWithdrawalsLast24h r.telegramId r.queuedAt db + 1 := by
  simp [countUserWithdrawalsLast24h, afterEnqueue_rows]

theorem afterEnqueue_usd : sumUserWithdrawalUsdLast24h r.telegramId r.queuedAt (afterEnqueue r db) =
    sumUserWithdrawalUsdLast24h r.telegramId r.queuedAt db +
      (r.sharesBurned - r.feeShares) * reportedPerShare db := by
  have hlatest : latestNavSnapshot (afterEnqueue r db) = latestNavSnapshot db := rfl
  unfold sumUserWithdrawalUsdLast24h
  rw [afterEnqueue_rows, List.map_append, List.sum_append, hlatest]
  simp [inserted, NewWithdrawal.row, reportedPerShare]

theorem afterEnqueue_pending :
    countPendingWithdrawals (afterEnqueue r db) = countPendingWithdrawals db + 1 := by
  simp [countPendingWithdrawals, afterEnqueue, List.filter_append, inserted, NewWithdrawal.row]

/-- A check that passes reads the clock twice, in one state, and finds room for the amount. -/
structure FoundRoom (cfg : BotConfig) (u : TelegramId) (amountUsd : ℚ) (w : World) (ms ms' : ℤ) :
    Prop where
  count : countUserWithdrawalsLast24h u ms w.db < cfg.commands.maxDailyWithdrawalsPerUser
  usd : sumUserWithdrawalUsdLast24h u ms' w.db + amountUsd ≤
    cfg.commands.maxDailyWithdrawalUsdPerUser
  pending : countPendingWithdrawals w.db < cfg.commands.maxPendingWithdrawals

theorem checkCaps_ran {s : World}
    (hran : Ran Fiber.telegram (checkCaps (commandsDeps venue cfg) u amountUsd w) L₀ (.ok none) s
      L) :
    ∃ ms ms', L = .choice .telegram Choice.clock w ms' :: .choice .telegram Choice.clock w ms :: L₀ ∧
      FoundRoom cfg u amountUsd w ms ms' := by
  unfold checkCaps VaultProgram.now at hran
  obtain ⟨ms, hran⟩ := ran_choose_inv hran
  change Ran Fiber.telegram ((if cfg.commands.maxDailyWithdrawalsPerUser ≤
    countUserWithdrawalsLast24h u ms w.db then _ else _ : Vault (Option Notice)) w) _ _ _ _ at hran
  split at hran
  · cases (ran_pure_inv hran).1
  next hcount =>
  obtain ⟨ms', hran⟩ := ran_choose_inv hran
  change Ran Fiber.telegram ((if cfg.commands.maxDailyWithdrawalUsdPerUser <
    sumUserWithdrawalUsdLast24h u ms' w.db + amountUsd then _ else _ : Vault (Option Notice)) w)
    _ _ _ _ at hran
  split at hran
  · cases (ran_pure_inv hran).1
  next husd =>
  change Ran Fiber.telegram ((if cfg.commands.maxPendingWithdrawals ≤
    countPendingWithdrawals w.db then _ else _ : Vault (Option Notice)) w) _ _ _ _ at hran
  split at hran
  · cases (ran_pure_inv hran).1
  next hpending =>
  obtain ⟨-, rfl⟩ := ran_pure_inv hran
  exact ⟨ms, ms', rfl, not_le.mp hcount, not_lt.mp husd, not_le.mp hpending⟩

/-- The journal up to the latest confirmation prompt of a user. -/
def promptedAt (u : TelegramId) : Journal → Journal
  | [] => []
  | e :: h =>
    if speaker (own .telegram h) = some u ∧ promptOf e ≠ none then e :: h else promptedAt u h

theorem promptedAt_cons (he : promptOf e = none) : promptedAt u (e :: h) = promptedAt u h := by
  simp [promptedAt, he]

theorem promptedAt_append {newer : Journal} (hnone : ∀ e ∈ newer, promptOf e = none) :
    promptedAt u (newer ++ h) = promptedAt u h := by
  induction newer with
  | nil => rfl
  | cons e newer ih =>
    rw [List.cons_append, promptedAt_cons (hnone e List.mem_cons_self)]
    exact ih fun x hx => hnone x (List.mem_cons_of_mem e hx)

/-- A check that this amount passed, in the state `w` and at the readings `ms` and `ms'`, stands
in these lines of the chat. -/
def PassedIn (venue : Venue) (cfg : BotConfig) (u : TelegramId) (amountUsd : ℚ) (w : World)
    (ms ms' : ℤ) (L : Journal) : Prop :=
  ∃ L₀, .choice .telegram Choice.clock w ms' :: .choice .telegram Choice.clock w ms :: L₀ <:+ L ∧
    CapsPassed venue cfg u amountUsd w
      (.choice .telegram Choice.clock w ms' :: .choice .telegram Choice.clock w ms :: L₀)

theorem passedIn_of_capsPassed {L' : Journal} (hpassed : CapsPassed venue cfg u amountUsd w L')
    (hsuffix : L' <:+ L) : ∃ ms ms', PassedIn venue cfg u amountUsd w ms ms' L := by
  obtain ⟨L₀, s, hran⟩ := hpassed
  obtain ⟨ms, ms', rfl, -⟩ := checkCaps_ran hran
  exact ⟨ms, ms', L₀, hsuffix, L₀, s, hran⟩

theorem passedIn_room (hpassed : PassedIn venue cfg u amountUsd w ms ms' L) :
    FoundRoom cfg u amountUsd w ms ms' := by
  obtain ⟨L₀, -, L₁, s, hran⟩ := hpassed
  obtain ⟨ms₁, ms₁', heq, hroom⟩ := checkCaps_ran hran
  obtain ⟨hfirst, hrest⟩ := List.cons.inj heq
  obtain ⟨hsecond, -⟩ := List.cons.inj hrest
  cases hfirst
  cases hsecond
  exact hroom

/-- The session answers the prompt for a withdrawal of this amount with a code. -/
def Confirming (u : TelegramId) (amountUsd : ℚ) (L : Journal) : Prop :=
  ∃ msg w, Opened (.message msg) w L ∧ w.memory.pending u = some (.withdraw amountUsd)

/-- The check of the caps that an insertion rests on: one of its own session, or one of the
session that sent the latest prompt. -/
inductive CheckedAt (venue : Venue) (cfg : BotConfig) (u : TelegramId) (amountUsd : ℚ) (w : World)
    (ms ms' : ℤ) (older : Journal) : Prop where
  | session : PassedIn venue cfg u amountUsd w ms ms' (own .telegram older) →
      CheckedAt venue cfg u amountUsd w ms ms' older
  | prompted {chatId destination w₁ h} : Confirming u amountUsd (own .telegram older) →
      promptedAt u older =
        .call .telegram (Query.reply chatId (.withdrawPrompt amountUsd destination)) w₁ :: h →
      PassedIn venue cfg u amountUsd w ms ms' (own .telegram h) →
      CheckedAt venue cfg u amountUsd w ms ms' older

/-- The amount was typed after the question for one, in this message or before the prompt that
the session answers. -/
inductive CustomAmount (u : TelegramId) (amountUsd : ℚ) (older : Journal) : Prop where
  | session : AmountEntry u (own .telegram older) → CustomAmount u amountUsd older
  | prompted {chatId destination w₁ h} : Confirming u amountUsd (own .telegram older) →
      promptedAt u older =
        .call .telegram (Query.reply chatId (.withdrawEntryPrompt amountUsd destination)) w₁ :: h →
      CustomAmount u amountUsd older

inductive PromptFor (venue : Venue) (cfg : BotConfig) (u : TelegramId) (amountUsd : ℚ) :
    Journal → Prop where
  | checked {chatId destination w₁ h w ms ms'} :
      PassedIn venue cfg u amountUsd w ms ms' (own .telegram h) →
      PromptFor venue cfg u amountUsd
        (.call .telegram (Query.reply chatId (.withdrawPrompt amountUsd destination)) w₁ :: h)
  | entry {chatId destination w₁ h} : PromptFor venue cfg u amountUsd
      (.call .telegram (Query.reply chatId (.withdrawEntryPrompt amountUsd destination)) w₁ :: h)

theorem pending_promptFor : Preserved venue cfg
    fun p => ∀ u amountUsd, p.1.memory.pending u = some (.withdraw amountUsd) →
      PromptFor venue cfg u amountUsd (promptedAt u p.2) where
  initial _ u amountUsd hu := by cases hu
  line e _ _ hg h := by
    intro u amountUsd hu
    rw [promptedAt_cons (promptOf_guarded hg)]
    exact h u amountUsd hu
  minor hm h := by
    rw [hm.pending]
    exact h
  change {i w h₀} c _ hc h := by
    intro u amountUsd hu
    cases c with
    | setPending v action =>
      by_cases hv : u = v
      · subst v
        simp only [Change.apply, World.withMemory_memory, withPending, Function.update_self] at hu
        exact absurd hu (hc.2 amountUsd)
      · simp only [Change.apply, World.withMemory_memory, withPending,
          Function.update_of_ne hv] at hu
        exact h u amountUsd hu
    | _ => exact h u amountUsd hu
  prompt {w h₀ v amountUsd destination notice} chatId hspeaks hn h := by
    intro u usd hu
    by_cases hv : u = v
    · subst v
      simp only [World.withMemory_memory, withPending, Function.update_self, Option.some.injEq,
        PendingAction.withdraw.injEq] at hu
      subst hu
      rw [promptedAt, if_pos ⟨hspeaks, by simp [promptOf_prompts hn]⟩]
      cases hn with
      | checked _ hsuffix hpassed =>
        obtain ⟨ms, ms', hin⟩ := passedIn_of_capsPassed hpassed hsuffix
        exact .checked hin
      | entry => exact .entry
    · simp only [World.withMemory_memory, withPending, Function.update_of_ne hv] at hu
      have hother : speaker (own .telegram h₀) ≠ some u := by
        rw [hspeaks]
        exact fun heq => hv (Option.some.inj heq).symm
      rw [promptedAt, if_neg fun hboth => hother hboth.1]
      exact h u usd hu
  restart _ u amountUsd hu := by cases hu

theorem vetted_cases {newer : Journal} (hj : Journaled venue cfg env.host p)
    (hsplit : p.2 = newer ++ older) (hvetted : Vetted venue cfg u amountUsd (own .telegram older))
    (hnone : ∀ e ∈ own .telegram older, promptOf e = none) :
    CustomAmount u amountUsd older ∨ ∃ w ms ms', CheckedAt venue cfg u amountUsd w ms ms' older := by
  cases hvetted with
  | entry hentry => exact .inl (.session hentry)
  | checked hsuffix hpassed =>
    obtain ⟨ms, ms', hin⟩ := passedIn_of_capsPassed hpassed hsuffix
    exact .inr ⟨_, ms, ms', .session hin⟩
  | @prompted msg w₀ hopen hpending =>
    have hconfirming : Confirming u amountUsd (own .telegram older) := ⟨msg, w₀, hopen, hpending⟩
    obtain ⟨newer₁, older₁, rfl, hquiet⟩ := ConfirmedWithdrawals.session_start hopen hnone
    have hstart : p.2 = (newer ++ newer₁) ++ .start .telegram (.message msg) w₀ :: older₁ := by
      rw [hsplit]
      simp
    have hfor := (journaled_line pending_promptFor hj hstart rfl).held u amountUsd hpending
    have hat : promptedAt u (newer₁ ++ .start .telegram (.message msg) w₀ :: older₁) =
        promptedAt u older₁ := (promptedAt_append hquiet).trans (promptedAt_cons rfl)
    cases hlast : promptedAt u older₁ with
    | nil =>
      rw [hlast] at hfor
      cases hfor
    | cons e h =>
      rw [hlast] at hfor hat
      cases hfor with
      | checked hin => exact .inr ⟨_, _, _, .prompted hconfirming hat hin⟩
      | entry => exact .inl (.prompted hconfirming hat)

/-- The net shares of a withdrawal of this amount at this price. -/
def netShares (cfg : BotConfig) (amountUsd navPerShare : ℚ) : ℚ :=
  amountUsd / navPerShare -
    (splitFee (amountUsd / navPerShare) cfg.commands.withdrawalFeeBps).feeShares

/-- Since a check in the state `w₀` no withdrawal of the user has come to count for the day, none
has joined the queue, and the day's sum, the amount included, has not grown in price. -/
structure NothingSince (u : TelegramId) (amountUsd net : ℚ) (w₀ : World) (ms₀ ms₀' : ℤ) (w : World)
    (ms : ℤ) : Prop where
  count : countUserWithdrawalsLast24h u ms w.db ≤ countUserWithdrawalsLast24h u ms₀ w₀.db
  usd : sumUserWithdrawalUsdLast24h u ms w.db + net * reportedPerShare w.db ≤
    sumUserWithdrawalUsdLast24h u ms₀' w₀.db + amountUsd
  pending : countPendingWithdrawals w.db ≤ countPendingWithdrawals w₀.db

theorem withinCaps_of_checked {ms₀ ms₀' : ℤ}
    (hchecked : CheckedAt venue cfg r.telegramId amountUsd w₀ ms₀ ms₀' older)
    (hsince : NothingSince r.telegramId amountUsd (r.sharesBurned - r.feeShares) w₀ ms₀ ms₀' w
      r.queuedAt) :
    WithinCaps cfg.commands r.telegramId r.queuedAt (afterEnqueue r w.db) := by
  have hroom : FoundRoom cfg r.telegramId amountUsd w₀ ms₀ ms₀' := by
    cases hchecked with
    | session hin => exact passedIn_room hin
    | prompted _ _ hin => exact passedIn_room hin
  constructor
  · rw [afterEnqueue_count]
    exact Nat.succ_le_of_lt (hsince.count.trans_lt hroom.count)
  · rw [afterEnqueue_usd]
    exact hsince.usd.trans hroom.usd
  · rw [afterEnqueue_pending]
    exact Nat.succ_le_of_lt (hsince.pending.trans_lt hroom.pending)

/-- Every withdrawal on record was inserted by its statement. Its amount was typed after the
question for one, or else the caps were checked for it, and they hold right after the insertion
if nothing has come up since the check. -/
theorem caps_hold_of_checked (hj : Journaled venue cfg env.host p)
    (hr : r ∈ p.1.db.withdrawals) :
    ∃ amountUsd navPerShare w older, QueuedAt venue cfg r amountUsd navPerShare w older p.2 ∧
      (CustomAmount r.telegramId amountUsd older ∨
        ∃ w₀ ms₀ ms₀', CheckedAt venue cfg r.telegramId amountUsd w₀ ms₀ ms₀' older) ∧
      ∀ w₀ ms₀ ms₀', CheckedAt venue cfg r.telegramId amountUsd w₀ ms₀ ms₀' older →
        NothingSince r.telegramId amountUsd (netShares cfg amountUsd navPerShare) w₀ ms₀ ms₀' w
          r.queuedAt →
        WithinCaps cfg.commands r.telegramId r.queuedAt (afterEnqueue r w.db) := by
  obtain ⟨amountUsd, navPerShare, w, older, hq⟩ := journaled_preserved withdrawals_queued hj r hr
  have hnet : r.sharesBurned - r.feeShares = netShares cfg amountUsd navPerShare := by
    rw [netShares, hq.fee, hq.shares]
  obtain ⟨newest, hnewest⟩ := hq.recorded
  have hsplit : p.2 = (newest ++ [.choice .telegram (Choice.statement (.enqueueWithdrawal
      r.telegramId r.sharesBurned)) w (none : Option Thrown),
      .choice .telegram Choice.clock w r.queuedAt]) ++ older := by
    rw [← hnewest]
    simp
  refine ⟨amountUsd, navPerShare, w, older, hq,
    vetted_cases hj hsplit hq.ordered.vetted hq.ordered.unprompted, ?_⟩
  intro w₀ ms₀ ms₀' hchecked hsince
  exact withinCaps_of_checked hchecked (hnet ▸ hsince)

def asksFirst (u : TelegramId) : Line → Bool
  | .start _ _ w =>
    match w.memory.pending u with
    | some .withdrawAmountEntry => false
    | some (.withdraw _) => false
    | _ => true
  | _ => true

theorem checked_of_asksFirst (hall : h.all (asksFirst u) = true) (hsuffix : older <:+ h) :
    ¬CustomAmount u amountUsd older := by
  have hstart : ∀ {msg w}, Opened (.message msg) w (own .telegram older) →
      asksFirst u (.start .telegram (.message msg) w) = true := by
    intro msg w hopen
    exact List.all_eq_true.mp hall _
      (hsuffix.subset (ChatJournal.mem_own (List.mem_of_getLast? hopen)))
  rintro (⟨msg, w, hopen, -, -, hpending⟩ | ⟨⟨msg, w, hopen, hpending⟩, -⟩)
  · simpa [asksFirst, hpending] using hstart hopen
  · simpa [asksFirst, hpending] using hstart hopen

/-- The share of the balance that user 2 withdraws was checked before it was queued. -/
theorem caps_hold_of_checked_withdrawing :
    ∃ r ∈ (withdrawing.point plainVenue plainConfig oneSol).1.db.withdrawals,
      ∃ amountUsd navPerShare w older w₀ ms₀ ms₀',
        QueuedAt plainVenue plainConfig r amountUsd navPerShare w older
          (withdrawing.point plainVenue plainConfig oneSol).2 ∧
        CheckedAt plainVenue plainConfig r.telegramId amountUsd w₀ ms₀ ms₀' older ∧
        (NothingSince r.telegramId amountUsd (netShares plainConfig amountUsd navPerShare) w₀ ms₀
          ms₀' w r.queuedAt →
          WithinCaps plainConfig.commands r.telegramId r.queuedAt (afterEnqueue r w.db)) := by
  have hrow : ∃ r ∈ (withdrawing.point plainVenue plainConfig oneSol).1.db.withdrawals,
      r.telegramId = 2 := by decide +kernel
  have hfirst : (withdrawing.point plainVenue plainConfig oneSol).2.all (asksFirst 2) = true := by
    decide +kernel
  obtain ⟨r, hr, huser⟩ := hrow
  obtain ⟨amountUsd, navPerShare, w, older, hq, hvetted, hcaps⟩ :=
    caps_hold_of_checked (played_journaled _ _ _ _) hr
  have hnone : ¬CustomAmount r.telegramId amountUsd older := by
    rw [huser]
    exact checked_of_asksFirst hfirst
      ((List.suffix_cons ..).trans ((List.suffix_cons ..).trans hq.recorded))
  obtain ⟨w₀, ms₀, ms₀', hchecked⟩ := hvetted.resolve_left hnone
  exact ⟨r, hr, amountUsd, navPerShare, w, older, w₀, ms₀, ms₀', hq, hchecked,
    hcaps w₀ ms₀ ms₀' hchecked⟩

def customAmount (clock : ℤ) : JournaledRun :=
  [told clock "/withdraw" 2, told (clock + 1000) "5" 2]

/-- User 2 queues four custom amounts; three a day are allowed. -/
def fourAmounts : JournaledRun :=
  holding ++ customAmount 2150000 ++ customAmount 2160000 ++ customAmount 2170000 ++
    customAmount 2180000

/-- At the fourth insertion three withdrawals of the day are there already. -/
def fourthIsFull : Line → Bool
  | .choice _ (Choice.statement (.enqueueWithdrawal ..)) w _ =>
    nextId (w.db.withdrawals.map WithdrawalRow.id) ≠ 4 ∨
      plainConfig.commands.maxDailyWithdrawalsPerUser ≤
        countUserWithdrawalsLast24h 2 2181000 w.db
  | _ => true

/-- Right after the fourth insertion the user has more withdrawals than the cap allows. -/
theorem caps_broken : ∃ p r amountUsd navPerShare w older,
    Journaled plainVenue plainConfig anyEnvironment.host p ∧ r ∈ p.1.db.withdrawals ∧
      QueuedAt plainVenue plainConfig r amountUsd navPerShare w older p.2 ∧
      ¬WithinCaps plainConfig.commands r.telegramId r.queuedAt (afterEnqueue r w.db) := by
  let p := fourAmounts.point plainVenue plainConfig oneSol
  have hj : Journaled plainVenue plainConfig anyEnvironment.host p := played_journaled _ _ _ _
  have hlast : ∃ r ∈ p.1.db.withdrawals, r.id = 4 ∧ r.telegramId = 2 ∧ r.queuedAt = 2181000 := by
    decide +kernel
  obtain ⟨r, hr, hid, huser, hat⟩ := hlast
  obtain ⟨amountUsd, navPerShare, w, older, hq⟩ := journaled_preserved withdrawals_queued hj r hr
  have hlines : p.2.all fourthIsFull = true := by decide +kernel
  have hfull := List.all_eq_true.mp hlines _ (hq.recorded.subset (List.mem_cons_self ..))
  refine ⟨p, r, amountUsd, navPerShare, w, older, hj, hr, hq, ?_⟩
  intro hcaps
  have hcount := hcaps.count
  rw [afterEnqueue_count, huser, hat] at hcount
  rcases of_decide_eq_true hfull with hother | hthree
  · exact hother (hq.id.symm.trans hid)
  · omega

end WithdrawalCaps
