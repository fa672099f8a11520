import BertMMBot.PlayedJournals

/-! # What a confirmation confirms

The amount of a pending withdrawal is the one its prompt showed. The destination is read
again when the code arrives, and the caps are not; both are compared here with what was
checked before the prompt. -/
namespace ConfirmedWithdrawals

open AsyncProgram AsyncContract AsyncFibers AsyncRecords RecordedTriples KeyedTable
open VaultTypes VaultProgram DepositorStore DepositorCommands ShareMath
open VaultJournal JournalMachine JournalTriples JournalLaws
open VaultDiscipline (Environment)
open LedgerMachine (Fiber)
open MeteoraPosition (Venue)
open VaultRuntime (BotConfig commandsDeps)
open PlayedRuns (plainVenue plainConfig oneSol anyEnvironment quotes)
open PlayedJournals

variable {venue : Venue} {cfg : BotConfig} {env : Environment} {i : Fiber} {w w' : World}
  {h h' newer older : Journal} {p : JournalPoint} {u v : TelegramId} {e : Line} {db : Db}
  {r : WithdrawalRow}

theorem lastPrompt_cons (he : promptOf e = none) : lastPrompt u (e :: h) = lastPrompt u h := by
  simp only [lastPrompt, he]
  split <;> rfl

theorem promptOf_other (he : e.fiber ≠ some .telegram) : promptOf e = none := by
  unfold promptOf
  split
  · exact absurd rfl he
  · exact absurd rfl he
  · rfl

theorem promptOf_prompts {L : Journal} {notice : Notice} {amountUsd : ℚ} {destination : Address}
    (hn : Prompts venue cfg u w L amountUsd destination notice) (chatId : ℤ) :
    promptOf (.call .telegram (Query.reply chatId notice) w') = some (amountUsd, destination) := by
  cases hn <;> rfl

theorem pending_prompted : Preserved venue cfg
    fun p => ∀ u amountUsd, p.1.memory.pending u = some (.withdraw amountUsd) →
      ∃ destination, lastPrompt u p.2 = some (amountUsd, destination) where
  initial _ u amountUsd hu := by cases hu
  line e _ _ hg h := by
    intro u amountUsd hu
    rw [lastPrompt_cons (promptOf_guarded hg)]
    exact h u amountUsd hu
  minor hm h := by
    rw [hm.pending]
    exact h
  change {i w h₀} c _ hc h := by
    intro u amountUsd hu
    cases c with
    | setPending v action =>
      by_cases hv : u = v
      · subst v
        simp only [Change.apply, World.withMemory_memory, withPending, Function.update_self] at hu
        exact absurd hu (hc.2 amountUsd)
      · simp only [Change.apply, World.withMemory_memory, withPending,
          Function.update_of_ne hv] at hu
        exact h u amountUsd hu
    | _ => exact h u amountUsd hu
  prompt {w h₀ v amountUsd destination notice} chatId hspeaks hn h := by
    intro u usd hu
    by_cases hv : u = v
    · subst v
      simp only [World.withMemory_memory, withPending, Function.update_self, Option.some.injEq,
        PendingAction.withdraw.injEq] at hu
      subst hu
      refine ⟨destination, ?_⟩
      simp only [lastPrompt, hspeaks, if_true, promptOf_prompts hn]
      rfl
    · simp only [World.withMemory_memory, withPending, Function.update_of_ne hv] at hu
      have hother : speaker (own .telegram h₀) ≠ some u := by
        rw [hspeaks]
        exact fun heq => hv (Option.some.inj heq).symm
      simp only [lastPrompt, if_neg hother]
      exact h u usd hu
  restart _ u amountUsd hu := by cases hu

theorem lastPrompt_append (hnone : ∀ e ∈ newer, promptOf e = none) :
    lastPrompt u (newer ++ h) = lastPrompt u h := by
  induction newer with
  | nil => rfl
  | cons e newer ih =>
    rw [List.cons_append, lastPrompt_cons (hnone e List.mem_cons_self)]
    exact ih fun x hx => hnone x (List.mem_cons_of_mem e hx)

theorem session_start {j : Job} {w₀ : World} (hopen : Opened j w₀ (own .telegram h))
    (hnone : ∀ e ∈ own .telegram h, promptOf e = none) :
    ∃ newer older, h = newer ++ .start .telegram j w₀ :: older ∧
      ∀ e ∈ newer, promptOf e = none := by
  induction h with
  | nil => cases hopen
  | cons e h ih =>
    have deeper : promptOf e = none → Opened j w₀ (own .telegram h) →
        (∀ x ∈ own .telegram h, promptOf x = none) →
        ∃ newer older, e :: h = newer ++ .start .telegram j w₀ :: older ∧
          ∀ x ∈ newer, promptOf x = none := by
      intro he ho hin
      obtain ⟨newer, older, rfl, hquiet⟩ := ih ho hin
      refine ⟨e :: newer, older, rfl, ?_⟩
      intro x hx
      rcases List.mem_cons.mp hx with rfl | hx
      · exact he
      · exact hquiet x hx
    by_cases hstart : e.isStart = true
    · cases e with
      | start i j' s =>
        by_cases hi : i = .telegram
        · subst i
          rw [own_start, Opened, List.getLast?_singleton] at hopen
          obtain ⟨-, rfl, rfl⟩ := Entry.start.inj (Option.some.inj hopen)
          exact ⟨[], h, rfl, fun x hx => by cases hx⟩
        · rw [own_other rfl hi] at hopen hnone
          exact deeper rfl hopen hnone
      | _ => cases hstart
    · cases hf : e.fiber with
      | none =>
        cases e with
        | stop s => cases hopen
        | _ => cases hf
      | some i =>
        by_cases hi : i = .telegram
        · subst i
          have hplain : e.isStart = false := by simpa using hstart
          rw [own_tell hf hplain] at hopen hnone
          have he := hnone e (List.mem_cons_self ..)
          refine deeper he ?_ fun x hx => hnone x (List.mem_cons_of_mem e hx)
          unfold Opened at hopen ⊢
          cases hown : own .telegram h with
          | nil =>
            rw [hown, List.getLast?_singleton] at hopen
            rw [Option.some.inj hopen] at hplain
            cases hplain
          | cons x L =>
            rw [hown, List.getLast?_cons_cons] at hopen
            exact hopen
        · rw [own_other hf hi] at hopen hnone
          refine deeper (promptOf_other ?_) hopen hnone
          rw [hf]
          exact fun heq => hi (Option.some.inj heq)

/-- The message answers the prompt for a withdrawal of this amount. -/
def Answers (u : TelegramId) (amountUsd : ℚ) (L : Journal) : Prop :=
  ∃ msg w, Opened (.message msg) w L ∧ msg.userId = u ∧
    TextInput.commandName msg.text = none ∧ w.memory.pending u = some (.withdraw amountUsd)

theorem opened_unique {j j' : Job} {L : Journal} (ho : Opened j w L) (ho' : Opened j' w' L) :
    j = j' ∧ w = w' := by
  obtain ⟨-, rfl, rfl⟩ := Entry.start.inj (Option.some.inj (ho.symm.trans ho'))
  exact ⟨rfl, rfl⟩

theorem origin_code {usd amountUsd : ℚ} {L L' : Journal} (ha : Answers u usd L)
    (ho : Origin venue cfg u amountUsd L L') : amountUsd = usd ∧ Accepted venue cfg u L' := by
  obtain ⟨msg, w, hopen, -, hname, hpending⟩ := ha
  cases ho with
  | code hopen' _ _ hpending' haccepted =>
    obtain ⟨-, rfl⟩ := opened_unique hopen hopen'
    have hsame := hpending.symm.trans hpending'
    simp only [Option.some.injEq, PendingAction.withdraw.injEq] at hsame
    exact ⟨hsame.symm, haccepted⟩
  | entry hentry =>
    obtain ⟨msg', w', hopen', -, -, hpending'⟩ := hentry
    obtain ⟨-, rfl⟩ := opened_unique hopen hopen'
    rw [hpending] at hpending'
    cases hpending'
  | command hopen' hname' =>
    obtain ⟨hj, -⟩ := opened_unique hopen hopen'
    cases hj
    exact absurd hname hname'
  | button hopen' =>
    obtain ⟨hj, -⟩ := opened_unique hopen hopen'
    cases hj

theorem answers_prompted {usd : ℚ} (hj : Journaled venue cfg env.host p)
    (hsplit : p.2 = newer ++ older) (ha : Answers u usd (own .telegram older))
    (hnone : ∀ e ∈ own .telegram older, promptOf e = none) :
    ∃ destination, lastPrompt u older = some (usd, destination) := by
  obtain ⟨msg, w, hopen, -, -, hpending⟩ := ha
  obtain ⟨newer₁, older₁, rfl, hquiet⟩ := session_start hopen hnone
  have hstart : p.2 = (newer ++ newer₁) ++ .start .telegram (.message msg) w :: older₁ := by
    rw [hsplit]
    simp
  rw [lastPrompt_append hquiet, lastPrompt_cons rfl]
  exact (journaled_line pending_prompted hj hstart rfl).held u usd hpending

/-- A withdrawal that a code queues has the amount of the latest prompt, and its destination
if and only if that is still the address on file when the code is accepted. -/
theorem confirmed_as_prompted (hj : Journaled venue cfg env.host p)
    (hr : r ∈ p.1.db.withdrawals) :
    ∃ amountUsd navPerShare w older, QueuedAt venue cfg r amountUsd navPerShare w older p.2 ∧
      ∀ usd, Answers r.telegramId usd (own .telegram older) →
        ∃ prompted w₁ ms₁ L, lastPrompt r.telegramId older = some (amountUsd, prompted) ∧
          .choice .telegram Choice.clock w₁ ms₁ :: L <:+ own .telegram older ∧
          Accepted venue cfg r.telegramId (.choice .telegram Choice.clock w₁ ms₁ :: L) ∧
          (lastPrompt r.telegramId older = some (amountUsd, r.destination) ↔
            whitelistOf r.telegramId w₁.db = some prompted) := by
  obtain ⟨amountUsd, navPerShare, w, older, hq⟩ := journaled_preserved withdrawals_queued hj r hr
  refine ⟨amountUsd, navPerShare, w, older, hq, ?_⟩
  intro usd ha
  obtain ⟨w₁, ms₁, L', hL', hcleared, hdest, horigin⟩ := hq.ordered.checked
  obtain ⟨rfl, haccepted⟩ := origin_code ha horigin
  obtain ⟨newest, hnewest⟩ := hq.recorded
  have hsplit : p.2 = (newest ++ [.choice .telegram (Choice.statement (.enqueueWithdrawal
      r.telegramId r.sharesBurned)) w (none : Option Thrown),
      .choice .telegram Choice.clock w r.queuedAt]) ++ older := by
    rw [← hnewest]
    simp
  obtain ⟨prompted, hprompted⟩ := answers_prompted hj hsplit ha hq.ordered.unprompted
  have hform : ∃ L, L' = .choice .telegram Choice.clock w₁ ms₁ :: L := by
    cases hcleared with
    | accepted => exact ⟨_, rfl⟩
    | unlocked => exact ⟨_, rfl⟩
  obtain ⟨L, rfl⟩ := hform
  refine ⟨prompted, w₁, ms₁, L, hprompted, hL', haccepted, ?_⟩
  rw [hprompted, hdest]
  simp [eq_comm]

/-- User 2 is prompted once the unlock window has closed, and answers with a code. -/
def confirming : JournaledRun :=
  holding ++ [told 3000000 "/withdraw 60%" 2, told 3010000 "123456" 2]

theorem confirmed_as_prompted_confirming :
    ∃ r ∈ (confirming.point plainVenue plainConfig oneSol).1.db.withdrawals,
      ∃ amountUsd navPerShare w older, QueuedAt plainVenue plainConfig r amountUsd navPerShare w
          older (confirming.point plainVenue plainConfig oneSol).2 ∧
        ∀ usd, Answers r.telegramId usd (own .telegram older) →
          ∃ prompted w₁ ms₁ L, lastPrompt r.telegramId older = some (amountUsd, prompted) ∧
            .choice .telegram Choice.clock w₁ ms₁ :: L <:+ own .telegram older ∧
            Accepted plainVenue plainConfig r.telegramId
              (.choice .telegram Choice.clock w₁ ms₁ :: L) ∧
            (lastPrompt r.telegramId older = some (amountUsd, r.destination) ↔
              whitelistOf r.telegramId w₁.db = some prompted) := by
  have hlength : 0 < (confirming.point plainVenue plainConfig oneSol).1.db.withdrawals.length := by
    decide +kernel
  obtain ⟨r, hr⟩ := List.exists_mem_of_length_pos hlength
  exact ⟨r, hr, confirmed_as_prompted (played_journaled _ _ _ _) hr⟩

def isQueueing : Line → Bool
  | .choice .telegram (Choice.statement (.enqueueWithdrawal ..)) _ _ => true
  | _ => false

def belowQueueing (check : Journal → Bool) : Journal → Bool
  | e :: e' :: h => (!isQueueing e || check h) && belowQueueing check (e' :: h)
  | _ => true

theorem belowQueueing_suffix {check : Journal → Bool} {shares : ℚ} {o : Option Thrown} {x : Line}
    (hb : belowQueueing check h = true)
    (hs : .choice .telegram (Choice.statement (.enqueueWithdrawal u shares)) w o :: x :: older <:+
      h) : check older = true := by
  induction h with
  | nil =>
    obtain ⟨l, hl⟩ := hs
    simp at hl
  | cons e h ih =>
    rcases List.suffix_cons_iff.mp hs with heq | hdeeper
    · obtain ⟨rfl, rfl⟩ := List.cons.inj heq
      simp only [belowQueueing, isQueueing, Bool.not_true, Bool.false_or, Bool.and_eq_true] at hb
      exact hb.1
    · refine ih ?_ hdeeper
      cases h with
      | nil => rfl
      | cons e' h =>
        simp only [belowQueueing, Bool.and_eq_true] at hb
        exact hb.2

def answersPrompt (u : TelegramId) (h : Journal) : Bool :=
  match (own .telegram h).getLast? with
  | some (.start .telegram (.message msg) w) =>
    decide (msg.userId = u ∧ TextInput.commandName msg.text = none) &&
      match w.memory.pending u with
      | some (.withdraw _) => true
      | _ => false
  | _ => false

theorem answersPrompt_answers (ha : answersPrompt u h = true) :
    ∃ usd, Answers u usd (own .telegram h) := by
  unfold answersPrompt at ha
  split at ha
  · next msg w hopen =>
    obtain ⟨hmsg, hpending⟩ := (Bool.and_eq_true ..).mp ha
    obtain ⟨hu, hname⟩ := of_decide_eq_true hmsg
    split at hpending
    · next usd hp => exact ⟨usd, msg, w, hopen, hu, hname, hp⟩
    · cases hpending
  · cases ha

/-- User 2 is prompted for the old address, a tick activates the new one, and the code
arrives. -/
def readdressed : JournaledRun :=
  holding ++ [told 2200000 "/setwhitelist other" 2, told 88590000 "/withdraw 60%" 2,
    ticked { clock := 88600001, samples := quotes }, told 88610000 "123456" 2]

/-- A code queues a withdrawal to an address that the prompt did not show. -/
theorem confirmed_elsewhere : ∃ p r amountUsd navPerShare w older usd,
    Journaled plainVenue plainConfig anyEnvironment.host p ∧ Ticking p.2 ∧
      r ∈ p.1.db.withdrawals ∧
      QueuedAt plainVenue plainConfig r amountUsd navPerShare w older p.2 ∧
      Answers r.telegramId usd (own .telegram older) ∧
      lastPrompt r.telegramId older ≠ some (amountUsd, r.destination) := by
  let p := readdressed.point plainVenue plainConfig oneSol
  have hj : Journaled plainVenue plainConfig anyEnvironment.host p := played_journaled _ _ _ _
  have hlength : 0 < p.1.db.withdrawals.length := by decide +kernel
  obtain ⟨r, hr⟩ := List.exists_mem_of_length_pos hlength
  have hrows : ∀ r ∈ p.1.db.withdrawals, r.telegramId = 2 ∧ r.destination = "other" := by
    decide +kernel
  obtain ⟨huser, hdest⟩ := hrows r hr
  obtain ⟨amountUsd, navPerShare, w, older, hq⟩ := journaled_preserved withdrawals_queued hj r hr
  have hbelow : belowQueueing (fun h => answersPrompt 2 h &&
      (lastPrompt 2 h).any fun shown => shown.2 ≠ "other") p.2 = true := by decide +kernel
  obtain ⟨hanswers, hshown⟩ := (Bool.and_eq_true ..).mp (belowQueueing_suffix hbelow hq.recorded)
  obtain ⟨usd, ha⟩ := answersPrompt_answers hanswers
  refine ⟨p, r, amountUsd, navPerShare, w, older, usd, hj, by decide +kernel, hr, hq, ?_, ?_⟩
  · rw [huser]
    exact ha
  · rw [huser, hdest]
    intro hlast
    rw [hlast] at hshown
    exact absurd hshown (by simp)

end ConfirmedWithdrawals
