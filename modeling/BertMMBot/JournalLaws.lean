import BertMMBot.MainJournal

/-! # Laws of the journal

How a property of all journaled points is shown: the lines and the changes of the machine
keep it. What holds wherever a run stands held at each of its lines, with the part of the
journal below that line. -/
namespace JournalLaws

open AsyncProgram AsyncContract AsyncFibers AsyncRecords RecordedTriples KeyedTable
open VaultTypes VaultProgram DepositorStore DepositorCommands ShareMath
open VaultJournal JournalMachine JournalTriples MainJournal
open VaultDiscipline (Environment)
open LedgerMachine (Fiber)
open MeteoraPosition (Venue)
open VaultRuntime (BotConfig)

variable {venue : Venue} {cfg : BotConfig} {env : Environment} {i : Fiber} {w w' : World}
  {h h' newer older : Journal} {p q : JournalPoint} {u : TelegramId} {e : Line}
  {P : JournalPoint → Prop} {R : World → World → Prop}

/-- What the empty vault has, and every line and every change keeps. -/
structure Preserved (venue : Venue) (cfg : BotConfig) (P : JournalPoint → Prop) : Prop where
  initial : ∀ chain, P (World.initial chain, [])
  line : ∀ {w h} (e : Line), Tidy w → e.state = w → Guarded venue cfg h e → P (w, h) →
    P (w, e :: h)
  minor : ∀ {w w' h}, Minor w w' → P (w, h) → P (w', h)
  change : ∀ {i w h} (c : Change), Tidy w → Permitted venue cfg i w h c → P (w, h) →
    P (c.apply w, h)
  prompt : ∀ {w h u amountUsd destination notice} (chatId : ℤ),
    speaker (own .telegram h) = some u →
    Prompts venue cfg u w (own .telegram h) amountUsd destination notice → P (w, h) →
    P (w.withMemory (withPending u (some (.withdraw amountUsd)) w.memory),
      .call .telegram (Query.reply chatId notice)
        (w.withMemory (withPending u (some (.withdraw amountUsd)) w.memory)) :: h)
  restart : ∀ {w h}, P (w, h) → P (w.restart, h)

theorem preserved_turn (hP : Preserved venue cfg P) (ht : Tidy p.1) (hp : P p)
    (turn : (journalMachine venue cfg env).Turn World.restart p q) : P q := by
  cases turn with
  | act ha =>
    cases ha with
    | begin j => exact hP.line _ ht rfl trivial hp
    | tell e _ _ hstate hg => exact hP.line e ht hstate hg hp
    | minor hm => exact hP.minor hm hp
    | change c hc => exact hP.change c ht hc hp
    | prompt chatId u amountUsd destination notice hs hn => exact hP.prompt chatId hs hn hp
  | answer hr => exact hP.minor (quiet_minor (env.quiet hr)) hp
  | stop => exact hP.restart (hP.line _ ht rfl trivial hp)

theorem journaled_preserved (hP : Preserved venue cfg P) (hj : Journaled venue cfg env.host p) :
    P p :=
  journaled_invariant hj hP.initial fun _ _ ht hp turn => preserved_turn hP ht hp turn

theorem preserved_and {Q : JournalPoint → Prop} (hP : Preserved venue cfg P)
    (hQ : Preserved venue cfg Q) : Preserved venue cfg fun p => P p ∧ Q p where
  initial chain := ⟨hP.initial chain, hQ.initial chain⟩
  line e ht hs hg h := ⟨hP.line e ht hs hg h.1, hQ.line e ht hs hg h.2⟩
  minor hm h := ⟨hP.minor hm h.1, hQ.minor hm h.2⟩
  change c ht hc h := ⟨hP.change c ht hc h.1, hQ.change c ht hc h.2⟩
  prompt chatId hs hn h := ⟨hP.prompt chatId hs hn h.1, hQ.prompt chatId hs hn h.2⟩
  restart h := ⟨hP.restart h.1, hQ.restart h.2⟩

/-- A line stood its guard, and what holds of all points held when it was added. -/
structure Stood (venue : Venue) (cfg : BotConfig) (P : JournalPoint → Prop) (older : Journal)
    (e : Line) : Prop where
  tidy : Tidy e.state
  guarded : Guarded venue cfg older e
  held : P (e.state, older)

theorem split_cons {x : Line} (hsplit : x :: h = newer ++ e :: older) :
    (newer = [] ∧ x = e ∧ h = older) ∨ ∃ newer', h = newer' ++ e :: older := by
  cases newer with
  | nil =>
    obtain ⟨rfl, rfl⟩ := List.cons.inj hsplit
    exact .inl ⟨rfl, rfl, rfl⟩
  | cons x newer' => exact .inr ⟨newer', (List.cons.inj hsplit).2⟩

theorem journaled_line (hP : Preserved venue cfg P) (hj : Journaled venue cfg env.host p)
    (hsplit : p.2 = newer ++ e :: older) (he : promptOf e = none) :
    Stood venue cfg P older e := by
  have hall : P p ∧ ∀ (newer : Journal) (e : Line) (older : Journal),
      p.2 = newer ++ e :: older → promptOf e = none → Stood venue cfg P older e := by
    refine journaled_invariant (P := fun p => P p ∧ ∀ (newer : Journal) (e : Line)
      (older : Journal), p.2 = newer ++ e :: older → promptOf e = none →
        Stood venue cfg P older e) hj (fun chain => ⟨hP.initial chain, ?_⟩) ?_
    · intro newer e older hnil
      simp at hnil
    · intro p q ht ⟨hp, hlines⟩ turn
      refine ⟨preserved_turn hP ht hp turn, ?_⟩
      have hadd : ∀ {w : World} {h : Journal} (x : Line), p = (w, h) → x.state = w →
          (promptOf x = none → Guarded venue cfg h x) → q.2 = x :: h →
          ∀ (newer : Journal) (e : Line) (older : Journal), q.2 = newer ++ e :: older →
            promptOf e = none → Stood venue cfg P older e := by
        rintro w h x rfl hstate hg hq newer e older hsplit hnone
        rw [hq] at hsplit
        rcases split_cons hsplit with ⟨-, rfl, rfl⟩ | ⟨newer', hdeeper⟩
        · subst hstate
          exact ⟨ht, hg hnone, hp⟩
        · exact hlines newer' e older hdeeper hnone
      cases turn with
      | act ha =>
        cases ha with
        | begin j => exact hadd (.start j.fiber j _) rfl rfl (fun _ => trivial) rfl
        | tell e _ _ hstate hg => exact hadd e rfl hstate (fun _ => hg) rfl
        | minor hm => exact hlines
        | change c hc => exact hlines
        | prompt chatId u amountUsd destination notice hs hn =>
          intro newer e older hsplit hnone
          rcases split_cons hsplit with ⟨-, rfl, rfl⟩ | ⟨newer', hdeeper⟩
          · cases hn with
            | checked => cases hnone
            | entry => cases hnone
          · exact hlines newer' e older hdeeper hnone
      | answer hr => exact hlines
      | stop => exact hadd (.stop _) rfl rfl (fun _ => trivial) rfl
  exact hall.2 newer e older hsplit he

/-- A confirmation prompt was one of the user who spoke, and what holds of all points held
before it. -/
structure Asked (venue : Venue) (cfg : BotConfig) (P : JournalPoint → Prop) (older : Journal)
    (e : Line) (u : TelegramId) (w : World) (notice : Notice) : Prop where
  line : ∃ chatId w', w'.db = w.db ∧ e = .call .telegram (Query.reply chatId notice) w'
  speaks : speaker (own .telegram older) = some u
  prompts : ∃ amountUsd destination, Prompts venue cfg u w (own .telegram older) amountUsd
    destination notice
  held : P (w, older)

theorem promptOf_guarded (hg : Guarded venue cfg h e) : promptOf e = none := by
  unfold promptOf
  split
  · exact absurd hg id
  · exact absurd hg id
  · rfl

theorem journaled_prompt (hP : Preserved venue cfg P) (hj : Journaled venue cfg env.host p)
    (hsplit : p.2 = newer ++ e :: older) (he : promptOf e ≠ none) :
    ∃ u w notice, Asked venue cfg P older e u w notice := by
  have hall : P p ∧ ∀ (newer : Journal) (e : Line) (older : Journal),
      p.2 = newer ++ e :: older → promptOf e ≠ none →
        ∃ u w notice, Asked venue cfg P older e u w notice := by
    refine journaled_invariant (P := fun p => P p ∧ ∀ (newer : Journal) (e : Line)
      (older : Journal), p.2 = newer ++ e :: older → promptOf e ≠ none →
        ∃ u w notice, Asked venue cfg P older e u w notice) hj
      (fun chain => ⟨hP.initial chain, ?_⟩) ?_
    · intro newer e older hnil
      simp at hnil
    · intro p q ht ⟨hp, hlines⟩ turn
      refine ⟨preserved_turn hP ht hp turn, ?_⟩
      have hadd : ∀ {x : Line}, promptOf x = none → q.2 = x :: p.2 →
          ∀ (newer : Journal) (e : Line) (older : Journal), q.2 = newer ++ e :: older →
            promptOf e ≠ none → ∃ u w notice, Asked venue cfg P older e u w notice := by
        intro x hx hq newer e older hsplit hsome
        rw [hq] at hsplit
        rcases split_cons hsplit with ⟨-, rfl, -⟩ | ⟨newer', hdeeper⟩
        · exact absurd hx hsome
        · exact hlines newer' e older hdeeper hsome
      cases turn with
      | act ha =>
        cases ha with
        | begin j => exact hadd (x := .start j.fiber j _) rfl rfl
        | tell e _ _ _ hg => exact hadd (promptOf_guarded hg) rfl
        | minor hm => exact hlines
        | change c hc => exact hlines
        | @prompt w h chatId u amountUsd destination notice hs hn =>
          intro newer e older hsplit hsome
          rcases split_cons hsplit with ⟨-, rfl, rfl⟩ | ⟨newer', hdeeper⟩
          · let w' := w.withMemory (withPending u (some (.withdraw amountUsd)) w.memory)
            exact ⟨u, w, notice, ⟨chatId, w', rfl, rfl⟩, hs, ⟨amountUsd, destination, hn⟩, hp⟩
          · exact hlines newer' e older hdeeper hsome
      | answer hr => exact hlines
      | stop => exact hadd (x := .stop _) rfl rfl
  exact hall.2 newer e older hsplit he

theorem preserved_true : Preserved venue cfg fun _ => True where
  initial _ := trivial
  line _ _ _ _ _ := trivial
  minor _ _ := trivial
  change _ _ _ _ := trivial
  prompt _ _ _ _ := trivial
  restart _ := trivial

theorem tidy_preserved : Preserved venue cfg fun p => Tidy p.1 where
  initial := tidy_initial
  line _ _ _ _ ht := ht
  minor hm ht := alike_tidy ht hm.toAlike
  change _ _ hp ht := change_tidy ht hp
  prompt _ _ _ ht := ⟨ht.users, ht.addresses, ht.deposits, ht.withdrawals, ht.changes⟩
  restart ht := ⟨ht.users, ht.addresses, ht.deposits, ht.withdrawals, ht.changes⟩

/-- A relation between an earlier and a later state, kept by whatever happens to the tables. -/
structure Lasting (venue : Venue) (cfg : BotConfig) (R : World → World → Prop) : Prop where
  same : ∀ {w w'}, w'.db = w.db → R w w'
  minor : ∀ {w w'}, Minor w w' → R w w'
  change : ∀ {i w h} (c : Change), Tidy w → Permitted venue cfg i w h c → R w (c.apply w)
  trans : ∀ {w w' w''}, R w w' → R w' w'' → R w w''

theorem lasting_preserved (hR : Lasting venue cfg R) :
    Preserved venue cfg fun p => ∀ e ∈ p.2, R e.state p.1 where
  initial _ := by
    intro e he
    cases he
  line x _ hstate _ h := by
    intro e he
    rcases List.mem_cons.mp he with rfl | hmem
    · exact hR.same (by rw [hstate])
    · exact h e hmem
  minor hm h e he := hR.trans (h e he) (hR.minor hm)
  change c ht hc h e he := hR.trans (h e he) (hR.change c ht hc)
  prompt chatId _ _ h := by
    intro e he
    rcases List.mem_cons.mp he with rfl | hmem
    · exact hR.same rfl
    · exact hR.trans (h e hmem) (hR.same rfl)
  restart h e he := hR.trans (h e he) (hR.same rfl)

def readingOf : Line → Option ℤ
  | .choice _ Choice.clock _ ms => some ms
  | _ => none

/-- The clock never went backwards. -/
def Ticking (h : Journal) : Prop :=
  (h.filterMap readingOf).Pairwise fun newer older => older ≤ newer

theorem readingOf_clock {ms : ℤ} : readingOf (.choice i Choice.clock w ms) = some ms := rfl

theorem ticking_reading {ms ms' : ℤ} (ht : Ticking h)
    (hsplit : h = newer ++ .choice i Choice.clock w ms :: older) (hr : Reading ms' older) :
    ms' ≤ ms := by
  obtain ⟨j, w', hmem⟩ := hr
  subst hsplit
  unfold Ticking at ht
  rw [List.filterMap_append, List.pairwise_append] at ht
  have hbelow := ht.2.1
  rw [List.filterMap_cons_some readingOf_clock, List.pairwise_cons] at hbelow
  exact hbelow.1 ms' (List.mem_filterMap.mpr ⟨_, hmem, rfl⟩)

/-- The row was queued by a statement of the journal, run in state `w` on top of `older`. -/
structure QueuedAt (venue : Venue) (cfg : BotConfig) (r : WithdrawalRow)
    (amountUsd navPerShare : ℚ) (w : World) (older h : Journal) : Prop where
  recorded : .choice .telegram (Choice.statement (.enqueueWithdrawal r.telegramId r.sharesBurned))
    w (none : Option Thrown) :: .choice .telegram Choice.clock w r.queuedAt :: older <:+ h
  ordered : Ordered venue cfg r.telegramId amountUsd r.destination (own .telegram older)
  priced : Priced venue cfg navPerShare (own .telegram older)
  positive : 0 < navPerShare
  id : r.id = nextId (w.db.withdrawals.map WithdrawalRow.id)
  shares : r.sharesBurned = amountUsd / navPerShare
  fee : r.feeShares = (splitFee r.sharesBurned cfg.commands.withdrawalFeeBps).feeShares

def Queued (venue : Venue) (cfg : BotConfig) (r : WithdrawalRow) (h : Journal) : Prop :=
  ∃ amountUsd navPerShare w older, QueuedAt venue cfg r amountUsd navPerShare w older h

theorem queued_cons {r : WithdrawalRow} (hq : Queued venue cfg r h) :
    Queued venue cfg r (e :: h) := by
  obtain ⟨amountUsd, navPerShare, w, older, hq⟩ := hq
  exact ⟨amountUsd, navPerShare, w, older,
    { hq with recorded := hq.recorded.trans (List.suffix_cons ..) }⟩

theorem queued_order {r r' : WithdrawalRow} (horder : order r' = order r)
    (hq : Queued venue cfg r h) : Queued venue cfg r' h := by
  obtain ⟨amountUsd, navPerShare, w, older, hrecorded, hordered, hpriced, hpos, hid, hshares, hfee⟩ := hq
  simp only [order, Order.mk.injEq] at horder
  obtain ⟨h₁, h₂, h₃, h₄, h₅, h₆⟩ := horder
  refine ⟨amountUsd, navPerShare, w, older, ?_, ?_, hpriced, hpos, h₁.trans hid,
    h₄.trans hshares, ?_⟩
  · rw [h₂, h₄, h₆]
    exact hrecorded
  · rw [h₂, h₃]
    exact hordered
  · rw [h₅, h₄]
    exact hfee

theorem queued_of_queueing {r : WithdrawalRow} (hq : Queueing venue cfg r w h) :
    Queued venue cfg r h := by
  obtain ⟨amountUsd, navPerShare, older, rfl, hordered, hpriced, hpos, hrow⟩ := hq
  refine ⟨amountUsd, navPerShare, w, older, List.suffix_rfl, hordered, hpriced, hpos, ?_, ?_, ?_⟩
  · exact congrArg WithdrawalRow.id hrow
  · exact congrArg WithdrawalRow.sharesBurned hrow
  · have hshares : r.sharesBurned = amountUsd / navPerShare :=
      congrArg WithdrawalRow.sharesBurned hrow
    rw [hshares]
    exact congrArg WithdrawalRow.feeShares hrow

theorem withdrawals_queued :
    Preserved venue cfg fun p => ∀ r ∈ p.1.db.withdrawals, Queued venue cfg r p.2 where
  initial _ := by
    intro r hr
    cases hr
  line e _ _ _ h r hr := queued_cons (h r hr)
  minor hm h := by
    rw [hm.withdrawals]
    exact h
  change c _ hc h := by
    intro r hr
    cases c with
    | addWithdrawal row =>
      rcases List.mem_append.mp hr with hold | hnew
      · exact h r hold
      · rw [List.mem_singleton.mp hnew]
        exact queued_of_queueing hc.2
    | amendWithdrawal id f =>
      rcases mem_amend.mp hr with ⟨hold, -⟩ | ⟨r', hr', -, rfl⟩
      · exact h r hold
      · exact queued_order (hc r') (h r' hr')
    | _ => exact h r hr
  prompt _ _ _ h r hr := queued_cons (h r hr)
  restart h := h

end JournalLaws
