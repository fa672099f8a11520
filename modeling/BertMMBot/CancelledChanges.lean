import BertMMBot.DestinationSafety

/-! # What a cancel cancels

A user may have several whitelist changes waiting. The cancel picks the one that was asked
for last; it never comes into force, and the changes waiting beside it keep their turn. -/
namespace CancelledChanges

open AsyncProgram AsyncContract AsyncFibers AsyncRecords RecordedTriples KeyedTable
open VaultTypes VaultProgram DepositorStore DepositorCommands
open VaultJournal JournalMachine JournalTriples JournalLaws
open VaultDiscipline (Environment)
open MeteoraPosition (Venue)
open VaultRuntime (BotConfig)
open PlayedRuns (plainVenue plainConfig oneSol quotes anyEnvironment)
open DestinationSafety (changes_documented)
open PlayedJournals

variable {venue : Venue} {cfg : BotConfig} {env : Environment} {w w' w₀ : World}
  {h newer older : Journal} {p : JournalPoint} {u : TelegramId} {c r r' : WhitelistChangeRow}
  {latest : Option WhitelistChangeRow} {notice : Notice} {chatId : ℤ}

def Settles (w w' : World) : Prop :=
  ∀ c ∈ w.db.whitelistChanges, c.status ≠ .pending → c ∈ w'.db.whitelistChanges

theorem settles_lasting : Lasting venue cfg Settles where
  same hdb c hc _ := by
    rw [hdb]
    exact hc
  minor hm c hc _ := by
    rw [hm.whitelistChanges]
    exact hc
  trans hR hR' c hc hs := hR' c (hR c hc hs) hs
  change {i w h₀} x ht hp := by
    intro c hc hsettled
    -- only a waiting change is amended, and no other row has its key
    have hamend : ∀ (c' : WhitelistChangeRow) (f : WhitelistChangeRow → WhitelistChangeRow),
        c' ∈ w.db.whitelistChanges → c'.status = .pending →
        c ∈ amend WhitelistChangeRow.id c'.id f w.db.whitelistChanges := by
      intro c' f hc' hpending
      refine mem_amend.mpr (.inl ⟨hc, ?_⟩)
      intro hid
      rw [keyed_unique ht.changes hc hc' hid] at hsettled
      exact hsettled hpending
    cases x with
    | requestWhitelist c' => exact List.mem_append_left _ hc
    | firstWhitelist c' => exact List.mem_append_left _ hc
    | activateWhitelist c' => exact hamend c' activated hp.2.1 hp.2.2.1
    | cancelWhitelist c' reason => exact hamend c' (cancelled reason) hp.2.1 hp.2.2
    | _ => exact hc

/-- The change with this id has come into force. -/
def Activated (id : ℕ) (db : Db) : Prop :=
  ∃ r ∈ db.whitelistChanges, r.id = id ∧ r.status = .activated

theorem waiting_of_activated (ht : Tidy w') (hs : Settles w w')
    (hr : r ∈ w.db.whitelistChanges) (hstatus : r.status ≠ .activated)
    (ha : Activated r.id w'.db) : r.status = .pending := by
  by_contra hpending
  obtain ⟨r', hr', hid, hactive⟩ := ha
  have hsame : r' = r := keyed_unique ht.changes hr' (hs r hr hpending) hid
  rw [hsame] at hactive
  exact hstatus hactive

theorem mostRecent_mem (hc : mostRecentPendingChange u w.db = some c) :
    c ∈ w.db.whitelistChanges ∧ c.telegramId = u ∧ c.status = .pending := by
  have hmem := List.argmax_mem (Option.mem_def.mpr hc)
  rw [List.mem_filter] at hmem
  exact ⟨hmem.1, by simpa using hmem.2⟩

theorem mostRecent_le (hc : mostRecentPendingChange u w.db = some c)
    (hr : r ∈ w.db.whitelistChanges) (hu : r.telegramId = u) (hpending : r.status = .pending) :
    r.requestedAt ≤ c.requestedAt := by
  refine List.le_of_mem_argmax ?_ (Option.mem_def.mpr hc)
  rw [List.mem_filter]
  exact ⟨hr, by simp [hu, hpending]⟩

theorem mostRecent_none (hnone : mostRecentPendingChange u w.db = none)
    (hr : r ∈ w.db.whitelistChanges) (hu : r.telegramId = u) : r.status ≠ .pending := by
  intro hpending
  have hempty := List.argmax_eq_none.mp hnone
  have hmem : r ∈ w.db.whitelistChanges.filter fun c => c.telegramId = u ∧ c.status = .pending := by
    rw [List.mem_filter]
    exact ⟨hr, by simp [hu, hpending]⟩
  rw [hempty] at hmem
  cases hmem

/-- What the cancel behind a notice found in the table, and what it did to it. -/
inductive Found (u : TelegramId) (w : World) (h : Journal) :
    Notice → World → Option WhitelistChangeRow → Prop where
  | latest (w₀ : World) (c : WhitelistChangeRow) (reason : String) :
      (Entry.choice .telegram (Choice.statement (.cancelPendingWhitelist c.id)) w₀
        (none : Option Thrown) : Line) ∈ own .telegram h →
      mostRecentPendingChange u w₀.db = some c →
      w.db.whitelistChanges =
        amend WhitelistChangeRow.id c.id (cancelled reason) w₀.db.whitelistChanges →
      Found u w h .whitelistCancelled w₀ (some c)
  | nothing : mostRecentPendingChange u w.db = none → Found u w h .nothingToCancel w none

/-- The change waited beside the one that the cancel picked, and was not asked for later. -/
def Beside (latest : Option WhitelistChangeRow) (r : WhitelistChangeRow) : Prop :=
  r.status = .pending ∧ ∃ c, latest = some c ∧ r ≠ c ∧ r.requestedAt ≤ c.requestedAt

theorem found_beside (hf : Found u w h notice w₀ latest) (ht₀ : Tidy w₀) (ht : Tidy w')
    (hs : Settles w w') (hr : r ∈ w₀.db.whitelistChanges) (hu : r.telegramId = u)
    (hstatus : r.status ≠ .activated) (ha : Activated r.id w'.db) : Beside latest r := by
  cases hf with
  | nothing hnone =>
    exact absurd (waiting_of_activated ht hs hr hstatus ha) (mostRecent_none hnone hr hu)
  | latest w₀ c reason hline hlatest hrows =>
    obtain ⟨hc, hcu, hcpending⟩ := mostRecent_mem hlatest
    have hne : r ≠ c := by
      intro heq
      subst heq
      -- the row that was picked is cancelled, so it is not waiting
      have hmem : cancelled reason r ∈ w.db.whitelistChanges := by
        rw [hrows]
        exact mem_amend.mpr (.inr ⟨r, hr, rfl, rfl⟩)
      have hwaits := waiting_of_activated ht hs hmem (by simp [cancelled]) ha
      cases hwaits
    have hmem : r ∈ w.db.whitelistChanges := by
      rw [hrows]
      refine mem_amend.mpr (.inl ⟨hr, ?_⟩)
      intro hid
      exact hne (keyed_unique ht₀.changes hr hc hid)
    have hpending := waiting_of_activated ht hs hmem hstatus ha
    exact ⟨hpending, c, rfl, hne, mostRecent_le hlatest hr hu hpending⟩

def IsCancelNotice (notice : Notice) : Prop :=
  notice = .whitelistCancelled ∨ notice = .nothingToCancel

theorem notice_found (hnotice : IsCancelNotice notice)
    (hg : Guarded venue cfg older (.call .telegram (Query.reply chatId notice) w)) :
    ∃ u w₀ latest, Authorized venue cfg u (own .telegram older) ∧
      Found u w older notice w₀ latest := by
  rcases hnotice with rfl | rfl
  · obtain ⟨-, u, hauthorized, w₀, c, reason, hline, hlatest, hrows⟩ := hg
    exact ⟨u, w₀, some c, hauthorized, .latest w₀ c reason hline hlatest hrows⟩
  · obtain ⟨-, u, hauthorized, hnone⟩ := hg
    exact ⟨u, w, none, hauthorized, .nothing hnone⟩

theorem found_tidy (hj : Journaled venue cfg env.host p) (hsuffix : older <:+ p.2) (ht : Tidy w)
    (hf : Found u w older notice w₀ latest) : Tidy w₀ := by
  cases hf with
  | nothing hnone => exact ht
  | latest w₀ c reason hline hlatest hrows =>
    obtain ⟨newer, older', hsplit⟩ := List.append_of_mem
      (hsuffix.subset (ChatJournal.mem_own hline))
    exact (journaled_line preserved_true hj hsplit rfl).tidy

/-- A cancel keeps the change that was asked for last from ever coming into force; of the
user's other changes only those that were waiting beside it still can. -/
theorem cancelled_change_never_activates (hj : Journaled venue cfg env.host p)
    (hnotice : IsCancelNotice notice)
    (hsplit : p.2 = newer ++ .call .telegram (Query.reply chatId notice) w :: older) :
    ∃ u w₀ latest, Authorized venue cfg u (own .telegram older) ∧
      Found u w older notice w₀ latest ∧
      ∀ r ∈ w₀.db.whitelistChanges, r.telegramId = u → r.status ≠ .activated →
        Activated r.id p.1.db → Beside latest r := by
  have hprompt : promptOf (.call .telegram (Query.reply chatId notice) w) = none := by
    rcases hnotice with rfl | rfl <;> rfl
  have hstood := journaled_line preserved_true hj hsplit hprompt
  obtain ⟨u, w₀, latest, hauthorized, hfound⟩ := notice_found hnotice hstood.guarded
  have hsuffix : older <:+ p.2 := by
    rw [hsplit]
    exact (List.suffix_cons ..).trans (List.suffix_append ..)
  have hlasts := journaled_preserved (lasting_preserved settles_lasting) hj _
    (hsplit ▸ List.mem_append_right newer (List.mem_cons_self ..))
  refine ⟨u, w₀, latest, hauthorized, hfound, ?_⟩
  intro r hr hu hstatus ha
  exact found_beside hfound (found_tidy hj hsuffix hstood.tidy hfound)
    (journaled_preserved tidy_preserved hj) hlasts hr hu hstatus ha

def isCancelled : Line → Bool
  | .call .telegram (Query.reply _ .whitelistCancelled) _ => true
  | _ => false

theorem isCancelled_call {e : Line} (he : isCancelled e = true) :
    ∃ chatId w, e = .call .telegram (Query.reply chatId .whitelistCancelled) w := by
  unfold isCancelled at he
  split at he
  · exact ⟨_, _, rfl⟩
  · cases he

def cancelling : JournaledRun := settlingIn ++ [
  told 2100000 "/setwhitelist close" 2,
  told 2250000 "/cancelwhitelist" 2,
  ticked { clock := 100000000, samples := quotes }]

theorem cancelled_change_never_activates_cancelling :
    ∃ chatId w newer older, (cancelling.point plainVenue plainConfig oneSol).2 =
        newer ++ .call .telegram (Query.reply chatId .whitelistCancelled) w :: older ∧
      ∃ u w₀ latest, Authorized plainVenue plainConfig u (own .telegram older) ∧
        Found u w older .whitelistCancelled w₀ latest ∧
        ∀ r ∈ w₀.db.whitelistChanges, r.telegramId = u → r.status ≠ .activated →
          Activated r.id (cancelling.point plainVenue plainConfig oneSol).1.db →
          Beside latest r := by
  have hany : (cancelling.point plainVenue plainConfig oneSol).2.any isCancelled = true := by
    decide +kernel
  obtain ⟨newer, e, older, hsplit, he⟩ := any_split hany
  obtain ⟨chatId, w, rfl⟩ := isCancelled_call he
  exact ⟨chatId, w, newer, older, hsplit, cancelled_change_never_activates
    (played_journaled _ _ _ _) (.inl rfl) hsplit⟩

/-- User 2 asks for two more addresses and cancels the latter change; a day later the tick
sets the former. -/
def cancellingOne : JournaledRun := settlingIn ++ [
  told 2100000 "/setwhitelist close" 2,
  told 2200000 "/setwhitelist far" 2,
  told 2250000 "/cancelwhitelist" 2,
  ticked { clock := 100000000, samples := quotes }]

/-- A confirmed cancel, with a change of the user that comes into force all the same. -/
def isOutlived (u : TelegramId) (db : Db) : Line → Bool
  | .call .telegram (Query.reply _ .whitelistCancelled) w =>
    w.db.whitelistChanges.all (fun r => r.telegramId = u) &&
      w.db.whitelistChanges.any fun r => r.status ≠ .activated &&
        db.whitelistChanges.any fun r' => r'.id = r.id ∧ r'.status = .activated
  | _ => false

theorem isOutlived_call {e : Line} {db : Db} (he : isOutlived u db e = true) :
    ∃ chatId w, e = .call .telegram (Query.reply chatId .whitelistCancelled) w ∧
      (∀ r ∈ w.db.whitelistChanges, r.telegramId = u) ∧
      ∃ r ∈ w.db.whitelistChanges, r.status ≠ .activated ∧ Activated r.id db := by
  unfold isOutlived at he
  split at he
  · rename_i chatId w
    obtain ⟨hall, hany⟩ := Bool.and_eq_true_iff.mp he
    obtain ⟨r, hr, hboth⟩ := List.any_eq_true.mp hany
    obtain ⟨hstatus, hactive⟩ := Bool.and_eq_true_iff.mp hboth
    obtain ⟨r', hr', hsame⟩ := List.any_eq_true.mp hactive
    refine ⟨chatId, w, rfl, ?_, r, hr, of_decide_eq_true hstatus, r', hr', of_decide_eq_true hsame⟩
    intro r hr
    exact of_decide_eq_true (List.all_eq_true.mp hall r hr)
  · cases he

theorem found_user (hf : Found u w older .whitelistCancelled w₀ latest) :
    ∃ r ∈ w.db.whitelistChanges, r.telegramId = u := by
  cases hf with
  | latest w₀ c reason hline hlatest hrows =>
    obtain ⟨hc, hu, -⟩ := mostRecent_mem hlatest
    refine ⟨cancelled reason c, ?_, hu⟩
    rw [hrows]
    exact mem_amend.mpr (.inr ⟨c, hc, rfl, rfl⟩)

/-- The user's earlier change comes into force after the cancel was confirmed. -/
theorem cancel_leaves_earlier_change :
    ∃ (p : JournalPoint) (newer older : Journal) (chatId : ℤ) (w : World) (u : TelegramId)
      (r : WhitelistChangeRow), Journaled plainVenue plainConfig anyEnvironment.host p ∧
      p.2 = newer ++ .call .telegram (Query.reply chatId .whitelistCancelled) w :: older ∧
      Authorized plainVenue plainConfig u (own .telegram older) ∧
      r ∈ w.db.whitelistChanges ∧ r.telegramId = u ∧ Requested r older ∧
      r.status ≠ .activated ∧ Activated r.id p.1.db := by
  have hany : (cancellingOne.point plainVenue plainConfig oneSol).2.any
      (isOutlived 2 (cancellingOne.point plainVenue plainConfig oneSol).1.db) = true := by
    decide +kernel
  obtain ⟨newer, e, older, hsplit, he⟩ := any_split hany
  obtain ⟨chatId, w, rfl, hall, r, hr, hstatus, hactive⟩ := isOutlived_call he
  have hj := played_journaled plainVenue plainConfig cancellingOne oneSol
  have hstood := journaled_line changes_documented hj hsplit rfl
  obtain ⟨u, w₀, latest, hauthorized, hfound⟩ := notice_found (.inl rfl) hstood.guarded
  obtain ⟨c, hc, hu⟩ := found_user hfound
  have htwo : u = 2 := hu.symm.trans (hall c hc)
  exact ⟨_, newer, older, chatId, w, u, r, hj, hsplit, hauthorized, hr,
    (hall r hr).trans htwo.symm, (hstood.held r hr).requested, hstatus, hactive⟩

end CancelledChanges
