import BertMMBot.PlayedJournals

/-! # Where withdrawals may go

Every address on file was asked for by its user, and every later one waited for its
cooldown. A withdrawal row keeps the address that was on file when its command was checked,
so a payout reaches no other. -/
namespace DestinationSafety

open AsyncProgram AsyncContract AsyncFibers AsyncRecords RecordedTriples KeyedTable
open VaultTypes VaultProgram DepositorStore DepositorCommands
open VaultJournal JournalMachine JournalTriples JournalLaws
open VaultDiscipline (Environment)
open LedgerMachine (Fiber)
open MeteoraPosition (Venue)
open VaultRuntime (BotConfig commandsDeps)
open PlayedRuns (plainVenue plainConfig oneSol)
open PlayedJournals (JournaledRun.point withdrawing played_journaled any_split)

variable {venue : Venue} {cfg : BotConfig} {env : Environment} {i : Fiber} {w w' : World}
  {h h' newer older : Journal} {p : JournalPoint} {u v : TelegramId} {e : Line} {db : Db}

theorem whitelistOf_congr {db' : Db} (h : accounts db' = accounts db) :
    whitelistOf u db' = whitelistOf u db := by
  rw [whitelistOf, whitelistOf, accountOf_congr h]

theorem whitelistOf_enrol (enrolledAt : Option ℤ) :
    whitelistOf u (updateUser v (enrol enrolledAt) db) = whitelistOf u db := by
  unfold whitelistOf accountOf
  rw [accounts_enrol]
  by_cases hv : u = v
  · subst v
    rw [lookup_amend_self (f := Account.enrol enrolledAt) fun _ => rfl]
    cases lookup Account.telegramId u (accounts db) <;> rfl
  · rw [lookup_amend_of_ne (f := Account.enrol enrolledAt) (fun _ => rfl) hv]

theorem whitelistOf_self (address : Address) :
    whitelistOf u (updateUser u (whitelist address) db) =
      (accountOf u db).map fun _ => address := by
  unfold whitelistOf accountOf
  rw [accounts_whitelist, lookup_amend_self (f := Account.whitelist address) fun _ => rfl]
  cases lookup Account.telegramId u (accounts db) <;> rfl

theorem whitelistOf_other (address : Address) (hv : u ≠ v) :
    whitelistOf u (updateUser v (whitelist address) db) = whitelistOf u db := by
  unfold whitelistOf accountOf
  rw [accounts_whitelist, lookup_amend_of_ne (f := Account.whitelist address) (fun _ => rfl) hv]

theorem account_of_whitelist {address : Address} (h : whitelistOf u db = some address) :
    (accountOf u db).isSome := by
  cases ha : accountOf u db with
  | none => simp [whitelistOf, ha] at h
  | some a => rfl

theorem whitelistOf_addUser {row : UserRow} {address : Address}
    (h : whitelistOf u db = some address) :
    whitelistOf u { db with users := db.users ++ [row] } = some address := by
  obtain ⟨a, ha⟩ := Option.isSome_iff_exists.mp (account_of_whitelist h)
  have hsame : accountOf u { db with users := db.users ++ [row] } = some a := by
    simp only [accountOf, accounts, List.map_append]
    exact lookup_append_some ha
  simp only [whitelistOf, hsame, ha] at h ⊢
  exact h

theorem change_known {c : Change} (hk : whitelistOf u w.db ≠ none) :
    whitelistOf u (c.apply w).db ≠ none := by
  obtain ⟨address, ha⟩ := Option.ne_none_iff_exists'.mp hk
  have hupdate : ∀ {db' : Db} (v : TelegramId) (address' : Address), accounts db' = accounts w.db →
      whitelistOf u (updateUser v (whitelist address') db') ≠ none := by
    intro db' v address' hdb
    by_cases hv : u = v
    · subst v
      rw [whitelistOf_self, accountOf_congr hdb]
      have hsome := account_of_whitelist ha
      intro hnone
      rw [Option.map_eq_none_iff.mp hnone] at hsome
      cases hsome
    · rw [whitelistOf_other address' hv, whitelistOf_congr hdb]
      exact hk
  cases c with
  | addUser row =>
    intro hnone
    exact Option.some_ne_none address ((whitelistOf_addUser ha).symm.trans hnone)
  | setEnrolment v enrolledAt =>
    intro hnone
    exact hk ((whitelistOf_enrol enrolledAt).symm.trans hnone)
  | firstWhitelist c => exact hupdate c.telegramId c.newAddress rfl
  | activateWhitelist c => exact hupdate c.telegramId c.newAddress rfl
  | _ => exact hk

/-- No request of the same user is older. -/
def First (c : WhitelistChangeRow) (db : Db) : Prop :=
  ∀ c' ∈ db.whitelistChanges, c'.telegramId = c.telegramId → c.id ≤ c'.id

/-- The wait of a request is over, as a reading of the clock showed. -/
def Waited (venue : Venue) (cfg : BotConfig) (c : WhitelistChangeRow) (h : Journal) : Prop :=
  ∃ ms, Reading ms h ∧ c.requestedAt + (commandsDeps venue cfg).cooldownMs ≤ ms

structure Documented (venue : Venue) (cfg : BotConfig) (c : WhitelistChangeRow) (db : Db)
    (h : Journal) : Prop where
  requested : Requested c h
  known : whitelistOf c.telegramId db ≠ none
  reason : c.status ≠ .cancelled → c.cancelReason = none
  founding : c.oldAddress = none → First c db
  scheduled : c.status = .pending →
    c.activatesAt = c.requestedAt + (commandsDeps venue cfg).cooldownMs
  waited : c.status = .activated → c.oldAddress = none ∨ Waited venue cfg c h

variable {c c' : WhitelistChangeRow}

theorem requested_cons (hr : Requested c h) : Requested c (e :: h) := by
  obtain ⟨w, hmem, hid⟩ := hr
  exact ⟨w, List.mem_cons_of_mem e hmem, hid⟩

theorem waited_cons (hw : Waited venue cfg c h) : Waited venue cfg c (e :: h) := by
  obtain ⟨ms, ⟨i, w, hmem⟩, hle⟩ := hw
  exact ⟨ms, ⟨i, w, List.mem_cons_of_mem e hmem⟩, hle⟩

theorem documented_cons (hd : Documented venue cfg c db h) :
    Documented venue cfg c db (e :: h) where
  requested := requested_cons hd.requested
  known := hd.known
  reason := hd.reason
  founding := hd.founding
  scheduled := hd.scheduled
  waited ha := (hd.waited ha).imp_right waited_cons

theorem documented_same {db' : Db} (hd : Documented venue cfg c db h)
    (hknown : whitelistOf c.telegramId db' ≠ none)
    (hrows : db'.whitelistChanges = db.whitelistChanges) : Documented venue cfg c db' h where
  requested := hd.requested
  known := hknown
  reason := hd.reason
  founding hnone := by
    intro c' hc'
    rw [hrows] at hc'
    exact hd.founding hnone c' hc'
  scheduled := hd.scheduled
  waited := hd.waited

theorem documented_append {db' : Db} (hd : Documented venue cfg c db h) (hc : c ∈ db.whitelistChanges)
    (hknown : whitelistOf c.telegramId db' ≠ none)
    (hrows : db'.whitelistChanges = db.whitelistChanges ++ [c'])
    (hid : c'.id = nextId (db.whitelistChanges.map WhitelistChangeRow.id)) :
    Documented venue cfg c db' h where
  requested := hd.requested
  known := hknown
  reason := hd.reason
  founding hnone := by
    intro x hx hu
    rw [hrows] at hx
    rcases List.mem_append.mp hx with hold | hnew
    · exact hd.founding hnone x hold hu
    · rw [List.mem_singleton.mp hnew, hid]
      exact Nat.le_of_lt (nextId_fresh (List.mem_map_of_mem hc))
  scheduled := hd.scheduled
  waited := hd.waited

theorem founding_amend {f : WhitelistChangeRow → WhitelistChangeRow} {id : ℕ}
    (hf : ∀ r, (f r).id = r.id ∧ (f r).telegramId = r.telegramId) (hfirst : First c db) {db' : Db}
    (hrows : db'.whitelistChanges = amend WhitelistChangeRow.id id f db.whitelistChanges) :
    First c db' := by
  intro x hx hu
  rw [hrows] at hx
  rcases mem_amend.mp hx with ⟨hold, -⟩ | ⟨r, hr, -, rfl⟩
  · exact hfirst x hold hu
  · rw [(hf r).1]
    exact hfirst r hr ((hf r).2.symm.trans hu)

theorem changes_documented : Preserved venue cfg
    fun p => ∀ c ∈ p.1.db.whitelistChanges, Documented venue cfg c p.1.db p.2 where
  initial _ := by
    intro c hc
    cases hc
  line e _ _ _ h c hc := documented_cons (h c hc)
  minor {w w' h₀} hm h := by
    intro c hc
    have hc' : c ∈ w.db.whitelistChanges := hm.whitelistChanges ▸ hc
    refine documented_same (h c hc') ?_ hm.whitelistChanges
    rw [whitelistOf_congr hm.accounts]
    exact (h c hc').known
  change {i w h₀} c ht hp h := by
    have same : ∀ w', w' = c.apply w → w'.db.whitelistChanges = w.db.whitelistChanges →
        ∀ r ∈ w'.db.whitelistChanges, Documented venue cfg r w'.db h₀ := by
      rintro w' rfl hrows r hr
      have hr' : r ∈ w.db.whitelistChanges := hrows ▸ hr
      exact documented_same (h r hr') (change_known (h r hr').known) hrows
    cases c with
    | requestWhitelist c =>
      obtain ⟨-, hreq, hold, hsome, hpending, hat⟩ := hp
      intro r hr
      rcases List.mem_append.mp hr with hmem | hnew
      · exact documented_append (h r hmem) hmem (h r hmem).known rfl hreq.fresh
      · obtain rfl := List.mem_singleton.mp hnew
        refine ⟨hreq.requested, ?_, fun _ => hreq.reason, ?_, fun _ => hat, ?_⟩
        · change whitelistOf r.telegramId w.db ≠ none
          rw [hold]
          exact hsome
        · intro hnone
          exact absurd hnone hsome
        · intro hactive
          rw [hpending] at hactive
          cases hactive
    | firstWhitelist c =>
      obtain ⟨-, hreq, hnone, hold, haccount, hactive⟩ := hp
      intro r hr
      rcases List.mem_append.mp hr with hmem | hnew
      · exact documented_append (h r hmem) hmem
          (change_known (c := .firstWhitelist c) (h r hmem).known) rfl hreq.fresh
      · obtain rfl := List.mem_singleton.mp hnew
        refine ⟨hreq.requested, ?_, fun _ => hreq.reason, ?_, ?_, fun _ => .inl hold⟩
        · intro hgone
          have hself := whitelistOf_self r.newAddress |>.symm.trans hgone
          obtain ⟨a, ha⟩ := Option.isSome_iff_exists.mp haccount
          have ha' : accountOf r.telegramId
            { w.db with whitelistChanges := w.db.whitelistChanges ++ [r] } = some a := ha
          rw [ha'] at hself
          cases hself
        · intro _ x hx hu
          rcases List.mem_append.mp hx with hx' | hx'
          · exact absurd hnone (hu ▸ (h x hx').known)
          · rw [List.mem_singleton.mp hx']
        · intro hpending
          rw [hactive] at hpending
          cases hpending
    | activateWhitelist c =>
      obtain ⟨-, hc, hpending, ms, hreading, hle⟩ := hp
      intro r hr
      have hfirst : ∀ r', First r' w.db → First r' (Change.apply w (.activateWhitelist c)).db :=
        fun r' hfirst => founding_amend (f := activated) (fun _ => ⟨rfl, rfl⟩) hfirst rfl
      have hknown : ∀ u', whitelistOf u' w.db ≠ none →
          whitelistOf u' (Change.apply w (.activateWhitelist c)).db ≠ none :=
        fun u' hk => change_known (c := .activateWhitelist c) hk
      rcases mem_amend_keyed ht.changes (lookup_of_mem ht.changes hc) hr with ⟨hmem, -⟩ | rfl
      · have hd := h r hmem
        exact ⟨hd.requested, hknown _ hd.known, hd.reason, fun hn => hfirst r (hd.founding hn),
          hd.scheduled, hd.waited⟩
      · have hd := h c hc
        refine ⟨hd.requested, hknown _ hd.known, ?_, fun hn => hfirst c (hd.founding hn), ?_, ?_⟩
        · intro _
          refine hd.reason ?_
          rw [hpending]
          decide
        · intro hp
          cases hp
        · intro _
          refine .inr ⟨ms, hreading, ?_⟩
          have hat := hd.scheduled hpending
          change c.requestedAt + _ ≤ ms
          omega
    | cancelWhitelist c reason =>
      obtain ⟨-, hc, hpending⟩ := hp
      intro r hr
      have hfirst : ∀ r', First r' w.db → First r' (Change.apply w (.cancelWhitelist c reason)).db :=
        fun r' hfirst => founding_amend (f := cancelled reason) (fun _ => ⟨rfl, rfl⟩) hfirst rfl
      rcases mem_amend_keyed ht.changes (lookup_of_mem ht.changes hc) hr with ⟨hmem, -⟩ | rfl
      · have hd := h r hmem
        exact ⟨hd.requested, hd.known, hd.reason, fun hn => hfirst r (hd.founding hn),
          hd.scheduled, hd.waited⟩
      · have hd := h c hc
        refine ⟨hd.requested, hd.known, ?_, fun hn => hfirst c (hd.founding hn), ?_, ?_⟩
        · intro hne
          exact absurd rfl hne
        · intro hp
          cases hp
        · intro hp
          cases hp
    | _ => exact same _ rfl rfl
  prompt _ _ _ h c hc := documented_cons (h c hc)
  restart h := h

def Active (u : TelegramId) (address : Address) (db : Db) : Prop :=
  ∃ c ∈ db.whitelistChanges, c.telegramId = u ∧ c.newAddress = address ∧ c.status = .activated

def Outlives (w w' : World) : Prop :=
  ∀ c ∈ w.db.whitelistChanges, c.status = .activated → c ∈ w'.db.whitelistChanges

theorem outlives_lasting : Lasting venue cfg Outlives where
  same hdb c hc _ := by
    rw [hdb]
    exact hc
  minor hm c hc _ := by
    rw [hm.whitelistChanges]
    exact hc
  trans hR hR' c hc ha := hR' c (hR c hc ha) ha
  change {i w h₀} x ht hp := by
    intro c hc hactive
    have hamend : ∀ (c' : WhitelistChangeRow) (f : WhitelistChangeRow → WhitelistChangeRow),
        c' ∈ w.db.whitelistChanges → c'.status = .pending →
        c ∈ amend WhitelistChangeRow.id c'.id f w.db.whitelistChanges := by
      intro c' f hc' hpending
      refine mem_amend.mpr (.inl ⟨hc, ?_⟩)
      intro hid
      rw [keyed_unique ht.changes hc hc' hid, hpending] at hactive
      cases hactive
    cases x with
    | requestWhitelist c' => exact List.mem_append_left _ hc
    | firstWhitelist c' => exact List.mem_append_left _ hc
    | activateWhitelist c' => exact hamend c' activated hp.2.1 hp.2.2.1
    | cancelWhitelist c' reason => exact hamend c' (cancelled reason) hp.2.1 hp.2.2
    | _ => exact hc

theorem active_outlives {address : Address} (hR : Outlives w w') (ha : Active u address w.db) :
    Active u address w'.db := by
  obtain ⟨c, hc, hu, haddress, hactive⟩ := ha
  exact ⟨c, hR c hc hactive, hu, haddress, hactive⟩

theorem addresses_active : Preserved venue cfg
    fun p => ∀ u address, whitelistOf u p.1.db = some address → Active u address p.1.db where
  initial _ u address h := by cases h
  line _ _ _ _ h := h
  minor hm h := by
    intro u address hw
    rw [whitelistOf_congr hm.accounts] at hw
    have lasts : Lasting venue cfg Outlives := outlives_lasting
    exact active_outlives (lasts.minor hm) (h u address hw)
  change {i w h₀} c ht hp h := by
    have lasts := outlives_lasting.change c ht hp
    have keeps : ∀ w', w' = c.apply w → (∀ u, whitelistOf u w'.db = whitelistOf u w.db) →
        ∀ u address, whitelistOf u w'.db = some address → Active u address w'.db := by
      rintro w' rfl hsame u address hw
      exact active_outlives lasts (h u address ((hsame u).symm.trans hw))
    cases c with
    | addUser row =>
      obtain ⟨-, -, hfresh, -, hnone⟩ := hp
      intro u address hw
      by_cases hu : u = row.telegramId
      · subst u
        have hlast : accountOf row.telegramId { w.db with users := w.db.users ++ [row] } =
            some (account row) := by
          simp only [accountOf, accounts, List.map_append]
          exact lookup_append_fresh (a := account row) (lookup_none.mpr fun a ha => (hfresh a ha).1)
        simp only [Change.apply, World.withDb_db, whitelistOf, hlast] at hw
        exact absurd (hnone.symm.trans hw) (by simp)
      · have hother : whitelistOf u { w.db with users := w.db.users ++ [row] } =
            whitelistOf u w.db := by
          simp only [whitelistOf, accountOf, accounts, List.map_append]
          exact congrArg (Option.bind · Account.whitelistAddress)
            (lookup_append_of_ne (a := account row) hu)
        exact h u address (hother.symm.trans hw)
    | setEnrolment v enrolledAt => exact keeps _ rfl fun _ => whitelistOf_enrol enrolledAt
    | firstWhitelist c =>
      obtain ⟨-, -, -, -, -, hactive⟩ := hp
      intro u address hw
      by_cases hu : u = c.telegramId
      · subst u
        obtain ⟨a, -, rfl⟩ := Option.map_eq_some_iff.mp ((whitelistOf_self _).symm.trans hw)
        exact ⟨c, List.mem_append_right _ (List.mem_singleton_self c), rfl, rfl, hactive⟩
      · exact active_outlives lasts (h u address ((whitelistOf_other _ hu).symm.trans hw))
    | activateWhitelist c =>
      intro u address hw
      by_cases hu : u = c.telegramId
      · subst u
        obtain ⟨a, -, rfl⟩ := Option.map_eq_some_iff.mp ((whitelistOf_self _).symm.trans hw)
        exact ⟨activated c, mem_amend.mpr (.inr ⟨c, hp.2.1, rfl, rfl⟩), rfl, rfl, rfl⟩
      · exact active_outlives lasts (h u address ((whitelistOf_other _ hu).symm.trans hw))
    | _ => exact keeps _ rfl fun _ => rfl
  prompt _ _ _ h := h
  restart h := h

/-- The user asked for the change, in a message or button press of his own. -/
def Asked (c : WhitelistChangeRow) (h : Journal) : Prop :=
  ∃ newer w older, h = newer ++ .choice .telegram
      (Choice.statement (.enqueueWhitelistChange c.telegramId)) w (none : Option Thrown) :: older ∧
    c.id = nextId (w.db.whitelistChanges.map WhitelistChangeRow.id) ∧
    speaker (own .telegram older) = some c.telegramId

/-- The withdrawal goes to an address that its user asked for, that was not cancelled, and
that is the user's first or was asked for a cooldown before the withdrawal was queued. -/
structure Approved (venue : Venue) (cfg : BotConfig) (c : WhitelistChangeRow) (r : WithdrawalRow)
    (db : Db) (h : Journal) : Prop where
  user : c.telegramId = r.telegramId
  address : c.newAddress = r.destination
  asked : Asked c h
  active : c.status = .activated
  notCancelled : c.cancelReason = none
  waited : First c db ∨ c.requestedAt + (commandsDeps venue cfg).cooldownMs ≤ r.queuedAt

theorem cleared_split {ms : ℤ} {L : Journal} (hc : Cleared venue cfg u w ms L)
    (hsuffix : L <:+ own .telegram h) :
    ∃ newer older, h = newer ++ .choice .telegram Choice.clock w ms :: older ∧
      L = .choice .telegram Choice.clock w ms :: own .telegram older := by
  obtain ⟨l, hl⟩ := hsuffix
  have hform : ∃ L', L = .choice .telegram Choice.clock w ms :: L' := by
    cases hc with
    | accepted => exact ⟨_, rfl⟩
    | unlocked => exact ⟨_, rfl⟩
  obtain ⟨L', rfl⟩ := hform
  obtain ⟨newer, older, hsplit, hold⟩ := own_split hl.symm rfl
  exact ⟨newer, older, hsplit, by rw [hold]⟩

theorem queued_active {r : WithdrawalRow} (hj : Journaled venue cfg env.host p)
    (hclock : Ticking p.2) (hsuffix : h <:+ p.2) (hq : Queued venue cfg r h) :
    ∃ e ∈ h, ∃ c ∈ e.state.db.whitelistChanges, c.telegramId = r.telegramId ∧
      c.newAddress = r.destination ∧ c.status = .activated ∧
      (c.oldAddress = none ∨ c.requestedAt + (commandsDeps venue cfg).cooldownMs ≤ r.queuedAt) := by
  obtain ⟨amountUsd, navPerShare, w, older, hq⟩ := hq
  obtain ⟨w₁, ms₁, L', hL', hcleared, hdest, -⟩ := hq.ordered.checked
  obtain ⟨newer₁, older₁, rfl, -⟩ := cleared_split hcleared hL'
  obtain ⟨newest, hnewest⟩ := hq.recorded.trans hsuffix
  have hread : p.2 = (newest ++ [.choice .telegram (Choice.statement (.enqueueWithdrawal
      r.telegramId r.sharesBurned)) w (none : Option Thrown)]) ++
      .choice .telegram Choice.clock w r.queuedAt :: (newer₁ ++
        .choice .telegram Choice.clock w₁ ms₁ :: older₁) := by
    rw [← hnewest]
    simp
  have hcheck : p.2 = (newest ++ .choice .telegram (Choice.statement (.enqueueWithdrawal
      r.telegramId r.sharesBurned)) w (none : Option Thrown) ::
      .choice .telegram Choice.clock w r.queuedAt :: newer₁) ++
      .choice .telegram Choice.clock w₁ ms₁ :: older₁ := by
    rw [← hnewest]
    simp
  have hstood := journaled_line (preserved_and changes_documented addresses_active) hj hcheck rfl
  obtain ⟨c, hc, hu, ha, hactive⟩ := hstood.held.2 _ _ hdest
  have hmem : (Entry.choice .telegram Choice.clock w₁ ms₁ : Line) ∈ h := by
    refine hq.recorded.subset ?_
    simp
  refine ⟨_, hmem, c, hc, hu, ha, hactive, ?_⟩
  rcases (hstood.held.1 c hc).waited hactive with hold | ⟨ms, hreading, hle⟩
  · exact .inl hold
  · have hbefore : Reading ms (newer₁ ++ .choice .telegram Choice.clock w₁ ms₁ :: older₁) := by
      obtain ⟨i, w₂, hmem⟩ := hreading
      exact ⟨i, w₂, List.mem_append_right _ (List.mem_cons_of_mem _ hmem)⟩
    have hlate := ticking_reading hclock hread hbefore
    right
    omega

theorem asked_of_requested {c : WhitelistChangeRow} (hj : Journaled venue cfg env.host p)
    (hsuffix : h <:+ p.2) (hr : Requested c h) : Asked c h := by
  obtain ⟨w, hmem, hid⟩ := hr
  obtain ⟨newer, older, rfl⟩ := List.append_of_mem hmem
  obtain ⟨newest, hnewest⟩ := hsuffix
  have hsplit : p.2 = (newest ++ newer) ++ .choice .telegram
      (Choice.statement (.enqueueWhitelistChange c.telegramId)) w (none : Option Thrown) ::
      older := by
    rw [← hnewest]
    simp
  obtain ⟨-, hauthorized, -⟩ := (journaled_line preserved_true hj hsplit rfl).guarded
  exact ⟨newer, w, older, rfl, hid, hauthorized.speaks⟩

/-- Every payout goes where its user asked for, after the cooldown. -/
theorem payout_destination_approved {destination : Address} {sol bert : ℤ}
    (hj : Journaled venue cfg env.host p) (hclock : Ticking p.2)
    (hsplit : p.2 = newer ++ .call i (Query.executeTransfer destination sol bert) w :: older) :
    ∃ id rest, w.trace = .transfer id destination sol bert :: rest ∧
      ∃ r ∈ w.db.withdrawals, r.id = id ∧ r.destination = destination ∧
        ∃ c ∈ w.db.whitelistChanges, Approved venue cfg c r w.db older := by
  have hstood := journaled_line (preserved_and (preserved_and changes_documented withdrawals_queued)
    (lasting_preserved outlives_lasting)) hj hsplit (by cases i <;> rfl)
  obtain ⟨⟨hdocumented, hqueued⟩, hlasts⟩ := hstood.held
  obtain ⟨id, rest, htrace, r, hr, hid, hdest⟩ := hstood.guarded
  have hsuffix : older <:+ p.2 := by
    rw [hsplit]
    exact (List.suffix_cons ..).trans (List.suffix_append ..)
  obtain ⟨e, he, c, hc, huser, haddress, hactive, hwaited⟩ :=
    queued_active hj hclock hsuffix (hqueued r hr)
  have hnow : c ∈ w.db.whitelistChanges := hlasts e he c hc hactive
  have hd : Documented venue cfg c w.db older := hdocumented c hnow
  refine ⟨id, rest, htrace, r, hr, hid, hdest, c, hnow, huser, haddress,
    asked_of_requested hj hsuffix hd.requested, hactive, ?_, ?_⟩
  · refine hd.reason ?_
    rw [hactive]
    decide
  · exact hwaited.imp_left hd.founding

def isTransfer : Line → Bool
  | .call .main (Query.executeTransfer _ _ _) _ => true
  | _ => false

theorem isTransfer_call (he : isTransfer e = true) :
    ∃ destination sol bert w, e = .call .main (Query.executeTransfer destination sol bert) w := by
  unfold isTransfer at he
  split at he
  · exact ⟨_, _, _, _, rfl⟩
  · cases he

/-- The payout of a played run has such a request behind it. -/
theorem payout_destination_approved_withdrawing :
    ∃ destination sol bert w newer older,
      (withdrawing.point plainVenue plainConfig oneSol).2 =
        newer ++ .call .main (Query.executeTransfer destination sol bert) w :: older ∧
      ∃ id rest, w.trace = .transfer id destination sol bert :: rest ∧
        ∃ r ∈ w.db.withdrawals, r.id = id ∧ r.destination = destination ∧
          ∃ c ∈ w.db.whitelistChanges, Approved plainVenue plainConfig c r w.db older := by
  have hany : (withdrawing.point plainVenue plainConfig oneSol).2.any isTransfer = true := by
    decide +kernel
  obtain ⟨newer, e, older, hsplit, he⟩ := any_split hany
  obtain ⟨destination, sol, bert, w, rfl⟩ := isTransfer_call he
  exact ⟨destination, sol, bert, w, newer, older, hsplit,
    payout_destination_approved (played_journaled _ _ _ _) (by decide +kernel) hsplit⟩

end DestinationSafety
