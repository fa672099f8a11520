import BertMMBot.PlayedJournals
import BertMMBot.ShareConservation

/-! # Deposits and the sweeps behind them

Each deposit row repeats a sweep whose submission came back with a signature. What the
sweeps of an address moved is compared with what was credited for it, and what the audit log
knew with what was submitted again. -/
namespace SweptDeposits

open AsyncProgram AsyncContract AsyncFibers AsyncRecords RecordedTriples KeyedTable
open VaultTypes VaultProgram DepositorStore DepositPipeline OperatorCommands ShareMath
open VaultJournal JournalMachine JournalTriples JournalStore JournalLaws
open ShareConservation (bootstrapShares mintedShares burnedShares)
open VaultDiscipline (Environment)
open LedgerMachine (Fiber)
open MeteoraPosition (Venue)
open VaultRuntime (BotConfig pipelineDeps)
open PlayedRuns (plainVenue plainConfig oneSol anyEnvironment)
open PlayedJournals

variable {venue : Venue} {cfg : BotConfig} {env : Environment} {i : Fiber} {w w' : World}
  {h h' newer older : Journal} {p : JournalPoint} {u : TelegramId} {e : Line} {db : Db}
  {s : Sweep} {d : DepositRow} {address : Address} {inboundTxSig : String}

theorem sweepAt_some (hs : sweepAt h e = some s) :
    ∃ w rest, e = .answer .main (Query.submitTx s.instructions) (.ok s.sweepTxSig) w ∧
      polled h = some s.address ∧
      w.trace = .sweep s.inboundTxSig s.solLamports s.bertRaw :: rest := by
  unfold sweepAt at hs
  split at hs
  · next ixs txSig w =>
    split at hs
    · next address sig sol bert rest hpolled htrace =>
      obtain rfl := Option.some.inj hs
      exact ⟨w, rest, rfl, hpolled, htrace⟩
    · cases hs
  · cases hs

theorem mem_sweeps_cons (hs : s ∈ sweeps (e :: h)) : sweepAt h e = some s ∨ s ∈ sweeps h := by
  rcases List.mem_append.mp hs with hhead | htail
  · exact .inl (Option.mem_toList.mp hhead)
  · exact .inr htail

theorem sweeps_built : Preserved venue cfg fun p => ∀ s ∈ sweeps p.2,
    buildSweepInstructions s.solLamports s.bertRaw pipelineDeps.rentReserveLamports =
      .ok s.instructions where
  initial _ s hs := by cases hs
  line e _ hstate hg h := by
    intro s hs
    rcases mem_sweeps_cons hs with hnew | hold
    · obtain ⟨w, rest, rfl, -, htrace⟩ := sweepAt_some hnew
      obtain ⟨sig, sol, bert, rest', htrace', hbuilt⟩ := hg
      rw [htrace] at htrace'
      cases htrace'
      exact hbuilt
    · exact h s hold
  minor _ h := h
  change _ _ _ h := h
  prompt chatId _ hn h := by
    rw [sweeps]
    cases hn <;> exact h
  restart h := h

def OwnsStill (w w' : World) : Prop :=
  ∀ u address, Owns u address w.db → Owns u address w'.db

theorem ownsStill_lasting : Lasting venue cfg OwnsStill where
  same hdb u address ho := by
    rw [hdb]
    exact ho
  minor hm _ _ ho := owns_alike hm.toAlike ho
  change _ _ _ _ address ho := change_owns address ho
  trans hR hR' u address ho := hR' u address (hR u address ho)

/-- A row of the audit log repeats a sweep of an address of its user. -/
def Repeated (r : SweptRow) (db : Db) (h : Journal) : Prop :=
  ∃ s ∈ sweeps h, ∃ u, Owns u s.address db ∧
    r = ⟨some u, s.inboundTxSig, s.sweepTxSig, s.solLamports, s.bertRaw⟩

theorem repeated_mono {r : SweptRow} (hR : OwnsStill w w') (hs : h <:+ h')
    (hr : Repeated r w.db h) : Repeated r w'.db h' := by
  obtain ⟨s, hmem, u, ho, heq⟩ := hr
  exact ⟨s, sweeps_suffix hs hmem, u, hR u _ ho, heq⟩

theorem sweptRows_repeated :
    Preserved venue cfg fun p => ∀ r ∈ sweptRows p.1.db, Repeated r p.1.db p.2 where
  initial _ r hr := by cases hr
  line e _ _ _ h r hr := repeated_mono (fun _ _ ho => ho) (List.suffix_cons ..) (h r hr)
  minor hm h := by
    rw [hm.sweptRows]
    intro r hr
    have lasts : Lasting venue cfg OwnsStill := ownsStill_lasting
    exact repeated_mono (lasts.minor hm) List.suffix_rfl (h r hr)
  change {i w h₀} c ht hc h := by
    intro r hr
    have lasts := ownsStill_lasting.change c ht hc
    have keeps : r ∈ sweptRows w.db → Repeated r (c.apply w).db h₀ :=
      fun hold => repeated_mono lasts List.suffix_rfl (h r hold)
    cases c with
    | addSwept row =>
      obtain ⟨-, s, hs, u, ho, hrow⟩ := hc
      have hrows : sweptRows { w.db with auditLog := w.db.auditLog ++ [row] } =
          sweptRows w.db ++ [⟨some u, s.inboundTxSig, s.sweepTxSig, s.solLamports, s.bertRaw⟩] := by
        simp [sweptRows, List.filterMap_append, hrow]
      rcases List.mem_append.mp (hrows ▸ hr) with hold | hnew
      · exact keeps hold
      · exact ⟨s, hs, u, ho, List.mem_singleton.mp hnew⟩
    | _ => exact keeps hr
  prompt _ _ _ h r hr := repeated_mono (fun _ _ ho => ho) (List.suffix_cons ..) (h r hr)
  restart h := h

theorem journaled_tidy (hj : Journaled venue cfg env.host p) : Tidy p.1 := by
  refine journaled_preserved (P := fun p => Tidy p.1) ?_ hj
  exact {
    initial := MainJournal.tidy_initial
    line := fun _ _ _ _ h => h
    minor := fun hm h => alike_tidy h hm.toAlike
    change := fun _ ht hc _ => change_tidy ht hc
    prompt := fun _ _ _ h => ⟨h.users, h.addresses, h.deposits, h.withdrawals, h.changes⟩
    restart := fun h => ⟨h.users, h.addresses, h.deposits, h.withdrawals, h.changes⟩ }

/-- The statement that inserts a deposit row of this signature. -/
def CreditLine (inboundTxSig : String) (e : Line) : Prop :=
  ∃ i w, e = .choice i (Choice.statement (.creditDeposit inboundTxSig)) w (none : Option Thrown)

/-- A deposit row was inserted by its statement, with a sweep behind it. -/
def Recorded (d : DepositRow) (w : World) (h : Journal) : Prop :=
  (∃ e ∈ h, CreditLine d.inboundTxSig e) ∧
    ∃ i w₀ h₀, h₀ <:+ h ∧ Backed d i w₀ h₀ ∧ OwnsStill w₀ w

theorem recorded_mono (hR : OwnsStill w w') (hs : h <:+ h') (hd : Recorded d w h) :
    Recorded d w' h' := by
  obtain ⟨⟨e, he, hline⟩, i, w₀, h₀, hsuffix, hbacked, howns⟩ := hd
  exact ⟨⟨e, hs.subset he, hline⟩, i, w₀, h₀, hsuffix.trans hs, hbacked,
    fun u address ho => hR u address (howns u address ho)⟩

theorem deposits_recorded :
    Preserved venue cfg fun p => ∀ d ∈ p.1.db.deposits, Recorded d p.1 p.2 where
  initial _ d hd := by cases hd
  line e _ _ _ h d hd := recorded_mono (fun _ _ ho => ho) (List.suffix_cons ..) (h d hd)
  minor hm h := by
    rw [hm.deposits]
    intro d hd
    have lasts : Lasting venue cfg OwnsStill := ownsStill_lasting
    exact recorded_mono (lasts.minor hm) List.suffix_rfl (h d hd)
  change {i w h₀} c ht hc h := by
    intro d hd
    have lasts := ownsStill_lasting.change c ht hc
    have keeps : d ∈ w.db.deposits → Recorded d (c.apply w) h₀ :=
      fun hold => recorded_mono lasts List.suffix_rfl (h d hold)
    cases c with
    | addDeposit row =>
      obtain ⟨-, hbacked, w₁, hline⟩ := hc
      rcases List.mem_append.mp hd with hold | hnew
      · exact keeps hold
      · rw [List.mem_singleton.mp hnew]
        exact ⟨⟨_, hline, i, w₁, rfl⟩, i, w, h₀, List.suffix_rfl, hbacked, lasts⟩
    | _ => exact keeps hd
  prompt _ _ _ h d hd := recorded_mono (fun _ _ ho => ho) (List.suffix_cons ..) (h d hd)
  restart h := h

/-- A sweep of this signature is on record, and its submission came back. -/
def SweptBefore (inboundTxSig : String) (h : Journal) : Prop :=
  ∃ s ∈ sweeps h, s.inboundTxSig = inboundTxSig

theorem consulted_repeated {o : Unit} {r : SweptRow} (hj : Journaled venue cfg env.host p)
    (hs : h <:+ p.2) (hmem : Entry.choice .telegram Choice.consult w o ∈ own .telegram h)
    (hr : r ∈ sweptRows w.db) : Repeated r w.db h := by
  obtain ⟨newer, older, rfl⟩ := List.append_of_mem (ChatJournal.mem_own hmem)
  obtain ⟨newest, hnewest⟩ := hs
  have hsplit : p.2 = (newest ++ newer) ++ .choice .telegram Choice.consult w o :: older := by
    rw [← hnewest]
    simp
  have hrow := (journaled_line sweptRows_repeated hj hsplit rfl).held r hr
  exact repeated_mono (fun _ _ ho => ho)
    ((List.suffix_cons ..).trans (List.suffix_append ..)) hrow

theorem creditLine_swept (hj : Journaled venue cfg env.host p)
    (hsplit : p.2 = newer ++ e :: older) (he : CreditLine inboundTxSig e) :
    SweptBefore inboundTxSig older := by
  obtain ⟨i, w, rfl⟩ := he
  have hg : Traced inboundTxSig i older := (journaled_line preserved_true hj hsplit rfl).guarded
  have hsuffix : older <:+ p.2 := by
    rw [hsplit]
    exact (List.suffix_cons ..).trans (List.suffix_append ..)
  cases i with
  | main => exact hg
  | telegram =>
    obtain ⟨w₁, o, hmem, r, hr, rfl⟩ := hg
    obtain ⟨s, hs, u, -, rfl⟩ := consulted_repeated hj hsuffix hmem hr
    exact ⟨s, hs, rfl⟩
  | cli => exact hg.elim

theorem credit_error {H : VaultHost} {params : CreditParams} {x : Thrown}
    (he : Ends H (credit params w) (.error x) w') : w'.db = w.db := by
  cases hc : computeSharesForDeposit params.depositUsd params.navPerShareAtDeposit with
  | error y =>
    have hrun : credit params w = .done (.error y) w := by
      simp only [credit, hc, liftExcept]
      rfl
    rw [hrun] at he
    cases he
    rfl
  | ok sharesMinted =>
    have hrun : credit params w = creditTransaction params sharesMinted w := by
      simp only [credit, hc, liftExcept]
      rfl
    rw [hrun] at he
    obtain ⟨s, rfl⟩ := ends_transact_error he
    rfl

/-- A signature is credited at most once, with one mint for its row, above a sweep of it that
was submitted; a credit that throws leaves the tables as they were. -/
theorem credited_once_after_sweep (hj : Journaled venue cfg env.host p) :
    (p.1.db.deposits.map DepositRow.inboundTxSig).Nodup ∧
    (∀ u, getShares u p.1.db =
      bootstrapShares u p.1.db + mintedShares u p.1.db - burnedShares u p.1.db) ∧
    (∀ d ∈ p.1.db.deposits, ∃ newer e older, p.2 = newer ++ e :: older ∧
      CreditLine d.inboundTxSig e ∧ SweptBefore d.inboundTxSig older) ∧
    ∀ (H : VaultHost) params w x w', Ends H (credit params w) (.error x) w' → w'.db = w.db := by
  refine ⟨(journaled_tidy hj).deposits, ?_, ?_, fun H params w x w' he => credit_error he⟩
  · exact (ShareConservation.reachable_conserved env (journaled_reachable hj)).balance
  · intro d hd
    obtain ⟨⟨e, he, hline⟩, -⟩ := journaled_preserved deposits_recorded hj d hd
    obtain ⟨newer, older, hsplit⟩ := List.append_of_mem he
    exact ⟨newer, e, older, hsplit, hline, creditLine_swept hj hsplit hline⟩

/-- One deposit of a played run, credited after its sweep. -/
theorem credited_once_after_sweep_holding :
    (holding.point plainVenue plainConfig oneSol).1.db.deposits.length = 1 ∧
      (∀ d ∈ (holding.point plainVenue plainConfig oneSol).1.db.deposits, ∃ newer e older,
        (holding.point plainVenue plainConfig oneSol).2 = newer ++ e :: older ∧
        CreditLine d.inboundTxSig e ∧ SweptBefore d.inboundTxSig older) :=
  ⟨by decide +kernel,
    (credited_once_after_sweep (played_journaled plainVenue plainConfig holding oneSol)).2.2.1⟩

def lamportsOf : SweepInstruction → ℕ
  | .transfer lamports => lamports
  | .transferChecked _ => 0

def bertRawOf : SweepInstruction → ℕ
  | .transfer _ => 0
  | .transferChecked bertRaw => bertRaw

/-- What a sweep moved to the pool wallet. -/
def movedSol (s : Sweep) : ℕ := (s.instructions.map lamportsOf).sum

def movedBert (s : Sweep) : ℕ := (s.instructions.map bertRawOf).sum

def sweepsOf (address : Address) (h : Journal) : List Sweep :=
  (sweeps h).filter fun s => s.address = address

def depositsOf (u : TelegramId) (db : Db) : List DepositRow :=
  db.deposits.filter fun d => d.telegramId = u

def sweptSol (address : Address) (h : Journal) : ℕ := ((sweepsOf address h).map movedSol).sum

def sweptBert (address : Address) (h : Journal) : ℕ := ((sweepsOf address h).map movedBert).sum

def creditedSol (u : TelegramId) (db : Db) : ℕ := ((depositsOf u db).map DepositRow.solLamports).sum

def creditedBert (u : TelegramId) (db : Db) : ℕ := ((depositsOf u db).map DepositRow.bertRaw).sum

def credits (d : DepositRow) (s : Sweep) : Bool :=
  s.inboundTxSig = d.inboundTxSig ∧ s.solLamports = d.solLamports ∧ s.bertRaw = d.bertRaw

/-- The sweeps of an address that no deposit row of its user accounts for. -/
def otherSweeps (u : TelegramId) (address : Address) (db : Db) (h : Journal) : List Sweep :=
  unmatched credits (depositsOf u db) (sweepsOf address h)

theorem built_amounts {sol bert reserve : ℕ} {ixs : List SweepInstruction}
    (hb : buildSweepInstructions sol bert reserve = .ok ixs) :
    (ixs.map lamportsOf).sum = sol - reserve ∧ (ixs.map bertRawOf).sum = bert ∧
      (sol = 0 ∨ reserve < sol) := by
  unfold buildSweepInstructions at hb
  by_cases hs : reserve < sol
  · have hpos : 0 < sol - reserve := by omega
    have hok : ¬(0 < sol ∧ sol - reserve = 0) := by omega
    simp only [if_pos hs, if_pos hpos, if_neg hok, Except.ok.injEq] at hb
    subst hb
    by_cases hbert : 0 < bert
    · simp [hbert, lamportsOf, bertRawOf, hs]
    · obtain rfl : bert = 0 := by omega
      simp [lamportsOf, bertRawOf, hs]
  · have hzero : sol = 0 := by
      by_contra hne
      simp [hs, Nat.pos_of_ne_zero hne] at hb
    subst hzero
    simp only [Nat.not_lt_zero, if_false, Nat.lt_irrefl, false_and, List.nil_append,
      Except.ok.injEq] at hb
    subst hb
    by_cases hbert : 0 < bert
    · simp [hbert, lamportsOf, bertRawOf]
    · obtain rfl : bert = 0 := by omega
      simp

/-- `/recreditdeposit` was only used where the audit log shows a sweep of the same user and
the same amounts as the detection that the credit takes them from. -/
def FaithfulRecredits (h : Journal) : Prop :=
  ∀ newer w o older msg w₀ sig detected swept u,
    h = newer ++ .choice .telegram Choice.consult w o :: older →
    Opened (.message msg) w₀ (own .telegram older) → TextInput.argument msg.text = some sig →
    scanAudit sig (listRecentAuditEvents 5000 w.db) ⟨none, none, none⟩ =
      ⟨some detected, some swept, some u⟩ →
    ∃ r ∈ sweptRows w.db, r.inboundTxSig = sig ∧ r.telegramId = some u ∧
      (r.solLamports, r.bertRaw) = detected

theorem opened_below {j : Job} {l L : Journal} (ho : Opened j w (l ++ e :: L))
    (he : e.isStart = false) : Opened j w L := by
  unfold Opened at ho ⊢
  rw [List.getLast?_append_cons] at ho
  cases L with
  | nil =>
    rw [List.getLast?_singleton] at ho
    rw [Option.some.inj ho] at he
    cases he
  | cons x L =>
    rw [List.getLast?_cons_cons] at ho
    exact ho

theorem deposit_swept (hj : Journaled venue cfg env.host p) (hf : FaithfulRecredits p.2)
    (hd : d ∈ p.1.db.deposits) :
    ∃ s ∈ sweeps p.2, Owns d.telegramId s.address p.1.db ∧ credits d s = true := by
  obtain ⟨-, i, w, h, hsuffix, hbacked, howns⟩ := journaled_preserved deposits_recorded hj d hd
  cases i with
  | main =>
    obtain ⟨s, hs, hsig, hsol, hbert, ho⟩ := hbacked
    exact ⟨s, sweeps_suffix hsuffix hs, howns _ _ ho, decide_eq_true ⟨hsig, hsol, hbert⟩⟩
  | telegram =>
    obtain ⟨msg, w₀, w₁, o, txSig, sol, bert, ms, hopen, harg, hmem, hscan⟩ := hbacked
    obtain ⟨l₁, l₂, hown⟩ := List.append_of_mem hmem
    obtain ⟨newer, older, rfl, rfl⟩ := own_split hown rfl
    obtain ⟨newest, hnewest⟩ := hsuffix
    have hsplit : p.2 = (newest ++ newer) ++ .choice .telegram Choice.consult w₁ o :: older := by
      rw [← hnewest]
      simp
    rw [hown] at hopen
    obtain ⟨r, hr, hsig, hu, hamounts⟩ := hf _ w₁ o older msg w₀ _ _ _ _ hsplit
      (opened_below hopen rfl) harg hscan
    obtain ⟨s, hs, v, ho, rfl⟩ := (journaled_line sweptRows_repeated hj hsplit rfl).held r hr
    obtain rfl := Option.some.inj hu
    obtain ⟨hsol, hbert⟩ := Prod.mk.inj hamounts
    have hlasts := journaled_preserved (lasting_preserved ownsStill_lasting) hj _
      (hsplit ▸ List.mem_append_right _ (List.mem_cons_self ..))
    refine ⟨s, ?_, hlasts _ _ ho, decide_eq_true ⟨hsig, hsol, hbert⟩⟩
    rw [hsplit]
    exact sweeps_suffix ((List.suffix_cons ..).trans (List.suffix_append ..)) hs
  | cli => exact hbacked.elim

theorem depositsOf_distinct (ht : Tidy p.1) :
    ((depositsOf u p.1.db).map DepositRow.inboundTxSig).Nodup :=
  (List.filter_sublist.map DepositRow.inboundTxSig).nodup ht.deposits

theorem depositsOf_swept (hj : Journaled venue cfg env.host p) (hf : FaithfulRecredits p.2)
    (ho : Owns u address p.1.db) (hd : d ∈ depositsOf u p.1.db) :
    ∃ s ∈ sweepsOf address p.2, credits d s = true := by
  obtain ⟨hmem, hu⟩ := List.mem_filter.mp hd
  obtain ⟨s, hs, hs', hc⟩ := deposit_swept hj hf hmem
  refine ⟨s, List.mem_filter.mpr ⟨hs, decide_eq_true ?_⟩, hc⟩
  rw [of_decide_eq_true hu] at hs'
  obtain ⟨a, ha, hau, haddress⟩ := ho
  obtain ⟨b, hb, hbu, hbddress⟩ := hs'
  obtain rfl := keyed_unique (journaled_tidy hj).users hb ha (hbu.trans hau.symm)
  exact hbddress.symm.trans haddress

theorem same_signature (d : DepositRow) (s : Sweep) (hc : credits d s = true) :
    s.inboundTxSig = d.inboundTxSig := (of_decide_eq_true hc).1

theorem swept_split {f : Sweep → ℕ} {g : DepositRow → ℕ} (hj : Journaled venue cfg env.host p)
    (hf : FaithfulRecredits p.2) (ho : Owns u address p.1.db)
    (hfg : ∀ d, ∀ s ∈ sweepsOf address p.2, credits d s = true → f s = g d) :
    ((sweepsOf address p.2).map f).sum = ((depositsOf u p.1.db).map g).sum +
      ((otherSweeps u address p.1.db p.2).map f).sum := by
  refine sum_unmatched same_signature hfg
    (depositsOf_distinct (journaled_tidy hj)) fun d hd => depositsOf_swept hj hf ho hd

/-- What the credited rows with SOL left at the address. -/
def reserved (u : TelegramId) (db : Db) : ℕ :=
  pipelineDeps.rentReserveLamports * (depositsOf u db).countP fun d => 0 < d.solLamports

theorem credited_reserved {reserve : ℕ} {D : List DepositRow}
    (hD : ∀ d ∈ D, d.solLamports = 0 ∨ reserve < d.solLamports) :
    (D.map DepositRow.solLamports).sum = (D.map fun d => d.solLamports - reserve).sum +
      reserve * D.countP fun d => 0 < d.solLamports := by
  induction D with
  | nil => rfl
  | cons d D ih =>
    have hrest := ih fun x hx => hD x (List.mem_cons_of_mem d hx)
    rcases hD d (List.mem_cons_self ..) with hzero | hpos
    · simp [hzero, hrest]
    · have hd : 0 < d.solLamports := by omega
      simp only [List.map_cons, List.sum_cons, hrest, List.countP_cons, hd, decide_true, if_true,
        Nat.mul_add]
      omega

/-- For the deposits of one address: BERT is never credited beyond what was swept, and SOL is
not if and only if sweeps without a deposit row moved the reserve of each deposit with SOL. -/
theorem credited_within_swept (hj : Journaled venue cfg env.host p)
    (hf : FaithfulRecredits p.2) (ho : Owns u address p.1.db) :
    creditedBert u p.1.db ≤ sweptBert address p.2 ∧
      (creditedSol u p.1.db ≤ sweptSol address p.2 ↔
        reserved u p.1.db ≤ ((otherSweeps u address p.1.db p.2).map movedSol).sum) := by
  have hbuilt : ∀ s ∈ sweepsOf address p.2, _ :=
    fun s hs => built_amounts (journaled_preserved sweeps_built hj s (List.mem_filter.mp hs).1)
  have hbert := swept_split (f := movedBert) (g := DepositRow.bertRaw) hj hf ho (by
    intro d s hs hc
    rw [movedBert, (hbuilt s hs).2.1]
    exact (of_decide_eq_true hc).2.2)
  have hsol := swept_split (f := movedSol)
    (g := fun d => d.solLamports - pipelineDeps.rentReserveLamports) hj hf ho (by
    intro d s hs hc
    rw [movedSol, (hbuilt s hs).1, (of_decide_eq_true hc).2.1])
  have hcredited := credited_reserved (D := depositsOf u p.1.db) (by
    intro d hd
    obtain ⟨s, hs, hc⟩ := depositsOf_swept hj hf ho hd
    rw [← (of_decide_eq_true hc).2.1]
    exact (hbuilt s hs).2.2)
  unfold creditedBert sweptBert creditedSol sweptSol reserved
  constructor
  · omega
  · constructor <;> intro h <;> omega

instance (u : TelegramId) (address : Address) (db : Db) : Decidable (Owns u address db) :=
  inferInstanceAs (Decidable (∃ a ∈ accounts db, a.telegramId = u ∧ a.depositAddress = address))

def isChatConsult : Line → Bool
  | .choice .telegram Choice.consult _ _ => true
  | _ => false

theorem faithful_of_none (hnone : h.any isChatConsult = false) : FaithfulRecredits h := by
  intro newer w o older msg w₀ sig detected swept u hsplit
  rw [hsplit, List.any_append, List.any_cons] at hnone
  simp [isChatConsult] at hnone

theorem credited_within_swept_holding :
    creditedBert 2 (holding.point plainVenue plainConfig oneSol).1.db ≤
        sweptBert "holder" (holding.point plainVenue plainConfig oneSol).2 ∧
      (creditedSol 2 (holding.point plainVenue plainConfig oneSol).1.db ≤
          sweptSol "holder" (holding.point plainVenue plainConfig oneSol).2 ↔
        reserved 2 (holding.point plainVenue plainConfig oneSol).1.db ≤
          ((otherSweeps 2 "holder" (holding.point plainVenue plainConfig oneSol).1.db
            (holding.point plainVenue plainConfig oneSol).2).map movedSol).sum) :=
  credited_within_swept (played_journaled _ _ _ _) (faithful_of_none (by decide +kernel))
    (by decide +kernel)

/-- One SOL is credited, and the reserve stays at the address. -/
theorem credited_beyond_swept : ∃ p, Journaled plainVenue plainConfig anyEnvironment.host p ∧
    Owns 2 "holder" p.1.db ∧ sweptSol "holder" p.2 < creditedSol 2 p.1.db :=
  ⟨holding.point plainVenue plainConfig oneSol, played_journaled _ _ _ _, by decide +kernel,
    by decide +kernel⟩

/-- The watcher reads no transaction whose sweep is on record already. -/
def NeverRefetched (h : Journal) : Prop :=
  ∀ newer sig w older, h = newer ++ .call .main (Query.getParsedTransaction sig) w :: older →
    ∀ r ∈ sweptRows w.db, r.inboundTxSig ≠ sig

/-- Where no recorded sweep is read again, no recorded sweep is submitted again. -/
theorem swept_once (hj : Journaled venue cfg env.host p) (hf : NeverRefetched p.2)
    {ixs : List SweepInstruction} (hsplit : p.2 = newer ++ .call i (Query.submitTx ixs) w :: older) :
    ∃ sig sol bert rest, w.trace = .sweep sig sol bert :: rest ∧
      ∀ r ∈ sweptRows w.db, r.inboundTxSig ≠ sig := by
  have hnone : promptOf (.call i (Query.submitTx ixs) w : Line) = none := by cases i <;> rfl
  obtain ⟨sig, ⟨sol, bert, rest, htrace, -⟩, w₁, hmem, hrows⟩ :=
    (journaled_line preserved_true hj hsplit hnone).guarded
  obtain ⟨newer₁, older₁, rfl⟩ := List.append_of_mem (ChatJournal.mem_own hmem)
  refine ⟨sig, sol, bert, rest, htrace, ?_⟩
  rw [hrows]
  refine hf (newer ++ .call i (Query.submitTx ixs) w :: newer₁) sig w₁ older₁ ?_
  rw [hsplit]
  simp

def isSubmit : Line → Bool
  | .call .main (Query.submitTx _) _ => true
  | _ => false

theorem isSubmit_call (he : isSubmit e = true) :
    ∃ ixs w, e = .call .main (Query.submitTx ixs) w := by
  unfold isSubmit at he
  split at he
  · exact ⟨_, _, rfl⟩
  · cases he

def readsUnswept : Line → Bool
  | .call .main (Query.getParsedTransaction sig) w =>
    (sweptRows w.db).all fun r => r.inboundTxSig ≠ sig
  | _ => true

theorem neverRefetched_of_all (hall : h.all readsUnswept = true) : NeverRefetched h := by
  intro newer sig w older hsplit r hr
  have hline := List.all_eq_true.mp hall (.call .main (Query.getParsedTransaction sig) w)
    (hsplit ▸ List.mem_append_right _ (List.mem_cons_self ..))
  exact of_decide_eq_true (List.all_eq_true.mp hline r hr)

theorem swept_once_holding : ∃ newer ixs w older,
    (holding.point plainVenue plainConfig oneSol).2 =
      newer ++ .call .main (Query.submitTx ixs) w :: older ∧
    ∃ sig sol bert rest, w.trace = .sweep sig sol bert :: rest ∧
      ∀ r ∈ sweptRows w.db, r.inboundTxSig ≠ sig := by
  have hany : (holding.point plainVenue plainConfig oneSol).2.any isSubmit = true := by
    decide +kernel
  obtain ⟨newer, e, older, hsplit, he⟩ := any_split hany
  obtain ⟨ixs, w, rfl⟩ := isSubmit_call he
  exact ⟨newer, ixs, w, older, hsplit, swept_once (played_journaled _ _ _ _)
    (neverRefetched_of_all (by decide +kernel)) hsplit⟩

/-- The credit of the first tick cannot be written; the next tick finds the transaction again. -/
def retried : JournaledRun :=
  (PlayedRuns.founding.1, .bootstrap ⟨1, 100⟩) :: (settlingIn ++
    [ticked { PlayedRuns.depositTick.1 with
        faults := fun st _ => if st = .creditDeposit "inbound" then
          some (.error "database is locked") else none },
      ticked { PlayedRuns.depositTick.1 with clock := 2200000 }])

def resubmits : Line → Bool
  | .call .main (Query.submitTx _) w =>
    match w.trace with
    | .sweep sig _ _ :: _ => (sweptRows w.db).any fun r => r.inboundTxSig = sig
    | _ => false
  | _ => false

theorem resubmits_call (he : resubmits e = true) :
    ∃ ixs w, e = .call .main (Query.submitTx ixs) w ∧ ∃ sig sol bert rest,
      w.trace = .sweep sig sol bert :: rest ∧ ∃ r ∈ sweptRows w.db, r.inboundTxSig = sig := by
  unfold resubmits at he
  split at he
  · next ixs w =>
    split at he
    · next sig sol bert rest htrace =>
      obtain ⟨r, hr, hsig⟩ := List.any_eq_true.mp he
      exact ⟨ixs, w, rfl, sig, sol, bert, rest, htrace, r, hr, of_decide_eq_true hsig⟩
    · cases he
  · cases he

/-- A sweep is submitted for a signature whose sweep is on record. -/
theorem swept_twice : ∃ p newer ixs w older,
    Journaled plainVenue plainConfig anyEnvironment.host p ∧
      p.2 = newer ++ .call .main (Query.submitTx ixs) w :: older ∧ ∃ sig sol bert rest,
        w.trace = .sweep sig sol bert :: rest ∧ ∃ r ∈ sweptRows w.db, r.inboundTxSig = sig := by
  have hany : (retried.point plainVenue plainConfig oneSol).2.any resubmits = true := by
    decide +kernel
  obtain ⟨newer, e, older, hsplit, he⟩ := any_split hany
  obtain ⟨ixs, w, rfl, hfound⟩ := resubmits_call he
  exact ⟨_, newer, ixs, w, older, played_journaled _ _ _ _, hsplit, hfound⟩

end SweptDeposits
