import BertMMBot.SharedSignatures

/-! # Deposits that were swept and not credited

The operator's command puts a deposit together from two audit rows, the newest detection and the
newest sweep of its signature among so many of the newest rows. It recovers a sweep if these two
are about that sweep. -/
namespace StrandedDeposits

open AsyncProgram AsyncContract AsyncRecords KeyedTable
open VaultTypes VaultProgram DepositorStore DepositPipeline OperatorCommands ShareMath
open VaultJournal JournalMachine JournalLaws
open VaultDiscipline (Environment)
open VaultRuntime (BotConfig commanderDeps lastMid)
open DepositorCommands (Msg)
open MeteoraPosition (Venue)
open PlayedRuns (plainVenue plainConfig oneSol anyEnvironment quotes)
open PlayedJournals
open SweptDeposits (journaled_tidy sweptRows_repeated)

structure Detection where
  telegramId : Option TelegramId
  solLamports : ℕ
  bertRaw : ℕ
  deriving DecidableEq

def detectionOf (inboundTxSig : String) (a : AuditRow) : Option Detection :=
  match a.event with
  | .depositDetected sig sol bert => if sig = inboundTxSig then some ⟨a.telegramId, sol, bert⟩ else none
  | _ => none

def sweepOf (inboundTxSig : String) (a : AuditRow) : Option SweptRow :=
  (sweptRow a).filter fun r => r.inboundTxSig = inboundTxSig

def window (db : Db) : List AuditRow := listRecentAuditEvents 5000 db

/-- Whom the scan takes a deposit to belong to. A detection row that names nobody is completed
by an older sweep row. -/
def namedUser (inboundTxSig : String) (rows : List AuditRow) (d : Detection) : Option TelegramId :=
  d.telegramId.orElse fun _ =>
    if (rows.find? fun a => (detectionOf inboundTxSig a).isSome ∨ (sweepOf inboundTxSig a).isSome).any
        fun a => (detectionOf inboundTxSig a).isSome then
      (rows.findSome? (sweepOf inboundTxSig)).bind SweptRow.telegramId
    else none

variable {sig : String} {rows : List AuditRow} {trail : AuditTrail} {a : AuditRow} {db : Db}

theorem detectionOf_some {d : Detection} (h : detectionOf sig a = some d) :
    a.event = .depositDetected sig d.solLamports d.bertRaw ∧ a.telegramId = d.telegramId := by
  unfold detectionOf at h
  split at h
  next sig' sol bert hev =>
    split at h
    next hsig =>
      obtain rfl := Option.some.inj h
      rw [hev, hsig]
      exact ⟨rfl, rfl⟩
    next => cases h
  next => cases h

theorem sweepOf_some {r : SweptRow} (h : sweepOf sig a = some r) :
    ∃ ms, a.event = .depositSwept sig r.sweepTxSig r.solLamports r.bertRaw ms ∧
      a.telegramId = r.telegramId := by
  obtain ⟨hrow, hsig⟩ := Option.filter_eq_some_iff.mp h
  unfold sweptRow at hrow
  split at hrow
  next sig' txSig sol bert ms hev =>
    obtain rfl := Option.some.inj hrow
    obtain rfl : sig' = sig := of_decide_eq_true hsig
    exact ⟨ms, hev, rfl⟩
  next => cases hrow

theorem scan_full (hd : trail.detected.isSome) (hs : trail.swept.isSome) :
    scanAudit sig rows trail = trail := by
  cases rows with
  | nil => rfl
  | cons a rows => rw [scanAudit, if_pos ⟨hd, hs⟩]

theorem scan_other (hd : detectionOf sig a = none) (hs : sweepOf sig a = none) :
    scanAudit sig (a :: rows) trail = scanAudit sig rows trail := by
  by_cases hfull : trail.detected.isSome ∧ trail.swept.isSome
  · rw [scan_full hfull.1 hfull.2, scan_full hfull.1 hfull.2]
  · rw [scanAudit, if_neg hfull]
    split
    next sig' sol bert hev =>
      have hne : sig' ≠ sig := by
        intro heq
        simp [detectionOf, hev, heq] at hd
      rw [if_neg fun h => hne h.1]
    next sig' txSig sol bert ms hev =>
      have hne : sig' ≠ sig := by
        intro heq
        simp [sweepOf, sweptRow, hev, heq] at hs
      rw [if_neg fun h => hne h.1]
    next => rfl

theorem scan_detection {d : Detection} (h : detectionOf sig a = some d) :
    scanAudit sig (a :: rows) trail =
      if trail.detected = none then
        scanAudit sig rows { trail with
          detected := some (d.solLamports, d.bertRaw), telegramId := d.telegramId }
      else scanAudit sig rows trail := by
  obtain ⟨hev, hid⟩ := detectionOf_some h
  by_cases hfull : trail.detected.isSome ∧ trail.swept.isSome
  · have hsome : trail.detected ≠ none := Option.isSome_iff_ne_none.mp hfull.1
    rw [if_neg hsome, scan_full hfull.1 hfull.2, scan_full hfull.1 hfull.2]
  · rw [scanAudit, if_neg hfull, hev, hid]
    simp only [true_and]

theorem scan_sweep (rows : List AuditRow) (trail : AuditTrail) {r : SweptRow}
    (h : sweepOf sig a = some r) : ∃ ms,
    scanAudit sig (a :: rows) trail =
      if trail.swept = none then
        scanAudit sig rows { trail with
          swept := some (r.sweepTxSig, r.solLamports, r.bertRaw, ms)
          telegramId := trail.telegramId.orElse fun _ => r.telegramId }
      else scanAudit sig rows trail := by
  obtain ⟨ms, hev, hid⟩ := sweepOf_some h
  refine ⟨ms, ?_⟩
  by_cases hfull : trail.detected.isSome ∧ trail.swept.isSome
  · have hsome : trail.swept ≠ none := Option.isSome_iff_ne_none.mp hfull.2
    rw [if_neg hsome, scan_full hfull.1 hfull.2, scan_full hfull.1 hfull.2]
  · rw [scanAudit, if_neg hfull, hev, hid]
    simp only [true_and]

theorem sweepOf_detection {d : Detection} (h : detectionOf sig a = some d) :
    sweepOf sig a = none := by
  simp [sweepOf, sweptRow, (detectionOf_some h).1]

theorem scan_after_detection (sig : String) (rows : List AuditRow) (x : ℕ × ℕ) (v : Option TelegramId) :
    (scanAudit sig rows ⟨some x, none, v⟩).detected = some x ∧
    (scanAudit sig rows ⟨some x, none, v⟩).swept.map Prod.fst =
      (rows.findSome? (sweepOf sig)).map SweptRow.sweepTxSig ∧
    (scanAudit sig rows ⟨some x, none, v⟩).telegramId =
      v.orElse fun _ => (rows.findSome? (sweepOf sig)).bind SweptRow.telegramId := by
  induction rows with
  | nil => cases v <;> exact ⟨rfl, rfl, rfl⟩
  | cons a rows ih =>
    cases hs : sweepOf sig a with
    | none =>
      have hskip : scanAudit sig (a :: rows) ⟨some x, none, v⟩ = scanAudit sig rows ⟨some x, none, v⟩ := by
        cases hd : detectionOf sig a with
        | none => exact scan_other hd hs
        | some d =>
          rw [scan_detection hd]
          rfl
      rw [hskip, List.findSome?_cons, hs]
      exact ih
    | some r =>
      obtain ⟨ms, hscan⟩ := scan_sweep rows ⟨some x, none, v⟩ hs
      rw [if_pos rfl] at hscan
      rw [hscan.trans (scan_full rfl rfl), List.findSome?_cons, hs]
      exact ⟨rfl, rfl, rfl⟩

theorem scan_after_sweep (sig : String) (rows : List AuditRow) (y : Signature × ℕ × ℕ × ℤ)
    (v : Option TelegramId) :
    (scanAudit sig rows ⟨none, some y, v⟩).detected = (rows.findSome? (detectionOf sig)).map
      (fun d => (d.solLamports, d.bertRaw)) ∧
    (scanAudit sig rows ⟨none, some y, v⟩).swept = some y ∧
    ∀ d, rows.findSome? (detectionOf sig) = some d →
      (scanAudit sig rows ⟨none, some y, v⟩).telegramId = d.telegramId := by
  induction rows with
  | nil => exact ⟨rfl, rfl, nofun⟩
  | cons a rows ih =>
    cases hd : detectionOf sig a with
    | none =>
      have hskip : scanAudit sig (a :: rows) ⟨none, some y, v⟩ = scanAudit sig rows ⟨none, some y, v⟩ := by
        cases hs : sweepOf sig a with
        | none => exact scan_other hd hs
        | some r =>
          obtain ⟨ms, hscan⟩ := scan_sweep rows ⟨none, some y, v⟩ hs
          rw [hscan]
          rfl
      rw [hskip, List.findSome?_cons, hd]
      exact ih
    | some d =>
      rw [scan_detection hd, if_pos rfl, scan_full rfl rfl, List.findSome?_cons, hd]
      refine ⟨rfl, rfl, fun d' hd' => ?_⟩
      cases hd'
      rfl

theorem scan_fresh (sig : String) (rows : List AuditRow) :
    (scanAudit sig rows ⟨none, none, none⟩).detected = (rows.findSome? (detectionOf sig)).map
      (fun d => (d.solLamports, d.bertRaw)) ∧
    (scanAudit sig rows ⟨none, none, none⟩).swept.map Prod.fst =
      (rows.findSome? (sweepOf sig)).map SweptRow.sweepTxSig ∧
    ∀ d, rows.findSome? (detectionOf sig) = some d →
      (scanAudit sig rows ⟨none, none, none⟩).telegramId = namedUser sig rows d := by
  induction rows with
  | nil => exact ⟨rfl, rfl, nofun⟩
  | cons a rows ih =>
    cases hd : detectionOf sig a with
    | some d =>
      have hs := sweepOf_detection hd
      rw [scan_detection hd, if_pos rfl]
      obtain ⟨hdetected, hswept, hnamed⟩ :=
        scan_after_detection sig rows (d.solLamports, d.bertRaw) d.telegramId
      rw [List.findSome?_cons, hd, List.findSome?_cons, hs]
      refine ⟨hdetected, hswept, fun d' hd' => ?_⟩
      cases hd'
      rw [hnamed]
      simp [namedUser, hd, hs]
    | none =>
      cases hs : sweepOf sig a with
      | none =>
        rw [scan_other hd hs, List.findSome?_cons, hd, List.findSome?_cons, hs]
        refine ⟨ih.1, ih.2.1, fun d hd' => ?_⟩
        rw [ih.2.2 d hd']
        simp [namedUser, hd, hs]
      | some r =>
        obtain ⟨ms, hscan⟩ := scan_sweep rows ⟨none, none, none⟩ hs
        rw [if_pos rfl] at hscan
        obtain ⟨hdetected, hswept, hnamed⟩ := scan_after_sweep sig rows
          (r.sweepTxSig, r.solLamports, r.bertRaw, ms) r.telegramId
        rw [hscan, List.findSome?_cons, hd, List.findSome?_cons, hs]
        refine ⟨hdetected, ?_, fun d hd' => ?_⟩
        · exact congrArg (Option.map Prod.fst) hswept
        · refine (hnamed d hd').trans ?_
          cases hid : d.telegramId <;> simp [namedUser, hid, hd, hs]

variable {venue : Venue} {cfg : BotConfig} {env : Environment} {H : VaultHost} {w w' : World}
  {p : JournalPoint} {mid : Mid} {msg : Msg} {u : TelegramId}

/-- The deposit rows of a signature. -/
def depositsFor (sig : String) (db : Db) : List DepositRow :=
  db.deposits.filter fun d => d.inboundTxSig = sig

/-- A host that lets every statement run. -/
def Runs (H : VaultHost) : Prop :=
  ∀ st w o, H.choose (Choice.statement st) w o → (o : Option Thrown) = none

/-- Every statement runs, and while the operator is answered nobody credits the signature. -/
structure Undisturbed (sig : String) (H : VaultHost) : Prop where
  runs : Runs H
  apart : ∀ q w a w', H.respond q w a w' → depositsFor sig w'.db = depositsFor sig w.db

/-- The one deposit row of the signature repeats the sweep, for the user whose address it was. -/
def Recovered (r : SweptRow) (db : Db) : Prop :=
  ∃ d, depositsFor r.inboundTxSig db = [d] ∧ some d.telegramId = r.telegramId ∧
    d.sweepTxSig = some r.sweepTxSig ∧ d.solLamports = r.solLamports ∧ d.bertRaw = r.bertRaw

/-- The two rows that the scan finds are about this sweep. -/
def Recoverable (r : SweptRow) (db : Db) : Prop :=
  ∃ d s, (window db).findSome? (detectionOf r.inboundTxSig) = some d ∧
    (window db).findSome? (sweepOf r.inboundTxSig) = some s ∧
    namedUser r.inboundTxSig (window db) d = r.telegramId ∧
    d.solLamports = r.solLamports ∧ d.bertRaw = r.bertRaw ∧ s.sweepTxSig = r.sweepTxSig

theorem depositsFor_none (h : hasDeposit sig db = false) : depositsFor sig db = [] := by
  apply List.filter_eq_nil_iff.mpr
  intro d hd
  simpa using List.any_eq_false.mp h d hd

def Known (u : TelegramId) (db : Db) : Prop := (lookup UserRow.telegramId u db.users).isSome

theorem Runs.within {restore : World → World → World} {w₀ : World} (hH : Runs H) :
    Runs (H.within restore w₀) := fun st _ o ho => hH st _ o ho

variable {α β : Type} {st : Stmt} {f : Db → Except Thrown (α × Db)}
  {post : Except Thrown α → World → Prop}

theorem yields_runs (hH : Runs H)
    (hok : ∀ a db, f w.db = .ok (a, db) → post (.ok a) (w.withDb db))
    (herror : ∀ e, f w.db = .error e → post (.error e) w) : Yields H (statement st f w) post := by
  intro o ho
  obtain rfl : o = none := hH st w o ho
  change Yields H (execute f w) post
  unfold execute Async.attempt
  cases hf : f w.db with
  | ok r =>
    simp only [hf]
    exact hok r.1 r.2 hf
  | error e =>
    simp only [hf]
    exact herror e hf

theorem yields_readDb {g : Db → α} {k : α → Vault β} {post : Except Thrown β → World → Prop}
    (h : Yields H (k (g w.db) w) post) : Yields H ((readDb g >>= k) w) post := h

theorem yields_update (hH : Runs H) {g : Db → Db} {post : Except Thrown Unit → World → Prop}
    (h : post (.ok ()) (w.withDb (g w.db))) : Yields H (update st g w) post := by
  apply yields_runs hH
  · intro a db hdb
    cases hdb
    exact h
  · nofun

theorem sharesAfter_error {delta : ℚ} {e : Thrown} (h : sharesAfter u delta db = .error e) :
    ¬Known u db := by
  unfold sharesAfter at h
  split at h
  next => cases h
  next =>
    split at h
    next => cases h
    next hunknown => exact hunknown

theorem insertDeposit_yields (hH : Runs H) {args : NewDeposit}
    (hnone : hasDeposit args.inboundTxSig w.db = false) :
    Yields H (insertDeposit args w) fun x w' => ∃ id, x = .ok id ∧
      w' = w.withDb { w.db with deposits := w.db.deposits ++ [args.row id] } := by
  apply yields_runs hH
  · intro id db hdb
    rw [hnone] at hdb
    cases hdb
    exact ⟨_, rfl, rfl⟩
  · intro e he
    rw [hnone] at he
    cases he

theorem addShares_yields (hH : Runs H) (u : TelegramId) (delta : ℚ) :
    Yields H (addShares u delta w) fun x w' => w'.db.deposits = w.db.deposits ∧
      (x = .ok () ∨ (∃ e, x = .error e) ∧ ¬Known u w.db) := by
  apply yields_runs hH
  · intro _ db hdb
    cases hshares : sharesAfter u delta w.db with
    | ok shares =>
      rw [hshares] at hdb
      cases hdb
      exact ⟨rfl, .inl rfl⟩
    | error e =>
      rw [hshares] at hdb
      cases hdb
  · intro e he
    cases hshares : sharesAfter u delta w.db with
    | ok shares =>
      rw [hshares] at he
      cases he
    | error e => exact ⟨rfl, .inr ⟨⟨_, rfl⟩, sharesAfter_error hshares⟩⟩

theorem insertNavSnapshot_yields (hH : Runs H) (row : NavSnapshotRow) :
    Yields H (insertNavSnapshot row w) fun x w' => x = .ok () ∧ w'.db.deposits = w.db.deposits :=
  yields_update hH ⟨rfl, rfl⟩

def Booked (args : NewDeposit) (w : World) (x : Except Thrown α) (w' : World) : Prop :=
  (∃ a, x = .ok a) ∧ (∃ id, w'.db.deposits = w.db.deposits ++ [args.row id]) ∨
    (∃ e, x = .error e) ∧ ¬Known args.telegramId w.db

theorem creditDeposit_yields (hH : Runs H) {args : NewDeposit}
    (hnone : hasDeposit args.inboundTxSig w.db = false) :
    Yields H (creditDeposit args w) fun x w' => Booked args w x w' := by
  have hbody : Yields (H.within (fun old new => new.withDb old.db) w)
      ((do
        let id ← insertDeposit args
        addShares args.telegramId args.sharesMinted
        return id : Vault ℕ) w) fun x w' => Booked args w x w' := by
    refine Yields.bind (insertDeposit_yields hH.within hnone) ?_ ?_
    · rintro id w₁ ⟨id', hid, rfl⟩
      cases hid
      refine Yields.bind (addShares_yields hH.within _ _) (fun _ w₂ h => ?_) fun e w₂ h => ?_
      · exact .inl ⟨⟨_, rfl⟩, id, h.1⟩
      · rcases h.2 with hok | ⟨-, hunknown⟩
        · cases hok
        · exact .inr ⟨⟨e, rfl⟩, hunknown⟩
    · rintro e w₁ ⟨id, hid, -⟩
      cases hid
  refine Yields.transact hbody (fun _ _ h => h) fun e w₁ h => ?_
  rcases h with ⟨⟨a, ha⟩, -⟩ | h
  · cases ha
  · exact .inr h

theorem credit_yields (hH : Runs H) {params : CreditParams}
    (hnone : hasDeposit params.inboundTxSig w.db = false) (hnav : 0 < params.navPerShareAtDeposit) :
    Yields H (credit params w) fun x w' => ∃ minted,
      Booked (params.deposit minted) w x w' ∧ (x ≠ .ok () → w'.db = w.db) := by
  have hprice : computeSharesForDeposit params.depositUsd params.navPerShareAtDeposit =
      .ok (params.depositUsd / params.navPerShareAtDeposit) := by
    rw [computeSharesForDeposit, if_neg (not_le.mpr hnav)]
  unfold credit
  rw [hprice]
  change Yields H (creditTransaction params _ w) _
  generalize params.depositUsd / params.navPerShareAtDeposit = minted
  have hbody : Yields (H.within (fun old new => new.withDb old.db) w)
      ((do
        let _ ← creditDeposit (params.deposit minted)
        let total ← readDb totalShares
        insertNavSnapshot {
          ts := params.now, totalValueUsd := total * params.navPerShareAtDeposit
          totalShares := total, navPerShare := params.navPerShareAtDeposit, source := .deposit }
        writeAudit params.now (some params.telegramId) (.depositCredited params.inboundTxSig
          params.depositUsd minted params.navPerShareAtDeposit) : Vault Unit) w)
      fun x w' => Booked (params.deposit minted) w x w' := by
    refine Yields.bind (creditDeposit_yields hH.within hnone) (fun _ w₁ h => ?_) fun e w₁ h => ?_
    · rcases h with ⟨-, id, hrow⟩ | ⟨⟨e, he⟩, -⟩
      · refine yields_readDb ?_
        refine Yields.bind (insertNavSnapshot_yields hH.within _) (fun _ w₂ h₂ => ?_) fun e w₂ h₂ => ?_
        · refine yields_update hH.within (.inl ⟨⟨_, rfl⟩, id, ?_⟩)
          exact h₂.2.trans hrow
        · cases h₂.1
      · cases he
    · rcases h with ⟨⟨a, ha⟩, -⟩ | ⟨-, hunknown⟩
      · cases ha
      · exact .inr ⟨⟨e, rfl⟩, hunknown⟩
  refine Yields.transact hbody (fun _ _ h => ⟨minted, h, fun hne => absurd rfl hne⟩) fun e w₁ h => ?_
  rcases h with ⟨⟨a, ha⟩, -⟩ | h
  · cases ha
  · exact ⟨minted, .inr h, fun _ => rfl⟩

theorem yields_now {k : ℤ → Vault β} {post : Except Thrown β → World → Prop}
    (h : ∀ ms, Yields H (k ms w) post) : Yields H ((now >>= k) w) post := fun ms _ => h ms

theorem reply_yields (hH : Undisturbed sig H) (chatId : ℤ) (notice : Notice) :
    Yields H (VaultRuntime.reply chatId notice w) fun _ w' =>
      depositsFor sig w'.db = depositsFor sig w.db :=
  fun _ _ ha => hH.apart _ _ _ _ ha

def Settled (sig : String) (u : TelegramId) (txSig : Signature) (sol bert : ℕ) (w : World)
    (db : Db) : Prop :=
  (∃ d, depositsFor sig db = [d] ∧ d.telegramId = u ∧ d.sweepTxSig = some txSig ∧
    d.solLamports = sol ∧ d.bertRaw = bert) ∨
  depositsFor sig db = [] ∧ ¬Known u w.db

variable {txSig : Signature} {sol bert : ℕ}

theorem Settled.congr {db' : Db} (h : Settled sig u txSig sol bert w db)
    (heq : depositsFor sig db' = depositsFor sig db) : Settled sig u txSig sol bert w db' := by
  unfold Settled at h ⊢
  rw [heq]
  exact h

theorem booked_settled {params : CreditParams} {minted : ℚ} {x : Except Thrown Unit}
    (hnone : depositsFor params.inboundTxSig w.db = [])
    (h : Booked (params.deposit minted) w x w') (herror : x ≠ .ok () → w'.db = w.db) :
    Settled params.inboundTxSig params.telegramId params.sweepTxSig params.solLamports
      params.bertRaw w w'.db := by
  rcases h with ⟨-, id, hrow⟩ | ⟨⟨e, rfl⟩, hunknown⟩
  · left
    refine ⟨(params.deposit minted).row id, ?_, rfl, rfl, rfl, rfl⟩
    unfold depositsFor at hnone ⊢
    rw [hrow, List.filter_append, hnone]
    simp [NewDeposit.row, CreditParams.deposit]
  · right
    rw [herror nofun]
    exact ⟨hnone, hunknown⟩

theorem recredit_yields (hH : Undisturbed sig H) (hnone : hasDeposit sig w.db = false)
    {navPerShare : ℚ} (hnav : 0 < navPerShare) (confirmedAt : ℤ) :
    Yields H (recredit (commanderDeps venue cfg).operator msg u sig txSig sol bert confirmedAt mid
      navPerShare w) fun _ w' => Settled sig u txSig sol bert w w'.db := by
  unfold recredit
  have hcredit : Yields H ((do
      let sweptAt ← now
      let ms ← now
      credit {
        telegramId := u, inboundTxSig := sig, sweepTxSig := txSig, solLamports := sol,
        bertRaw := bert, mid, navPerShareAtDeposit := navPerShare, confirmedAt, sweptAt, now := ms }
      return true : Vault Bool) w) fun _ w' => Settled sig u txSig sol bert w w'.db := by
    refine yields_now fun sweptAt => yields_now fun ms => ?_
    refine Yields.bind (credit_yields (w := w) hH.runs hnone hnav) ?_ ?_
    · rintro _ w₁ ⟨minted, hbooked, herror⟩
      exact booked_settled (depositsFor_none hnone) hbooked herror
    · rintro e w₁ ⟨minted, hbooked, herror⟩
      exact booked_settled (depositsFor_none hnone) hbooked herror
  refine Yields.handle hcredit (fun _ _ h => h) fun e w₁ h => ?_
  unfold refuseRecredit
  refine Yields.bind (?_ : Yields H ((if isUniqueError e then
      (commanderDeps venue cfg).operator.reply msg.chatId (.alreadyCredited sig true)
    else (commanderDeps venue cfg).operator.reply msg.chatId (.recreditFailed e.string)) w₁) fun _ w' =>
      depositsFor sig w'.db = depositsFor sig w₁.db) (fun _ _ heq => h.congr heq)
    fun _ _ heq => h.congr heq
  rw [AsyncProgram.ite_apply]
  by_cases hunique : isUniqueError e = true
  · rw [if_pos hunique]
    exact reply_yields hH _ _
  · rw [if_neg hunique]
    exact reply_yields hH _ _

theorem announce_yields (hH : Undisturbed sig H) (navPerShare : ℚ) :
    Yields H (announceRecredit (commanderDeps venue cfg).operator msg u sig txSig navPerShare w)
      fun _ w' => depositsFor sig w'.db = depositsFor sig w.db := by
  unfold announceRecredit
  refine yields_readDb (yields_now fun ms => ?_)
  have haudit : Yields H (writeAudit ms (some msg.userId) (.depositRecredited sig txSig u
      (((listDepositsForUser u w.db).find? fun d => d.inboundTxSig = sig).map
        DepositRow.sharesMinted |>.getD 0) navPerShare) w) fun _ w' =>
      depositsFor sig w'.db = depositsFor sig w.db := yields_update hH.runs rfl
  exact Yields.bind haudit (fun _ w₁ h => (reply_yields hH _ _).mono fun _ _ h₁ => h₁.trans h)
    fun _ _ h => h

theorem recreditFrom_yields (hH : Undisturbed sig H) (hmid : lastMid w.memory = some mid)
    (hnone : hasDeposit sig w.db = false) (hnav : 0 < snapshotNavPerShare w.db)
    (detected : ℕ × ℕ) (swept : Signature × ℕ × ℕ × ℤ) :
    Yields H (recreditFrom (commanderDeps venue cfg).operator msg sig u detected swept w) fun _ w' =>
      Settled sig u swept.1 detected.1 detected.2 w w'.db := by
  unfold recreditFrom
  intro _ _
  change Yields H (Run.bind (.done (.ok (lastMid w.memory)) w) _) _
  rw [hmid]
  simp only [Run.bind]
  refine yields_readDb ?_
  refine Yields.bind (recredit_yields hH hnone hnav swept.2.2.2) (fun credited w₁ h => ?_)
    fun _ _ h => h
  rw [AsyncProgram.ite_apply]
  by_cases hcredited : credited = true
  · rw [if_pos hcredited]
    exact (announce_yields hH _).mono fun _ _ heq => h.congr heq
  · rw [if_neg hcredited]
    exact h

theorem owns_known {address : Address} (ho : Owns u address db) : Known u db := by
  obtain ⟨a, ha, hid, -⟩ := ho
  obtain ⟨row, hrow, rfl⟩ := List.mem_map.mp ha
  unfold Known
  by_contra hnone
  have hlookup : lookup UserRow.telegramId u db.users = none := by
    simpa using hnone
  exact lookup_none.mp hlookup row hrow hid

theorem sweptRow_known {r : SweptRow} (hj : Journaled venue cfg env.host p)
    (hr : r ∈ sweptRows p.1.db) : ∃ u, r.telegramId = some u ∧ Known u p.1.db := by
  obtain ⟨s, -, u, ho, rfl⟩ := journaled_preserved sweptRows_repeated hj r hr
  exact ⟨u, rfl, owns_known ho⟩

theorem not_recovered {r : SweptRow} (h : depositsFor r.inboundTxSig db = []) : ¬Recovered r db := by
  rintro ⟨d, hd, -⟩
  rw [h] at hd
  cases hd

theorem refused_iff (hH : Undisturbed sig H) {r : SweptRow} (hsig : r.inboundTxSig = sig)
    (hnone : hasDeposit sig w.db = false) (hnot : ¬Recoverable r w.db) (chatId : ℤ) (notice : Notice) :
    Yields H ((commanderDeps venue cfg).operator.reply chatId notice w) fun _ w' =>
      (Recovered r w'.db ↔ Recoverable r w.db) := by
  refine (reply_yields hH chatId notice).mono fun _ w' h => ?_
  have hempty : depositsFor r.inboundTxSig w'.db = [] := by
    rw [hsig, h]
    exact depositsFor_none hnone
  exact iff_of_false (not_recovered hempty) hnot

theorem settled_iff {r : SweptRow} {d : Detection} {s : SweptRow} {user : TelegramId} {db : Db}
    (hd : (window w.db).findSome? (detectionOf r.inboundTxSig) = some d)
    (hs : (window w.db).findSome? (sweepOf r.inboundTxSig) = some s)
    (huser : namedUser r.inboundTxSig (window w.db) d = some user)
    (hu : r.telegramId = some u) (hknown : Known u w.db)
    (h : Settled r.inboundTxSig user s.sweepTxSig d.solLamports d.bertRaw w db) :
    Recovered r db ↔ Recoverable r w.db := by
  constructor
  · rintro ⟨row, hrow, hid, htx, hsol, hbert⟩
    rcases h with ⟨row', hrow', rfl, htx', hsol', hbert'⟩ | ⟨hempty, -⟩
    · rw [hrow] at hrow'
      cases hrow'
      refine ⟨d, s, hd, hs, huser.trans hid, hsol'.symm.trans hsol, hbert'.symm.trans hbert, ?_⟩
      exact Option.some.inj (htx'.symm.trans htx)
    · rw [hempty] at hrow
      cases hrow
  · rintro ⟨d', s', hd', hs', hnamed, hsol, hbert, htx⟩
    rw [hd] at hd'
    rw [hs] at hs'
    cases hd'
    cases hs'
    have hsame : user = u := by
      rw [huser, hu] at hnamed
      exact Option.some.inj hnamed
    subst hsame
    rcases h with ⟨row, hrow, hid, htx', hsol', hbert'⟩ | ⟨-, hunknown⟩
    · refine ⟨row, hrow, ?_, ?_, hsol'.trans hsol, hbert'.trans hbert⟩
      · rw [hid, hu]
      · rw [htx', htx]
    · exact absurd hknown hunknown

theorem command_iff (hH : Undisturbed sig H) {r : SweptRow} (hsig : r.inboundTxSig = sig)
    (hu : r.telegramId = some u) (hknown : Known u w.db) (hnone : hasDeposit sig w.db = false)
    (hmid : lastMid w.memory = some mid) (hnav : 0 < snapshotNavPerShare w.db)
    (harg : TextInput.argument msg.text = some sig) :
    Yields H (handleRecreditDeposit (commanderDeps venue cfg).operator msg w) fun _ w' =>
      (Recovered r w'.db ↔ Recoverable r w.db) := by
  subst hsig
  have hscan := scan_fresh r.inboundTxSig (listRecentAuditEvents 5000 w.db)
  unfold handleRecreditDeposit
  rw [harg]
  simp only
  refine yields_readDb ?_
  rw [AsyncProgram.ite_apply, hnone, if_neg Bool.false_ne_true]
  refine yields_readDb ?_
  generalize scanAudit r.inboundTxSig (listRecentAuditEvents 5000 w.db) ⟨none, none, none⟩ = trail
    at hscan ⊢
  obtain ⟨detected, swept, named⟩ := trail
  obtain ⟨hdetected, hswept, hnamed⟩ := hscan
  dsimp only at hdetected hswept hnamed
  cases hd : (window w.db).findSome? (detectionOf r.inboundTxSig) with
  | none =>
    obtain rfl : detected = none := by
      rw [hdetected]
      exact congrArg _ hd
    refine refused_iff hH rfl hnone ?_ _ _
    rintro ⟨d, s, hd', -⟩
    rw [hd] at hd'
    cases hd'
  | some d =>
    obtain rfl : detected = some (d.solLamports, d.bertRaw) := by
      rw [hdetected]
      exact congrArg _ hd
    obtain rfl : named = namedUser r.inboundTxSig (window w.db) d := hnamed d hd
    cases hs : (window w.db).findSome? (sweepOf r.inboundTxSig) with
    | none =>
      have hnil : swept.map Prod.fst = none := by
        rw [hswept]
        exact congrArg _ hs
      obtain rfl := Option.map_eq_none_iff.mp hnil
      refine refused_iff hH rfl hnone ?_ _ _
      rintro ⟨d', s, -, hs', -⟩
      rw [hs] at hs'
      cases hs'
    | some s =>
      have htx : swept.map Prod.fst = some s.sweepTxSig := by
        rw [hswept]
        exact congrArg _ hs
      obtain ⟨found, rfl, hfound⟩ := Option.map_eq_some_iff.mp htx
      cases huser : namedUser r.inboundTxSig (window w.db) d with
      | none =>
        refine refused_iff hH rfl hnone ?_ _ _
        rintro ⟨d', s', hd', -, hnamed', -⟩
        rw [hd] at hd'
        cases hd'
        rw [huser, hu] at hnamed'
        cases hnamed'
      | some user =>
        refine (recreditFrom_yields hH hmid hnone hnav _ found).mono fun _ w' h => ?_
        rw [hfound] at h
        exact settled_iff hd hs huser hu hknown h

/-- A sweep that is on record and was not credited is recovered by the operator's command if and
only if the two newest rows of its signature within the window are about it. -/
theorem recredit_recovers_iff (hj : Journaled venue cfg env.host p) (r : SweptRow)
    (hr : r ∈ sweptRows p.1.db) (hnone : hasDeposit r.inboundTxSig p.1.db = false)
    (hmid : lastMid p.1.memory = some mid) (hnav : 0 < snapshotNavPerShare p.1.db)
    (hH : Undisturbed r.inboundTxSig H) (harg : TextInput.argument msg.text = some r.inboundTxSig)
    (x : Except Thrown Unit) (w' : World)
    (hends : Ends H (handleRecreditDeposit (commanderDeps venue cfg).operator msg p.1) x w') :
    Recovered r w'.db ↔ Recoverable r p.1.db := by
  obtain ⟨u, hu, hknown⟩ := sweptRow_known hj hr
  exact (command_iff hH rfl hu hknown hnone hmid hnav harg).ends hends

open PlayedRuns (Scene)

/-- One SOL for the holder, and less than the rent for the operator. -/
def dusted : ParsedTransaction :=
  ⟨["operator", "holder"], [0, 0], [1000, 1000000000], [], []⟩

/-- A tick in which one address lists the transaction, and no credit goes through. -/
def strandingTick (clock : ℤ) (address : Address) : Scene × Job :=
  ticked {
    clock, samples := quotes
    faults := fun st _ => match st with
      | .creditDeposit _ => some (.error "disk full")
      | _ => none
    signatures := fun a => if a = address then [⟨"shared", false, some 2000⟩] else []
    transactions := fun s => if s = "shared" then some dusted else none }

def stranding : JournaledRun :=
  (PlayedRuns.founding.1, .bootstrap ⟨1, 100⟩) ::
    (settlingIn ++ [strandingTick 2100000 "holder"])

/-- And then the operator's is detected, and cannot be swept. -/
def dusting : JournaledRun := stranding ++ [strandingTick 2200000 "operator"]

def strandedSweep : SweptRow :=
  ⟨some 2, "shared", PlayedRuns.txSig "sweep" PlayedRuns.sweep_ne, 1000000000, 0⟩

def recreditCommand : Msg := ⟨1, 1, "/recreditdeposit shared"⟩

def later : Scene := { clock := 2300000 }

theorem later_undisturbed (sig : String) : Undisturbed sig later.host where
  runs _ _ _ ho := ho
  apart q w a w' ha := by
    have hquiet := later.quiet q w
    have hw : w' = (later.respond q w).2 := congrArg Prod.snd ha
    unfold depositsFor
    rw [hw, hquiet.deposits]

def recredited (w : World) : Except Thrown Unit × World :=
  later.script.play (handleRecreditDeposit (commanderDeps plainVenue plainConfig).operator
    recreditCommand w)

theorem recredited_ends (w : World) : Ends later.host
    (handleRecreditDeposit (commanderDeps plainVenue plainConfig).operator recreditCommand w)
    (recredited w).1 (recredited w).2 :=
  play_ends later.follows (Script.meets_any _ _)

def strandedWorld : World := (stranding.point plainVenue plainConfig oneSol).1

def dustedWorld : World := (dusting.point plainVenue plainConfig oneSol).1

theorem dusted_facts :
    (strandedSweep ∈ sweptRows dustedWorld.db ∧ hasDeposit "shared" dustedWorld.db = false ∧
      lastMid dustedWorld.memory = some PlayedRuns.plainMid ∧
      0 < snapshotNavPerShare dustedWorld.db) ∧
    (depositsFor "shared" (recredited dustedWorld).2.db).map DepositRow.telegramId = [1] := by
  decide +kernel

theorem dusted_unrecovered : ¬Recovered strandedSweep (recredited dustedWorld).2.db := by
  have howner := dusted_facts.2
  generalize (recredited dustedWorld).2.db = db at howner ⊢
  rintro ⟨d, hd, hid, -⟩
  have hd : depositsFor "shared" db = [d] := hd
  rw [hd] at howner
  have hone : d.telegramId = 1 := List.singleton_injective howner
  rw [hone] at hid
  exact absurd hid (by decide)

/-- The operator is credited for the sweep of the holder's address. -/
theorem other_user_credited :
    Journaled plainVenue plainConfig anyEnvironment.host (dusting.point plainVenue plainConfig oneSol) ∧
    dustedWorld = (dusting.point plainVenue plainConfig oneSol).1 ∧
    strandedSweep ∈ sweptRows dustedWorld.db ∧ hasDeposit "shared" dustedWorld.db = false ∧
    lastMid dustedWorld.memory = some PlayedRuns.plainMid ∧ 0 < snapshotNavPerShare dustedWorld.db ∧
    Ends later.host (handleRecreditDeposit (commanderDeps plainVenue plainConfig).operator
      recreditCommand dustedWorld) (recredited dustedWorld).1 (recredited dustedWorld).2 ∧
    ¬Recovered strandedSweep (recredited dustedWorld).2.db ∧
    (depositsFor "shared" (recredited dustedWorld).2.db).map DepositRow.telegramId = [1] := by
  obtain ⟨⟨hswept, hnone, hmid, hnav⟩, howner⟩ := dusted_facts
  exact ⟨played_journaled _ _ _ _, rfl, hswept, hnone, hmid, hnav, recredited_ends dustedWorld,
    dusted_unrecovered, howner⟩

theorem stranded_journaled : ∃ p, Journaled plainVenue plainConfig anyEnvironment.host p ∧
    p.1 = strandedWorld :=
  ⟨stranding.point plainVenue plainConfig oneSol, played_journaled _ _ _ _, rfl⟩

theorem stranded_facts :
    (strandedSweep ∈ sweptRows strandedWorld.db ∧
      hasDeposit strandedSweep.inboundTxSig strandedWorld.db = false ∧
      lastMid strandedWorld.memory = some PlayedRuns.plainMid ∧
      0 < snapshotNavPerShare strandedWorld.db) ∧
    TextInput.argument recreditCommand.text = some strandedSweep.inboundTxSig ∧
    (depositsFor "shared" (recredited strandedWorld).2.db).map DepositRow.telegramId = [2] := by
  decide +kernel

/-- Before that, the holder's sweep is recovered. -/
theorem recredit_recovers_iff_stranding :
    (Recovered strandedSweep (recredited strandedWorld).2.db ↔
      Recoverable strandedSweep strandedWorld.db) ∧
    (depositsFor "shared" (recredited strandedWorld).2.db).map DepositRow.telegramId = [2] := by
  obtain ⟨p, hj, hp⟩ := stranded_journaled
  obtain ⟨⟨hrecorded, huncredited, hmid, hnav⟩, hargument, howner⟩ := stranded_facts
  refine ⟨?_, howner⟩
  rw [← hp] at hrecorded huncredited hmid hnav ⊢
  exact recredit_recovers_iff hj strandedSweep hrecorded huncredited hmid hnav
    (later_undisturbed _) hargument _ _ (recredited_ends p.1)

end StrandedDeposits
