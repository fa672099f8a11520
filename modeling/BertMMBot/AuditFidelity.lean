import BertMMBot.AtomicWrites

/-! # Audit rows and the changes they describe

Most operations make their change in one statement and write the audit row in the next. A
store that throws, or a process that stops, between the two leaves the one without the other;
the activation of addresses leaves this gap open from its first row to its last. -/
namespace AuditFidelity

open AsyncProgram AsyncContract VaultTypes VaultProgram KeyedTable DepositorStore AccountSecurity
open DepositorCommands OperatorCommands VaultRuntime ShareMath AtomicWrites
open MeteoraPosition (Venue)

variable {α : Type} {venue : Venue} {cfg : BotConfig} {w : World}

inductive Mishap where
  | throws (e : Thrown)
  | stops

abbrev VaultScript := Script vaultInterface World Thrown

def clockOf (S : VaultScript) (w : World) : ℤ := S.choose Choice.clock w

/-- Every statement runs; for the rest the host answers as before. -/
def calm (S : VaultScript) : VaultScript where
  choose
    | .statement _, _ => (none : Option Thrown)
    | c, w => S.choose c w
  respond := S.respond

/-- What is in the store when the mishap has struck the write of that number, counted from 0;
without so many writes, what is there when the program waits or ends. -/
def aftermath (S : VaultScript) (m : Mishap) : VaultRun α → ℕ → Db
  | .done _ s, _ => s.db
  | .await _ s _, _ => s.db
  | .sync c s k, n =>
    match c, k, n with
    | .statement _, k, 0 =>
      match m with
      | .throws e => ((calm S).settle (k (some e))).state.db
      | .stops => s.db
    | .statement _, k, n + 1 => aftermath S m (k none) n
    | c, k, n => aftermath S m (k (S.choose c s)) n

def newEvents (db db' : Db) : List AuditEvent :=
  (db'.auditLog.drop db.auditLog.length).map AuditRow.event

variable {S : VaultScript} {m : Mishap} {n : ℕ} {r : VaultRun α}

theorem newEvents_same {db db' : Db} (h : db'.auditLog = db.auditLog) : newEvents db db' = [] := by
  simp [newEvents, h]

theorem newEvents_audited {db db' : Db} (h : db'.auditLog = db.auditLog) (ts : ℤ)
    (u : Option TelegramId) (event : AuditEvent) :
    newEvents db (audited ts u event db') = [event] := by
  simp [newEvents, audited, h]

/-- A program that makes its change with `k` writes, of which none shows before the last, and
then writes the audit row. -/
structure ThenAudited (S : VaultScript) (m : Mishap) (r : VaultRun α) (k : ℕ) (db db₁ : Db)
    (event : AuditEvent) : Prop where
  before : ∀ n < k, aftermath S m r n = db
  between : aftermath S m r k = db₁
  after : ∀ n, ∃ ts u, aftermath S m r (k + 1 + n) = audited ts u event db₁
  unaudited : db₁.auditLog = db.auditLog

/-- The change is committed if and only if its audit row is. -/
def Faithful (db : Db) (Changed : Db → Prop) (event : AuditEvent) (db' : Db) : Prop :=
  Changed db' ↔ event ∈ newEvents db db'

theorem ThenAudited.faithful_iff {k : ℕ} {db db₁ : Db} {event : AuditEvent}
    (h : ThenAudited S m r k db db₁ event) {Changed : Db → Prop} (hno : ¬Changed db)
    (hyes : Changed db₁) (hkeep : ∀ ts u e, Changed (audited ts u e db₁)) (n : ℕ) :
    Faithful db Changed event (aftermath S m r n) ↔ n ≠ k := by
  unfold Faithful
  rcases Nat.lt_trichotomy n k with hlt | heq | hgt
  · rw [h.before n hlt, newEvents_same rfl]
    simp only [hno, List.not_mem_nil, iff_self, true_iff]
    omega
  · subst heq
    rw [h.between, newEvents_same h.unaudited]
    simp [hyes]
  · obtain ⟨j, rfl⟩ := Nat.exists_eq_add_of_lt hgt
    obtain ⟨ts, u, hafter⟩ := h.after j
    rw [show k + j + 1 = k + 1 + j by omega, hafter, newEvents_audited h.unaudited]
    simp only [hkeep, List.mem_singleton, iff_self, true_iff]
    omega

def queuedDb (cfg : BotConfig) (user : UserRow) (destination : Address) (amountUsd navPerShare : ℚ)
    (queuedAt : ℤ) (db : Db) : Db :=
  { db with withdrawals := db.withdrawals ++ [NewWithdrawal.row
      ⟨user.telegramId, destination, amountUsd / navPerShare,
        (splitFee (amountUsd / navPerShare) cfg.commands.withdrawalFeeBps).feeShares, queuedAt⟩
      (nextId (db.withdrawals.map WithdrawalRow.id))] }

theorem enqueue_thenAudited (user : UserRow) (destination : Address) (chatId : ℤ)
    (amountUsd navPerShare : ℚ) :
    ThenAudited S m
      (enqueue (commandsDeps venue cfg) user destination chatId amountUsd navPerShare w) 1 w.db
      (queuedDb cfg user destination amountUsd navPerShare (clockOf S w) w.db)
      (.withdrawalQueued (nextId (w.db.withdrawals.map WithdrawalRow.id)) amountUsd
        (amountUsd / navPerShare)
        (splitFee (amountUsd / navPerShare) cfg.commands.withdrawalFeeBps).feeShares
        destination) where
  before := by
    intro n hn
    obtain rfl : n = 0 := by omega
    cases m <;> rfl
  between := by cases m <;> rfl
  after := by
    intro n
    rw [Nat.add_comm]
    exact ⟨_, _, rfl⟩
  unaudited := rfl

def requestedDb (u : TelegramId) (old : Option Address) (address : Address) (requestedAt : ℤ)
    (activatesAt : ℤ) (status : WhitelistStatus) (db : Db) : Db :=
  { db with whitelistChanges := db.whitelistChanges ++ [{
      id := nextId (db.whitelistChanges.map WhitelistChangeRow.id), telegramId := u,
      oldAddress := old, newAddress := address, requestedAt, activatesAt, status,
      cancelReason := none }] }

def addressedDb (u : TelegramId) (address : Address) (ts : ℤ) (db : Db) : Db :=
  updateUser u (fun r => { r with whitelistAddress := some address, whitelistSetAt := some ts })
    (requestedDb u none address ts ts .activated db)

variable {u : TelegramId} {user : UserRow} {chatId : ℤ} {address : Address}

theorem requestChange_first (cooldownMs ts : ℤ) (hu : getUser u w.db = some user)
    (hnone : user.whitelistAddress = none) :
    requestChange cooldownMs u address ts w = withTransaction (do
      let id ← enqueueWhitelistChange {
        telegramId := u, oldAddress := none, newAddress := address, requestedAt := ts,
        activatesAt := ts, initialStatus := .activated }
      setWhitelistImmediate u address ts
      return (⟨true, ts, id⟩ : ChangeResult)) w := by
  unfold requestChange
  simp only [bind_apply, readDb, Async.read, Run.bind, hu, hnone]

theorem requestChange_later {old : Address} (cooldownMs ts : ℤ) (hu : getUser u w.db = some user)
    (hold : user.whitelistAddress = some old) :
    requestChange cooldownMs u address ts w = (do
      let id ← enqueueWhitelistChange {
        telegramId := u, oldAddress := some old, newAddress := address, requestedAt := ts,
        activatesAt := ts + cooldownMs, initialStatus := .pending }
      return (⟨false, ts + cooldownMs, id⟩ : ChangeResult)) w := by
  unfold requestChange
  simp only [bind_apply, readDb, Async.read, Run.bind, hu, hold]

def announceRequest (u : TelegramId) (chatId : ℤ) (address : Address) (result : ChangeResult) :
    Vault Unit := do
  let ms ← now
  writeAudit ms (some u) (.whitelistSet address result.immediate result.activatesAt)
  if result.immediate then reply chatId (.whitelistSet address)
  else reply chatId (.whitelistQueued result.activatesAt)

theorem doSetWhitelist_aftermath (n : ℕ) :
    aftermath S m (doSetWhitelist (commandsDeps venue cfg) u chatId address w) n =
      aftermath S m ((requestChange (commandsDeps venue cfg).cooldownMs u address
        (clockOf S w) w).bind fun result => announceRequest u chatId address result) n := rfl

theorem doSetWhitelist_first (hu : getUser u w.db = some user) (hnone : user.whitelistAddress = none) :
    ThenAudited S m (doSetWhitelist (commandsDeps venue cfg) u chatId address w) 2 w.db
      (addressedDb u address (clockOf S w) w.db)
      (.whitelistSet address true (clockOf S w)) := by
  constructor
  · intro n hn
    rw [doSetWhitelist_aftermath, requestChange_first _ _ hu hnone]
    obtain rfl | rfl : n = 0 ∨ n = 1 := by omega
    · cases m <;> rfl
    · cases m <;> rfl
  · rw [doSetWhitelist_aftermath, requestChange_first _ _ hu hnone]
    cases m <;> rfl
  · intro n
    rw [doSetWhitelist_aftermath, requestChange_first _ _ hu hnone, Nat.add_comm]
    exact ⟨_, _, rfl⟩
  · rfl

theorem doSetWhitelist_later {old : Address} (hu : getUser u w.db = some user)
    (hold : user.whitelistAddress = some old) :
    ThenAudited S m (doSetWhitelist (commandsDeps venue cfg) u chatId address w) 1 w.db
      (requestedDb u (some old) address (clockOf S w)
        (clockOf S w + (commandsDeps venue cfg).cooldownMs) .pending w.db)
      (.whitelistSet address false (clockOf S w + (commandsDeps venue cfg).cooldownMs)) := by
  constructor
  · intro n hn
    obtain rfl : n = 0 := by omega
    rw [doSetWhitelist_aftermath, requestChange_later _ _ hu hold]
    cases m <;> rfl
  · rw [doSetWhitelist_aftermath, requestChange_later _ _ hu hold]
    cases m <;> rfl
  · intro n
    rw [doSetWhitelist_aftermath, requestChange_later _ _ hu hold, Nat.add_comm]
    exact ⟨_, _, rfl⟩
  · rfl

variable {msg : Msg} {id : ℕ} {row : WithdrawalRow}

theorem requeueFailed_runs (hrow : getWithdrawalById id w.db = some row)
    (hfailed : row.status = .failed) (hunsent : row.txSig = none) :
    requeueFailedWithdrawal id w =
      update (.requeueFailedWithdrawal id) (updateWithdrawal id requeued) w := by
  unfold requeueFailedWithdrawal
  simp only [bind_apply, readDb, Async.read, Run.bind, hrow, hfailed, hunsent]
  rfl

theorem requeue_thenAudited (hrow : getWithdrawalById id w.db = some row)
    (hfailed : row.status = .failed) (hunsent : row.txSig = none) :
    ThenAudited S m (requeue ⟨reply, getMid⟩ msg id row w) 1 w.db
      (updateWithdrawal id requeued w.db) (.withdrawalRequeued id row.failureReason) := by
  have hrun : requeue ⟨reply, getMid⟩ msg id row w =
      (requeueFailedWithdrawal id w).bind fun _ => (do
        let ms ← now
        writeAudit ms (some msg.userId) (.withdrawalRequeued id row.failureReason)
        reply msg.chatId (.withdrawalRequeued id) : Vault Unit) := rfl
  rw [hrun, requeueFailed_runs hrow hfailed hunsent]
  constructor
  · intro n hn
    obtain rfl : n = 0 := by omega
    cases m <;> rfl
  · cases m <;> rfl
  · intro n
    rw [Nat.add_comm]
    exact ⟨_, _, rfl⟩
  · rfl

def flaggedDb (value : String) (db : Db) : Db :=
  { db with flags := Function.update db.flags vaultPausedFlag (some value) }

theorem handlePause_thenAudited :
    ThenAudited S m (handlePause ⟨reply, getMid⟩ msg w) 1 w.db (flaggedDb "1" w.db)
      .vaultPaused := by
  constructor
  · intro n hn
    obtain rfl : n = 0 := by omega
    cases m <;> rfl
  · cases m <;> rfl
  · intro n
    rw [Nat.add_comm]
    exact ⟨_, _, rfl⟩
  · rfl

theorem handleResume_thenAudited :
    ThenAudited S m (handleResume ⟨reply, getMid⟩ msg w) 1 w.db (flaggedDb "" w.db)
      .vaultResumed := by
  constructor
  · intro n hn
    obtain rfl : n = 0 := by omega
    cases m <;> rfl
  · cases m <;> rfl
  · intro n
    rw [Nat.add_comm]
    exact ⟨_, _, rfl⟩
  · rfl

def clearedTotp (r : UserRow) : UserRow :=
  { r with totpSecretEnc := none, totpEnrolledAt := none, totpLastUsedCounter := none }

theorem clearUserTotp_runs (huser : lookup UserRow.telegramId u w.db.users = some user) :
    clearUserTotp u w = update (.clearUserTotp u) (updateUser u clearedTotp) w := by
  have hex : execute (fun db => if (lookup UserRow.telegramId u db.users).isSome then
      .ok ((), updateUser u clearedTotp db)
      else .error (.error s!"clearUserTotp: no user with telegram_id={u}")) w =
      execute (fun db => .ok ((), updateUser u clearedTotp db)) w := by
    unfold execute Async.attempt
    simp only [huser, Option.isSome_some, if_true]
  change Run.sync _ _ _ = Run.sync _ _ _
  congr 1
  funext o
  cases o with
  | none => exact hex
  | some e => rfl

theorem handleResetTotp_thenAudited (htarget : TextInput.resetTotpTarget msg.text = some u)
    (huser : lookup UserRow.telegramId u w.db.users = some user) :
    ThenAudited S m (handleResetTotp ⟨reply, getMid⟩ msg w) 1 w.db
      (updateUser u clearedTotp w.db) (.totpReset u) := by
  have hget : getUser u w.db = some (rowToUser user) := by
    unfold getUser
    rw [huser]
    rfl
  have hrun : handleResetTotp ⟨reply, getMid⟩ msg w = (clearUserTotp u w).bind fun _ => (do
      let ms ← now
      writeAudit ms (some msg.userId) (.totpReset u)
      reply msg.chatId (.totpReset u) : Vault Unit) := by
    unfold handleResetTotp
    simp only [htarget, bind_apply, readDb, Async.read, Run.bind, hget]
  rw [hrun, clearUserTotp_runs huser]
  constructor
  · intro n hn
    obtain rfl : n = 0 := by omega
    cases m <;> rfl
  · cases m <;> rfl
  · intro n
    rw [Nat.add_comm]
    exact ⟨_, _, rfl⟩
  · rfl

def activatedChange (c : WhitelistChangeRow) : WhitelistChangeRow := { c with status := .activated }

def activatedDb (ts : ℤ) (db : Db) (row : WhitelistChangeRow) : Db :=
  updateWhitelistChange row.id activatedChange (updateUser row.telegramId (fun r =>
    { r with whitelistAddress := some row.newAddress, whitelistSetAt := some ts }) db)

def activatedEvent (row : WhitelistChangeRow) : AuditEvent :=
  .whitelistActivated row.id row.oldAddress row.newAddress

variable {f : Unit → World → VaultRun Unit} {ts : ℤ} {rows : List WhitelistChangeRow}

theorem activateChange_aftermath (row : WhitelistChangeRow) (n : ℕ) :
    aftermath S m ((activateChange ts row w).bind f) n =
      if n < 2 then w.db else aftermath S m (f () (w.withDb (activatedDb ts w.db row))) (n - 2) := by
  rcases n with _ | _ | n
  · cases m <;> rfl
  · cases m <;> rfl
  · rfl

theorem activateAll_aftermath (n : ℕ) :
    aftermath S m ((Async.forEach rows (activateChange ts) w).bind f) n =
      if n < 2 * rows.length then (rows.take (n / 2)).foldl (activatedDb ts) w.db
      else aftermath S m (f () (w.withDb (rows.foldl (activatedDb ts) w.db)))
        (n - 2 * rows.length) := by
  induction rows generalizing w n with
  | nil => rfl
  | cons row rows ih =>
    have hrun : (Async.forEach (row :: rows) (activateChange ts) w).bind f =
        (activateChange ts row w).bind fun _ s =>
          (Async.forEach rows (activateChange ts) s).bind f := Run.bind_assoc _ _ _
    rw [hrun, activateChange_aftermath]
    by_cases hn : n < 2
    · rw [if_pos hn, if_pos (by simp only [List.length_cons]; omega), Nat.div_eq_of_lt hn]
      rfl
    · rw [if_neg hn, ih]
      obtain ⟨j, rfl⟩ : ∃ j, n = j + 2 := ⟨n - 2, by omega⟩
      have hhalf : (j + 2) / 2 = j / 2 + 1 := by omega
      simp only [Nat.add_sub_cancel, List.length_cons, hhalf, List.take_succ_cons,
        List.foldl_cons, World.withDb_db]
      by_cases hj : j < 2 * rows.length
      · rw [if_pos hj, if_pos (by omega)]
      · have hleft : j + 2 - 2 * (rows.length + 1) = j - 2 * rows.length := by omega
        rw [if_neg hj, if_neg (by omega), hleft]
        rfl

theorem auditActivated_aftermath (row : WhitelistChangeRow) (n : ℕ) :
    ∃ t, aftermath S m ((auditActivated row w).bind f) n =
      if n < 1 then w.db else aftermath S m
        (f () (w.withDb (audited t (some row.telegramId) (activatedEvent row) w.db))) (n - 1) := by
  rcases n with _ | n
  · refine ⟨0, ?_⟩
    cases m <;> rfl
  · exact ⟨clockOf S w, rfl⟩

theorem auditAll_aftermath (n : ℕ) :
    ∃ log : List AuditRow,
      aftermath S m (Async.forEach rows auditActivated w) n =
        { w.db with auditLog := w.db.auditLog ++ log } ∧
      log.map AuditRow.event = (rows.take n).map activatedEvent := by
  induction rows generalizing w n with
  | nil => exact ⟨[], by simp [Async.forEach, aftermath], by simp⟩
  | cons row rows ih =>
    have hrun : Async.forEach (row :: rows) auditActivated w =
        (auditActivated row w).bind fun _ s => Async.forEach rows auditActivated s := rfl
    obtain ⟨t, ht⟩ := auditActivated_aftermath (S := S) (m := m) (w := w)
      (f := fun _ s => Async.forEach rows auditActivated s) row n
    rw [hrun, ht]
    rcases n with _ | n
    · exact ⟨[], by simp, by simp⟩
    · obtain ⟨log, hlog, hevents⟩ := @ih (w.withDb
        (audited t (some row.telegramId) (activatedEvent row) w.db)) n
      refine ⟨⟨nextId (w.db.auditLog.map AuditRow.id), t, some row.telegramId,
        activatedEvent row⟩ :: log, ?_, ?_⟩
      · rw [if_neg (by omega), Nat.add_sub_cancel, hlog]
        simp only [World.withDb_db, audited, List.append_assoc, List.singleton_append]
      · simp [hevents]

theorem activated_auditLog (db : Db) :
    (rows.foldl (activatedDb ts) db).auditLog = db.auditLog := by
  induction rows generalizing db with
  | nil => rfl
  | cons row rows ih => exact ih _

theorem activateWhitelists_aftermath (n : ℕ) :
    ∃ log : List AuditRow,
      aftermath S m (activateWhitelists w) n =
        { ((listDueWhitelistChanges (clockOf S w) w.db).take (n / 2)).foldl
            (activatedDb (clockOf S w)) w.db with auditLog := w.db.auditLog ++ log } ∧
      log.map AuditRow.event = ((listDueWhitelistChanges (clockOf S w) w.db).take
        (n - 2 * (listDueWhitelistChanges (clockOf S w) w.db).length)).map activatedEvent := by
  have hrun : aftermath S m (activateWhitelists w) n = aftermath S m
      (((Async.forEach (listDueWhitelistChanges (clockOf S w) w.db)
        (activateChange (clockOf S w)) w).bind fun _ s =>
          .done (.ok (listDueWhitelistChanges (clockOf S w) w.db)) s).bind fun activated s =>
            Async.forEach activated auditActivated s) n := rfl
  rw [hrun, Run.bind_assoc, activateAll_aftermath]
  generalize listDueWhitelistChanges (clockOf S w) w.db = due
  by_cases hn : n < 2 * due.length
  · refine ⟨[], ?_, ?_⟩
    · rw [if_pos hn, List.append_nil]
      have hlog : ((due.take (n / 2)).foldl (activatedDb (clockOf S w)) w.db).auditLog =
          w.db.auditLog := activated_auditLog w.db
      rw [← hlog]
    · rw [Nat.sub_eq_zero_of_le hn.le]
      rfl
  · obtain ⟨log, hlog, hevents⟩ := @auditAll_aftermath
      (w.withDb (due.foldl (activatedDb (clockOf S w)) w.db)) S m due (n - 2 * due.length)
    refine ⟨log, ?_, hevents⟩
    rw [if_neg hn, List.take_of_length_le (by omega)]
    refine hlog.trans ?_
    rw [World.withDb_db, activated_auditLog]

/-- The change of that id has taken effect. -/
def Activated (row : WhitelistChangeRow) (db : Db) : Prop :=
  ∃ c ∈ db.whitelistChanges, c.id = row.id ∧ c.status = .activated

theorem mem_activated {c : WhitelistChangeRow} (db : Db) :
    c ∈ (rows.foldl (activatedDb ts) db).whitelistChanges ↔
      ∃ d ∈ db.whitelistChanges, c = if d.id ∈ rows.map WhitelistChangeRow.id then
        activatedChange d else d := by
  induction rows generalizing db with
  | nil => simp
  | cons row rows ih =>
    rw [List.foldl_cons, ih]
    constructor
    · rintro ⟨d, hd, rfl⟩
      obtain ⟨e, he, rfl⟩ := List.mem_map.mp hd
      refine ⟨e, he, ?_⟩
      by_cases hkey : e.id = row.id
      · have hid : (activatedChange e).id = e.id := rfl
        simp only [hkey, if_true, hid, List.map_cons, List.mem_cons, true_or]
        exact ite_self _
      · simp only [hkey, if_false, List.map_cons, List.mem_cons, false_or]
    · rintro ⟨e, he, rfl⟩
      by_cases hkey : e.id = row.id
      · refine ⟨activatedChange e, List.mem_map.mpr ⟨e, he, if_pos hkey⟩, ?_⟩
        simp only [hkey, List.map_cons, List.mem_cons, true_or, if_true]
        exact (ite_self _).symm
      · refine ⟨e, List.mem_map.mpr ⟨e, he, if_neg hkey⟩, ?_⟩
        simp only [hkey, List.map_cons, List.mem_cons, false_or]

theorem activated_iff {row : WhitelistChangeRow} {db : Db}
    (hkeys : Keyed WhitelistChangeRow.id db.whitelistChanges) (hrow : row ∈ db.whitelistChanges)
    (hpending : row.status = .pending) :
    Activated row (rows.foldl (activatedDb ts) db) ↔ row.id ∈ rows.map WhitelistChangeRow.id := by
  constructor
  · rintro ⟨c, hc, hid, hstatus⟩
    obtain ⟨d, hd, rfl⟩ := (mem_activated db).mp hc
    by_contra hnot
    by_cases hmem : d.id ∈ rows.map WhitelistChangeRow.id
    · rw [if_pos hmem] at hid
      exact hnot (hid ▸ hmem)
    · rw [if_neg hmem] at hid hstatus
      obtain rfl := keyed_unique hkeys hd hrow hid
      rw [hpending] at hstatus
      cases hstatus
  · intro hmem
    exact ⟨activatedChange row, (mem_activated db).mpr ⟨row, hrow, (if_pos hmem).symm⟩, rfl, rfl⟩

theorem prefixes_agree_iff {β : Type} {l : List β} (hl : l.Nodup) (a b : ℕ) :
    (∀ x ∈ l, (x ∈ l.take a ↔ x ∈ l.take b)) ↔ min a l.length = min b l.length := by
  constructor
  · intro h
    by_contra hne
    rcases Nat.lt_or_gt_of_ne hne with hlt | hlt
    · have hi : a < l.length := by omega
      have hb : l[a] ∈ l.take b := List.mem_take_iff_getElem.mpr ⟨a, by omega, rfl⟩
      obtain ⟨j, hj, heq⟩ := List.mem_take_iff_getElem.mp ((h _ (List.getElem_mem hi)).mpr hb)
      have hja := (hl.getElem_inj_iff).mp heq
      omega
    · have hi : b < l.length := by omega
      have ha : l[b] ∈ l.take a := List.mem_take_iff_getElem.mpr ⟨b, by omega, rfl⟩
      obtain ⟨j, hj, heq⟩ := List.mem_take_iff_getElem.mp ((h _ (List.getElem_mem hi)).mp ha)
      have hjb := (hl.getElem_inj_iff).mp heq
      omega
  · intro h x _
    rw [List.take_eq_take_iff.mpr h]

theorem activatedEvent_mem_iff {row : WhitelistChangeRow} (hkeys : Keyed WhitelistChangeRow.id rows)
    (hrow : row ∈ rows) (j : ℕ) :
    activatedEvent row ∈ (rows.take j).map activatedEvent ↔ row ∈ rows.take j := by
  constructor
  · intro h
    obtain ⟨d, hd, hevent⟩ := List.mem_map.mp h
    injection hevent with hid
    rwa [← keyed_unique hkeys (List.mem_of_mem_take hd) hrow hid]
  · intro h
    exact List.mem_map_of_mem h

theorem id_mem_iff {row : WhitelistChangeRow} (hkeys : Keyed WhitelistChangeRow.id rows)
    (hrow : row ∈ rows) (j : ℕ) :
    row.id ∈ (rows.take j).map WhitelistChangeRow.id ↔ row ∈ rows.take j := by
  constructor
  · intro h
    obtain ⟨d, hd, hid⟩ := List.mem_map.mp h
    rwa [← keyed_unique hkeys (List.mem_of_mem_take hd) hrow hid]
  · intro h
    exact List.mem_map_of_mem h

theorem mem_due {row : WhitelistChangeRow} {t : ℤ} {db : Db} :
    row ∈ listDueWhitelistChanges t db ↔
      row ∈ db.whitelistChanges ∧ row.status = .pending ∧ row.activatesAt ≤ t := by
  unfold listDueWhitelistChanges
  rw [List.mem_insertionSort, List.mem_filter, decide_eq_true_iff]

theorem due_keyed {t : ℤ} {db : Db} (hkeys : Keyed WhitelistChangeRow.id db.whitelistChanges) :
    Keyed WhitelistChangeRow.id (listDueWhitelistChanges t db) := by
  unfold listDueWhitelistChanges
  have hperm := List.perm_insertionSort (fun a b => a.activatesAt ≤ b.activatesAt)
    (db.whitelistChanges.filter fun c => c.status = .pending ∧ c.activatesAt ≤ t)
  refine ((hperm.map WhitelistChangeRow.id).nodup_iff).mpr ?_
  exact hkeys.sublist ((List.filter_sublist).map _)

theorem activations_iff (hkeys : Keyed WhitelistChangeRow.id w.db.whitelistChanges) (n : ℕ) :
    (∀ row ∈ listDueWhitelistChanges (clockOf S w) w.db,
      Faithful w.db (Activated row) (activatedEvent row)
        (aftermath S m (activateWhitelists w) n)) ↔
      n < 2 ∨ 3 * (listDueWhitelistChanges (clockOf S w) w.db).length ≤ n := by
  obtain ⟨log, hafter, hlog⟩ := @activateWhitelists_aftermath w S m n
  rw [hafter]
  have hduekeys : Keyed WhitelistChangeRow.id (listDueWhitelistChanges (clockOf S w) w.db) :=
    due_keyed hkeys
  have hdue : ∀ row ∈ listDueWhitelistChanges (clockOf S w) w.db,
      row ∈ w.db.whitelistChanges ∧ row.status = .pending ∧ row.activatesAt ≤ clockOf S w :=
    fun row => mem_due.mp
  generalize listDueWhitelistChanges (clockOf S w) w.db = due at hlog hduekeys hdue ⊢
  have hnodup : due.Nodup := List.Nodup.of_map _ hduekeys
  have hnew : newEvents w.db { (due.take (n / 2)).foldl (activatedDb (clockOf S w)) w.db with
      auditLog := w.db.auditLog ++ log } = (due.take (n - 2 * due.length)).map activatedEvent := by
    simp only [newEvents, List.drop_left, hlog]
  have hrow : ∀ row ∈ due, (Faithful w.db (Activated row) (activatedEvent row)
      { (due.take (n / 2)).foldl (activatedDb (clockOf S w)) w.db with
        auditLog := w.db.auditLog ++ log } ↔
      (row ∈ due.take (n / 2) ↔ row ∈ due.take (n - 2 * due.length))) := by
    intro row hmem
    unfold Faithful
    rw [hnew, activatedEvent_mem_iff hduekeys hmem]
    have hact : Activated row ((due.take (n / 2)).foldl (activatedDb (clockOf S w)) w.db) ↔
        row.id ∈ (due.take (n / 2)).map WhitelistChangeRow.id :=
      activated_iff hkeys (hdue row hmem).1 (hdue row hmem).2.1
    rw [id_mem_iff hduekeys hmem] at hact
    rw [← hact]
    rfl
  rw [forall₂_congr hrow, prefixes_agree_iff hnodup]
  omega

/-- The withdrawal of that id is in the table. -/
def Enqueued (id : ℕ) (db : Db) : Prop := id ∈ db.withdrawals.map WithdrawalRow.id

/-- The change of that id is in the table. -/
def Requested (id : ℕ) (db : Db) : Prop := id ∈ db.whitelistChanges.map WhitelistChangeRow.id

def Requeued (id : ℕ) (db : Db) : Prop :=
  ∃ row, getWithdrawalById id db = some row ∧ row.status = .queued

def Unenrolled (u : TelegramId) (db : Db) : Prop :=
  ∃ user, getUser u db = some user ∧ user.totpSecretEnc = none

theorem nextId_unused (ids : List ℕ) : nextId ids ∉ ids :=
  fun h => Nat.lt_irrefl _ (nextId_fresh h)

theorem enqueue_iff (user : UserRow) (destination : Address) (chatId : ℤ)
    (amountUsd navPerShare : ℚ) (n : ℕ) :
    Faithful w.db (Enqueued (nextId (w.db.withdrawals.map WithdrawalRow.id)))
      (.withdrawalQueued (nextId (w.db.withdrawals.map WithdrawalRow.id)) amountUsd
        (amountUsd / navPerShare)
        (splitFee (amountUsd / navPerShare) cfg.commands.withdrawalFeeBps).feeShares destination)
      (aftermath S m
        (enqueue (commandsDeps venue cfg) user destination chatId amountUsd navPerShare w) n) ↔
      n ≠ 1 := by
  apply (enqueue_thenAudited user destination chatId amountUsd navPerShare).faithful_iff
  · exact nextId_unused _
  · simp [Enqueued, queuedDb, NewWithdrawal.row]
  · intro ts u e
    simp [Enqueued, queuedDb, NewWithdrawal.row, audited]

theorem first_request_iff (hu : getUser u w.db = some user)
    (hnone : user.whitelistAddress = none) (n : ℕ) :
    Faithful w.db (Requested (nextId (w.db.whitelistChanges.map WhitelistChangeRow.id)))
      (.whitelistSet address true (clockOf S w))
      (aftermath S m (doSetWhitelist (commandsDeps venue cfg) u chatId address w) n) ↔ n ≠ 2 := by
  apply (doSetWhitelist_first hu hnone).faithful_iff
  · exact nextId_unused _
  · simp [Requested, addressedDb, requestedDb, updateUser]
  · intro ts u e
    simp [Requested, addressedDb, requestedDb, updateUser, audited]

theorem later_request_iff {old : Address} (hu : getUser u w.db = some user)
    (hold : user.whitelistAddress = some old) (n : ℕ) :
    Faithful w.db (Requested (nextId (w.db.whitelistChanges.map WhitelistChangeRow.id)))
      (.whitelistSet address false (clockOf S w + (commandsDeps venue cfg).cooldownMs))
      (aftermath S m (doSetWhitelist (commandsDeps venue cfg) u chatId address w) n) ↔ n ≠ 1 := by
  apply (doSetWhitelist_later hu hold).faithful_iff
  · exact nextId_unused _
  · simp [Requested, requestedDb]
  · intro ts u e
    simp [Requested, requestedDb, audited]

theorem requeue_iff (hrow : getWithdrawalById id w.db = some row)
    (hfailed : row.status = .failed) (hunsent : row.txSig = none) (n : ℕ) :
    Faithful w.db (Requeued id) (.withdrawalRequeued id row.failureReason)
      (aftermath S m (requeue ⟨reply, getMid⟩ msg id row w) n) ↔ n ≠ 1 := by
  have hnow : getWithdrawalById id (updateWithdrawal id requeued w.db) =
      some (requeued row) := by
    unfold getWithdrawalById at hrow ⊢
    have hkey : ∀ r : WithdrawalRow, (requeued r).id = r.id := fun _ => rfl
    rw [updateWithdrawal, lookup_amend_self hkey, hrow]
    rfl
  apply (requeue_thenAudited hrow hfailed hunsent).faithful_iff
  · rintro ⟨r, hr, hqueued⟩
    rw [hrow] at hr
    injection hr with hr
    rw [← hr, hfailed] at hqueued
    cases hqueued
  · exact ⟨_, hnow, rfl⟩
  · intro ts u e
    exact ⟨_, hnow, rfl⟩

theorem pause_iff (hrunning : isVaultPaused w.db = false) (n : ℕ) :
    Faithful w.db (fun db => isVaultPaused db = true) .vaultPaused
      (aftermath S m (handlePause ⟨reply, getMid⟩ msg w) n) ↔ n ≠ 1 := by
  apply handlePause_thenAudited.faithful_iff
  · simp [hrunning]
  · simp [isVaultPaused, getFlag, flaggedDb]
  · intro ts u e
    simp [isVaultPaused, getFlag, flaggedDb, audited]

theorem resume_iff (hpaused : isVaultPaused w.db = true) (n : ℕ) :
    Faithful w.db (fun db => isVaultPaused db = false) .vaultResumed
      (aftermath S m (handleResume ⟨reply, getMid⟩ msg w) n) ↔ n ≠ 1 := by
  apply handleResume_thenAudited.faithful_iff
  · simp [hpaused]
  · simp [isVaultPaused, getFlag, flaggedDb]
  · intro ts u e
    simp [isVaultPaused, getFlag, flaggedDb, audited]

theorem reset_iff (htarget : TextInput.resetTotpTarget msg.text = some u)
    (hu : getUser u w.db = some user) (henrolled : user.totpSecretEnc ≠ none) (n : ℕ) :
    Faithful w.db (Unenrolled u) (.totpReset u)
      (aftermath S m (handleResetTotp ⟨reply, getMid⟩ msg w) n) ↔ n ≠ 1 := by
  obtain ⟨stored, hstored, hrow⟩ := Option.map_eq_some_iff.mp hu
  have hnow : getUser u (updateUser u clearedTotp w.db) = some (rowToUser (clearedTotp stored)) := by
    have hkey : ∀ r : UserRow, (clearedTotp r).telegramId = r.telegramId := fun _ => rfl
    unfold getUser
    rw [updateUser, lookup_amend_self hkey, hstored]
    rfl
  apply (handleResetTotp_thenAudited htarget hstored).faithful_iff
  · rintro ⟨r, hr, hnone⟩
    rw [hu] at hr
    injection hr with hr
    rw [← hr] at hnone
    exact henrolled hnone
  · exact ⟨_, hnow, rfl⟩
  · intro ts v e
    exact ⟨_, hnow, rfl⟩

/-- Wherever a mishap strikes one of the operations, change and audit row stand or fall
together, except at the write of the audit row; activations are open from the first change to
the last row. -/
theorem audit_faithful_iff (venue : Venue) (cfg : BotConfig) (S : VaultScript) (m : Mishap)
    (w : World) (n : ℕ) (hkeys : Keyed WhitelistChangeRow.id w.db.whitelistChanges) :
    (∀ user destination chatId amountUsd navPerShare,
      Faithful w.db (Enqueued (nextId (w.db.withdrawals.map WithdrawalRow.id)))
        (.withdrawalQueued (nextId (w.db.withdrawals.map WithdrawalRow.id)) amountUsd
          (amountUsd / navPerShare)
          (splitFee (amountUsd / navPerShare) cfg.commands.withdrawalFeeBps).feeShares destination)
        (aftermath S m
          (enqueue (commandsDeps venue cfg) user destination chatId amountUsd navPerShare w) n) ↔
        n ≠ 1) ∧
    (∀ u user chatId address, getUser u w.db = some user → user.whitelistAddress = none →
      (Faithful w.db (Requested (nextId (w.db.whitelistChanges.map WhitelistChangeRow.id)))
        (.whitelistSet address true (clockOf S w))
        (aftermath S m (doSetWhitelist (commandsDeps venue cfg) u chatId address w) n) ↔
        n ≠ 2)) ∧
    (∀ u user chatId address, getUser u w.db = some user → user.whitelistAddress ≠ none →
      (Faithful w.db (Requested (nextId (w.db.whitelistChanges.map WhitelistChangeRow.id)))
        (.whitelistSet address false (clockOf S w + (commandsDeps venue cfg).cooldownMs))
        (aftermath S m (doSetWhitelist (commandsDeps venue cfg) u chatId address w) n) ↔
        n ≠ 1)) ∧
    ((∀ row ∈ listDueWhitelistChanges (clockOf S w) w.db,
      Faithful w.db (Activated row) (activatedEvent row)
        (aftermath S m (activateWhitelists w) n)) ↔
      n < 2 ∨ 3 * (listDueWhitelistChanges (clockOf S w) w.db).length ≤ n) ∧
    (∀ msg id row, getWithdrawalById id w.db = some row → row.status = .failed →
      row.txSig = none →
      (Faithful w.db (Requeued id) (.withdrawalRequeued id row.failureReason)
        (aftermath S m (requeue ⟨reply, getMid⟩ msg id row w) n) ↔ n ≠ 1)) ∧
    (∀ msg, isVaultPaused w.db = false →
      (Faithful w.db (fun db => isVaultPaused db = true) .vaultPaused
        (aftermath S m (handlePause ⟨reply, getMid⟩ msg w) n) ↔ n ≠ 1)) ∧
    (∀ msg, isVaultPaused w.db = true →
      (Faithful w.db (fun db => isVaultPaused db = false) .vaultResumed
        (aftermath S m (handleResume ⟨reply, getMid⟩ msg w) n) ↔ n ≠ 1)) ∧
    (∀ msg u user, TextInput.resetTotpTarget msg.text = some u → getUser u w.db = some user →
      user.totpSecretEnc ≠ none →
      (Faithful w.db (Unenrolled u) (.totpReset u)
        (aftermath S m (handleResetTotp ⟨reply, getMid⟩ msg w) n) ↔ n ≠ 1)) := by
  constructor
  · intro user destination chatId amountUsd navPerShare
    exact enqueue_iff user destination chatId amountUsd navPerShare n
  constructor
  · intro u user chatId address hu hnone
    exact first_request_iff hu hnone n
  constructor
  · intro u user chatId address hu hsome
    obtain ⟨old, hold⟩ := Option.ne_none_iff_exists'.mp hsome
    exact later_request_iff hu hold n
  constructor
  · exact activations_iff hkeys n
  constructor
  · intro msg id row hrow hfailed hunsent
    exact requeue_iff hrow hfailed hunsent n
  constructor
  · intro msg hrunning
    exact pause_iff hrunning n
  constructor
  · intro msg hpaused
    exact resume_iff hpaused n
  · intro msg u user htarget hu henrolled
    exact reset_iff htarget hu henrolled n

open PlayedRuns

def pauseCommand : Msg := ⟨1, 1, "/pausevault"⟩

def waiting : World :=
  ⟨{ Db.empty with
      users := [⟨2, .depositor, "holder", ⟨[], []⟩, none, none, none, some "old", some 0, 0, 0⟩]
      whitelistChanges := [⟨1, 2, some "old", "new", 0, 0, .pending, none⟩] },
    Memory.fresh, oneSol, [], []⟩

theorem pause_unaudited : isVaultPaused (World.initial oneSol).db = false ∧
    ¬Faithful (World.initial oneSol).db (fun db => isVaultPaused db = true) .vaultPaused
      (aftermath fullStore.script (.throws (.error "disk full"))
        (handlePause ⟨reply, getMid⟩ pauseCommand (World.initial oneSol)) 1) := by
  refine ⟨by decide, fun h => ?_⟩
  exact (pause_iff (by decide) 1).mp h rfl

theorem audit_faithful_iff_waiting :
    Keyed WhitelistChangeRow.id waiting.db.whitelistChanges ∧
    (¬∀ row ∈ listDueWhitelistChanges (clockOf fullStore.script waiting) waiting.db,
      Faithful waiting.db (Activated row) (activatedEvent row)
        (aftermath fullStore.script .stops (activateWhitelists waiting) 2)) ∧
    isVaultPaused waiting.db = false ∧
    Faithful waiting.db (fun db => isVaultPaused db = true) .vaultPaused
      (aftermath fullStore.script .stops (handlePause ⟨reply, getMid⟩ pauseCommand waiting) 2) := by
  have hkeys : Keyed WhitelistChangeRow.id waiting.db.whitelistChanges := by
    simp [Keyed, waiting]
  have hiff := audit_faithful_iff plainVenue plainConfig fullStore.script .stops waiting 2 hkeys
  have hdue : (listDueWhitelistChanges (clockOf fullStore.script waiting) waiting.db).length = 1 := by
    decide +kernel
  have hrunning : isVaultPaused waiting.db = false := by decide
  refine ⟨hkeys, fun h => ?_, hrunning, ?_⟩
  · have hfree := hiff.2.2.2.1.mp h
    rw [hdue] at hfree
    omega
  · exact (hiff.2.2.2.2.2.1 pauseCommand hrunning).mpr (by omega)

end AuditFidelity
