import BertMMBot.DepositorParts
import BertMMBot.PlayedRuns

/-! # What one user's messages do to the others

Nothing: their rows and what the process remembers of them stay. In the other direction, the
handlers see of the others only what the users share, so whatever may become of the sender may
become of him with any other secrets, shares, pending actions and addresses of the others. -/
namespace TenantIsolation

open AsyncProgram AsyncContract AsyncParts KeyedTable VaultTypes VaultProgram DepositorStore
open AccountSecurity DepositorCommands MeteoraPosition VaultRuntime DepositorParts

variable {u : TelegramId} {registering : Prop} {w w' : World} {α : Type}

section Tables

variable {κ ρ : Type} [DecidableEq κ] {key : ρ → κ} {k : κ} {f : ρ → ρ} {rows : List ρ}

theorem filter_amend_other {p : ρ → Bool}
    (h : ∀ r ∈ rows, key r = k → p r = false ∧ p (f r) = false) :
    (amend key k f rows).filter p = rows.filter p := by
  induction rows with
  | nil => rfl
  | cons r rows ih =>
    have htail := ih fun r' hr' => h r' (List.mem_cons_of_mem r hr')
    unfold amend at htail ⊢
    rw [List.map_cons, List.filter_cons, List.filter_cons, htail]
    by_cases hk : key r = k
    · obtain ⟨hr, hfr⟩ := h r (List.mem_cons_self ..) hk
      simp [hk, hr, hfr]
    · simp [hk]

theorem filter_amend_own {p : ρ → Bool} (h : ∀ r, p (f r) = p r) :
    (amend key k f rows).filter p = amend key k f (rows.filter p) := by
  induction rows with
  | nil => rfl
  | cons r rows ih =>
    have hsame : p (if key r = k then f r else r) = p r := by
      by_cases hk : key r = k
      · rw [if_pos hk, h r]
      · rw [if_neg hk]
    unfold amend at ih ⊢
    rw [List.map_cons, List.filter_cons, List.filter_cons, hsame, ih]
    by_cases hp : p r
    · simp [hp]
    · simp [hp]

theorem nextId_append (ids : List ℕ) : nextId (ids ++ [nextId ids]) = nextId ids + 1 := by
  have hfold : ∀ (ids : List ℕ) (n : ℕ), ids.foldr max n = max (ids.foldr max 0) n := by
    intro ids n
    induction ids with
    | nil => simp
    | cons i ids ih => simp only [List.foldr_cons, ih, max_assoc]
  have hlast : (ids ++ [nextId ids]).foldr max 0 = nextId ids := by
    rw [List.foldr_append, hfold]
    simp [nextId]
  rw [nextId, hlast]

end Tables

/-- The primary key of the table in which a row is changed by its id. -/
def PrimaryKey (w : World) : Prop := Keyed WhitelistChangeRow.id w.db.whitelistChanges

/-- Everybody but `u` keeps his rows and his part of the memory. -/
def Spares (u : TelegramId) (w w' : World) : Prop :=
  PrimaryKey w → PrimaryKey w' ∧ ∀ v, v ≠ u → own v w' = own v w

theorem spares_refl (w : World) : Spares u w w := fun hk => ⟨hk, fun _ _ => rfl⟩

instance : IsTrans World (Spares u) where
  trans _ _ _ h h' hk := by
    obtain ⟨hk₁, hsame⟩ := h hk
    obtain ⟨hk₂, hsame'⟩ := h' hk₁
    exact ⟨hk₂, fun v hv => (hsame' v hv).trans (hsame v hv)⟩

theorem spares_of_eq (hkey : w'.db.whitelistChanges = w.db.whitelistChanges)
    (h : ∀ v, v ≠ u → own v w' = own v w) : Spares u w w' := by
  intro hk
  constructor
  · unfold PrimaryKey
    rw [hkey]
    exact hk
  · exact h

theorem treads_bind {β : Type} {m : Vault α} {k : α → Vault β} (hm : Treads (Spares u) m)
    (hk : ∀ a, Treads (Spares u) (k a)) : Treads (Spares u) (m >>= k) :=
  fun w => along_bind (hm w) (gives_any (m w)) fun a w' _ => hk a w'

theorem treads_read (g : World → α) : Treads (Spares u) (Async.read g : Vault α) :=
  fun w => spares_refl w

theorem treads_statement {st : Stmt} {f : Db → Except Thrown (α × Db)}
    (h : ∀ w a db, f w.db = .ok (a, db) → Spares u w (w.withDb db)) :
    Treads (Spares u) (statement st f) := by
  intro w
  refine ⟨spares_refl w, fun o => ?_⟩
  cases (o : Option Thrown) with
  | some e => exact spares_of_eq rfl fun _ _ => rfl
  | none =>
    change Along (Spares u) w (execute f w)
    unfold execute Async.attempt
    rcases hf : f w.db with e | ⟨a, db⟩
    · simp only [hf]
      exact spares_refl w
    · simp only [hf]
      exact h w a db hf

theorem treads_update {st : Stmt} {f : Db → Db} (h : ∀ w, Spares u w (w.withDb (f w.db))) :
    Treads (Spares u) (update st f) := by
  apply treads_statement
  intro w a db hdb
  cases hdb
  exact h w

theorem spares_updateUser {f : UserRow → UserRow} (hf : ∀ r, (f r).telegramId = r.telegramId)
    (w : World) : Spares u w (w.withDb (updateUser u f w.db)) := by
  refine spares_of_eq rfl fun v hv => ?_
  have husers : (updateUser u f w.db).users.filter (fun r => r.telegramId = v) =
      w.db.users.filter fun r => r.telegramId = v := by
    apply filter_amend_other
    intro r _ hr
    have hne : r.telegramId ≠ v := fun h => hv (h.symm.trans hr)
    simp [hf, hne]
  simp only [own, rowsOf, World.withDb_db, World.withDb_memory, husers]
  rfl

theorem spares_addChange {c : WhitelistChangeRow} {w : World} (hu : c.telegramId = u)
    (hid : c.id = nextId (w.db.whitelistChanges.map WhitelistChangeRow.id)) :
    Spares u w (w.withDb { w.db with whitelistChanges := w.db.whitelistChanges ++ [c] }) := by
  intro hk
  constructor
  · refine keyed_append hk (lookup_none.mpr fun r hr => ?_)
    have hlt := nextId_fresh (List.mem_map_of_mem (f := WhitelistChangeRow.id) hr)
    omega
  · intro v hv
    have hne : c.telegramId ≠ v := fun h => hv (h.symm.trans hu)
    simp [own, rowsOf, List.filter_append, hne]

theorem treads_enqueueChange (args : NewWhitelistChange) (hu : args.telegramId = u) :
    Treads (Spares u) (enqueueWhitelistChange args) := by
  apply treads_statement
  intro w a db hdb
  cases hdb
  exact spares_addChange hu rfl

theorem treads_setWhitelist (address : Address) (ts : ℤ) :
    Treads (Spares u) (setWhitelistImmediate u address ts) :=
  treads_update (spares_updateUser fun _ => rfl)

theorem still_statement (st : Stmt) (f : Db → Except Thrown (α × Db)) (w : World) :
    Still (statement st f w) := by
  intro o
  cases (o : Option Thrown) with
  | some e => trivial
  | none =>
    change Still (execute f w)
    unfold execute Async.attempt
    rcases hf : f w.db with e | ⟨a, db⟩
    · simp only [hf]
      trivial
    · simp only [hf]
      trivial

theorem treads_transaction {m : Vault α} (hm : Treads (Spares u) m) (hstill : ∀ w, Still (m w)) :
    Treads (Spares u) (withTransaction m) := by
  intro w
  refine along_transact (fun w' hw => ?_) (hstill w) (hm w)
  intro hk
  refine ⟨hk, fun v hv => ?_⟩
  have hdesk := congrArg Own.desk ((hw hk).2 v hv)
  exact congrArg (Own.mk (rowsOf v w.db)) hdesk

theorem treads_requestChange (cooldownMs : ℤ) (address : Address) (now : ℤ) :
    Treads (Spares u) (requestChange cooldownMs u address now) := by
  refine treads_bind (treads_read _) fun user => ?_
  cases user with
  | none => exact fun w => spares_refl w
  | some user =>
    dsimp only
    cases user.whitelistAddress with
    | none =>
      apply treads_transaction
      · refine treads_bind (treads_enqueueChange _ rfl) fun id => ?_
        exact treads_bind (treads_setWhitelist _ _) fun _ w => spares_refl w
      · intro w
        refine still_bind (still_statement _ _ w) fun id w => ?_
        exact still_bind (still_statement _ _ w) fun _ _ => trivial
    | some old => exact treads_bind (treads_enqueueChange _ rfl) fun _ w => spares_refl w

theorem treads_cancelPending (reason : String) : Treads (Spares u) (cancelPending u reason) := by
  intro w
  rcases hp : mostRecentPendingChange u w.db with _ | p
  · have hrun : cancelPending u reason w = (pure false : Vault Bool) w := by
      simp only [cancelPending, readDb, Async.read, bind_apply, Run.bind, hp]
    rw [hrun]
    exact spares_refl w
  · have hrun : cancelPending u reason w =
        (cancelPendingWhitelist p.id reason >>= fun _ => pure true : Vault Bool) w := by
      simp only [cancelPending, readDb, Async.read, bind_apply, Run.bind, hp]
    rw [hrun]
    have hmem := List.argmax_mem (Option.mem_def.mpr hp)
    rw [List.mem_filter] at hmem
    have hpu : p.telegramId = u := by
      have hboth := hmem.2
      simp only [Bool.decide_and, Bool.and_eq_true, decide_eq_true_eq] at hboth
      exact hboth.1
    refine ⟨spares_refl w, fun o => ?_⟩
    cases (o : Option Thrown) with
    | some e => exact spares_of_eq rfl fun _ _ => rfl
    | none =>
      intro hk
      refine ⟨keyed_amend (fun _ => rfl) hk, fun v hv => ?_⟩
      have hrows : (updateWhitelistChange p.id (fun r => { r with
          status := .cancelled, cancelReason := some reason }) w.db).whitelistChanges.filter
            (fun r => r.telegramId = v) = w.db.whitelistChanges.filter fun r => r.telegramId = v := by
        apply filter_amend_other
        intro r hr hid
        have hsame : r = p := keyed_unique hk hr hmem.1 hid
        have hne : r.telegramId ≠ v := by
          rw [hsame, hpu]
          exact fun h => hv h.symm
        simp [hne]
      change own v (w.withDb (updateWhitelistChange p.id _ w.db)) = own v w
      simp only [own, rowsOf, World.withDb_db, World.withDb_memory, hrows]
      rfl

theorem part_spares {m : Vault α} (h : Part u registering α m) : Treads (Spares u) m := by
  cases h with
  | ask _ => exact fun w => ⟨spares_refl w, fun _ => spares_refl w⟩
  | call q => exact fun w => ⟨spares_refl w, fun _ w' => spares_refl w'⟩
  | read f => exact treads_read _
  | desk f _ =>
    intro w
    refine spares_of_eq rfl fun v hv => ?_
    simp [own, deskOf, withDesk, hv]
  | audit ms event =>
    apply treads_update
    intro w
    refine spares_of_eq rfl fun v hv => ?_
    simp [own, rowsOf, List.filter_append, Ne.symm hv]
  | counter c => exact treads_update (spares_updateUser fun _ => rfl)
  | enqueue args hu =>
    apply treads_statement
    intro w a db hdb
    cases hdb
    refine spares_of_eq rfl fun v hv => ?_
    have hne : args.telegramId ≠ v := fun h => hv (h.symm.trans hu)
    simp [own, rowsOf, List.filter_append, NewWithdrawal.row, hne]
  | request cooldownMs address now => exact treads_requestChange _ _ _
  | cancel reason => exact treads_cancelPending _
  | invite _ =>
    intro w
    refine spares_of_eq rfl fun v hv => ?_
    simp [own, deskOf, hv]
  | create args _ hu =>
    apply treads_statement
    intro w a db hdb
    split at hdb
    · cases hdb
    · cases hdb
      refine spares_of_eq rfl fun v hv => ?_
      have hne : args.telegramId ≠ v := fun h => hv (h.symm.trans hu)
      simp [own, rowsOf, List.filter_append, hne]
  | secret secretEnc enrolledAt _ => exact treads_update (spares_updateUser fun _ => rfl)

/-- The states show a handler of `u` the same. -/
def Alike (u : TelegramId) (w w' : World) : Prop := own u w = own u w' ∧ shared w = shared w'

theorem alike_of_effect {g : World → World} (F : Own → Shared → Own) (G : Own → Shared → Shared)
    (hF : ∀ w, own u (g w) = F (own u w) (shared w))
    (hG : ∀ w, shared (g w) = G (own u w) (shared w)) (h : Alike u w w') :
    Alike u (g w) (g w') := by
  unfold Alike
  rw [hF, hF, hG, hG, h.1, h.2]
  exact ⟨rfl, rfl⟩

theorem oblivious_statement {st : Stmt} {f : Db → Except Thrown (α × Db)}
    (hresult : ∀ w w', Alike u w w' → (f w.db).map Prod.fst = (f w'.db).map Prod.fst)
    (hstate : ∀ w w' a a' db db', Alike u w w' → f w.db = .ok (a, db) → f w'.db = .ok (a', db') →
      Alike u (w.withDb db) (w'.withDb db')) :
    Oblivious (Alike u) (statement st f) := by
  intro w w' hw
  refine .sync hw fun o => ?_
  cases (o : Option Thrown) with
  | some e => exact .done hw
  | none =>
    change Lockstep (Alike u) (execute f w) (execute f w')
    have hsame := hresult w w' hw
    have halike := fun a a' db db' => hstate w w' a a' db db' hw
    unfold execute Async.attempt
    rcases hf : f w.db with e | ⟨a, db⟩
    · rcases hf' : f w'.db with e' | ⟨a', db'⟩
      · rw [hf, hf'] at hsame
        cases hsame
        simp only [hf, hf']
        exact .done hw
      · rw [hf, hf'] at hsame
        cases hsame
    · rcases hf' : f w'.db with e' | ⟨a', db'⟩
      · rw [hf, hf'] at hsame
        cases hsame
      · rw [hf, hf'] at hsame
        cases hsame
        simp only [hf, hf']
        exact .done (halike _ _ _ _ hf hf')

theorem oblivious_update {st : Stmt} {f : Db → Db}
    (h : ∀ w w', Alike u w w' → Alike u (w.withDb (f w.db)) (w'.withDb (f w'.db))) :
    Oblivious (Alike u) (update st f) := by
  apply oblivious_statement
  · intro w w' _
    rfl
  · intro w w' a a' db db' hw hdb hdb'
    cases hdb
    cases hdb'
    exact h w w' hw

theorem alike_updateUser {f : UserRow → UserRow} (hid : ∀ r, (f r).telegramId = r.telegramId)
    (haddr : ∀ r, (f r).depositAddress = r.depositAddress) (h : Alike u w w') :
    Alike u (w.withDb (updateUser u f w.db)) (w'.withDb (updateUser u f w'.db)) := by
  refine alike_of_effect (g := fun w => w.withDb (updateUser u f w.db))
    (fun o _ => { o with rows := { o.rows with users := amend UserRow.telegramId u f o.rows.users } })
    (fun _ c => c) (fun w => ?_) (fun w => ?_) h
  · have husers : (updateUser u f w.db).users.filter (fun r => r.telegramId = u) =
        amend UserRow.telegramId u f (w.db.users.filter fun r => r.telegramId = u) :=
      filter_amend_own fun r => by rw [hid]
    simp only [own, rowsOf, World.withDb_db, World.withDb_memory, husers]
    rfl
  · have haddrs : (updateUser u f w.db).users.map UserRow.depositAddress =
        w.db.users.map UserRow.depositAddress := by
      simp only [updateUser, amend, List.map_map]
      apply List.map_congr_left
      intro r _
      simp only [Function.comp_apply]
      split
      · exact haddr r
      · rfl
    simp only [shared, World.withDb_db, World.withDb_memory, haddrs]
    rfl

theorem oblivious_enqueueChange (args : NewWhitelistChange) (hu : args.telegramId = u) :
    Oblivious (Alike u) (enqueueWhitelistChange args) := by
  apply oblivious_statement
  · intro w w' hw
    exact congrArg Except.ok (congrArg Shared.nextChange hw.2)
  · intro w w' a a' db db' hw hdb hdb'
    cases hdb
    cases hdb'
    refine alike_of_effect (g := fun w => w.withDb { w.db with
        whitelistChanges := w.db.whitelistChanges ++
          [⟨nextId (w.db.whitelistChanges.map WhitelistChangeRow.id), args.telegramId,
            args.oldAddress, args.newAddress, args.requestedAt, args.activatesAt,
            args.initialStatus, none⟩] })
      (fun o c => { o with rows := { o.rows with whitelistChanges := o.rows.whitelistChanges ++
        [⟨c.nextChange, args.telegramId, args.oldAddress, args.newAddress, args.requestedAt,
          args.activatesAt, args.initialStatus, none⟩] } })
      (fun _ c => { c with nextChange := c.nextChange + 1 }) (fun w => ?_) (fun w => ?_) hw
    · simp [own, rowsOf, shared, List.filter_append, hu]
    · simp only [shared, World.withDb_db, World.withDb_memory, List.map_append, List.map_cons,
        List.map_nil, nextId_append]
      rfl

theorem oblivious_pure (a : α) : Oblivious (Alike u) (pure a : Vault α) := fun _ _ hw => .done hw

theorem oblivious_setWhitelist (address : Address) (ts : ℤ) :
    Oblivious (Alike u) (setWhitelistImmediate u address ts) :=
  oblivious_update fun _ _ hw => alike_updateUser (fun _ => rfl) (fun _ => rfl) hw

theorem getUser_alike (hw : Alike u w w') : getUser u w.db = getUser u w'.db := by
  rw [getUser, getUser, lookup_head, lookup_head]
  exact congrArg (fun o : Own => o.rows.users.head?.map rowToUser) hw.1

theorem oblivious_transaction {m : Vault α} (hm : Oblivious (Alike u) m) :
    Oblivious (Alike u) (withTransaction m) := by
  intro w w' hw
  refine (hm w w' hw).transact fun s t hst => ?_
  constructor
  · have hrows := congrArg Own.rows hw.1
    have hdesk := congrArg Own.desk hst.1
    exact congrArg₂ Own.mk hrows hdesk
  · have hold := hw.2
    have hprices := congrArg Shared.priceHistory hst.2
    simp only [shared, Shared.mk.injEq, World.withDb_db, World.withDb_memory] at hold hprices ⊢
    exact ⟨hold.1, hold.2.1, hold.2.2.1, hold.2.2.2.1, hold.2.2.2.2.1, hold.2.2.2.2.2.1,
      hold.2.2.2.2.2.2.1, hold.2.2.2.2.2.2.2.1, hprices⟩

theorem oblivious_requestChange (cooldownMs : ℤ) (address : Address) (now : ℤ) :
    Oblivious (Alike u) (requestChange cooldownMs u address now) := by
  refine oblivious_bind (oblivious_read fun w w' hw => getUser_alike hw) fun user => ?_
  cases user with
  | none => exact fun w w' hw => .done hw
  | some user =>
    dsimp only
    cases user.whitelistAddress with
    | none =>
      apply oblivious_transaction
      refine oblivious_bind (oblivious_enqueueChange _ rfl) fun id => ?_
      exact oblivious_bind (oblivious_setWhitelist _ _) fun _ => oblivious_pure _
    | some old =>
      exact oblivious_bind (oblivious_enqueueChange _ rfl) fun _ => oblivious_pure _

theorem mostRecentPending_alike (hw : Alike u w w') :
    mostRecentPendingChange u w.db = mostRecentPendingChange u w'.db := by
  have hown : ∀ w : World, w.db.whitelistChanges.filter
      (fun c => c.telegramId = u ∧ c.status = .pending) =
        (own u w).rows.whitelistChanges.filter fun c => c.status = .pending := by
    intro w
    change _ = (w.db.whitelistChanges.filter fun c => c.telegramId = u).filter _
    rw [List.filter_filter]
    apply List.filter_congr
    intro r _
    simp only [Bool.decide_and, Bool.and_comm]
  rw [mostRecentPendingChange, mostRecentPendingChange, hown, hown, hw.1]

theorem alike_updateChange {f : WhitelistChangeRow → WhitelistChangeRow} (id : ℕ)
    (hu : ∀ r, (f r).telegramId = r.telegramId) (hid : ∀ r, (f r).id = r.id) (hw : Alike u w w') :
    Alike u (w.withDb (updateWhitelistChange id f w.db))
      (w'.withDb (updateWhitelistChange id f w'.db)) := by
  refine alike_of_effect (g := fun w => w.withDb (updateWhitelistChange id f w.db))
    (fun o _ => { o with rows := { o.rows with
      whitelistChanges := amend WhitelistChangeRow.id id f o.rows.whitelistChanges } })
    (fun _ c => c) (fun w => ?_) (fun w => ?_) hw
  · have hrows : (updateWhitelistChange id f w.db).whitelistChanges.filter
        (fun r => r.telegramId = u) = amend WhitelistChangeRow.id id f
          (w.db.whitelistChanges.filter fun r => r.telegramId = u) :=
      filter_amend_own fun r => by rw [hu]
    simp only [own, rowsOf, World.withDb_db, World.withDb_memory, hrows]
    rfl
  · have hids : (updateWhitelistChange id f w.db).whitelistChanges.map WhitelistChangeRow.id =
        w.db.whitelistChanges.map WhitelistChangeRow.id := amend_keys hid
    simp only [shared, World.withDb_db, World.withDb_memory, hids]
    rfl

theorem oblivious_cancelPending (reason : String) :
    Oblivious (Alike u) (cancelPending u reason) := by
  refine oblivious_bind (oblivious_read fun w w' hw => mostRecentPending_alike hw) fun c => ?_
  cases c with
  | none => exact oblivious_pure _
  | some c =>
    refine oblivious_bind (oblivious_update fun w w' hw => ?_) fun _ => oblivious_pure _
    exact alike_updateChange _ (fun _ => rfl) (fun _ => rfl) hw

theorem alike_desk {f : Desk → Desk} (hw : Alike u w w') :
    Alike u (w.withMemory (withDesk u f w.memory)) (w'.withMemory (withDesk u f w'.memory)) := by
  refine alike_of_effect (g := fun w => w.withMemory (withDesk u f w.memory))
    (fun o _ => { o with desk := f o.desk }) (fun _ c => c) (fun w => ?_) (fun w => rfl) hw
  simp [own, deskOf, withDesk]

theorem collides_iff (args : NewUser) (hu : args.telegramId = u) (w : World) :
    (w.db.users.any fun r => r.telegramId = args.telegramId ∨
      r.depositAddress = args.depositAddress) = true ↔
    (own u w).rows.users ≠ [] ∨ args.depositAddress ∈ (shared w).depositAddresses := by
  simp only [List.any_eq_true, decide_eq_true_eq, own, rowsOf, shared, List.mem_map, ne_eq,
    List.filter_eq_nil_iff, hu]
  constructor
  · rintro ⟨r, hr, hid | haddr⟩
    · left
      intro hnone
      exact hnone r hr hid
    · exact .inr ⟨r, hr, haddr⟩
  · rintro (hown | ⟨r, hr, haddr⟩)
    · by_contra hnone
      refine hown fun r hr hid => hnone ⟨r, hr, .inl hid⟩
    · exact ⟨r, hr, .inr haddr⟩

theorem oblivious_createUser (args : NewUser) (hu : args.telegramId = u) :
    Oblivious (Alike u) (createUser args) := by
  have hsame : ∀ w w', Alike u w w' → (w.db.users.any fun r => r.telegramId = args.telegramId ∨
      r.depositAddress = args.depositAddress) = w'.db.users.any fun r =>
        r.telegramId = args.telegramId ∨ r.depositAddress = args.depositAddress := by
    intro w w' hw
    rw [Bool.eq_iff_iff, collides_iff args hu, collides_iff args hu, hw.1, hw.2]
  apply oblivious_statement
  · intro w w' hw
    simp only [hsame w w' hw]
    split
    · rfl
    · rfl
  · intro w w' a a' db db' hw hdb hdb'
    split at hdb
    · cases hdb
    · split at hdb'
      · cases hdb'
      · cases hdb
        cases hdb'
        refine alike_of_effect (g := fun w => w.withDb { w.db with users := w.db.users ++
            [⟨args.telegramId, args.role, args.depositAddress, args.depositSecretEnc, none, none,
              none, none, none, args.disclaimerAt, args.createdAt⟩] })
          (fun o _ => { o with rows := { o.rows with users := o.rows.users ++
            [⟨args.telegramId, args.role, args.depositAddress, args.depositSecretEnc, none, none,
              none, none, none, args.disclaimerAt, args.createdAt⟩] } })
          (fun _ c => { c with depositAddresses := c.depositAddresses ++ [args.depositAddress] })
          (fun w => ?_) (fun w => ?_) hw
        · simp [own, rowsOf, List.filter_append, hu]
        · simp [shared, totalShares, countPendingWithdrawals]

theorem part_oblivious {m : Vault α} (h : Part u registering α m) : Oblivious (Alike u) m := by
  cases h with
  | ask _ => exact fun w w' hw => .sync hw fun o => .done hw
  | call q => exact fun w w' hw => .await hw fun a s t hst => .done hst
  | read f =>
    apply oblivious_read
    intro w w' hw
    rw [hw.1, hw.2]
  | desk f _ => exact fun w w' hw => .done (alike_desk hw)
  | audit ms event =>
    apply oblivious_update
    intro w w' hw
    refine alike_of_effect (g := fun w => w.withDb { w.db with auditLog := w.db.auditLog ++
        [⟨nextId (w.db.auditLog.map AuditRow.id), ms, some u, event⟩] })
      (fun o c => { o with rows := { o.rows with auditLog := o.rows.auditLog ++
        [⟨c.nextAudit, ms, some u, event⟩] } })
      (fun _ c => { c with nextAudit := c.nextAudit + 1 }) (fun w => ?_) (fun w => ?_) hw
    · simp [own, rowsOf, shared, List.filter_append]
    · simp only [shared, World.withDb_db, World.withDb_memory, List.map_append, List.map_cons,
        List.map_nil, nextId_append]
      rfl
  | counter c =>
    exact oblivious_update fun w w' hw => alike_updateUser (fun _ => rfl) (fun _ => rfl) hw
  | enqueue args hu =>
    apply oblivious_statement
    · intro w w' hw
      exact congrArg Except.ok (congrArg Shared.nextWithdrawal hw.2)
    · intro w w' a a' db db' hw hdb hdb'
      cases hdb
      cases hdb'
      refine alike_of_effect (g := fun w => w.withDb { w.db with withdrawals := w.db.withdrawals ++
          [args.row (nextId (w.db.withdrawals.map WithdrawalRow.id))] })
        (fun o c => { o with rows := { o.rows with withdrawals := o.rows.withdrawals ++
          [args.row c.nextWithdrawal] } })
        (fun _ c => { c with
          nextWithdrawal := c.nextWithdrawal + 1, pendingWithdrawals := c.pendingWithdrawals + 1 })
        (fun w => ?_) (fun w => ?_) hw
      · simp [own, rowsOf, shared, List.filter_append, NewWithdrawal.row, hu]
      · have hid : (args.row (nextId (w.db.withdrawals.map WithdrawalRow.id))).id =
            nextId (w.db.withdrawals.map WithdrawalRow.id) := rfl
        simp only [shared, World.withDb_db, World.withDb_memory, List.map_append, List.map_cons,
          List.map_nil, hid, nextId_append]
        simp [countPendingWithdrawals, List.filter_append, NewWithdrawal.row, totalShares]
  | request cooldownMs address now => exact oblivious_requestChange _ _ _
  | cancel reason => exact oblivious_cancelPending _
  | invite _ =>
    intro w w' hw
    have hdesk := alike_desk (f := fun d => { d with pending := some .disclaimer }) hw
    simp only [withDesk, deskOf, Function.update_eq_self] at hdesk
    exact .done hdesk
  | create args _ hu => exact oblivious_createUser args hu
  | secret secretEnc enrolledAt _ =>
    exact oblivious_update fun w w' hw => alike_updateUser (fun _ => rfl) (fun _ => rfl) hw

/-- Whoever is not the operator leaves everybody else's rows and memory as they are, in each
stretch of his handler. And his handler runs in lockstep in any two states that differ only in
what the others have, as long as they share the same: the total of the shares, the length of
the queue and the ids that come next among them. -/
theorem tenants_isolated (venue : Venue) (cfg : BotConfig) (msg : Msg)
    (hop : msg.userId ≠ cfg.operatorTelegramId) (job : Vault Unit)
    (hjob : job = dispatch (commanderDeps venue cfg) msg ∨
      job = dispatchCallback (commandsDeps venue cfg) msg) :
    (∀ w, Along (Spares msg.userId) w (job w)) ∧
      ∀ w w', Alike msg.userId w w' → Lockstep (Alike msg.userId) (job w) (job w') := by
  have hmade : MadeBy msg.userId True job := by
    rcases hjob with rfl | rfl
    · exact made_dispatch hop
    · exact made_dispatchCallback
  constructor
  · exact made_treads spares_refl part_spares hmade
  · exact made_oblivious part_oblivious hmade

open PlayedRuns (Scene plainVenue plainConfig oneSol)

/-- User 2 has unlocked withdrawals and 100 shares; user 3 has a secret and shares as well. -/
def besides (secret : String) (shares : ℚ) : World where
  db := { Db.empty with
    users := [
      ⟨2, .depositor, "two", ⟨[], []⟩, some ⟨[], []⟩, some 1, none, some "home", some 1, 0, 0⟩,
      ⟨3, .depositor, "three", ⟨Encryption.utf8Bytes secret, []⟩,
        some ⟨Encryption.utf8Bytes secret, []⟩, some 1, none, some secret, some 1, 0, 0⟩]
    shares := [⟨2, 100⟩, ⟨3, shares⟩]
    navSnapshots := [⟨0, 1000, 200, 5, .bootstrap⟩] }
  memory := { Memory.fresh with unlockedUntil := fun u => if u = 2 then some 2000 else none }
  chain := oneSol
  trace := []
  faults := []

def withdrawing : Msg := ⟨2, 2, "/withdraw 50"⟩

/-- What becomes of the withdrawal. -/
def withdrawn (w : World) : World :=
  ((⟨1000, ⟨"deposit", PlayedRuns.depositKey⟩, fun _ _ => none, [], none, fun _ => [], fun _ => none⟩ :
    Scene).script.play (dispatch (commanderDeps plainVenue plainConfig) withdrawing w)).2

/-- More shares of user 3 make user 2 pay more shares for the same dollars. -/
theorem shares_of_others_count :
    own 2 (besides "secret" 100) = own 2 (besides "secret" 300) ∧
      own 2 (withdrawn (besides "secret" 100)) ≠ own 2 (withdrawn (besides "secret" 300)) := by
  constructor
  · rfl
  · decide +kernel

theorem tenants_isolated_withdrawal :
    withdrawing.userId ≠ plainConfig.operatorTelegramId ∧
      Alike 2 (besides "secret" 100) (besides "another" 100) ∧
      Lockstep (Alike 2)
        (dispatch (commanderDeps plainVenue plainConfig) withdrawing (besides "secret" 100))
        (dispatch (commanderDeps plainVenue plainConfig) withdrawing (besides "another" 100)) := by
  have hop : withdrawing.userId ≠ plainConfig.operatorTelegramId := by decide
  have halike : Alike 2 (besides "secret" 100) (besides "another" 100) := by
    constructor
    · rfl
    · decide +kernel
  have hboth := tenants_isolated plainVenue plainConfig withdrawing hop _ (.inl rfl)
  exact ⟨hop, halike, hboth.2 _ _ halike⟩

end TenantIsolation
