import BertMMBot.VaultDiscipline

/-! # What the store's methods do to the ledger

Most writes are outside the ledger: alone they are frames, and inside a transaction they
keep what the transaction has reached. The others are the steps of the ledger machine. -/
namespace StoreDiscipline

open AsyncProgram AsyncContract VaultTypes VaultProgram KeyedTable DepositorStore LedgerMachine
open VaultDiscipline

variable {α β : Type} {P : Policy} {H : VaultHost} {f : Fiber} {A : World → Prop} {w w₀ : World}

/-- What is known once the oracle has been asked: a mid only comes when it may be used. -/
def Consulted (P : Policy) (A : World → Prop) (mid : Option Mid) (w : World) : Prop :=
  match mid with
  | none => A w
  | some m => P.price m ∧ P.ready w.memory ∧ A w

theorem ready_frame {w w' : World} (h : Frame w w') (hr : P.ready w.memory) :
    P.ready w'.memory :=
  P.ready_oracle _ _ h.trustedMid h.priceHistory hr

theorem true_frame {w w' : World} (_ : Frame w w') (_ : True) : True := trivial

theorem frame_audit (w : World) (row : AuditRow) (h : bootstrapOf row = none) :
    Frame w (w.withDb { w.db with auditLog := w.db.auditLog ++ [row] }) := by
  constructor <;> simp [bootstraps, userIds, List.filterMap_append, h]

theorem frame_navSnapshots (w : World) (navSnapshots : List NavSnapshotRow) :
    Frame w (w.withDb { w.db with navSnapshots }) := by
  constructor <;> simp [bootstraps, userIds]

theorem frame_whitelistChanges (w : World) (whitelistChanges : List WhitelistChangeRow) :
    Frame w (w.withDb { w.db with whitelistChanges }) := by
  constructor <;> simp [bootstraps, userIds]

theorem frame_flags (w : World) (flags : String → Option String) :
    Frame w (w.withDb { w.db with flags }) := by
  constructor <;> simp [bootstraps, userIds]

theorem userIds_updateUser (telegramId : TelegramId) (g : UserRow → UserRow) (db : Db)
    (hg : ∀ r, (g r).telegramId = r.telegramId) :
    userIds (updateUser telegramId g db) = userIds db := by
  simp only [userIds, updateUser, amend, List.map_map]
  refine List.map_congr_left fun r _ => ?_
  by_cases h : r.telegramId = telegramId
  · simp [h, hg]
  · simp [h]

theorem frame_updateUser (w : World) (telegramId : TelegramId) (g : UserRow → UserRow)
    (hg : ∀ r, (g r).telegramId = r.telegramId) :
    Frame w (w.withDb (updateUser telegramId g w.db)) := by
  have hids := userIds_updateUser telegramId g w.db hg
  refine ⟨rfl, rfl, rfl, rfl, ?_, ?_, rfl, List.suffix_rfl, rfl, rfl, id⟩
  · exact hids ▸ List.prefix_rfl
  · intro h
    exact (congrArg List.Nodup hids).mpr h

theorem frame_newUser (w : World) (row : UserRow) (h : row.telegramId ∉ userIds w.db) :
    Frame w (w.withDb { w.db with users := w.db.users ++ [row] }) := by
  refine ⟨rfl, rfl, rfl, rfl, ?_, ?_, rfl, List.suffix_rfl, rfl, rfl, id⟩
  · exact ⟨[row.telegramId], by simp [userIds]⟩
  · intro hn
    have happ : userIds { w.db with users := w.db.users ++ [row] } =
        userIds w.db ++ [row.telegramId] := by simp [userIds]
    rw [World.withDb_db, happ]
    exact hn.append (by simp) (by simpa using h)

def Outside (m : Vault α) : Prop :=
  ∃ st g, m = statement st g ∧ ∀ w a db, g w.db = .ok (a, db) → Frame w (w.withDb db)

def Frames (m : Vault α) : Prop :=
  ∀ w₀ w, Inside w₀ w → Body w₀ w m fun _ w' => Frame w w'

theorem Outside.keeps {m : Vault α} (h : Outside m) (hH : HostOk P H)
    (hA : ∀ {w w'}, Frame w w' → A w → A w') : Keeps P H f A m := by
  obtain ⟨st, g, rfl, hg⟩ := h
  refine triple_statement (fun w h => hA (frame_fault w st) h) (fun _ h => h) ?_ hH
  intro w a db _ ha _ hdb
  exact ⟨.single (.frame (hg w a db hdb)), hA (hg w a db hdb) ha⟩

theorem Outside.frames {m : Vault α} (h : Outside m) : Frames m := by
  obtain ⟨st, g, rfl, hg⟩ := h
  exact fun w₀ w hin => body_statement hin fun a db hdb => hg w a db hdb

theorem Frames.bind {m : Vault α} {k : α → Vault β} (hm : Frames m) (hk : ∀ a, Frames (k a)) :
    Frames (m >>= k) := by
  intro w₀ w hin
  refine (hm w₀ w hin).seq fun a w' hin' hf => ?_
  refine Safe.mono (hk a w₀ w' hin') ?_
  exact fun t r w'' h => ⟨h.1, fun b hb => hf.trans (h.2 b hb)⟩

theorem frames_pure (a : α) : Frames (pure a : Vault α) :=
  fun _ w hin => body_pure hin (Frame.refl w)

theorem keeps_transaction (hA : ∀ {w w'}, Frame w w' → A w → A w') {m : Vault α}
    (hm : Frames m) : Keeps P H f A (withTransaction m) := by
  refine triple_transaction hA fun w _ ha => ?_
  refine Safe.mono (hm w w (Inside.refl w)) ?_
  exact fun t r w' h => ⟨h.1, fun a hr => ⟨.single (.frame (h.2 a hr)), hA (h.2 a hr) ha⟩⟩

theorem outside_update {st : Stmt} {g : Db → Db} (hg : ∀ w, Frame w (w.withDb (g w.db))) :
    Outside (update st g) := by
  refine ⟨st, _, rfl, ?_⟩
  rintro w a db ⟨⟩
  exact hg w

theorem writeAudit_outside {ts : ℤ} {telegramId : Option TelegramId} {event : AuditEvent}
    (he : ∀ n, event ≠ .bootstrap n) : Outside (writeAudit ts telegramId event) := by
  refine outside_update fun w => frame_audit w _ ?_
  cases event <;> simp_all [bootstrapOf]

theorem insertNavSnapshot_outside (row : NavSnapshotRow) : Outside (insertNavSnapshot row) :=
  outside_update fun w => frame_navSnapshots w _

theorem setFlag_outside (key value : String) : Outside (setFlag key value) :=
  outside_update fun w => frame_flags w _

theorem createUser_outside (args : NewUser) : Outside (createUser args) := by
  refine ⟨_, _, rfl, ?_⟩
  intro w a db h
  split at h
  · cases h
  · cases h
    rename_i hnew
    refine frame_newUser w _ fun hmem => hnew ?_
    obtain ⟨u, hu, hid⟩ := List.mem_map.mp hmem
    exact List.any_eq_true.mpr ⟨u, hu, by simp [hid]⟩

theorem setTotp_outside (telegramId : TelegramId) (secretEnc : EncryptedBlob) (enrolledAt : ℤ) :
    Outside (setTotp telegramId secretEnc enrolledAt) :=
  outside_update fun w => frame_updateUser w _ _ fun _ => rfl

theorem setTotpLastCounter_outside (telegramId : TelegramId) (counter : ℤ) :
    Outside (setTotpLastCounter telegramId counter) :=
  outside_update fun w => frame_updateUser w _ _ fun _ => rfl

theorem clearUserTotp_outside (telegramId : TelegramId) : Outside (clearUserTotp telegramId) := by
  refine ⟨_, _, rfl, ?_⟩
  intro w a db h
  split at h
  · cases h
    exact frame_updateUser w _ _ fun _ => rfl
  · cases h

theorem setWhitelistImmediate_outside (telegramId : TelegramId) (address : Address) (ts : ℤ) :
    Outside (setWhitelistImmediate telegramId address ts) :=
  outside_update fun w => frame_updateUser w _ _ fun _ => rfl

theorem enqueueWhitelistChange_outside (args : NewWhitelistChange) :
    Outside (enqueueWhitelistChange args) := by
  refine ⟨_, _, rfl, ?_⟩
  rintro w a db ⟨⟩
  exact frame_whitelistChanges w _

theorem markWhitelistActivated_outside (id : ℕ) : Outside (markWhitelistActivated id) :=
  outside_update fun w => frame_whitelistChanges w _

theorem cancelPendingWhitelist_outside (id : ℕ) (reason : String) :
    Outside (cancelPendingWhitelist id reason) :=
  outside_update fun w => frame_whitelistChanges w _

theorem createUser_body (hin : Inside w₀ w) (args : NewUser) {Q : Unit → World → Prop}
    (hq : ∀ row : UserRow, row.telegramId = args.telegramId →
      Q () (w.withDb { w.db with users := w.db.users ++ [row] })) :
    Body w₀ w (createUser args) Q := by
  refine body_statement hin fun _ db hdb => ?_
  split at hdb
  · cases hdb
  · cases hdb
    exact hq _ rfl

theorem addShares_body (hin : Inside w₀ w) (telegramId : TelegramId) (delta : ℚ)
    {Q : Unit → World → Prop}
    (hq : ∀ shares, sharesAfter telegramId delta w.db = .ok shares →
      Q () (w.withDb { w.db with shares })) :
    Body w₀ w (addShares telegramId delta) Q := by
  refine body_statement hin fun _ db hdb => ?_
  rcases hs : sharesAfter telegramId delta w.db with e | shares
  · rw [hs] at hdb
    cases hdb
  · rw [hs] at hdb
    cases hdb
    exact hq shares hs

theorem completeWithdrawal_body (hin : Inside w₀ w) (c : Completion) {row : WithdrawalRow}
    (hrow : getWithdrawalById c.id w.db = some row) {Q : Unit → World → Prop}
    (hq : ∀ shares, sharesAfter row.telegramId (-row.sharesBurned) w.db = .ok shares →
      Q () (w.withDb { updateWithdrawal c.id c.apply w.db with shares })) :
    Body w₀ w (completeWithdrawal c) Q := by
  refine body_transaction (Body.bind (body_readDb hin ?_))
  rw [hrow]
  exact Body.bind (body_update hin (addShares_body (hin.withDb _) _ _ hq))

theorem creditDeposit_body (hin : Inside w₀ w) (args : NewDeposit) {Q : ℕ → World → Prop}
    (hq : ∀ id shares, hasDeposit args.inboundTxSig w.db = false →
      sharesAfter args.telegramId args.sharesMinted w.db = .ok shares →
      Q id (w.withDb { w.db with shares, deposits := w.db.deposits ++ [args.row id] })) :
    Body w₀ w (creditDeposit args) Q := by
  refine body_transaction (Body.bind (body_statement hin fun id db hdb => ?_))
  split at hdb
  · cases hdb
  · cases hdb
    rename_i hnew
    refine Body.bind (addShares_body (hin.withDb _) _ _ fun shares hs => ?_)
    exact body_pure (hin.withDb _) (hq _ shares (by simpa using hnew) hs)

end StoreDiscipline
