import BertMMBot.JournalTriples

/-! # The store in the journal

Statements and calls that every fiber makes. Most of them change nothing that the journal
knows of; a credit is the exception, and it is one change. -/
namespace JournalStore

open AsyncProgram AsyncContract AsyncFibers AsyncRecords RecordedTriples KeyedTable
open VaultTypes VaultProgram Encryption DepositorStore ShareMath DepositPipeline OperatorCommands
open VaultJournal JournalMachine JournalTriples
open VaultDiscipline (Environment)
open LedgerMachine (Fiber)
open MeteoraPosition (Venue getPosition)
open VaultRuntime (BotConfig getMid getNav liveNav trackedPosition readPosition reply ensureAta)

variable {venue : Venue} {cfg : BotConfig} {env : Environment} {i : Fiber} {w w' : World}
  {h h' : Journal} {p q : JournalPoint} {u : TelegramId} {A : JournalPoint → Prop} {α : Type}

theorem now_passed (hA : Steady venue cfg env i A) : Passed venue cfg env i A now :=
  passed_choose (c := .clock) hA fun _ _ _ => trivial

theorem encryptSecret_passed (hA : Steady venue cfg env i A) (plaintext : Bytes) :
    Passed venue cfg env i A (encryptSecret plaintext) := by
  refine (passed_choose (c := .masterKey) hA fun _ _ _ => trivial).bind fun key => ?_
  refine keeps_ite keeps_throw ?_
  refine (passed_choose (c := .randomBytes ivBytes) hA fun _ _ _ => trivial).bind fun iv => ?_
  exact (passed_choose (c := .cipher key iv plaintext) hA fun _ _ _ => trivial).bind fun _ =>
    keeps_pure

theorem decryptSecret_passed (hA : Steady venue cfg env i A) (blob : EncryptedBlob) :
    Passed venue cfg env i A (decryptSecret blob) := by
  refine (passed_choose (c := .masterKey) hA fun _ _ _ => trivial).bind fun key => ?_
  refine keeps_ite keeps_throw (keeps_ite keeps_throw (keeps_ite keeps_throw ?_))
  exact (passed_choose (c := .decipher _ _ _ _) hA fun _ _ _ => trivial).bind fun _ =>
    passed_liftExcept

theorem fromSecretKey_passed (hA : Steady venue cfg env i A) (secretKey : Bytes) :
    Passed venue cfg env i A (fromSecretKey secretKey) :=
  (passed_choose (c := .fromSecretKey secretKey) hA fun _ _ _ => trivial).bind fun _ =>
    passed_liftExcept

theorem sweptRows_append {rows : List AuditRow} {row : AuditRow} (hrow : sweptRow row = none) :
    (rows ++ [row]).filterMap sweptRow = rows.filterMap sweptRow := by
  simp [List.filterMap_append, hrow]

theorem writeAudit_minor {event : AuditEvent} (hev : ∀ id ts v, sweptRow ⟨id, ts, v, event⟩ = none)
    (id : ℕ) (ts : ℤ) (v : Option TelegramId) :
    Minor w (w.withDb { w.db with auditLog := w.db.auditLog ++ [⟨id, ts, v, event⟩] }) :=
  ⟨⟨rfl, rfl, rfl, rfl, sweptRows_append (hev id ts v), rfl⟩, rfl, rfl⟩

theorem writeAudit_passed (hA : Steady venue cfg env i A) {event : AuditEvent}
    (hev : ∀ id ts v, sweptRow ⟨id, ts, v, event⟩ = none) (ts : ℤ) (v : Option TelegramId) :
    Passed venue cfg env i A (writeAudit ts v event) := by
  apply passed_update hA
  · intro h w o
    exact trivial
  · intro w
    exact writeAudit_minor hev _ _ _

theorem setFlag_passed (hA : Steady venue cfg env i A) (key value : String) :
    Passed venue cfg env i A (setFlag key value) := by
  apply passed_update hA
  · intro h w o
    exact trivial
  · intro w
    exact ⟨⟨rfl, rfl, rfl, rfl, rfl, rfl⟩, rfl, rfl⟩

theorem updateUser_minor {f : UserRow → UserRow} (hf : ∀ r, account (f r) = account r) :
    Minor w (w.withDb (updateUser u f w.db)) := by
  refine ⟨⟨?_, rfl, rfl, rfl, rfl, rfl⟩, rfl, rfl⟩
  have hamend := accounts_updateUser (u := u) (g := id) hf w.db
  rw [World.withDb_db, hamend, amend]
  simp

theorem setTotpLastCounter_passed (hA : Steady venue cfg env i A) (counter : ℤ) :
    Passed venue cfg env i A (setTotpLastCounter u counter) := by
  apply passed_update hA
  · intro h w o
    exact trivial
  · intro w
    exact updateUser_minor fun _ => rfl

/-- A notice that needs no authority and is no confirmation prompt. -/
def Casual : Notice → Prop
  | .depositAddress _ => False
  | .balance _ _ _ => False
  | .totpReset _ => False
  | .whitelistCancelled => False
  | .nothingToCancel => False
  | .amountExceedsBalance _ => False
  | .withdrawPrompt _ _ => False
  | .withdrawEntryPrompt _ _ => False
  | _ => True

theorem casual_guarded {notice : Notice} (hn : Casual notice) (chatId : ℤ) :
    Guarded venue cfg h (.call i (Query.reply chatId notice) w) ∧
      Plain (.call i (Query.reply chatId notice) w) := by
  cases notice with
  | depositAddress => exact hn.elim
  | balance => exact hn.elim
  | totpReset => exact hn.elim
  | whitelistCancelled => exact hn.elim
  | nothingToCancel => exact hn.elim
  | amountExceedsBalance => exact hn.elim
  | withdrawPrompt => exact hn.elim
  | withdrawEntryPrompt => exact hn.elim
  | _ => cases i <;> exact ⟨trivial, trivial⟩

theorem answer_guarded (chatId : ℤ) (notice : Notice) (a : Except Thrown Unit) :
    Guarded venue cfg h (.answer i (Query.reply chatId notice) a w) ∧
      Plain (.answer i (Query.reply chatId notice) a w) := by
  cases i <;> exact ⟨trivial, trivial⟩

theorem reply_passed (hA : Steady venue cfg env i A) {notice : Notice} (hn : Casual notice)
    (chatId : ℤ) : Passed venue cfg env i A (reply chatId notice) := by
  apply passed_call hA
  · intro h w
    exact casual_guarded hn chatId
  · intro h a w
    exact answer_guarded chatId notice a

theorem obeys_reply {notice : Notice} (hn : Casual notice) (chatId : ℤ) :
    Obeys venue cfg env i A (reply chatId notice) :=
  obeys_of (reply_passed steady_true hn chatId)

theorem ensureAta_passed (hA : Steady venue cfg env i A) (address : Address) :
    Passed venue cfg env i A (ensureAta address) := by
  apply passed_call hA
  · intro h w
    cases i <;> exact ⟨trivial, trivial⟩
  · intro h a w
    cases i <;> exact ⟨trivial, trivial⟩

theorem getMid_passed (hA : Steady venue cfg env i A) : Passed venue cfg env i A getMid :=
  (passed_choose (c := .consult) hA fun _ _ _ => trivial).bind fun _ => keeps_read

theorem getPosition_passed (hA : Steady venue cfg env i A) (nftMint : String) (solUsd : ℚ) :
    Passed venue cfg env i A (getPosition venue nftMint solUsd) := by
  refine Keeps.bind ?_ fun _ => keeps_pure
  apply passed_call hA
  · intro h w
    cases i <;> exact ⟨trivial, trivial⟩
  · intro h a w
    cases i <;> exact ⟨trivial, trivial⟩

theorem getWalletBalances_passed (hA : Steady venue cfg env i A) :
    Passed venue cfg env i A (Async.call (I := vaultInterface) Query.getWalletBalances) := by
  apply passed_call hA
  · intro h w
    cases i <;> exact ⟨trivial, trivial⟩
  · intro h a w
    cases i <;> exact ⟨trivial, trivial⟩

theorem trackedPosition_passed (hA : Steady venue cfg env i A) (stored : Option StoredPosition)
    (solUsd : ℚ) : Passed venue cfg env i A (trackedPosition venue stored solUsd) := by
  cases stored with
  | none => exact keeps_pure
  | some p =>
    apply Keeps.tryCatch
    · exact (getPosition_passed hA p.nftMint solUsd).bind fun _ => keeps_pure
    · intro e
      exact keeps_pure

theorem getNav_passed (hA : Steady venue cfg env i A) (minSolFloorLamports : ℕ) :
    Passed venue cfg env i A (getNav venue minSolFloorLamports) := by
  refine Keeps.tryCatch (keeps_read.bind ?_) fun _ => keeps_read
  rintro (_ | last)
  · exact keeps_read
  · refine (getWalletBalances_passed hA).bind fun bal => passed_nonNull.bind fun bal => ?_
    refine keeps_read.bind fun stored => (trackedPosition_passed hA stored last.solUsd).bind ?_
    exact fun pos => keeps_read.bind fun total => keeps_pure

theorem sweeps_suffix {h h' : Journal} (hs : h <:+ h') {s : Sweep} (hmem : s ∈ sweeps h) :
    s ∈ sweeps h' := by
  obtain ⟨newer, rfl⟩ := hs
  induction newer with
  | nil => exact hmem
  | cons e newer ih => exact List.mem_append_right _ ih

theorem insertDeposit_ok {args : NewDeposit} {db db' : Db} {id : ℕ}
    (hf : (if hasDeposit args.inboundTxSig db then .error (sqliteError "UNIQUE")
      else .ok (nextId (db.deposits.map DepositRow.id), { db with deposits := db.deposits ++
        [args.row (nextId (db.deposits.map DepositRow.id))] }) : Except Thrown (ℕ × Db)) =
        .ok (id, db')) :
    hasDeposit args.inboundTxSig db = false ∧
      db' = { db with deposits := db.deposits ++ [args.row id] } := by
  by_cases hhas : hasDeposit args.inboundTxSig db
  · rw [if_pos hhas] at hf
    cases hf
  · rw [if_neg hhas] at hf
    cases hf
    exact ⟨by simpa using hhas, rfl⟩

theorem addShares_ok {v : TelegramId} {delta : ℚ} {db db' : Db}
    (hf : (sharesAfter v delta db).map (fun shares => ((), { db with shares })) = .ok ((), db')) :
    ∃ shares, db' = { db with shares } := by
  rcases hs : sharesAfter v delta db with e | shares
  · rw [hs] at hf
    cases hf
  · rw [hs] at hf
    cases hf
    exact ⟨shares, rfl⟩

theorem creditTransaction_passed (hA : Steady venue cfg env i A) {params : CreditParams}
    {sharesMinted : ℚ} (hkeep : ∀ w h d, A (w, h) → A ((Change.addDeposit d).apply w, h))
    (htraced : ∀ p, A p → Traced params.inboundTxSig i p.2)
    (hbacked : ∀ p id, A p → Backed ((params.deposit sharesMinted).row id) i p.1 p.2) :
    Passed venue cfg env i A (creditTransaction params sharesMinted) := by
  apply followed_transaction fun _ ha => ha
  intro t w h _ _ hshown
  apply within_bind
  apply within_transaction
  apply within_bind
  refine within_statement hA hshown (fun _ => htraced _ hshown.holds) ?_
  intro id db hdb hshown
  obtain ⟨hnone, rfl⟩ := insertDeposit_ok hdb
  apply within_bind
  refine within_statement hA hshown (fun _ => trivial) ?_
  intro _ db hdb hshown
  obtain ⟨shares, rfl⟩ := addShares_ok hdb
  apply within_bind
  apply within_readDb
  apply within_bind
  refine within_statement hA hshown (fun _ => trivial) ?_
  intro _ db hdb hshown
  cases hdb
  refine within_statement hA hshown (fun _ => trivial) ?_
  intro _ db hdb hshown
  have hpermitted : Permitted venue cfg i w _
      (.addDeposit ((params.deposit sharesMinted).row id)) :=
    ⟨hnone, hbacked _ id hshown.holds, _, List.mem_cons_of_mem _ (List.mem_cons_of_mem _
      (List.mem_cons_of_mem _ (List.mem_cons_self ..)))⟩
  let w₁ := (Change.addDeposit ((params.deposit sharesMinted).row id)).apply w
  have hminor : Minor w₁ (w.withDb db) := by
    cases hdb
    exact ⟨⟨rfl, rfl, rfl, rfl, sweptRows_append rfl, rfl⟩, rfl, rfl⟩
  refine ⟨(hshown.kept.more (changed _ hpermitted)).more (minored hminor), ?_⟩
  exact hA.alike hminor.toAlike (hkeep _ _ _ hshown.holds)

theorem credit_passed (hA : Steady venue cfg env i A) {params : CreditParams}
    (hkeep : ∀ w h d, A (w, h) → A ((Change.addDeposit d).apply w, h))
    (htraced : ∀ p, A p → Traced params.inboundTxSig i p.2)
    (hbacked : ∀ p id sharesMinted, A p →
      Backed ((params.deposit sharesMinted).row id) i p.1 p.2) :
    Passed venue cfg env i A (credit params) := by
  apply Triple.bind passed_liftExcept
  intro sharesMinted
  exact creditTransaction_passed hA hkeep htraced fun p id => hbacked p id sharesMinted

end JournalStore
