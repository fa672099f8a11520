import BertMMBot.StoreDiscipline

/-! # The executor refines the ledger machine

The drain owns the row it works on: no one else touches a row in processing, and the rows
still to come stay queued. Each stage moves its row one phase on; whatever throws leaves a
row that the catch of the drain may fail, or one whose signature is recorded. -/
namespace ExecutorRefinement

open AsyncProgram AsyncContract VaultTypes VaultProgram DepositorStore LedgerMachine
open VaultDiscipline
open WithdrawalExecutor StoreDiscipline KeyedTable

structure Rest (ids : List ℕ) (w : World) : Prop where
  nodup : ids.Nodup
  queued : ∀ id ∈ ids, ∃ row, getWithdrawalById id w.db = some row ∧ row.status = .queued

structure Own (ids : List ℕ) (row : WithdrawalRow) (ph : Phase) (w : World) : Prop where
  unsent : Unsent row w
  phase : phase row.id w.trace = ph
  rest : Rest ids w
  fresh : row.id ∉ ids

/-- The row at work after something was thrown, if its signature is not recorded. -/
structure Failable (ids : List ℕ) (id : ℕ) (w : World) : Prop where
  row : ∃ row, getWithdrawalById id w.db = some row ∧ row.txSig = none ∧
    (row.status = .processing ∨ row.status = .failed)
  phase : phase id w.trace ≠ .idle
  lost : ∀ txSig, LedgerMachine.phase id w.trace = .paid txSig → SyncAuditLost id w
  rest : Rest ids w
  fresh : id ∉ ids

structure Sent (ids : List ℕ) (row : WithdrawalRow) (txSig : Signature) (w : World) : Prop where
  status : row.status = .processing
  stored : getWithdrawalById row.id w.db = some { row with txSig := some txSig }
  phase : phase row.id w.trace = .paid txSig
  rest : Rest ids w
  fresh : row.id ∉ ids

def Recorded (ids : List ℕ) (id : ℕ) (w : World) : Prop :=
  (∃ row, getWithdrawalById id w.db = some row ∧ row.txSig.isSome) ∧ Rest ids w

def Caught (ids : List ℕ) (id : ℕ) (w : World) : Prop :=
  Failable ids id w ∨ Recorded ids id w

variable {ids : List ℕ} {row : WithdrawalRow} {ph : Phase} {w w' : World}

theorem byId_of_frame (h : Frame w w') (id : ℕ) :
    getWithdrawalById id w'.db = getWithdrawalById id w.db := by
  unfold getWithdrawalById
  rw [h.withdrawals]

theorem rest_mono (hrow : ∀ id row, getWithdrawalById id w.db = some row →
    row.status ≠ .failed → getWithdrawalById id w'.db = some row) (h : Rest ids w) :
    Rest ids w' := by
  refine ⟨h.nodup, fun id hid => ?_⟩
  obtain ⟨r, hr, hs⟩ := h.queued id hid
  exact ⟨r, hrow id r hr (by simp [hs]), hs⟩

theorem rest_steady (ids : List ℕ) : Steady .main (Rest ids) where
  frame := fun h hw => rest_mono (Frame.mainRely h).row hw
  rely := fun h hw => rest_mono (MainRely.row h) hw

theorem own_mainRely (h : MainRely w w') (ho : Own ids row ph w) : Own ids row ph w' where
  unsent := ⟨h.row _ _ ho.unsent.1 (by simp [ho.unsent.2.1]), ho.unsent.2⟩
  phase := (h.phase row.id).trans ho.phase
  rest := rest_mono h.row ho.rest
  fresh := ho.fresh

theorem own_steady (ids : List ℕ) (row : WithdrawalRow) (ph : Phase) :
    Steady .main (Own ids row ph) where
  frame := fun h hw => own_mainRely (Frame.mainRely h) hw
  rely := own_mainRely

theorem sent_frame {txSig : Signature} (h : Frame w w') (hs : Sent ids row txSig w) :
    Sent ids row txSig w' where
  status := hs.status
  stored := (byId_of_frame h _).trans hs.stored
  phase := by rw [h.trace]; exact hs.phase
  rest := (rest_steady ids).frame h hs.rest
  fresh := hs.fresh

theorem syncAuditLost_frame {id : ℕ} (h : Frame w w') (hl : SyncAuditLost id w) :
    SyncAuditLost id w' := by
  obtain ⟨txSig, error, hmem⟩ := hl
  exact ⟨txSig, error, h.faults.subset hmem⟩

theorem failable_frame {id : ℕ} (h : Frame w w') (hf : Failable ids id w) : Failable ids id w' where
  row := by rw [byId_of_frame h]; exact hf.row
  phase := by rw [h.trace]; exact hf.phase
  lost := by rw [h.trace]; exact fun txSig hp => syncAuditLost_frame h (hf.lost txSig hp)
  rest := (rest_steady ids).frame h hf.rest
  fresh := hf.fresh

theorem recorded_frame {id : ℕ} (h : Frame w w') (hr : Recorded ids id w) : Recorded ids id w' :=
  ⟨by rw [byId_of_frame h]; exact hr.1, (rest_steady ids).frame h hr.2⟩

theorem caught_frame {id : ℕ} (h : Frame w w') (hc : Caught ids id w) : Caught ids id w' :=
  hc.imp (failable_frame h) (recorded_frame h)

theorem Own.failable (ho : Own ids row ph w) (hidle : ph ≠ .idle) (hpaid : ∀ txSig, ph ≠ .paid txSig) :
    Failable ids row.id w where
  row := ⟨row, ho.unsent.1, ho.unsent.2.2, .inl ho.unsent.2.1⟩
  phase := by rw [ho.phase]; exact hidle
  lost := by rw [ho.phase]; exact fun txSig h => absurd h (hpaid txSig)
  rest := ho.rest
  fresh := ho.fresh

theorem Own.caught_taken (ho : Own ids row .taken w) : Caught ids row.id w :=
  .inl (ho.failable nofun nofun)

theorem Sent.caught {txSig : Signature} (h : Sent ids row txSig w) : Caught ids row.id w :=
  .inr ⟨⟨_, h.stored, rfl⟩, h.rest⟩

theorem rest_update {id : ℕ} {g : WithdrawalRow → WithdrawalRow} (shares : List ShareRow)
    (hg : ∀ r, (g r).id = r.id) (h : Rest ids w) (hid : id ∉ ids) :
    Rest ids (w.withDb { updateWithdrawal id g w.db with shares }) := by
  refine ⟨h.nodup, fun x hx => ?_⟩
  obtain ⟨r, hr, hs⟩ := h.queued x hx
  have hne : x ≠ id := by
    rintro rfl
    exact hid hx
  exact ⟨r, (updated_other hg hne).trans hr, hs⟩

theorem rest_record {e : TraceEvent} (h : Rest ids w) : Rest ids (w.record e) := ⟨h.nodup, h.queued⟩

variable {P : Policy} {H : VaultHost}

theorem failWithdrawal_triple (hH : HostOk P H) {id : ℕ} {reason : String} {processedAt : ℤ} :
    Triple P H .main (Failable ids id) (failWithdrawal id reason processedAt)
      (fun _ w => Failable ids id w) (Failable ids id) := by
  refine triple_update (fun w h => failable_frame (frame_fault w _) h) ?_ hH
  intro w _ hf hallow
  obtain ⟨r, hr, hsig, hst⟩ := hf.row
  obtain rfl : r.id = id := (lookup_some hr).2
  have hupd := updated_self (g := failed reason processedAt) (fun _ => rfl) hr
  refine ⟨.single (.fail r reason processedAt hr hsig hst hf.phase hf.lost hallow), ?_⟩
  exact ⟨⟨_, hupd, hsig, .inr rfl⟩, hf.phase, fun txSig hp => hf.lost txSig hp,
    rest_update _ (fun _ => rfl) hf.rest hf.fresh, hf.fresh⟩

/-- What the executor needs of its dependencies: they keep whatever is steady, and a mid is
only handed out when the oracle may be used. -/
structure ExecutorSafe (P : Policy) (H : VaultHost) (deps : ExecutorDeps) : Prop where
  getMid : ∀ A, Steady .main A → Triple P H .main A deps.getMid (Consulted P A) A
  getWalletBalances : ∀ A, Steady .main A → Keeps P H .main A deps.getWalletBalances
  getPositionSnapshot : ∀ A, Steady .main A → Keeps P H .main A deps.getPositionSnapshot
  partialClose : ∀ A, Steady .main A → ∀ sol bert,
    Keeps P H .main A (deps.partialClose sol bert)
  executeTransfer : ∀ A, Steady .main A → ∀ destination sol bert,
    Keeps P H .main A (deps.executeTransfer destination sol bert)

variable {deps : ExecutorDeps}

theorem secureReserves_keeps (hd : ExecutorSafe P H deps) {A : World → Prop}
    (hA : Steady .main A) (bal : Balances) (p : Payout) :
    Keeps P H .main A (secureReserves deps bal p) := by
  unfold secureReserves closeShort
  refine keeps_ite keeps_pure (Keeps.bind (keeps_ite (hd.partialClose A hA _ _) keeps_pure) ?_)
  intro _
  refine (hd.getWalletBalances A hA).bind fun bal2 => ?_
  exact keeps_nonNull.bind fun _ => keeps_pure

theorem payOut_triple (hd : ExecutorSafe P H deps) (p : Payout) :
    Triple P H .main (fun w => Own ids row .taken w ∧ P.ready w.memory) (payOut deps row p)
      (fun txSig => Own ids row (.paid txSig)) (Own ids row .issued) := by
  have hissue : Triple P H .main (fun w => Own ids row .taken w ∧ P.ready w.memory)
      (record (.transfer row.id row.destination p.needSol p.needBert))
      (fun _ => Own ids row .issued) (Own ids row .issued) := by
    refine triple_record fun w _ h => ⟨.transfer row _ _ h.1.unsent h.1.phase h.2, ?_⟩
    exact ⟨h.1.unsent, by simp [phase], rest_record h.1.rest, h.1.fresh⟩
  have hpay : ∀ txSig, Triple P H .main (Own ids row .issued)
      (record (.transferred row.id txSig)) (fun _ => Own ids row (.paid txSig))
      (Own ids row .issued) := by
    intro txSig
    refine triple_record fun w _ h => ⟨.transferred row txSig h.unsent h.phase, ?_⟩
    exact ⟨h.unsent, by simp [phase], rest_record h.rest, h.fresh⟩
  have hown := own_steady ids row .issued
  unfold payOut
  refine hissue.bind fun _ => ?_
  refine Triple.bind (hd.executeTransfer _ hown _ _ _) fun r => ?_
  refine Triple.bind keeps_nonNull fun txSig => ?_
  exact (hpay txSig).bind fun _ => triple_pure fun _ h => h

theorem executeTransfer_triple (hH : HostOk P H) (hd : ExecutorSafe P H deps) (ts : ℤ)
    (p : Payout) :
    Triple P H .main (fun w => Own ids row .taken w ∧ P.ready w.memory)
      (executeTransfer deps ts row p)
      (fun r w => match r with
        | none => Rest ids w
        | some txSig => Own ids row (.paid txSig) w)
      (Caught ids row.id) := by
  have hfail : ∀ reason, Triple P H .main (Own ids row .issued)
      (failWithdrawal row.id reason ts) (fun _ => Failable ids row.id) (Caught ids row.id) :=
    fun reason => (failWithdrawal_triple hH).mono (fun _ h => h.failable nofun nofun)
      (fun _ _ h => h) fun _ h => .inl h
  have haudit : ∀ reason, Triple P H .main (Failable ids row.id)
      (writeAudit ts (some row.telegramId) (.withdrawalFailed row.id reason))
      (fun _ => Failable ids row.id) (Caught ids row.id) :=
    fun reason => ((writeAudit_outside (by simp)).keeps hH failable_frame).mono (fun _ h => h)
      (fun _ _ h => h) fun _ h => .inl h
  refine Triple.tryCatch ((payOut_triple hd p).bind fun txSig => triple_pure fun _ h => h) ?_
  intro e
  refine (hfail _).bind fun _ => (haudit _).bind fun _ => ?_
  exact triple_pure fun w h => h.rest

/-- The signature is recorded, or only an audit row tells that the row is paid; if that
audit write throws too, the drain's catch will take the row for unpaid. -/
theorem recordSent_triple (hH : HostOk P H) (ts : ℤ) (txSig : Signature) :
    Triple P H .main (Own ids row (.paid txSig)) (recordSent ts row txSig)
      (fun sent w => if sent then Sent ids row txSig w else Rest ids w) (Caught ids row.id) := by
  have hmark : Triple P H .main (Own ids row (.paid txSig)) (markWithdrawalSent row.id txSig)
      (fun _ => Sent ids row txSig) (Own ids row (.paid txSig)) := by
    refine triple_statement (fun w h => (own_steady ids row _).frame (frame_fault w _) h)
      (fun _ h => h) ?_ hH
    intro w a db _ ho _ hg
    split at hg
    · cases hg
      refine ⟨.single (.send row txSig ho.unsent ho.phase), ?_⟩
      have hupd := updated_self (g := recordTxSig txSig) (recordTxSig_id txSig) ho.unsent.1
      refine ⟨ho.unsent.2.1, ?_, ho.phase,
        rest_update _ (recordTxSig_id txSig) ho.rest ho.fresh, ho.fresh⟩
      simpa [recordTxSig, ho.unsent.2.2] using hupd
    · cases hg
  have haudit : ∀ error, Triple P H .main (Own ids row (.paid txSig))
      (writeAudit ts (some row.telegramId)
        (.withdrawalDbSyncFailed row.id txSig error .markWithdrawalSent))
      (fun _ => Rest ids) (Caught ids row.id) := by
    intro error
    refine triple_update (fun w h => ?_) (fun w _ h _ => ?_) hH
    · refine .inl ⟨⟨row, h.unsent.1, h.unsent.2.2, .inl h.unsent.2.1⟩, ?_, ?_,
        (rest_steady ids).frame (frame_fault w _) h.rest, h.fresh⟩
      · simp [h.phase]
      · exact fun _ _ => ⟨txSig, error, List.mem_cons_self ..⟩
    · have hframe := frame_audit w ⟨nextId (w.db.auditLog.map AuditRow.id), ts,
        some row.telegramId, .withdrawalDbSyncFailed row.id txSig error .markWithdrawalSent⟩ rfl
      exact ⟨.single (.frame hframe), (rest_steady ids).frame hframe h.rest⟩
  unfold recordSent
  refine Triple.tryCatch (hmark.bind fun _ => triple_pure fun _ h => h) fun e => ?_
  exact (haudit _).bind fun _ => triple_pure fun _ h => h

theorem completion_triple (ts : ℤ) (p : Payout) (txSig : Signature) :
    Triple P H .main (Sent ids row txSig) (completion ts row p txSig) (fun _ => Rest ids)
      (Caught ids row.id) := by
  refine Triple.bind (B := fun _ => Sent ids row txSig) (triple_read fun _ _ h => h) ?_
  intro before
  refine triple_transaction (fun hf h => (sent_frame hf h).caught) fun w _ h => ?_
  have hin := Inside.refl w
  refine Body.bind (completeWithdrawal_body hin _ h.stored fun shares hshares => ?_)
  refine Body.bind (body_readDb (hin.withDb _) ?_)
  refine Safe.mono (((insertNavSnapshot_outside _).frames.bind fun _ =>
    (writeAudit_outside (by simp)).frames) w _ (hin.withDb _)) ?_
  intro _ r w' hlast
  refine ⟨hlast.1, fun a ha => ?_⟩
  have hmove := Move.complete (P := P) { row with txSig := some txSig }
    ⟨row.id, txSig, p.needSol, p.needBert, p.navPerShare, ts⟩ shares h.stored h.status rfl rfl
    h.phase hshares
  have hrest := rest_update (g := Completion.apply ⟨row.id, txSig, p.needSol, p.needBert,
    p.navPerShare, ts⟩) shares (fun _ => rfl) h.rest h.fresh
  have hframe := hlast.2 a ha
  exact ⟨.tail (.single hmove) (.frame hframe), (rest_steady ids).frame hframe hrest⟩

theorem completeRow_triple (hH : HostOk P H) (ts : ℤ) (p : Payout) (txSig : Signature) :
    Triple P H .main (Sent ids row txSig) (completeRow ts row p txSig) (fun _ => Rest ids)
      (Caught ids row.id) := by
  refine Triple.tryCatch (completion_triple ts p txSig) fun e => ?_
  refine Triple.bind ((writeAudit_outside (by simp)).keeps hH caught_frame) fun _ => ?_
  exact triple_throw fun _ h => h

theorem settle_triple (hH : HostOk P H) (hd : ExecutorSafe P H deps) (ts : ℤ) (p : Payout) :
    Triple P H .main (fun w => Own ids row .taken w ∧ P.ready w.memory)
      (settle deps ts row p) (fun _ => Rest ids) (Caught ids row.id) := by
  unfold settle
  refine (executeTransfer_triple hH hd ts p).bind ?_
  rintro (_ | txSig)
  · exact triple_pure fun _ h => h
  · refine (recordSent_triple hH ts txSig).bind ?_
    rintro (_ | _)
    · exact triple_pure fun _ h => by simpa using h
    · exact (completeRow_triple hH ts p txSig).mono (fun _ h => by simpa using h)
        (fun _ _ h => h) fun _ h => h

theorem giveUp_triple (hH : HostOk P H) {A : World → Prop}
    (hA : ∀ w, A w → Own ids row .taken w) (reason : String) (ts : ℤ) :
    Triple P H .main A (failWithdrawal row.id reason ts) (fun _ => Rest ids)
      (Caught ids row.id) :=
  (failWithdrawal_triple hH).mono (fun w h => (hA w h).failable nofun nofun)
    (fun _ _ h => h.rest) fun _ h => .inl h

theorem processRow_triple (hH : HostOk P H) (hd : ExecutorSafe P H deps) (ts : ℤ) (mid : Mid) :
    Triple P H .main (fun w => Own ids row .taken w ∧ P.ready w.memory)
      (processRow deps ts mid row) (fun _ => Rest ids) (Caught ids row.id) := by
  have hA := (own_steady ids row .taken).and (steady_ready P)
  have hE : ∀ w, Own ids row .taken w ∧ P.ready w.memory → Caught ids row.id w :=
    fun w h => h.1.caught_taken
  unfold processRow
  refine Triple.bind ((hd.getWalletBalances _ hA).mono (fun _ h => h) (fun _ _ h => h) hE) ?_
  intro bal
  refine Triple.bind ((hd.getPositionSnapshot _ hA).mono (fun _ h => h) (fun _ _ h => h) hE) ?_
  intro pos
  refine Triple.bind (keeps_nonNull.mono (fun _ h => h) (fun _ _ h => h) hE) fun bal => ?_
  refine Triple.bind (keeps_nonNull.mono (fun _ h => h) (fun _ _ h => h) hE) fun pos => ?_
  refine Triple.bind (keeps_read.mono (fun _ h => h) (fun _ _ h => h) hE) fun total => ?_
  refine Triple.bind (keeps_liftExcept.mono (fun _ h => h) (fun _ _ h => h) hE) fun p => ?_
  refine Triple.bind ((secureReserves_keeps hd hA bal p).mono (fun _ h => h) (fun _ _ h => h) hE) ?_
  intro covered
  exact triple_ite (fun _ => settle_triple hH hd ts p)
    fun _ => giveUp_triple hH (fun _ h => h.1) _ ts

theorem processing_find {row : WithdrawalRow} {db : Db}
    (hkeyed : Keyed WithdrawalRow.id db.withdrawals)
    (hrow : getWithdrawalById row.id db = some row) (hs : row.status = .processing) :
    (listWithdrawalsByStatus .processing db).find? (fun r => r.id = row.id) = some row := by
  have hmem : row ∈ listWithdrawalsByStatus .processing db :=
    List.mem_filter.mpr ⟨(lookup_some hrow).1, by simp [hs]⟩
  rcases hf : (listWithdrawalsByStatus .processing db).find? (fun r => r.id = row.id) with _ | r
  · have := List.find?_eq_none.mp hf row hmem
    simp at this
  · have hid : r.id = row.id := by simpa using List.find?_some hf
    have hr : r ∈ db.withdrawals := List.mem_of_mem_filter (List.mem_of_find?_eq_some hf)
    rw [hf, keyed_unique hkeyed hr (lookup_some hrow).1 hid]

theorem processOne_triple (hH : HostOk P H) (hd : ExecutorSafe P H deps) :
    Triple P H .main (Own ids row .taken) (processOne deps row.id) (fun _ => Rest ids)
      (Caught ids row.id) := by
  have hE : ∀ w, Own ids row .taken w → Caught ids row.id w := fun w h => h.caught_taken
  unfold processOne
  refine Triple.bind (keeps_choose.mono (fun _ h => h) (fun _ _ h => h) hE) fun ts => ?_
  refine Triple.bind ((hd.getMid _ (own_steady ids row .taken)).mono (fun _ h => h)
    (fun _ _ h => h) hE) ?_
  rintro (_ | mid)
  · exact giveUp_triple hH (fun _ h => h) _ ts
  · have hfind : Triple P H .main (Consulted P (Own ids row .taken) (some mid))
        (readDb fun db => (listWithdrawalsByStatus .processing db).find? fun r => r.id = row.id)
        (fun r w => r = some row ∧ Own ids row .taken w ∧ P.ready w.memory)
        (Caught ids row.id) := by
      refine triple_read fun w hl ⟨_, hready, hown⟩ => ?_
      exact ⟨processing_find hl.keyed hown.unsent.1 hown.unsent.2.1, hown, hready⟩
    refine hfind.bind ?_
    rintro (_ | r)
    · exact triple_pure fun _ h => by simp at h
    · refine triple_of_fact fun hr => ?_
      cases hr
      exact processRow_triple hH hd ts mid

theorem failUnlessSent_triple (hH : HostOk P H) {id : ℕ} (e : Thrown) :
    Triple P H .main (Caught ids id) (failUnlessSent id e) (fun _ => Rest ids)
      (fun _ => True) := by
  have hread : Triple P H .main (Caught ids id) (readDb (getWithdrawalById id))
      (fun r w => (r.bind WithdrawalRow.txSig).elim (Failable ids id w) fun _ => Rest ids w)
      (fun _ => True) := by
    refine triple_read fun w _ h => ?_
    rcases h with h | ⟨⟨row, hrow, hsig⟩, hrest⟩
    · obtain ⟨row, hrow, hsig, -⟩ := h.row
      simpa [hrow, hsig] using h
    · obtain ⟨txSig, hsig⟩ := Option.isSome_iff_exists.mp hsig
      simpa [hrow, hsig] using hrest
  unfold failUnlessSent
  refine hread.bind fun r => ?_
  rcases r.bind WithdrawalRow.txSig with _ | txSig
  · refine Triple.bind (B := fun _ => Failable ids id) (triple_choose fun _ _ _ h => h) fun ts => ?_
    exact (failWithdrawal_triple hH).mono (fun _ h => h) (fun _ _ h => h.rest) fun _ _ => trivial
  · exact triple_pure fun _ h => h

theorem take_triple (id : ℕ) :
    Triple P H .main (Rest (id :: ids)) (record (.take id))
      (fun _ w => Rest (id :: ids) w ∧ phase id w.trace = .taken) (fun _ => True) := by
  refine triple_record fun w _ h => ?_
  obtain ⟨row, hrow, hs⟩ := h.queued id (List.mem_cons_self ..)
  obtain rfl : row.id = id := (lookup_some hrow).2
  exact ⟨.take row hrow hs, rest_record h, by simp [phase]⟩

theorem setWithdrawalProcessing_triple (hH : HostOk P H) (id : ℕ) :
    Triple P H .main (fun w => Rest (id :: ids) w ∧ phase id w.trace = .taken)
      (setWithdrawalProcessing id) (fun _ w => ∃ row : WithdrawalRow, row.id = id ∧
        Own ids row .taken w) (fun _ => True) := by
  refine triple_update (fun _ _ => trivial) (fun w hl h _ => ?_) hH
  obtain ⟨hrest, hphase⟩ := h
  obtain ⟨row, hrow, hs⟩ := hrest.queued id (List.mem_cons_self ..)
  obtain rfl : row.id = id := (lookup_some hrow).2
  obtain ⟨hfresh, hnodup⟩ := List.nodup_cons.mp hrest.nodup
  have htail : Rest ids w := ⟨hnodup, fun x hx => hrest.queued x (List.mem_cons_of_mem _ hx)⟩
  have hupd := updated_self startProcessing_id hrow
  have hst : startProcessing row = { row with status := .processing } := if_pos hs
  rw [hst] at hupd
  refine ⟨.single (.process row hrow hs hphase), { row with status := .processing }, rfl, ?_⟩
  exact ⟨⟨hupd, rfl, (hl.wellFormed hrow).1 (.inl hs)⟩, hphase,
    rest_update _ startProcessing_id htail hfresh, hfresh⟩

theorem drainRow_triple (hH : HostOk P H) (hd : ExecutorSafe P H deps) (id : ℕ) :
    Triple P H .main (Rest (id :: ids)) (drainRow deps id) (fun _ => Rest ids)
      (fun _ => True) := by
  unfold drainRow
  refine (take_triple id).bind fun _ => (setWithdrawalProcessing_triple hH id).bind fun _ => ?_
  have hprocess : Triple P H .main (fun w => ∃ row, row.id = id ∧ Own ids row .taken w)
      (processOne deps id) (fun _ => Rest ids) (Caught ids id) := by
    refine ⟨?_⟩
    rintro t w hk ⟨row, rfl, hrow⟩
    exact (processOne_triple hH hd).safe t w hk hrow
  exact hprocess.tryCatch (failUnlessSent_triple hH)

theorem drain_keeps (hH : HostOk P H) (hd : ExecutorSafe P H deps) :
    Keeps P H .main (fun _ => True) (drain deps) := by
  have hlist : Triple P H .main (fun _ => True) (readDb (listWithdrawalsByStatus .queued))
      (fun rows => Rest (rows.map WithdrawalRow.id)) (fun _ => True) := by
    refine triple_read fun w hl _ => ⟨?_, ?_⟩
    · exact hl.keyed.sublist (List.filter_sublist.map _)
    · intro id hid
      obtain ⟨row, hrow, rfl⟩ := List.mem_map.mp hid
      obtain ⟨hmem, hs⟩ := List.mem_filter.mp hrow
      exact ⟨row, lookup_of_mem hl.keyed hmem, by simpa using hs⟩
  refine Triple.bind hlist fun rows => ?_
  exact (triple_forEach (fun id ids => drainRow_triple hH hd id) _).mono (fun _ h => h)
    (fun _ _ _ => trivial) fun _ h => h

end ExecutorRefinement
