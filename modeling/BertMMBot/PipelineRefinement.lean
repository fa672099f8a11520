import BertMMBot.StoreDiscipline

/-! # The deposit pipeline refines the ledger machine

A deposit is swept and credited only under a mid that the oracle may give, and the credit of
a signature is one move. -/
namespace PipelineRefinement

open AsyncProgram AsyncContract VaultTypes VaultProgram Encryption DepositorStore LedgerMachine
open VaultDiscipline StoreDiscipline DepositPipeline ShareMath

variable {P : Policy} {H : VaultHost} {f : Fiber} {A : World → Prop} {w w' : World}

theorem credited_of_shares {p : CreditParams} {sharesMinted : ℚ}
    (h : computeSharesForDeposit p.depositUsd p.navPerShareAtDeposit = .ok sharesMinted) (id : ℕ) :
    Credited p.mid ((p.deposit sharesMinted).row id) := by
  obtain ⟨hpos, rfl⟩ := computeSharesForDeposit_ok h
  exact ⟨hpos, rfl⟩

theorem creditTransaction_keeps {p : CreditParams} {sharesMinted : ℚ} (hp : P.price p.mid)
    (h : computeSharesForDeposit p.depositUsd p.navPerShareAtDeposit = .ok sharesMinted) :
    Keeps P H f (fun w => P.ready w.memory) (creditTransaction p sharesMinted) := by
  refine triple_transaction ready_frame fun w _ hr => ?_
  have hin := Inside.refl w
  refine Body.bind (creditDeposit_body hin _ fun id shares hnew hshares => ?_)
  refine Body.bind (body_readDb (hin.withDb _) ?_)
  refine Safe.mono (((insertNavSnapshot_outside _).frames.bind fun _ =>
    (writeAudit_outside (by simp)).frames) w _ (hin.withDb _)) ?_
  intro _ r w' hlast
  refine ⟨hlast.1, fun a ha => ?_⟩
  have hframe := hlast.2 a ha
  have hmove := Move.credit (P := P) (f := f) ((p.deposit sharesMinted).row id) p.mid shares hr hp
    hnew (credited_of_shares h id) hshares
  exact ⟨.tail (.single hmove) (.frame hframe), ready_frame hframe hr⟩

theorem credit_keeps (p : CreditParams) (hp : P.price p.mid) :
    Keeps P H f (fun w => P.ready w.memory) (credit p) := by
  refine Triple.bind (triple_liftExcept fun _ h => h) fun sharesMinted => ?_
  exact triple_of_fact fun h => creditTransaction_keeps hp h

structure PipelineSafe (P : Policy) (H : VaultHost) (deps : PipelineDeps) : Prop where
  getMid : ∀ A, Steady .main A → Triple P H .main A deps.getMid (Consulted P A) A
  getNavPerShare : ∀ A, Steady .main A → Keeps P H .main A deps.getNavPerShare
  getLatestBlockhash : ∀ A, Steady .main A → Keeps P H .main A deps.getLatestBlockhash
  submitTx : ∀ A, Steady .main A → ∀ ixs, Keeps P H .main A (deps.submitTx ixs)

variable {deps : PipelineDeps}

theorem recordFailure_keeps (hH : HostOk P H) (hA : ∀ {w w'}, Frame w w' → A w → A w')
    {telegramId : TelegramId} {event : InflowEvent} {reason : String} :
    Keeps P H f A (recordFailure telegramId event reason) :=
  keeps_choose.bind fun _ => (writeAudit_outside (by simp)).keeps hH hA

theorem creditSwept_keeps (hH : HostOk P H) (hd : PipelineSafe P H deps)
    (telegramId : TelegramId) (event : InflowEvent) (sweepSig : Signature) (sweptAt : ℤ) :
    Keeps P H .main (fun w => P.ready w.memory)
      (creditSwept deps telegramId event sweepSig sweptAt) := by
  have hready := steady_ready P
  refine (hd.getMid _ hready).bind ?_
  rintro (_ | mid)
  · exact recordFailure_keeps hH ready_frame
  · refine triple_of_fact fun hprice => ?_
    refine Triple.mono (A := fun w => P.ready w.memory) ?_ (fun _ h => h.1) (fun _ _ h => h)
      fun _ h => h
    refine (hd.getNavPerShare _ hready).bind fun navPerShare => ?_
    exact Keeps.tryCatch (credit_keeps _ hprice) fun e => recordFailure_keeps hH ready_frame

theorem submitSweep_keeps (hd : PipelineSafe P H deps) (event : InflowEvent)
    (ixs : List SweepInstruction) :
    Keeps P H .main (fun w => P.ready w.memory) (submitSweep deps event ixs) := by
  have hsweep : Keeps P H .main (fun w => P.ready w.memory)
      (record (.sweep event.inboundTxSig event.solLamports event.bertRaw)) :=
    triple_record fun w _ h => ⟨.sweep _ _ _ h, h⟩
  have hswept : ∀ sweepSig, Keeps P H .main (fun w => P.ready w.memory)
      (record (.swept event.inboundTxSig sweepSig)) :=
    fun _ => triple_record fun w _ h => ⟨.swept _ _, h⟩
  refine hsweep.bind fun _ => (hd.submitTx _ (steady_ready P) ixs).bind fun sweepSig => ?_
  exact (hswept sweepSig).bind fun _ => keeps_pure

theorem sweepAndCredit_keeps (hH : HostOk P H) (hd : PipelineSafe P H deps)
    (telegramId : TelegramId) (event : InflowEvent) (ixs : List SweepInstruction) :
    Keeps P H .main (fun w => P.ready w.memory) (sweepAndCredit deps telegramId event ixs) := by
  have hsweep : Keeps P H .main (fun w => P.ready w.memory) (sweep deps telegramId event ixs) := by
    refine Keeps.tryCatch ((submitSweep_keeps hd event ixs).bind fun _ => keeps_pure) fun e => ?_
    exact (recordFailure_keeps hH ready_frame).bind fun _ => keeps_pure
  refine (hd.getLatestBlockhash _ (steady_ready P)).bind fun _ => hsweep.bind ?_
  rintro (_ | sweepSig)
  · exact keeps_pure
  · refine keeps_choose.bind fun sweptAt => ?_
    refine ((writeAudit_outside (by simp)).keeps hH ready_frame).bind fun _ => ?_
    exact creditSwept_keeps hH hd telegramId event sweepSig sweptAt

theorem depositKeypair_keeps (secrets : UserSecrets) :
    Keeps P H .main (fun w => P.ready w.memory) (depositKeypair secrets) := by
  have hdecrypt : Keeps P H .main (fun w => P.ready w.memory)
      (decryptSecret secrets.depositSecretEnc) := by
    refine keeps_choose.bind fun key => keeps_ite keeps_throw (keeps_ite keeps_throw ?_)
    exact keeps_ite keeps_throw (keeps_choose.bind fun _ => keeps_liftExcept)
  exact hdecrypt.bind fun _ => keeps_choose.bind fun _ => keeps_liftExcept

theorem sweepInflow_keeps (hH : HostOk P H) (hd : PipelineSafe P H deps) (user : UserRow)
    (event : InflowEvent) :
    Keeps P H .main (fun w => P.ready w.memory) (sweepInflow deps user event) := by
  refine keeps_read.bind ?_
  rintro (_ | secrets)
  · exact keeps_pure
  · have hopen : Keeps P H .main (fun w => P.ready w.memory)
        (tryCatch (do let _ ← depositKeypair secrets; return true) fun _ => do
          recordFailure user.telegramId event "decrypt_failed"
          return false) := by
      refine Keeps.tryCatch ?_ fun _ => (recordFailure_keeps hH ready_frame).bind fun _ => keeps_pure
      exact (depositKeypair_keeps secrets).bind fun _ => keeps_pure
    refine hopen.bind fun opened => keeps_ite ?_ keeps_pure
    rcases buildSweepInstructions event.solLamports event.bertRaw deps.rentReserveLamports with e | ixs
    · exact recordFailure_keeps hH ready_frame
    · exact keeps_ite keeps_pure (sweepAndCredit_keeps hH hd user.telegramId event ixs)

theorem onInflow_keeps (hH : HostOk P H) (hd : PipelineSafe P H deps) (event : InflowEvent) :
    Keeps P H .main (fun _ => True) (onInflow deps event) := by
  refine keeps_read.bind ?_
  rintro (_ | user)
  · exact keeps_pure
  · refine keeps_choose.bind fun ts => ?_
    refine ((writeAudit_outside (by simp)).keeps hH true_frame).bind fun _ => ?_
    refine Triple.bind (hd.getMid _ (steady_true .main)) ?_
    rintro (_ | mid)
    · exact keeps_choose.bind fun _ => (writeAudit_outside (by simp)).keeps hH true_frame
    · exact (sweepInflow_keeps hH hd user event).mono (fun _ h => h.2.1)
        (fun _ _ _ => trivial) fun _ _ => trivial

structure WatcherSafe (P : Policy) (H : VaultHost) (deps : WatcherDeps) : Prop where
  getSignaturesForAddress : ∀ address bertAta limit, Keeps P H .main (fun _ => True)
    (deps.getSignaturesForAddress address bertAta limit)
  getParsedTransaction : ∀ signature, Keeps P H .main (fun _ => True)
    (deps.getParsedTransaction signature)
  onInflow : ∀ event, Keeps P H .main (fun _ => True) (deps.onInflow event)

variable {watcher : WatcherDeps}

theorem confirmationTime_keeps (blockTime : Option ℤ) :
    Keeps P H f A (confirmationTime blockTime) := by
  cases blockTime with
  | none => exact keeps_choose.bind fun _ => keeps_pure
  | some t => exact keeps_pure

theorem pollSignature_keeps (hw : WatcherSafe P H watcher) (address : Address)
    (s : SignatureInfo) :
    Keeps P H .main (fun _ => True) (pollSignature watcher address s) := by
  refine keeps_ite keeps_pure (keeps_read.bind fun credited => keeps_ite keeps_pure ?_)
  refine (hw.getParsedTransaction s.signature).bind ?_
  rintro (_ | tx)
  · exact keeps_pure
  · refine keeps_ite keeps_pure ((confirmationTime_keeps _).bind fun confirmedAt => ?_)
    exact hw.onInflow _

theorem pollAddress_keeps (hw : WatcherSafe P H watcher) (address : Address) :
    Keeps P H .main (fun _ => True) (pollAddress watcher address) := by
  refine (hw.getSignaturesForAddress address false 10).bind fun sigsMain => ?_
  refine (hw.getSignaturesForAddress address true 10).bind fun sigsAta => ?_
  exact keeps_forEach (pollSignature_keeps hw address) _

end PipelineRefinement
