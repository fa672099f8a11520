import BertMMBot.FrozenDrain
import BertMMBot.GuardedCalls

/-! # What a payout leaves in the wallet

A transfer is decided on balances that were read before it, perhaps once more after liquidity was
freed for it. Whatever the other fibers do, the drain pays no more than the latest of its readings
showed beyond the reserve, and never twice on one reading. -/
namespace ReserveFloor

open AsyncProgram AsyncContract AsyncFibers AsyncRecords AsyncWiring RecordedTriples
open RecordedOutcomes GuardedCalls VaultTypes VaultProgram DepositorStore VaultJournal
open WithdrawalExecutor LoopBounds ShareMath
open VaultRuntime (BotConfig executorDeps)
open LedgerMachine (Fiber)
open MeteoraPosition (Venue)
open FrozenDrain (endsPaying endsPaying_call plays_bystander)
open PlayedRuns (plainVenue plainConfig oneSol)

variable {reserve : ℕ} {bal : Balances} {sol bert : ℤ} {H : VaultHost} {l : Journal} {α : Type}
  {x : Prop}

def readsBalances : Query → Bool
  | .getWalletBalances => true
  | _ => false

/-- After this line a reading is no longer the latest, or the funds are no longer what it says. -/
def outdates : Line → Bool
  | .call _ q _ => pays q || readsBalances q
  | .answer _ q _ _ => readsBalances q
  | _ => false

/-- The latest balances that were read, with nothing paid since. -/
def Reads (bal : Balances) (l : Journal) : Prop :=
  ∃ newer w rest, l = newer ++ .answer .main Query.getWalletBalances (.ok (some bal)) w :: rest ∧
    ∀ e ∈ newer, outdates e = false

/-- The reading shows this much beyond the reserve. -/
structure Spares (reserve : ℕ) (bal : Balances) (sol bert : ℤ) : Prop where
  sol : sol ≤ spendable reserve bal.solLamports
  bert : bert ≤ bal.bertRaw

def Spared (reserve : ℕ) (sol bert : ℤ) (l : Journal) : Prop :=
  ∃ bal, Reads bal l ∧ Spares reserve bal sol bert

def floorGuard (reserve : ℕ) : Guard Fiber Job vaultInterface World Thrown := callGuard fun i l q =>
  ∀ destination sol bert, q = Query.executeTransfer destination sol bert → i = .main →
    Spared reserve sol bert l

abbrev floorMachine (reserve : ℕ) (H : VaultHost) :
    Machine Job vaultInterface World Thrown Fiber H := guardMachine (floorGuard reserve) H

abbrev Begun (P : Journal → Prop) (p : JournalPoint) : Prop := Recalls .main P p

abbrev Anything (_ : Journal) : Prop := True

def payless : Bounds vaultInterface World Unit where
  choice _ := True
  call q := pays q = false
  view _ := ()

def idle : Bounds vaultInterface World Unit where
  choice _ := True
  call q := pays q = false ∧ readsBalances q = false
  view _ := ()

theorem of_room {m : Vault α} (hm : Within (loopRoom False) x m) : Within payless x m := by
  refine hm.mono (fun _ _ => trivial) ?_ fun _ _ _ => rfl
  intro q hq
  cases q with
  | partialClose _ _ => exact (hq rfl).elim
  | executeTransfer _ _ _ => exact (hq rfl).elim
  | _ => rfl

theorem Reads.cons {e : Line} (h : Reads bal l) (he : outdates e = false) : Reads bal (e :: l) := by
  obtain ⟨newer, w, rest, rfl, hnewer⟩ := h
  exact ⟨e :: newer, w, rest, rfl, List.forall_mem_cons.mpr ⟨he, hnewer⟩⟩

theorem reads_lasting : Lasting idle .main (Reads bal) where
  choice _ h := h.cons rfl
  call hq h := h.cons (by simp [outdates, hq.1, hq.2])
  answer hq h := h.cons hq.2

theorem spared_lasting : Lasting idle .main (Spared reserve sol bert) where
  choice hc := fun ⟨bal, h, hs⟩ => ⟨bal, reads_lasting.choice hc h, hs⟩
  call hq := fun ⟨bal, h, hs⟩ => ⟨bal, reads_lasting.call hq h, hs⟩
  answer hq := fun ⟨bal, h, hs⟩ => ⟨bal, reads_lasting.answer hq h, hs⟩

theorem allowed_payless {q : Query} (hq : pays q = false) (l : Journal) :
    (floorGuard reserve).call .main l q := by
  rintro _ _ _ rfl
  cases hq

theorem idle_keeps {P : Journal → Prop} (hP : Lasting idle .main P) {m : Vault α}
    (hm : Within idle x m) : Keeps (floorMachine reserve H) .main (Begun P) m :=
  lasting_keeps hP (fun _ _ _ _ => trivial) (fun l _ hq _ => allowed_payless hq.1 l) hm

theorem payless_keeps {m : Vault α} (hm : Within payless x m) :
    Keeps (floorMachine reserve H) .main (Begun Anything) m :=
  lasting_keeps lasting_true (fun _ _ _ _ => trivial) (fun l _ hq _ => allowed_payless hq l) hm

def closing : Bounds vaultInterface World Unit where
  choice _ := True
  call q := ∀ destination sol bert, q ≠ Query.executeTransfer destination sol bert
  view _ := ()

theorem closing_keeps {m : Vault α} (hm : Within closing x m) :
    Keeps (floorMachine reserve H) .main (Begun Anything) m := by
  apply lasting_keeps lasting_true (fun _ _ _ _ => trivial) _ hm
  exact fun _ _ hq _ _ _ _ heq _ => absurd heq (hq _ _ _)

theorem within_getPositionSnapshot (venue : Venue) :
    Within idle True (VaultRuntime.getPositionSnapshot venue) := by
  apply within_bind (within_read _)
  intro stored
  cases stored with
  | none => exact within_pure _
  | some stored =>
    apply within_bind (within_read _)
    intro last
    have hposition : Within idle True
        (MeteoraPosition.getPosition venue stored.nftMint ((last.map Mid.solUsd).getD 0)) :=
      within_bind (within_call trivial ⟨rfl, rfl⟩) fun _ => within_pure _
    exact within_bind hposition fun _ => within_pure _

/-- The calls of an executor: all but the freeing of liquidity and the transfer pay nothing. -/
structure Calls (deps : ExecutorDeps) (reserve : ℕ) : Prop where
  reserve : deps.reserveSolLamports = reserve
  getMid : Within payless True deps.getMid
  getWalletBalances :
    deps.getWalletBalances = Async.call (I := vaultInterface) Query.getWalletBalances
  getPositionSnapshot : Within idle True deps.getPositionSnapshot
  partialClose : ∀ sol bert, Within closing True (deps.partialClose sol bert)
  executeTransfer : ∀ destination sol bert, deps.executeTransfer destination sol bert =
    Async.call (I := vaultInterface) (Query.executeTransfer destination sol bert)

theorem calls_executorDeps (venue : Venue) : Calls (executorDeps venue reserve) reserve where
  reserve := rfl
  getMid := of_room within_getMid
  getWalletBalances := rfl
  getPositionSnapshot := within_getPositionSnapshot venue
  partialClose sol bert := by
    apply within_bind (within_read _)
    intro stored
    cases stored with
    | none => exact within_throw _
    | some stored => exact within_call trivial fun _ _ _ heq => by cases heq
  executeTransfer _ _ _ := rfl

theorem calls_hostDeps : Calls (hostDeps reserve) reserve where
  reserve := rfl
  getMid := of_room (within_query rfl)
  getWalletBalances := rfl
  getPositionSnapshot := within_call trivial ⟨rfl, rfl⟩
  partialClose _ _ := within_call trivial fun _ _ _ heq => by cases heq
  executeTransfer _ _ _ := rfl

section Row

variable {deps : ExecutorDeps} (hd : Calls deps reserve)

include hd

theorem read_triple : Triple (floorMachine reserve H) .main (Begun Anything) deps.getWalletBalances
    (fun o => Begun fun l => ∀ bal, o = some bal → Reads bal l) (Begun Anything) := by
  rw [hd.getWalletBalances]
  refine Triple.mono (triple_allowed (I := vaultInterface) (q := Query.getWalletBalances)
    (P := Anything) (Q := fun (o : Option Balances) l => ∀ bal, o = some bal → Reads bal l)
    ?_ ?_ ?_) (fun _ hp => hp) (fun _ _ hp => hp.2) fun _ hp => hp
  · intro _ _ _ _ _ heq
    cases heq
  · rintro l s s' _ _ bal rfl
    exact ⟨[], s', _, rfl, by simp⟩
  · exact fun _ _ _ _ _ => trivial

theorem secureReserves_triple (p : Payout) : Triple (floorMachine reserve H) .main
    (Begun (Reads bal)) (secureReserves deps bal p)
    (fun secured => Begun fun l => secured = true → Spared reserve p.needSol p.needBert l)
    (Begun Anything) := by
  have hspares : ∀ {bal : Balances}, covers reserve bal p = true →
      Spares reserve bal p.needSol p.needBert := by
    intro bal hcovers
    obtain ⟨hsol, hbert⟩ := of_decide_eq_true hcovers
    exact ⟨hsol, hbert⟩
  unfold secureReserves
  rw [hd.reserve]
  apply triple_ite
  · intro hcovers
    exact triple_pure fun _ hread _ => ⟨bal, hread, hspares hcovers⟩
  · intro _
    have hclose : ∀ solShort bertShort, Keeps (floorMachine reserve H) .main (Begun Anything)
        (closeShort deps solShort bertShort) := by
      intro solShort bertShort
      exact keeps_ite (closing_keeps (hd.partialClose _ _)) keeps_pure
    apply Triple.bind ((hclose _ _).mono (fun _ _ => trivial) (fun _ _ hp => hp) fun _ hp => hp)
    intro _
    apply (read_triple hd).bind
    intro bal2
    cases bal2 with
    | none => exact triple_throw fun _ _ => trivial
    | some bal2 =>
      apply triple_pure
      exact fun _ hread hcovers => ⟨bal2, hread bal2 rfl, hspares hcovers⟩

theorem settle_triple (now : ℤ) (row : WithdrawalRow) (p : Payout) :
    Triple (floorMachine reserve H) .main (Begun (Spared reserve p.needSol p.needBert))
      (settle deps now row p) (fun _ => Begun Anything) (Begun Anything) := by
  have hquiet : ∀ {β : Type} {m : Vault β}, Within (loopRoom False) True m →
      Keeps (floorMachine reserve H) .main (Begun Anything) m :=
    fun hm => payless_keeps (of_room hm)
  have hpay : Triple (floorMachine reserve H) .main (Begun (Spared reserve p.needSol p.needBert))
      (payOut deps row p) (fun _ => Begun Anything) (Begun Anything) := by
    have hrecord : Triple (floorMachine reserve H) .main
        (Begun (Spared reserve p.needSol p.needBert))
        (record (.transfer row.id row.destination p.needSol p.needBert))
        (fun _ => Begun (Spared reserve p.needSol p.needBert)) (Begun Anything) := by
      have hidle : Within idle True (record (.transfer row.id row.destination p.needSol p.needBert)) :=
        within_modify fun _ => rfl
      exact (idle_keeps spared_lasting hidle).mono (fun _ hp => hp) (fun _ _ hp => hp)
        fun _ _ => trivial
    apply hrecord.bind
    intro _
    apply Triple.bind (B := fun _ => Begun Anything)
    · rw [hd.executeTransfer]
      refine Triple.mono (triple_allowed (I := vaultInterface)
        (q := Query.executeTransfer row.destination p.needSol p.needBert)
        (Q := fun _ => Anything) ?_ ?_ ?_) (fun _ hp => hp) (fun _ _ hp => hp.2) fun _ hp => hp
      · rintro l hspared _ _ _ heq -
        cases heq
        exact hspared
      · exact fun _ _ _ _ _ => trivial
      · exact fun _ _ _ _ _ => trivial
    · intro sig
      exact hquiet (within_bind (within_nonNull _ sig) fun _ =>
        within_bind (within_record _) fun _ => within_pure _)
  have htransfer : Triple (floorMachine reserve H) .main
      (Begun (Spared reserve p.needSol p.needBert)) (executeTransfer deps now row p)
      (fun _ => Begun Anything) (Begun Anything) := by
    apply (hpay.bind fun sig => keeps_pure).tryCatch
    intro e
    exact hquiet (by simp)
  have hcomplete : ∀ sig, Within (loopRoom False) True (completeRow now row p sig) := by
    intro sig
    apply within_tryCatch
    · apply within_bind (within_readDb _)
      intro before
      apply within_withTransaction
      apply within_bind (within_completeWithdrawal _)
      intro _
      apply within_bind (within_readDb _)
      intro after
      exact within_bind (within_insertNavSnapshot _) fun _ => within_writeAudit _ _ _
    · exact fun _ => by simp
  apply htransfer.bind
  intro sig
  cases sig with
  | none => exact keeps_pure
  | some sig =>
    have hsent : Within (loopRoom False) True (recordSent now row sig) :=
      within_tryCatch (by simp) fun _ => by simp
    apply (hquiet hsent).bind
    intro sent
    exact keeps_ite (hquiet (hcomplete sig)) keeps_pure

theorem processRow_triple (now : ℤ) (mid : Mid) (row : WithdrawalRow) :
    Triple (floorMachine reserve H) .main (Begun Anything) (processRow deps now mid row)
      (fun _ => Begun Anything) (Begun Anything) := by
  have hread : ∀ {β : Type} {bal : Balances} {m : Vault β}, Within idle True m →
      Triple (floorMachine reserve H) .main (Begun (Reads bal)) m (fun _ => Begun (Reads bal))
        (Begun Anything) := by
    intro β bal m hm
    exact (idle_keeps reads_lasting hm).mono (fun _ hp => hp) (fun _ _ hp => hp) fun _ _ => trivial
  apply (read_triple hd).bind
  intro o
  cases o with
  | none =>
    apply Triple.bind (B := fun _ => Begun Anything)
    · exact (idle_keeps lasting_true hd.getPositionSnapshot).mono (fun _ _ => trivial)
        (fun _ _ hp => hp) fun _ hp => hp
    · exact fun _ => triple_throw fun _ hp => hp
  | some bal =>
    apply Triple.bind (B := fun _ => Begun (Reads bal))
    · exact (hread hd.getPositionSnapshot).mono (fun _ hp => hp bal rfl) (fun _ _ hp => hp)
        fun _ hp => hp
    intro pos
    apply Triple.bind (B := fun bal' p => bal' = bal ∧ Begun (Reads bal) p)
    · exact triple_pure fun _ hp => ⟨rfl, hp⟩
    intro bal'
    apply triple_of_fact
    rintro rfl
    have hpos : Within idle True (nonNull "totalValueUsd" pos) := by
      cases pos with
      | none => exact within_throw _
      | some pos => exact within_pure pos
    apply (hread hpos).bind
    intro pos
    have htotal : Within idle True (readDb totalShares) := within_read _
    apply (hread htotal).bind
    intro total
    have hpayout : ∀ r : Except Thrown Payout, Within idle True (liftExcept r : Vault Payout) := by
      rintro (e | p)
      · exact within_throw e
      · exact within_pure p
    apply (hread (hpayout _)).bind
    intro p
    apply (secureReserves_triple hd p).bind
    intro secured
    apply triple_ite
    · intro hsecured
      exact (settle_triple hd now row p).mono (fun _ hp => hp hsecured) (fun _ _ hp => hp)
        fun _ hp => hp
    · intro _
      exact (payless_keeps (of_room (within_failWithdrawal (w := True) row.id
        "reserves_insufficient" now))).mono (fun _ _ => trivial) (fun _ _ hp => hp) fun _ hp => hp

theorem drain_triple : Keeps (floorMachine reserve H) .main (Begun Anything) (drain deps) := by
  have hquiet : ∀ {β : Type} {m : Vault β}, Within (loopRoom False) True m →
      Keeps (floorMachine reserve H) .main (Begun Anything) m :=
    fun hm => payless_keeps (of_room hm)
  have hone : ∀ id, Keeps (floorMachine reserve H) .main (Begun Anything) (processOne deps id) := by
    intro id
    apply Triple.bind (hquiet within_now)
    intro now
    apply Triple.bind (payless_keeps hd.getMid)
    intro mid
    cases mid with
    | none => exact hquiet (within_failWithdrawal _ _ _)
    | some mid =>
      apply Triple.bind (hquiet (within_readDb _))
      intro row
      cases row with
      | none => exact keeps_pure
      | some row => exact processRow_triple hd now mid row
  have htake : ∀ id, Within payless True (setWithdrawalProcessing id) := by
    intro id
    exact OperatorBounds.within_statement (fun _ _ => rfl) trivial fun _ _ _ _ => rfl
  apply Triple.bind (hquiet (within_readDb _))
  intro queued
  apply keeps_forEach
  intro id
  apply Triple.bind (hquiet (within_record _))
  intro _
  apply Triple.bind (payless_keeps (htake id))
  intro _
  apply (hone id).tryCatch
  intro e
  apply Triple.bind (hquiet (within_readDb _))
  intro row
  cases row.bind WithdrawalRow.txSig with
  | none => exact hquiet (within_bind within_now fun _ => within_failWithdrawal _ _ _)
  | some sig => exact keeps_pure

end Row

variable {venue : Venue} {cfg : BotConfig} {newer older : Journal} {p : JournalPoint} {w : World}

theorem tick_triple : Keeps (floorMachine cfg.minSolFloorLamports H) .main (Begun Anything)
    (VaultRuntime.tick venue cfg) := by
  have hquiet : ∀ {β : Type} {m : Vault β}, Within (loopRoom False) True m →
      Keeps (floorMachine cfg.minSolFloorLamports H) .main (Begun Anything) m :=
    fun hm => payless_keeps (of_room hm)
  apply Triple.bind (hquiet within_now)
  intro tickStart
  have hlook : Within payless True
      (Async.choose (I := vaultInterface) Choice.killSwitch : Vault Bool) := within_choose trivial
  apply Triple.bind (payless_keeps hlook)
  intro (killed : Bool)
  apply Triple.bind (hquiet (within_readOracle _ _))
  intro _
  apply Triple.bind (hquiet (within_runVaultPreRebalance _))
  intro _
  have hrebalance : Within payless True
      (Async.call (I := vaultInterface) Query.rebalanceStage : Vault Bool) := within_call trivial rfl
  apply Triple.bind (payless_keeps hrebalance)
  intro (goesOn : Bool)
  cases goesOn with
  | false => exact keeps_pure
  | true =>
    apply Triple.bind (B := fun _ => Begun Anything)
    · apply Triple.bind (hquiet (within_readDb _))
      intro paused
      apply Triple.bind (hquiet (within_readDb _))
      intro degraded
      apply keeps_ite keeps_pure
      exact (drain_triple (calls_executorDeps venue)).tryCatch fun _ => keeps_pure
    · exact fun _ => hquiet (within_swallow within_activateWhitelists)

theorem job_triple (j : Job) (w : World) (h : Journal) :
    Triple (floorMachine cfg.minSolFloorLamports H) j.fiber
      (fun p => p = (w, .start j.fiber j w :: h)) (j.program venue cfg) (fun _ _ => True)
      fun _ => True := by
  have hkeeps : Keeps (floorMachine cfg.minSolFloorLamports H) j.fiber (Recalls j.fiber Anything)
      (j.program venue cfg) := by
    have haside : ∀ {i : Fiber}, i ≠ .main → ∀ m : Vault Unit,
        Keeps (floorMachine cfg.minSolFloorLamports H) i (Recalls i Anything) m :=
      fun hi m => unguarded_keeps (fun _ _ => trivial)
        (fun _ _ _ _ _ _ hmain => absurd hmain hi) m
    cases j with
    | tick => exact tick_triple
    | drain => exact drain_triple calls_hostDeps
    | message msg => exact haside (fun hmain => by cases hmain) _
    | button msg => exact haside (fun hmain => by cases hmain) _
    | bootstrap b => exact haside (fun hmain => by cases hmain) _
  exact hkeeps.mono (fun _ _ => trivial) (fun _ _ hp => hp) fun _ hp => hp

/-- Whatever has happened before it, and whatever happens in between, each transfer is spared by
the latest balances that the main loop read, and is the first thing it pays since. -/
theorem transfer_spared {destination : Address} (hj : Journaled venue cfg H p)
    (hsplit : p.2 = newer ++ .call .main (Query.executeTransfer destination sol bert) w :: older) :
    Spared cfg.minSolFloorLamports sol bert (own .main older) := by
  obtain ⟨chain, c, ex, rfl⟩ := hj
  have hguarded : EachGuarded (floorGuard cfg.minSolFloorLamports) c.state.2 :=
    execution_guarded job_triple ex
  exact hguarded newer _ older hsplit destination sol bert rfl rfl

theorem transfer_spared_withdrawing : ∃ newer destination sol bert w older,
    (PlayedJournals.withdrawing.point plainVenue plainConfig oneSol).2 =
      newer ++ .call .main (Query.executeTransfer destination sol bert) w :: older ∧
    Spared plainConfig.minSolFloorLamports sol bert (own .main older) := by
  have hany : (PlayedJournals.withdrawing.point plainVenue plainConfig oneSol).2.tails.any
      endsPaying = true := by decide +kernel
  obtain ⟨newer, rest, hsplit, he⟩ := PlayedJournals.tails_split hany
  obtain ⟨destination, sol, bert, w, older, rfl, -⟩ := endsPaying_call he
  exact ⟨newer, destination, sol, bert, w, older, hsplit,
    transfer_spared (plays_bystander.journaled _ _ _ _) hsplit⟩

end ReserveFloor
