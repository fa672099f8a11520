import BertMMBot.FrozenDrain
import BertMMBot.GuardedCalls

/-! # Payouts in turn

A drain lists the queue once, in the order of the table, and then waits at every row for the
network. Requests, requeued rows and cancelled ones change the table meanwhile; the payouts of
the drain still follow its list, and none is made for a row before all rows ahead of it have
been taken up. -/
namespace PayoutOrder

open AsyncProgram AsyncContract AsyncFibers AsyncRecords AsyncWiring RecordedTriples
open RecordedOutcomes GuardedCalls VaultTypes VaultProgram DepositorStore VaultJournal
open WithdrawalExecutor LoopBounds
open VaultRuntime (BotConfig executorDeps)
open LedgerMachine (Fiber)
open MeteoraPosition (Venue)
open FrozenDrain (endsPaying endsPaying_call plays_bystander)
open PlayedRuns (plainVenue plainConfig oneSol)

variable {H : VaultHost} {l : Journal} {p : JournalPoint} {α : Type} {x : Prop}
  {queue done : List ℕ} {id : ℕ} {destination : Address}

def queueOf (w : World) : List ℕ := (listWithdrawalsByStatus .queued w.db).map WithdrawalRow.id

def opensDrain : Line → Bool
  | .start _ .drain _ => true
  | .answer _ Query.rebalanceStage (.ok true) _ => true
  | _ => false

def taken : Line → Option ℕ
  | .choice _ (.statement (.setWithdrawalProcessing id)) _ (none : Option Thrown) => some id
  | _ => none

def takes (l : Journal) : List ℕ := (l.filterMap taken).reverse

/-- The latest drain listed this queue when it began, and has taken up these rows since. -/
def Drained (queue done : List ℕ) (l : Journal) : Prop :=
  ∃ newer e older, l = newer ++ e :: older ∧ opensDrain e = true ∧
    (∀ x ∈ newer, opensDrain x = false) ∧ queueOf e.state = queue ∧ takes newer = done

/-- The row was seen with this destination. -/
def Destined (id : ℕ) (destination : Address) (l : Journal) : Prop :=
  ∃ e ∈ l, ∃ row ∈ e.state.db.withdrawals, row.id = id ∧ row.destination = destination

/-- It is the turn of a row with this destination. -/
def InTurn (destination : Address) (l : Journal) : Prop :=
  ∃ ahead id behind, Drained (ahead ++ id :: behind) (ahead ++ [id]) l ∧ Destined id destination l

def orderGuard : Guard Fiber Job vaultInterface World Thrown := callGuard fun i l q =>
  ∀ destination sol bert, q = Query.executeTransfer destination sol bert → i = .main →
    InTurn destination l

abbrev orderMachine (H : VaultHost) : Machine Job vaultInterface World Thrown Fiber H :=
  guardMachine orderGuard H

theorem Drained.cons {e : Line} (h : Drained queue done l) (he : taken e = none)
    (hstays : opensDrain e = false) : Drained queue done (e :: l) := by
  obtain ⟨newer, e', older, rfl, hopens, hnewer, hqueue, hdone⟩ := h
  refine ⟨e :: newer, e', older, rfl, hopens, List.forall_mem_cons.mpr ⟨hstays, hnewer⟩,
    hqueue, ?_⟩
  rw [← hdone]
  simp [takes, he]

theorem Drained.take {w : World} (h : Drained queue done l) :
    Drained queue (done ++ [id]) (.choice .main (Choice.statement (.setWithdrawalProcessing id)) w
      (none : Option Thrown) :: l) := by
  obtain ⟨newer, e', older, rfl, hopens, hnewer, hqueue, hdone⟩ := h
  refine ⟨_ :: newer, e', older, rfl, hopens, List.forall_mem_cons.mpr ⟨rfl, hnewer⟩,
    hqueue, ?_⟩
  rw [← hdone]
  simp [takes, taken]

theorem Destined.cons {e : Line} (h : Destined id destination l) :
    Destined id destination (e :: l) := by
  obtain ⟨e', hmem, hrow⟩ := h
  exact ⟨e', List.mem_cons_of_mem _ hmem, hrow⟩

/-- No row is taken up, no drain is begun, and nothing is paid but to this destination, if to
any. -/
def turnBounds (payee : Option Address) : Bounds vaultInterface World Unit where
  choice c := ∀ id, c ≠ .statement (.setWithdrawalProcessing id)
  call q := q ≠ Query.rebalanceStage ∧ ∀ destination sol bert,
    q = Query.executeTransfer destination sol bert → payee = some destination
  view _ := ()

theorem taken_choice {c : Choice} {o : c.Outcome} {w : World}
    (hc : ∀ id, c ≠ .statement (.setWithdrawalProcessing id)) :
    taken (.choice .main c w o : Line) = none := by
  cases c with
  | statement st =>
    cases st with
    | setWithdrawalProcessing id => exact absurd rfl (hc id)
    | _ => rfl
  | _ => rfl

theorem opensDrain_answer {q : Query} {a : Except Thrown q.Reply} {w : World}
    (hq : q ≠ Query.rebalanceStage) : opensDrain (.answer .main q a w : Line) = false := by
  cases q with
  | rebalanceStage => exact absurd rfl hq
  | _ => rfl

theorem drained_lasting {payee : Option Address} :
    Lasting (turnBounds payee) .main (Drained queue done) where
  choice hc h := h.cons (taken_choice hc) rfl
  call _ h := h.cons rfl rfl
  answer hq h := h.cons rfl (opensDrain_answer hq.1)

theorem destined_lasting {payee : Option Address} :
    Lasting (turnBounds payee) .main fun l => Drained queue done l ∧ Destined id destination l where
  choice hc h := ⟨drained_lasting.choice hc h.1, h.2.cons⟩
  call hq h := ⟨drained_lasting.call hq h.1, h.2.cons⟩
  answer hq h := ⟨drained_lasting.answer hq h.1, h.2.cons⟩

theorem idle_room {payee : Option Address} {m : Vault α} (hm : Within (loopRoom False) x m) :
    Within (turnBounds payee) x m := by
  apply hm.mono
  · rintro c hc id rfl
    exact hc
  · intro q hq
    constructor
    · rintro rfl
      exact hq rfl
    · rintro destination sol bert rfl
      exact (hq rfl).elim
  · exact fun _ _ _ => rfl

theorem idle_keeps {P : Journal → Prop} (hP : Lasting (turnBounds none) .main P) {m : Vault α}
    (hm : Within (turnBounds none) x m) : Keeps (orderMachine H) .main (Recalls .main P) m := by
  apply lasting_keeps hP (fun _ _ _ _ => trivial) _ hm
  intro _ _ hq _ _ _ _ heq _
  cases hq.2 _ _ _ heq

theorem room_keeps {P : Journal → Prop} (hP : Lasting (turnBounds none) .main P) {m : Vault α}
    (hm : Within (loopRoom False) x m) : Keeps (orderMachine H) .main (Recalls .main P) m :=
  idle_keeps hP (idle_room hm)

/-- The calls of an executor. Once the prices are there the fiber stands at its latest line. -/
structure Calls (H : VaultHost) (deps : ExecutorDeps) : Prop where
  getMid : ∀ queue done, Triple (orderMachine H) .main (Recalls .main (Drained queue done))
    deps.getMid (fun _ p => Faces .main p ∧ Recalls .main (Drained queue done) p)
    (Recalls .main (Drained queue done))
  getWalletBalances : Within (loopRoom False) True deps.getWalletBalances
  getPositionSnapshot : Within (loopRoom False) True deps.getPositionSnapshot
  partialClose : ∀ sol bert, Within (turnBounds none) True (deps.partialClose sol bert)
  executeTransfer : ∀ destination sol bert, deps.executeTransfer destination sol bert =
    Async.call (I := vaultInterface) (Query.executeTransfer destination sol bert)

theorem calls_executorDeps (venue : Venue) (reserve : ℕ) :
    Calls H (executorDeps venue reserve) where
  getMid queue done := by
    apply Triple.bind (triple_chosen (I := vaultInterface) (c := Choice.consult)
      (Q := fun _ => Drained queue done) (fun _ _ => trivial) fun l w o h => h.cons rfl rfl)
    exact fun _ => triple_read fun _ _ h => h
  getWalletBalances := within_query rfl
  getPositionSnapshot := within_getPositionSnapshot venue
  partialClose sol bert := by
    apply within_bind (within_read _)
    intro stored
    cases stored with
    | none => exact within_throw _
    | some stored =>
      exact within_call trivial ⟨fun heq => (by cases heq), fun _ _ _ heq => by cases heq⟩
  executeTransfer _ _ _ := rfl

theorem calls_hostDeps (reserve : ℕ) : Calls H (hostDeps reserve) where
  getMid queue done := by
    apply triple_allowed (I := vaultInterface) (q := Query.getMid)
      (Q := fun _ => Drained queue done)
    · intro _ _ _ _ _ heq
      cases heq
    · exact fun _ _ _ _ h => (h.cons rfl rfl).cons rfl rfl
    · exact fun _ _ _ _ h => (h.cons rfl rfl).cons rfl rfl
  getWalletBalances := within_query rfl
  getPositionSnapshot := within_query rfl
  partialClose _ _ :=
    within_call trivial ⟨fun heq => (by cases heq), fun _ _ _ heq => by cases heq⟩
  executeTransfer _ _ _ := rfl

theorem within_secureReserves {deps : ExecutorDeps} (hd : Calls H deps) (bal : Balances)
    (payout : Payout) : Within (turnBounds none) True (secureReserves deps bal payout) := by
  apply within_ite
  · exact fun _ => within_pure _
  · intro _
    have hclose : ∀ sol bert, Within (turnBounds none) True (closeShort deps sol bert) := by
      intro sol bert
      exact within_ite (fun _ => hd.partialClose _ _) fun _ => within_pure ()
    apply within_bind (hclose _ _)
    intro _
    apply within_bind (idle_room hd.getWalletBalances)
    intro bal₂
    exact within_bind (idle_room (within_nonNull _ _)) fun _ => within_pure _

theorem within_settle {deps : ExecutorDeps} (hd : Calls H deps) (now : ℤ) (row : WithdrawalRow)
    (payout : Payout) :
    Within (turnBounds (some row.destination)) True (settle deps now row payout) := by
  have hpay : Within (turnBounds (some row.destination)) True (payOut deps row payout) := by
    apply within_bind (idle_room (within_record _))
    intro _
    apply within_bind
    · rw [hd.executeTransfer]
      apply within_call trivial
      refine ⟨fun heq => (by cases heq), ?_⟩
      rintro destination sol bert heq
      cases heq
      rfl
    · intro sig
      exact within_bind (idle_room (within_nonNull _ _)) fun _ =>
        within_bind (idle_room (within_record _)) fun _ => within_pure _
  have htransfer : Within (turnBounds (some row.destination)) True
      (executeTransfer deps now row payout) := by
    apply within_tryCatch (within_bind hpay fun _ => within_pure _)
    intro e
    exact idle_room (by simp)
  have hcomplete : ∀ sig, Within (loopRoom False) True (completeRow now row payout sig) := by
    intro sig
    apply within_tryCatch
    · apply within_bind (within_readDb _)
      intro before
      apply within_withTransaction
      apply within_bind (within_completeWithdrawal _)
      intro _
      apply within_bind (within_readDb _)
      intro after
      exact within_bind (within_insertNavSnapshot _) fun _ => within_writeAudit _ _ _
    · exact fun _ => by simp
  apply within_bind htransfer
  intro sig
  cases sig with
  | none => exact within_pure ()
  | some sig =>
    have hsent : Within (loopRoom False) True (recordSent now row sig) :=
      within_tryCatch (by simp) fun _ => by simp
    apply within_bind (idle_room hsent)
    intro sent
    exact within_ite (fun _ => idle_room (hcomplete sig)) fun _ => within_pure ()

section Row

variable {deps : ExecutorDeps} (hd : Calls H deps) {ahead behind : List ℕ}

include hd

theorem processRow_keeps (now : ℤ) (mid : Mid) (row : WithdrawalRow) :
    Keeps (orderMachine H) .main
      (Recalls .main fun l => Drained (ahead ++ row.id :: behind) (ahead ++ [row.id]) l ∧
        Destined row.id row.destination l) (processRow deps now mid row) := by
  have hidle : ∀ {β : Type} {m : Vault β}, Within (turnBounds none) True m →
      Keeps (orderMachine H) .main
        (Recalls .main fun l => Drained (ahead ++ row.id :: behind) (ahead ++ [row.id]) l ∧
          Destined row.id row.destination l) m :=
    fun hm => idle_keeps destined_lasting hm
  apply (hidle (idle_room hd.getWalletBalances)).bind
  intro bal
  apply (hidle (idle_room hd.getPositionSnapshot)).bind
  intro pos
  apply (hidle (idle_room (within_nonNull _ _))).bind
  intro bal
  apply (hidle (idle_room (within_nonNull _ _))).bind
  intro pos
  apply keeps_read.bind
  intro total
  apply (hidle (idle_room (Encryption.within_lifted _))).bind
  intro payout
  apply (hidle (within_secureReserves hd _ _)).bind
  intro secured
  apply keeps_ite
  · apply lasting_keeps destined_lasting (fun _ _ _ _ => trivial) _
      (within_settle hd now row payout)
    rintro l q hq ⟨hdrained, hdestined⟩ destination sol bert heq -
    cases hq.2 destination sol bert heq
    exact ⟨ahead, row.id, behind, hdrained, hdestined⟩
  · exact hidle (idle_room (within_failWithdrawal _ _ _))

theorem processOne_keeps (id : ℕ) : Keeps (orderMachine H) .main
    (Recalls .main (Drained (ahead ++ id :: behind) (ahead ++ [id]))) (processOne deps id) := by
  apply (room_keeps (x := True) drained_lasting within_now).bind
  intro now
  apply Triple.bind (hd.getMid _ _)
  intro mid
  have hforget : ∀ {m : Vault Unit}, Within (loopRoom False) True m →
      Triple (orderMachine H) .main
        (fun p => Faces .main p ∧ Recalls .main (Drained (ahead ++ id :: behind) (ahead ++ [id])) p)
        m (fun _ => Recalls .main (Drained (ahead ++ id :: behind) (ahead ++ [id])))
        (Recalls .main (Drained (ahead ++ id :: behind) (ahead ++ [id]))) :=
    fun hm => (room_keeps drained_lasting hm).mono (fun _ hp => hp.2) (fun _ _ hp => hp)
      fun _ hp => hp
  cases mid with
  | none => exact hforget (within_failWithdrawal _ _ _)
  | some mid =>
    apply Triple.bind (B := fun row p => (Faces .main p ∧
      Recalls .main (Drained (ahead ++ id :: behind) (ahead ++ [id])) p) ∧
        ∀ r, row = some r → r.id = id ∧ Destined id r.destination (own .main p.2))
    · apply triple_read
      rintro p - ⟨hfaces, hdrained⟩
      refine ⟨⟨hfaces, hdrained⟩, ?_⟩
      intro row hrow
      have hid : row.id = id := by simpa using List.find?_some hrow
      obtain ⟨e, l, hown, hstate⟩ := hfaces
      refine ⟨hid, e, ?_, row, ?_, hid, rfl⟩
      · simp [hown]
      · rw [hstate]
        exact (List.mem_filter.mp (List.mem_of_find?_eq_some hrow)).1
    intro row
    cases row with
    | none => exact (hforget (within_pure _)).mono (fun _ hp => hp.1) (fun _ _ hp => hp) fun _ hp => hp
    | some row =>
      have hseen : ∀ p : JournalPoint, (Faces .main p ∧
          Recalls .main (Drained (ahead ++ id :: behind) (ahead ++ [id])) p) ∧
            (∀ r, some row = some r → r.id = id ∧ Destined id r.destination (own .main p.2)) →
          row.id = id ∧ Recalls .main (fun l => Drained (ahead ++ id :: behind) (ahead ++ [id]) l ∧
            Destined id row.destination l) p := by
        rintro p ⟨⟨-, hdrained⟩, hrow⟩
        obtain ⟨hid, hdestined⟩ := hrow row rfl
        exact ⟨hid, hdrained, hdestined⟩
      have hrow : Triple (orderMachine H) .main
          (fun p => row.id = id ∧ Recalls .main (fun l =>
            Drained (ahead ++ id :: behind) (ahead ++ [id]) l ∧ Destined id row.destination l) p)
          (processRow deps now mid row)
          (fun _ => Recalls .main (Drained (ahead ++ id :: behind) (ahead ++ [id])))
          (Recalls .main (Drained (ahead ++ id :: behind) (ahead ++ [id]))) := by
        apply triple_of_fact
        rintro rfl
        exact (processRow_keeps hd now mid row).mono (fun _ hp => hp) (fun _ _ hp => hp.1)
          fun _ hp => hp.1
      exact hrow.mono hseen (fun _ _ hp => hp) fun _ hp => hp

theorem drainRow_triple (id : ℕ) : Triple (orderMachine H) .main
    (Recalls .main (Drained (ahead ++ id :: behind) ahead)) (drainRow deps id)
    (fun _ => Recalls .main (Drained (ahead ++ id :: behind) (ahead ++ [id]))) fun _ => True := by
  have hquiet : ∀ {m : Vault Unit}, Within (turnBounds none) True m →
      Triple (orderMachine H) .main
        (Recalls .main (Drained (ahead ++ id :: behind) (ahead ++ [id]))) m
        (fun _ => Recalls .main (Drained (ahead ++ id :: behind) (ahead ++ [id]))) fun _ => True :=
    fun hm => (idle_keeps drained_lasting hm).mono (fun _ hp => hp) (fun _ _ hp => hp)
      fun _ _ => trivial
  have hmark : Triple (orderMachine H) .main
      (Recalls .main (Drained (ahead ++ id :: behind) ahead)) (setWithdrawalProcessing id)
      (fun _ => Recalls .main (Drained (ahead ++ id :: behind) (ahead ++ [id]))) fun _ => True := by
    apply Triple.bind (triple_chosen (I := vaultInterface)
      (c := Choice.statement (.setWithdrawalProcessing id))
      (Q := fun (o : Option Thrown) l => o = none →
        Drained (ahead ++ id :: behind) (ahead ++ [id]) l) (fun _ _ => trivial) ?_)
    · intro (o : Option Thrown)
      cases o with
      | some e =>
        apply Triple.bind (B := fun _ _ => True)
        · exact triple_modify fun _ _ _ _ => ⟨.single .aside, trivial⟩
        · exact fun _ => triple_throw fun _ _ => trivial
      | none =>
        have hexecute : Within (turnBounds none) True
            (execute fun db => .ok ((), updateWithdrawal id startProcessing db)) :=
          within_attempt fun _ _ _ _ => rfl
        exact (hquiet hexecute).mono (fun _ hp => hp.2 rfl) (fun _ _ hp => hp) fun _ hp => hp
    · rintro l w o hdrained heq
      subst heq
      exact hdrained.take
  have hrecord : Triple (orderMachine H) .main
      (Recalls .main (Drained (ahead ++ id :: behind) ahead)) (record (.take id))
      (fun _ => Recalls .main (Drained (ahead ++ id :: behind) ahead)) fun _ => True :=
    (room_keeps (x := True) drained_lasting (within_record _)).mono (fun _ hp => hp)
      (fun _ _ hp => hp) fun _ _ => trivial
  apply hrecord.bind
  intro _
  apply hmark.bind
  intro _
  apply Triple.tryCatch (processOne_keeps hd id)
  intro e
  apply hquiet
  apply within_bind (within_read _)
  intro row
  cases row.bind WithdrawalRow.txSig with
  | none => exact idle_room (within_bind within_now fun _ => within_failWithdrawal _ _ _)
  | some sig => exact within_pure _

def Opening (p : JournalPoint) : Prop :=
  ∃ e l, own .main p.2 = e :: l ∧ opensDrain e = true ∧ e.state = p.1

theorem drain_triple : Triple (orderMachine H) .main Opening (drain deps) (fun _ _ => True)
    fun _ => True := by
  apply Triple.bind (B := fun rows p =>
    Recalls .main (Drained (rows.map WithdrawalRow.id) []) p)
  · apply triple_read
    rintro p - ⟨e, l, hown, hopens, hstate⟩
    refine ⟨[], e, l, hown, hopens, by simp, ?_, rfl⟩
    rw [hstate]
    rfl
  intro rows
  have hrows : ∀ rest, Triple (orderMachine H) .main
      (fun p => ∃ ahead, rows.map WithdrawalRow.id = ahead ++ rest ∧
        Recalls .main (Drained (rows.map WithdrawalRow.id) ahead) p)
      (Async.forEach rest (drainRow deps))
      (fun _ p => ∃ ahead, rows.map WithdrawalRow.id = ahead ++ [] ∧
        Recalls .main (Drained (rows.map WithdrawalRow.id) ahead) p) fun _ => True := by
    apply triple_forEach
    intro id rest
    apply triple_at
    rintro w h - ⟨ahead, hqueue, hdrained⟩
    rw [hqueue] at hdrained ⊢
    apply (drainRow_triple hd id).mono
    · rintro _ rfl
      exact hdrained
    · intro _ p hp
      exact ⟨ahead ++ [id], by simp, hp⟩
    · exact fun _ _ => trivial
  apply (hrows (rows.map WithdrawalRow.id)).mono
  · exact fun p hp => ⟨[], rfl, hp⟩
  · exact fun _ _ _ => trivial
  · exact fun _ _ => trivial

end Row

variable {venue : Venue} {cfg : BotConfig} {newer older : Journal} {w : World} {sol bert : ℤ}

abbrev Anything (_ : Journal) : Prop := True

theorem tick_triple : Triple (orderMachine H) .main (Recalls .main Anything)
    (VaultRuntime.tick venue cfg) (fun _ _ => True) fun _ => True := by
  have hquiet : ∀ {β : Type} {m : Vault β}, Within (loopRoom False) True m →
      Triple (orderMachine H) .main (Recalls .main Anything) m
        (fun _ => Recalls .main Anything) fun _ => True :=
    fun hm => (room_keeps lasting_true hm).mono (fun _ hp => hp) (fun _ _ hp => hp) fun _ _ => trivial
  apply (hquiet within_now).bind
  intro tickStart
  have hlook : Within (turnBounds none) True
      (Async.choose (I := vaultInterface) Choice.killSwitch : Vault Bool) :=
    within_choose fun _ heq => by cases heq
  apply ((idle_keeps lasting_true hlook).mono (fun _ hp => hp) (fun _ _ hp => hp)
    fun _ _ => trivial).bind
  intro (killed : Bool)
  apply (hquiet (within_readOracle _ _)).bind
  intro _
  apply (hquiet (within_runVaultPreRebalance _)).bind
  intro _
  apply Triple.bind (B := fun (goesOn : Bool) p => goesOn = true → Opening p)
  · refine Triple.mono (triple_allowed (I := vaultInterface) (q := Query.rebalanceStage)
      (P := Anything) (E := Anything)
      (Q := fun (goesOn : Bool) l => goesOn = true → ∃ e l', l = e :: l' ∧ opensDrain e = true)
      ?_ ?_ ?_) (fun _ hp => hp) ?_ fun _ _ => trivial
    · intro _ _ _ _ _ heq
      cases heq
    · rintro l s s' goesOn - rfl
      exact ⟨_, _, rfl, rfl⟩
    · exact fun _ _ _ _ _ => trivial
    · rintro goesOn p ⟨⟨e, l, hown, hstate⟩, hopens⟩ hgoes
      obtain ⟨e', l', hown', he⟩ := hopens hgoes
      obtain ⟨rfl, rfl⟩ := List.cons.inj (hown.symm.trans hown')
      exact ⟨e, l, hown, he, hstate⟩
  intro goesOn
  cases goesOn with
  | false => exact triple_pure fun _ _ => trivial
  | true =>
    have hread : ∀ f : Db → Bool, Triple (orderMachine H) .main Opening (readDb f)
        (fun _ => Opening) fun _ => True := fun f => triple_read fun _ _ hp => hp
    apply Triple.bind (B := fun _ => Recalls .main Anything)
    · apply Triple.bind (B := fun _ => Opening)
      · exact triple_read fun _ _ hp => hp rfl
      intro paused
      apply (hread _).bind
      intro degraded
      apply triple_ite
      · exact fun _ => triple_pure fun _ _ => trivial
      · exact fun _ => (drain_triple (calls_executorDeps venue _)).tryCatch
          fun _ => triple_pure fun _ _ => trivial
    · exact fun _ => (hquiet (within_swallow within_activateWhitelists)).mono (fun _ hp => hp)
        (fun _ _ _ => trivial) fun _ hp => hp

theorem job_triple (j : Job) (w : World) (h : Journal) :
    Triple (orderMachine H) j.fiber (fun p => p = (w, .start j.fiber j w :: h))
      (j.program venue cfg) (fun _ _ => True) fun _ => True := by
  have haside : ∀ {i : Fiber}, i ≠ .main → ∀ m : Vault Unit, Triple (orderMachine H) i
      (fun p => p = (w, .start i j w :: h)) m (fun _ _ => True) fun _ => True :=
    fun hi m => (unguarded_keeps (fun _ _ => trivial)
      (fun _ _ _ _ _ _ hmain => absurd hmain hi) m).mono (fun _ _ => trivial)
      (fun _ _ hp => hp) fun _ hp => hp
  cases j with
  | tick => exact tick_triple.mono (fun _ _ => trivial) (fun _ _ hp => hp) fun _ hp => hp
  | drain =>
    refine (drain_triple (calls_hostDeps _)).mono ?_ (fun _ _ hp => hp) fun _ hp => hp
    rintro _ rfl
    exact ⟨_, _, own_start, rfl, rfl⟩
  | message msg => exact haside (fun hmain => by cases hmain) _
  | button msg => exact haside (fun hmain => by cases hmain) _
  | bootstrap b => exact haside (fun hmain => by cases hmain) _

/-- Whatever the chat does meanwhile, a payout goes to the next row of the list that its drain
began with, after all rows ahead of it have been taken up. -/
theorem payout_in_turn (hj : Journaled venue cfg H p)
    (hsplit : p.2 = newer ++ .call .main (Query.executeTransfer destination sol bert) w :: older) :
    InTurn destination (own .main older) := by
  obtain ⟨chain, c, ex, rfl⟩ := hj
  have hguarded : EachGuarded orderGuard c.state.2 := execution_guarded job_triple ex
  exact hguarded newer _ older hsplit destination sol bert rfl rfl

theorem payout_in_turn_withdrawing : ∃ newer destination sol bert w older,
    (PlayedJournals.withdrawing.point plainVenue plainConfig oneSol).2 =
      newer ++ .call .main (Query.executeTransfer destination sol bert) w :: older ∧
    InTurn destination (own .main older) := by
  have hany : (PlayedJournals.withdrawing.point plainVenue plainConfig oneSol).2.tails.any
      endsPaying = true := by decide +kernel
  obtain ⟨newer, rest, hsplit, he⟩ := PlayedJournals.tails_split hany
  obtain ⟨destination, sol, bert, w, older, rfl, -⟩ := endsPaying_call he
  exact ⟨newer, destination, sol, bert, w, older, hsplit,
    payout_in_turn (plays_bystander.journaled _ _ _ _) hsplit⟩

end PayoutOrder
