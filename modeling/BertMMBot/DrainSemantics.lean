import BertMMBot.ExecutorRefinement

/-! # The drain as a sequence of turns

A drain left alone with a store that runs every statement: each queued row has its turn and
ends completed or failed. A turn says how the row was priced, secured and paid, what became
of it, of the balances and of the chain, and that nothing else changed. -/
namespace DrainSemantics

open AsyncProgram AsyncContract VaultTypes VaultProgram KeyedTable DepositorStore LedgerMachine
open VaultDiscipline WithdrawalExecutor

variable {α β : Type} {H : VaultHost} {w : World} {B : α → World → Prop} {C : β → World → Prop}
  {D E : World → Prop}

/-- No statement throws. -/
def SoundStore (H : VaultHost) : Prop := ∀ st w o, H.choose (.statement st) w o → o = none

theorem yields_pure {a : α} (h : B a w) : Yields H ((pure a : Vault α) w) (outcome B E) := h

theorem yields_bind {m : Vault α} {k : α → Vault β} (h : Yields H (m w) (outcome B E))
    (hk : ∀ a w', B a w' → Yields H (k a w') (outcome C E)) :
    Yields H ((m >>= k) w) (outcome C E) :=
  h.bind hk fun _ _ he => he

theorem yields_tryCatch {m : Vault α} {k : Thrown → Vault α} (h : Yields H (m w) (outcome B D))
    (hk : ∀ e w', D w' → Yields H (k e w') (outcome B E)) :
    Yields H ((tryCatch m k) w) (outcome B E) :=
  h.handle (fun _ _ hb => hb) hk

theorem yields_ite {c : Prop} [Decidable c] {m n : Vault α} {post : Except Thrown α → World → Prop}
    (hm : c → Yields H (m w) post) (hn : ¬c → Yields H (n w) post) :
    Yields H ((if c then m else n) w) post := by
  by_cases h : c
  · simpa [h] using hm h
  · simpa [h] using hn h

theorem yields_read {g : World → α} (h : B (g w) w) :
    Yields H ((Async.read g : Vault α) w) (outcome B E) := h

theorem yields_record {e : TraceEvent} {B : Unit → World → Prop} (h : B () (w.record e)) :
    Yields H (record e w) (outcome B E) := h

theorem yields_now {B : ℤ → World → Prop} (h : ∀ ms, B ms w) : Yields H (now w) (outcome B E) :=
  fun ms _ => h ms

theorem yields_nonNull {property : String} {o : Option α} (hsome : ∀ a, o = some a → B a w)
    (hnone : o = none → E w) : Yields H (nonNull property o w) (outcome B E) := by
  cases o with
  | none => exact hnone rfl
  | some a => exact hsome a rfl

theorem yields_liftExcept {r : Except Thrown α} (hok : ∀ a, r = .ok a → B a w)
    (herror : ∀ e, r = .error e → E w) :
    Yields H ((liftExcept r : Vault α) w) (outcome B E) := by
  cases r with
  | error e => exact herror e rfl
  | ok a => exact hok a rfl

theorem yields_call {q : Query} {B : q.Reply → World → Prop}
    (hok : ∀ a w', H.respond q w (.ok a) w' → B a w')
    (herror : ∀ e w', H.respond q w (.error e) w' → E w') :
    Yields H (Async.call (I := vaultInterface) q w) (outcome B E) := by
  rintro (e | a) w' ha
  · exact herror e w' ha
  · exact hok a w' ha

theorem yields_statement_any {st : Stmt} {g : Db → Except Thrown (α × Db)}
    (hok : ∀ a db, g w.db = .ok (a, db) → B a (w.withDb db)) (herror : ∀ e, g w.db = .error e → E w)
    (hfault : ∀ e, H.choose (.statement st) w (some e) → E (w.fault st)) :
    Yields H (statement st g w) (outcome B E) := by
  intro r hr
  cases r with
  | some e => exact hfault e hr
  | none =>
    show Yields H (execute g w) (outcome B E)
    simp only [execute, Async.attempt]
    rcases hg : g w.db with e | ⟨a, db⟩
    · exact herror e hg
    · exact hok a db hg

theorem yields_statement (hs : SoundStore H) {st : Stmt} {g : Db → Except Thrown (α × Db)}
    (hok : ∀ a db, g w.db = .ok (a, db) → B a (w.withDb db))
    (herror : ∀ e, g w.db = .error e → E w) :
    Yields H (statement st g w) (outcome B E) := by
  apply yields_statement_any hok herror
  intro e he
  cases hs st w (some e) he

theorem yields_update (hs : SoundStore H) {st : Stmt} {g : Db → Db} {B : Unit → World → Prop}
    (h : B () (w.withDb (g w.db))) : Yields H (update st g w) (outcome B E) := by
  refine yields_statement hs (fun a db hdb => ?_) nofun
  cases hdb
  exact h

theorem yields_transaction {m : Vault α}
    (h : Yields (H.within (fun old new => new.withDb old.db) w) (m w) (outcome B fun _ => False)) :
    Yields H (withTransaction m w) (outcome B E) :=
  Yields.transact h (fun _ _ hb => hb) fun _ _ he => he.elim

theorem SoundStore.within (hs : SoundStore H) (restore : World → World → World) (w₀ : World) :
    SoundStore (H.within restore w₀) := fun st w o ho => hs st (restore w₀ w) o ho

/-- Every statement runs, and answers leave the tables alone. -/
structure Undisturbed (H : VaultHost) : Prop where
  store : SoundStore H
  quiet : ∀ q w a w', H.respond q w a w' → Quiet w w'

/-- The row has become `row'`, the balances are `shares`, `events` came about, and no other
row has changed since `w₀`. -/
structure Stage (row' : WithdrawalRow) (shares : List ShareRow) (events : List TraceEvent)
    (w₀ w : World) : Prop where
  stored : getWithdrawalById row'.id w.db = some row'
  others : ∀ id, id ≠ row'.id → getWithdrawalById id w.db = getWithdrawalById id w₀.db
  keyed : Keyed WithdrawalRow.id w.db.withdrawals
  users : w.db.users = w₀.db.users
  shares : w.db.shares = shares
  trace : w.trace = events ++ w₀.trace

structure Waiting (row : WithdrawalRow) (w : World) : Prop where
  stored : getWithdrawalById row.id w.db = some row
  status : row.status = .queued
  unsent : row.txSig = none
  keyed : Keyed WithdrawalRow.id w.db.withdrawals
  owner : (lookup UserRow.telegramId row.telegramId w.db.users).isSome

variable {row r : WithdrawalRow} {shares : List ShareRow} {events : List TraceEvent} {w₀ w' : World}

theorem Stage.same (h : Stage r shares events w₀ w) (hw : w'.db.withdrawals = w.db.withdrawals)
    (hu : w'.db.users = w.db.users) (hs : w'.db.shares = w.db.shares) (ht : w'.trace = w.trace) :
    Stage r shares events w₀ w' where
  stored := by
    unfold getWithdrawalById
    rw [hw]
    exact h.stored
  others := by
    unfold getWithdrawalById
    rw [hw]
    exact h.others
  keyed := by rw [hw]; exact h.keyed
  users := hu.trans h.users
  shares := hs.trans h.shares
  trace := ht.trans h.trace

theorem Stage.quiet (h : Stage r shares events w₀ w) (hq : Quiet w w') :
    Stage r shares events w₀ w' := h.same hq.withdrawals hq.users hq.shares hq.trace

theorem Stage.amend {g : WithdrawalRow → WithdrawalRow} (h : Stage r shares events w₀ w)
    (hg : ∀ x, (g x).id = x.id) :
    Stage (g r) shares events w₀ (w.withDb (updateWithdrawal r.id g w.db)) where
  stored := by
    rw [hg]
    exact updated_self hg h.stored
  others := by
    intro id hid
    rw [hg] at hid
    exact (updated_other hg hid).trans (h.others id hid)
  keyed := keyed_amend hg h.keyed
  users := h.users
  shares := h.shares
  trace := h.trace

theorem Stage.withShares (h : Stage r shares events w₀ w) (shares' : List ShareRow) :
    Stage r shares' events w₀ (w.withDb { w.db with shares := shares' }) :=
  ⟨h.stored, h.others, h.keyed, h.users, rfl, h.trace⟩

theorem Stage.record (h : Stage r shares events w₀ w) (e : TraceEvent) :
    Stage r shares (e :: events) w₀ (w.record e) where
  stored := h.stored
  others := h.others
  keyed := h.keyed
  users := h.users
  shares := h.shares
  trace := by simp [h.trace]

/-- An answer, and the chain before and after it. -/
def Answers (H : VaultHost) (q : Query) (c : Chain) (a : q.Reply) (c' : Chain) : Prop :=
  ∃ w w', H.respond q w (.ok a) w' ∧ w.chain = c ∧ w'.chain = c'

def PaysNobody : (q : Query) → Except Thrown q.Reply → Prop
  | .executeTransfer _ _ _, .ok (some _) => False
  | .executeTransfer _ _ _, _ => True
  | .getMid, _ => True
  | .getWalletBalances, _ => True
  | .getPositionSnapshot, _ => True
  | .partialClose _ _, _ => True
  | _, _ => False

def Asked (H : VaultHost) (c c' : Chain) : Prop :=
  ∃ q w a w', H.respond q w a w' ∧ PaysNobody q a ∧ w.chain = c ∧ w'.chain = c'

def Unpaid (H : VaultHost) : Chain → Chain → Prop := Relation.ReflTransGen (Asked H)

inductive Secured (H : VaultHost) (reserve : ℕ) (p : Payout) : Balances → Chain → Chain → Prop where
  | enough {bal c} : covers reserve bal p = true → Secured H reserve p bal c c
  | closed {bal bal2 c c₁ c₂} : Unpaid H c c₁ → Answers H .getWalletBalances c₁ (some bal2) c₂ →
      covers reserve bal2 p = true → Secured H reserve p bal c c₂

inductive Priced (H : VaultHost) (reserve : ℕ) (total : ℚ) (row : WithdrawalRow) (p : Payout) :
    Chain → Chain → Prop where
  | mk {mid bal pos c c₁ c₂ c₃ c₄} : Answers H .getMid c (some mid) c₁ →
      Answers H .getWalletBalances c₁ (some bal) c₂ →
      Answers H .getPositionSnapshot c₂ (some pos) c₃ →
      payout reserve mid bal pos total row = .ok p → Secured H reserve p bal c₃ c₄ →
      Priced H reserve total row p c c₄

inductive RowTurn (H : VaultHost) (reserve : ℕ) (row : WithdrawalRow) (w w' : World) : Prop where
  | completed {c : Chain} {p : Payout} {txSig : Signature} {processedAt : ℤ}
      {shares : List ShareRow} :
      Priced H reserve (totalShares w.db) row p w.chain c →
      Answers H (.executeTransfer row.destination p.needSol p.needBert) c (some txSig) w'.chain →
      sharesAfter row.telegramId (-row.sharesBurned) w.db = .ok shares →
      Stage (Completion.apply
          ⟨row.id, txSig, p.needSol, p.needBert, p.navPerShare, processedAt⟩ row) shares
        [.transferred row.id txSig, .transfer row.id row.destination p.needSol p.needBert,
          .take row.id] w w' →
      RowTurn H reserve row w w'
  | failed {reason : String} {processedAt : ℤ} {issued : List TraceEvent} :
      Unpaid H w.chain w'.chain →
      (issued = [] ∨ ∃ sol bert, issued = [.transfer row.id row.destination sol bert]) →
      Stage (failed reason processedAt row) w.db.shares (issued ++ [.take row.id]) w w' →
      RowTurn H reserve row w w'

def Pending (H : VaultHost) (r : WithdrawalRow) (shares : List ShareRow)
    (events : List TraceEvent) (w₀ w : World) : Prop :=
  Stage r shares events w₀ w ∧ Unpaid H w₀.chain w.chain

variable {reserve : ℕ} {p : Payout} {bal : Balances} {ts : ℤ}

theorem Pending.answered (hH : Undisturbed H) (h : Pending H r shares events w₀ w) {q : Query}
    {a : Except Thrown q.Reply} (ha : H.respond q w a w') (hn : PaysNobody q a) :
    Pending H r shares events w₀ w' :=
  ⟨h.1.quiet (hH.quiet q w a w' ha), h.2.tail ⟨q, w, a, w', ha, hn, rfl, rfl⟩⟩

theorem failWithdrawal_yields (hs : SoundStore H) {reason : String}
    (h : Pending H r shares events w₀ w) :
    Yields H (failWithdrawal r.id reason ts w) (outcome
      (fun _ => Pending H (failed reason ts r) shares events w₀) E) := by
  exact yields_update hs ⟨h.1.amend (g := failed reason ts) fun _ => rfl, h.2⟩

theorem writeAudit_yields (hs : SoundStore H) {telegramId : Option TelegramId} {event : AuditEvent}
    (h : Pending H r shares events w₀ w) :
    Yields H (writeAudit ts telegramId event w)
      (outcome (fun _ => Pending H r shares events w₀) E) :=
  yields_update hs ⟨h.1.same rfl rfl rfl rfl, h.2⟩

theorem secureReserves_yields (hH : Undisturbed H) (h : Pending H r shares events w₀ w) :
    Yields H (secureReserves (hostDeps reserve) bal p w) (outcome
      (fun ok w' => Pending H r shares events w₀ w' ∧
        (ok = true → Secured H reserve p bal w.chain w'.chain))
      (Pending H r shares events w₀)) := by
  unfold secureReserves
  refine yields_ite (fun hc => yields_pure ⟨h, fun _ => .enough hc⟩) fun _ => ?_
  have hclose : ∀ sol bert, Yields H (closeShort (hostDeps reserve) sol bert w) (outcome
      (fun _ w' => Pending H r shares events w₀ w' ∧ Unpaid H w.chain w'.chain)
      (Pending H r shares events w₀)) := by
    intro sol bert
    refine yields_ite (fun _ => ?_) fun _ => yields_pure ⟨h, .refl⟩
    refine yields_call (fun a w' ha => ⟨h.answered hH ha trivial, ?_⟩)
      fun e w' ha => h.answered hH ha trivial
    exact .single ⟨_, w, _, w', ha, trivial, rfl, rfl⟩
  refine yields_bind (hclose _ _) fun _ w₁ h₁ => ?_
  refine yields_bind (B := fun o w' => Pending H r shares events w₀ w' ∧
      Answers H .getWalletBalances w₁.chain o w'.chain) ?_ fun o w₂ h₂ => ?_
  · exact yields_call (fun a w' ha => ⟨h₁.1.answered hH ha trivial, w₁, w', ha, rfl, rfl⟩)
      fun e w' ha => h₁.1.answered hH ha trivial
  refine yields_bind (B := fun bal2 w' => w' = w₂ ∧ o = some bal2) ?_ ?_
  · exact yields_nonNull (fun a ha => ⟨rfl, ha⟩) fun _ => h₂.1
  rintro bal2 w' ⟨rfl, rfl⟩
  exact yields_pure ⟨h₂.1, fun hc => .closed h₁.2 h₂.2 hc⟩

theorem payOut_yields (hH : Undisturbed H) (h : Pending H r shares events w₀ w) :
    Yields H (payOut (hostDeps reserve) r p w) (outcome
      (fun txSig w' => Stage r shares (.transferred r.id txSig ::
          .transfer r.id r.destination p.needSol p.needBert :: events) w₀ w' ∧
        Answers H (.executeTransfer r.destination p.needSol p.needBert) w.chain (some txSig)
          w'.chain)
      (Pending H r shares (.transfer r.id r.destination p.needSol p.needBert :: events) w₀)) := by
  have hissued : Pending H r shares (.transfer r.id r.destination p.needSol p.needBert :: events)
      w₀ (w.record (.transfer r.id r.destination p.needSol p.needBert)) := ⟨h.1.record _, h.2⟩
  unfold payOut
  refine yields_bind (B := fun _ w' =>
    w' = w.record (.transfer r.id r.destination p.needSol p.needBert)) (yields_record rfl) ?_
  rintro - w₁ rfl
  refine yields_bind (B := fun (o : Option Signature) w' => H.respond
    (.executeTransfer r.destination p.needSol p.needBert) _ (.ok o) w')
    (yields_call (fun a w' ha => ha) fun e w' ha => hissued.answered hH ha trivial) ?_
  rintro (_ | txSig) w₂ h₂
  · exact hissued.answered hH h₂ trivial
  · refine yields_bind (B := fun a w' => w' = w₂ ∧ a = txSig) ⟨rfl, rfl⟩ ?_
    rintro a w₂ ⟨rfl, rfl⟩
    refine yields_bind (B := fun _ w' => w' = w₂.record (.transferred r.id a))
      (yields_record rfl) ?_
    rintro - w' rfl
    exact yields_pure ⟨(hissued.1.quiet (hH.quiet _ _ _ _ h₂)).record _, _, _, h₂, rfl, rfl⟩

/-- What the executor's own calls make of a row that is due. -/
inductive Settled (H : VaultHost) (r : WithdrawalRow) (p : Payout) (events : List TraceEvent)
    (ts : ℤ) (c : Chain) (w₀ w' : World) : Prop where
  | paid {txSig : Signature} {shares : List ShareRow} :
      Answers H (.executeTransfer r.destination p.needSol p.needBert) c (some txSig) w'.chain →
      sharesAfter r.telegramId (-r.sharesBurned) w₀.db = .ok shares →
      Stage (Completion.apply ⟨r.id, txSig, p.needSol, p.needBert, p.navPerShare, ts⟩ r) shares
        (.transferred r.id txSig :: .transfer r.id r.destination p.needSol p.needBert :: events)
        w₀ w' → Settled H r p events ts c w₀ w'
  | unpaid {reason : String} :
      Pending H (failed reason ts r) w₀.db.shares
        (.transfer r.id r.destination p.needSol p.needBert :: events) w₀ w' →
      Settled H r p events ts c w₀ w'

theorem executeTransfer_yields (hH : Undisturbed H) (h : Pending H r shares events w₀ w) :
    Yields H (executeTransfer (hostDeps reserve) ts r p w) (outcome
      (fun o w' => match o with
        | some txSig => Stage r shares (.transferred r.id txSig ::
            .transfer r.id r.destination p.needSol p.needBert :: events) w₀ w' ∧
          Answers H (.executeTransfer r.destination p.needSol p.needBert) w.chain (some txSig)
            w'.chain
        | none => ∃ reason, Pending H (failed reason ts r) shares
          (.transfer r.id r.destination p.needSol p.needBert :: events) w₀ w')
      fun _ => False) := by
  unfold executeTransfer
  refine yields_tryCatch (yields_bind (payOut_yields hH h) fun txSig w' h' => yields_pure h') ?_
  intro e w₁ h₁
  refine yields_bind (failWithdrawal_yields hH.store h₁) fun _ w₂ h₂ => ?_
  refine yields_bind (writeAudit_yields hH.store h₂) fun _ w₃ h₃ => ?_
  exact yields_pure ⟨_, h₃⟩

theorem recordSent_yields (hs : SoundStore H) {txSig : Signature} (hsig : r.txSig = none)
    (h : Stage r shares events w₀ w) :
    Yields H (recordSent ts r txSig w) (outcome
      (fun sent w' => sent = true ∧ Stage { r with txSig := some txSig } shares events w₀ w' ∧
        w'.chain = w.chain) fun _ => False) := by
  have hone : (w.db.withdrawals.filter fun x => x.id = r.id ∧ x.txSig = none).length = 1 := by
    rw [filter_keyed (p := fun x => x.txSig = none) h.keyed h.stored hsig]
    rfl
  have hupd := h.amend (recordTxSig_id txSig)
  rw [show recordTxSig txSig r = { r with txSig := some txSig } from if_pos hsig] at hupd
  refine yields_tryCatch (D := fun _ => False) ?_ fun e w' he => he.elim
  refine yields_bind (B := fun _ w' => Stage { r with txSig := some txSig } shares events w₀ w' ∧
    w'.chain = w.chain) ?_ fun _ w' h' => yields_pure ⟨rfl, h'⟩
  refine yields_statement hs (fun a db hdb => ?_) fun e hdb => ?_
  · rw [if_pos hone] at hdb
    cases hdb
    exact ⟨hupd, rfl⟩
  · rw [if_pos hone] at hdb
    cases hdb

theorem sharesAfter_isOk {u : TelegramId} {db : Db}
    (h : (lookup UserRow.telegramId u db.users).isSome) (delta : ℚ) :
    ∃ shares, sharesAfter u delta db = .ok shares := by
  unfold sharesAfter
  rcases lookup ShareRow.telegramId u db.shares with _ | existing
  · exact ⟨_, if_pos h⟩
  · exact ⟨_, rfl⟩

theorem sharesAfter_congr {u : TelegramId} {delta : ℚ} {db db' : Db} (hs : db'.shares = db.shares)
    (hu : db'.users = db.users) : sharesAfter u delta db' = sharesAfter u delta db := by
  unfold sharesAfter
  rw [hs, hu]

theorem completeWithdrawal_yields (hs : SoundStore H) (c : Completion) (hc : c.id = r.id)
    (h : Stage r w₀.db.shares events w₀ w) {shares' : List ShareRow}
    (hburn : sharesAfter r.telegramId (-r.sharesBurned) w₀.db = .ok shares') :
    Yields H (completeWithdrawal c w) (outcome
      (fun _ w' => Stage (c.apply r) shares' events w₀ w' ∧ w'.chain = w.chain)
      fun _ => False) := by
  refine yields_transaction (yields_bind (B := fun o w' => o = some r ∧ w' = w) ?_ ?_)
  · exact yields_read ⟨hc ▸ h.stored, rfl⟩
  rintro _ w ⟨rfl, rfl⟩
  have hstore := hs.within (fun old new => new.withDb old.db) w
  refine yields_bind (B := fun _ w' => w' = w.withDb (updateWithdrawal c.id c.apply w.db))
    (yields_update hstore rfl) ?_
  rintro - _ rfl
  have hamend := h.amend (g := c.apply) fun _ => rfl
  have hafter : sharesAfter r.telegramId (-r.sharesBurned) (updateWithdrawal c.id c.apply w.db) =
      .ok shares' := (sharesAfter_congr h.shares h.users).trans hburn
  refine yields_statement hstore (fun a db hdb => ?_) fun e hdb => ?_
  · rw [World.withDb_db, hafter] at hdb
    cases hdb
    rw [hc]
    exact ⟨hamend.withShares shares', rfl⟩
  · rw [World.withDb_db, hafter] at hdb
    cases hdb

theorem completion_yields (ts : ℤ) (p : Payout) (txSig : Signature) (hs : SoundStore H)
    (h : Stage r w₀.db.shares events w₀ w) {shares' : List ShareRow}
    (hburn : sharesAfter r.telegramId (-r.sharesBurned) w₀.db = .ok shares') :
    Yields H (completion ts r p txSig w) (outcome
      (fun _ w' => Stage (Completion.apply
        ⟨r.id, txSig, p.needSol, p.needBert, p.navPerShare, ts⟩ r) shares' events w₀ w' ∧
        w'.chain = w.chain) fun _ => False) := by
  refine yields_bind (B := fun _ w' => w' = w) (yields_read rfl) ?_
  rintro before w rfl
  have hstore := hs.within (fun old new => new.withDb old.db) w
  refine yields_transaction (yields_bind (completeWithdrawal_yields hstore _ rfl h hburn) ?_)
  rintro - w₁ ⟨h₁, hc₁⟩
  refine yields_bind (B := fun _ w' => w' = w₁) (yields_read rfl) ?_
  rintro after _ rfl
  refine yields_bind (yields_update (B := fun _ w' => Stage _ shares' events w₀ w' ∧
    w'.chain = w.chain) hstore ⟨h₁.same rfl rfl rfl rfl, hc₁⟩) ?_
  rintro - w₂ ⟨h₂, hc₂⟩
  exact yields_update hstore ⟨h₂.same rfl rfl rfl rfl, hc₂⟩

theorem settle_yields (hH : Undisturbed H) (hsig : r.txSig = none)
    (howner : (lookup UserRow.telegramId r.telegramId w₀.db.users).isSome)
    (h : Pending H r w₀.db.shares events w₀ w) :
    Yields H (settle (hostDeps reserve) ts r p w) (outcome
      (fun _ => Settled H r p events ts w.chain w₀) fun _ => False) := by
  unfold settle
  refine yields_bind (executeTransfer_yields hH h) ?_
  rintro (_ | txSig) w₁ h₁
  · obtain ⟨reason, hfailed⟩ := h₁
    exact yields_pure (.unpaid hfailed)
  · obtain ⟨hstage, hpaid⟩ := h₁
    refine yields_bind (recordSent_yields hH.store hsig hstage) ?_
    rintro _ w₂ ⟨rfl, hsent, hchain⟩
    obtain ⟨shares', hburn⟩ := sharesAfter_isOk howner (-r.sharesBurned)
    have hcomplete := completion_yields ts p txSig hH.store hsent hburn
    refine yields_ite (fun _ => ?_) fun hfalse => absurd rfl hfalse
    refine yields_tryCatch (D := fun _ => False) (hcomplete.mono ?_) fun e w' he => he.elim
    rintro (e | u) w₃ h₃
    · exact h₃
    · refine .paid ?_ hburn h₃.1
      rw [h₃.2, hchain]
      exact hpaid

def atWork (row : WithdrawalRow) : WithdrawalRow := { row with status := .processing }

theorem Pending.turn {reason : String} (h : Pending H (failed reason ts (atWork row)) w₀.db.shares
    [.take row.id] w₀ w) : RowTurn H reserve row w₀ w :=
  RowTurn.failed h.2 (Or.inl rfl) h.1

theorem Settled.turn {c : Chain} (hp : Priced H reserve (totalShares w₀.db) row p w₀.chain c)
    (h : Settled H (atWork row) p [.take row.id] ts c w₀ w) : RowTurn H reserve row w₀ w := by
  cases h with
  | paid hpaid hburn hstage => exact .completed hp hpaid hburn hstage
  | unpaid h => exact RowTurn.failed h.2 (Or.inr ⟨_, _, rfl⟩) h.1

theorem processRow_yields (hH : Undisturbed H) (hwait : Waiting row w₀) {mid : Mid}
    (hmid : Answers H .getMid w₀.chain (some mid) w.chain)
    (h : Pending H (atWork row) w₀.db.shares [.take row.id] w₀ w) :
    Yields H (processRow (hostDeps reserve) ts mid (atWork row) w) (outcome
      (fun _ => RowTurn H reserve row w₀)
      (Pending H (atWork row) w₀.db.shares [.take row.id] w₀)) := by
  unfold processRow
  refine yields_bind (B := fun o w' => Pending H (atWork row) w₀.db.shares [.take row.id] w₀ w' ∧
    Answers H .getWalletBalances w.chain o w'.chain) ?_ fun obal w₁ h₁ => ?_
  · exact yields_call (fun a w' ha => ⟨h.answered hH ha trivial, w, w', ha, rfl, rfl⟩)
      fun e w' ha => h.answered hH ha trivial
  refine yields_bind (B := fun o w' => Pending H (atWork row) w₀.db.shares [.take row.id] w₀ w' ∧
    Answers H .getPositionSnapshot w₁.chain o w'.chain) ?_ fun opos w₂ h₂ => ?_
  · exact yields_call (fun a w' ha => ⟨h₁.1.answered hH ha trivial, w₁, w', ha, rfl, rfl⟩)
      fun e w' ha => h₁.1.answered hH ha trivial
  refine yields_bind (B := fun bal w' => w₂ = w' ∧ obal = some bal)
    (yields_nonNull (fun a ha => ⟨rfl, ha⟩) fun _ => h₂.1) ?_
  rintro bal _ ⟨rfl, rfl⟩
  refine yields_bind (B := fun pos w' => w₂ = w' ∧ opos = some pos)
    (yields_nonNull (fun a ha => ⟨rfl, ha⟩) fun _ => h₂.1) ?_
  rintro pos _ ⟨rfl, rfl⟩
  have htotal : totalShares w₂.db = totalShares w₀.db := by
    rw [totalShares, totalShares, h₂.1.1.shares]
  refine yields_bind (B := fun total w' => w₂ = w' ∧ total = totalShares w₀.db)
    (yields_read ⟨rfl, htotal⟩) ?_
  rintro _ _ ⟨rfl, rfl⟩
  refine yields_bind (B := fun p w' => w₂ = w' ∧
    payout reserve mid bal pos (totalShares w₀.db) row = .ok p)
    (yields_liftExcept (fun a ha => ⟨rfl, ha⟩) fun _ _ => h₂.1) ?_
  rintro p _ ⟨rfl, hp⟩
  refine yields_bind (secureReserves_yields hH h₂.1) fun ok w₃ h₃ => ?_
  refine yields_ite (fun hok => ?_) fun _ => ?_
  · have hpriced := Priced.mk hmid h₁.2 h₂.2 hp (h₃.2 hok)
    refine (settle_yields (r := atWork row) hH hwait.unsent hwait.owner h₃.1).mono ?_
    rintro (e | u) w' hw'
    · exact hw'.elim
    · exact hw'.turn hpriced
  · refine (failWithdrawal_yields hH.store h₃.1 (E := fun _ => False)).mono ?_
    rintro (e | u) w' hw'
    · exact hw'.elim
    · exact hw'.turn

theorem processOne_yields (hH : Undisturbed H) (hwait : Waiting row w₀)
    (h : Pending H (atWork row) w₀.db.shares [.take row.id] w₀ w) (hc : w.chain = w₀.chain) :
    Yields H (processOne (hostDeps reserve) row.id w) (outcome
      (fun _ => RowTurn H reserve row w₀)
      (Pending H (atWork row) w₀.db.shares [.take row.id] w₀)) := by
  unfold processOne
  refine yields_bind (B := fun _ w' => w = w') (yields_now fun _ => rfl) ?_
  rintro ts _ rfl
  refine yields_bind (B := fun o w' => Pending H (atWork row) w₀.db.shares [.take row.id] w₀ w' ∧
    Answers H .getMid w₀.chain o w'.chain) ?_ fun omid w₁ h₁ => ?_
  · exact yields_call (fun a w' ha => ⟨h.answered hH ha trivial, w, w', ha, hc, rfl⟩)
      fun e w' ha => h.answered hH ha trivial
  rcases omid with _ | mid
  · refine (failWithdrawal_yields hH.store h₁.1 (E := fun _ => False)).mono ?_
    rintro (e | u) w' hw'
    · exact hw'.elim
    · exact hw'.turn
  have hfind := ExecutorRefinement.processing_find h₁.1.1.keyed h₁.1.1.stored rfl
  refine yields_bind (B := fun o w' => w₁ = w' ∧ o = some (atWork row))
    (yields_read ⟨rfl, hfind⟩) ?_
  rintro _ _ ⟨rfl, rfl⟩
  exact processRow_yields hH hwait h₁.2 h₁.1

theorem failUnlessSent_yields (hH : Undisturbed H) (hwait : Waiting row w₀) (e : Thrown)
    (h : Pending H (atWork row) w₀.db.shares [.take row.id] w₀ w) :
    Yields H (failUnlessSent row.id e w) (outcome (fun _ => RowTurn H reserve row w₀)
      fun _ => False) := by
  unfold failUnlessSent
  refine yields_bind (B := fun o w' => w = w' ∧ o = some (atWork row))
    (yields_read ⟨rfl, h.1.stored⟩) ?_
  rintro _ _ ⟨rfl, rfl⟩
  have hnone : (some (atWork row)).bind WithdrawalRow.txSig = none := hwait.unsent
  rw [hnone]
  refine yields_bind (B := fun _ w' => w = w') (yields_now fun _ => rfl) ?_
  rintro ts _ rfl
  refine (failWithdrawal_yields hH.store h (E := fun _ => False)).mono ?_
  rintro (e | u) w' hw'
  · exact hw'.elim
  · exact hw'.turn

theorem drainRow_yields (hH : Undisturbed H) (hwait : Waiting row w) :
    Yields H (drainRow (hostDeps reserve) row.id w) (outcome
      (fun _ => RowTurn H reserve row w) fun _ => False) := by
  unfold drainRow
  have htaken : Stage row w.db.shares [.take row.id] w (w.record (.take row.id)) :=
    ⟨hwait.stored, fun _ _ => rfl, hwait.keyed, rfl, rfl, rfl⟩
  have hstart : startProcessing row = atWork row := if_pos hwait.status
  have hwork := htaken.amend startProcessing_id
  rw [hstart] at hwork
  refine yields_bind (B := fun _ w' => w' = w.record (.take row.id)) (yields_record rfl) ?_
  rintro - _ rfl
  refine yields_bind (B := fun _ w' => Pending H (atWork row) w.db.shares [.take row.id] w w' ∧
    w'.chain = w.chain) (yields_update hH.store ⟨⟨hwork, .refl⟩, rfl⟩) fun _ w₁ h₁ => ?_
  exact yields_tryCatch (processOne_yields hH hwait h₁.1 h₁.2) fun e w' he =>
    failUnlessSent_yields hH hwait e he

structure AllWaiting (rows : List WithdrawalRow) (w : World) : Prop where
  nodup : (rows.map WithdrawalRow.id).Nodup
  waiting : ∀ r ∈ rows, Waiting r w

theorem RowTurn.unchanged (h : RowTurn H reserve row w w') :
    (∀ id, id ≠ row.id → getWithdrawalById id w'.db = getWithdrawalById id w.db) ∧
      Keyed WithdrawalRow.id w'.db.withdrawals ∧ w'.db.users = w.db.users := by
  cases h with
  | completed _ _ _ h => exact ⟨h.others, h.keyed, h.users⟩
  | failed _ _ h => exact ⟨h.others, h.keyed, h.users⟩

theorem RowTurn.waiting (h : RowTurn H reserve row w w') (hr : Waiting r w) (hne : r.id ≠ row.id) :
    Waiting r w' := by
  obtain ⟨hothers, hkeyed, husers⟩ := h.unchanged
  refine ⟨(hothers r.id hne).trans hr.stored, hr.status, hr.unsent, hkeyed, ?_⟩
  rw [husers]
  exact hr.owner

theorem queued_waiting {P : Policy} (hl : Legal P w) :
    AllWaiting (listWithdrawalsByStatus .queued w.db) w := by
  refine ⟨hl.keyed.sublist (List.filter_sublist.map _), fun r hr => ?_⟩
  obtain ⟨hmem, hst⟩ := List.mem_filter.mp hr
  have hstatus : r.status = .queued := by simpa using hst
  refine ⟨lookup_of_mem hl.keyed hmem, hstatus, (hl.rows r hmem).1 (.inl hstatus), hl.keyed, ?_⟩
  obtain ⟨user, huser, hid⟩ := List.mem_map.mp (hl.owners r hmem)
  have hkeyed : Keyed UserRow.telegramId w.db.users := hl.users
  rw [← hid, lookup_of_mem hkeyed huser]
  rfl

theorem drain_yields {P : Policy} (hH : Undisturbed H) (hl : Legal P w) :
    Yields H (drain (hostDeps reserve) w) fun x w' => x = .ok () ∧
      ∃ turns, Linked w turns w' ∧
        turns.map Pass.item = listWithdrawalsByStatus .queued w.db ∧
        ∀ t ∈ turns, Ends H (drainRow (hostDeps reserve) t.item.id t.before) (.ok ()) t.after ∧
          RowTurn H reserve t.item t.before t.after := by
  have hrows := yields_forEach (f := fun r : WithdrawalRow => drainRow (hostDeps reserve) r.id)
    (A := AllWaiting) (R := RowTurn H reserve) (H := H) ?_
    (listWithdrawalsByStatus .queued w.db) w (queued_waiting hl)
  · show Yields H (Async.forEach _ _ w) _
    rw [Async.forEach_map]
    exact hrows
  intro x xs s h
  have hx := h.waiting x (List.mem_cons_self ..)
  obtain ⟨hfresh, hnodup⟩ := List.nodup_cons.mp h.nodup
  refine (drainRow_yields hH hx).mono ?_
  rintro (e | u) s' hturn
  · exact hturn.elim
  · refine ⟨rfl, hturn, hnodup, fun r hr => ?_⟩
    refine RowTurn.waiting hturn (h.waiting r (List.mem_cons_of_mem _ hr)) fun heq => hfresh ?_
    rw [← heq]
    exact List.mem_map_of_mem hr

end DrainSemantics
