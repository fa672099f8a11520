import BertMMBot.PlayedRuns

/-! # All or nothing

A deposit credit, a withdrawal completion and the founding of the vault write to four tables
each. Whichever statement throws, and wherever the process stops, either all four writes are
in the database or none is. -/
namespace AtomicWrites

open AsyncProgram AsyncContract AsyncFibers VaultTypes VaultProgram KeyedTable DepositorStore
open Encryption ShareMath WithdrawalExecutor DepositPipeline VaultRuntime VaultDiscipline
open StoreDiscipline

variable {α : Type} {H : VaultHost} {w w₀ : World} {Applied : Db → Prop} {m : Vault Unit}

/-- What a stop or the end of an operation that began with `db` leaves behind: the database
as it was or with everything applied, according to the result where there is one. -/
structure AllOrNothing (db : Db) (Applied : Db → Prop) (r : VaultRun Unit) : Prop where
  either : r.state.db = db ∨ Applied r.state.db
  finished : ∀ s, r = .done (.ok ()) s → Applied s.db
  thrown : ∀ e s, r = .done (.error e) s → s.db = db

/-- Until its commit an operation shows the database as it was. -/
def untouched (H : VaultHost) (db : Db) (Applied : Db → Prop) : VaultContract where
  choose := H.choose
  stop _ s := s.db = db
  suspend _ _ s := Applied s.db
  resume _ _ _ _ := False

def settled (db : Db) (Applied : Db → Prop) (_ : World) (x : Except Thrown Unit) (s : World) :
    Prop :=
  match x with
  | .ok _ => Applied s.db
  | .error _ => s.db = db

def Atomic (H : VaultHost) (m : Vault Unit) (w : World) (Applied : Db → Prop) : Prop :=
  Safe (untouched H w.db Applied) (m w) w (settled w.db Applied)

theorem Atomic.observed (h : Atomic H m w Applied) {r : VaultRun Unit}
    (hs : Segment H (m w) r) : AllOrNothing w.db Applied r := by
  have hsafe := safe_segment (Φ := untouched H w.db Applied) rfl h hs
  constructor
  · cases r with
    | done x s =>
      cases x with
      | ok a => exact .inr hsafe
      | error e => exact .inl hsafe
    | sync c s k => exact .inl hsafe.1
    | await q s k => exact .inr hsafe.1
  · intro s hr
    subst hr
    exact hsafe
  · intro e s hr
    subst hr
    exact hsafe

theorem atomic_transaction (h : Body w w m fun _ w' => Applied w'.db) :
    Atomic H (withTransaction m) w Applied := by
  refine safe_transact.mpr ?_
  have key : ∀ (r : VaultRun Unit) {post : World → Except Thrown Unit → World → Prop},
      Safe (bodyContract w) r w post →
      Safe ((untouched H w.db Applied).within (fun old new => new.withDb old.db) w) r w post := by
    intro r post hr
    induction r with
    | done x s => exact hr
    | sync c s k ih => exact ⟨rfl, fun o _ => ih o (hr.2 o trivial)⟩
    | await q s k => exact hr.1.elim
  refine (key _ h).mono ?_
  intro t x s hx
  cases x with
  | ok a => exact hx.2 () rfl
  | error e => rfl

def snapshotted (row : NavSnapshotRow) (db : Db) : Db :=
  { db with navSnapshots :=
      if db.navSnapshots.any fun r => r.ts = row.ts then
        amend NavSnapshotRow.ts row.ts (fun _ => row) db.navSnapshots
      else db.navSnapshots ++ [row] }

def audited (ts : ℤ) (telegramId : Option TelegramId) (event : AuditEvent) (db : Db) : Db :=
  { db with auditLog := db.auditLog ++
      [⟨nextId (db.auditLog.map AuditRow.id), ts, telegramId, event⟩] }

theorem insertNavSnapshot_body {row : NavSnapshotRow} {Q : Unit → World → Prop}
    (hin : Inside w₀ w) (hq : Q () (w.withDb (snapshotted row w.db))) :
    Body w₀ w (insertNavSnapshot row) Q := body_update hin hq

theorem writeAudit_body {ts : ℤ} {telegramId : Option TelegramId} {event : AuditEvent}
    {Q : Unit → World → Prop} (hin : Inside w₀ w)
    (hq : Q () (w.withDb (audited ts telegramId event w.db))) :
    Body w₀ w (writeAudit ts telegramId event) Q := body_update hin hq

/-- Deposit row, mint, snapshot and audit row of a credit. -/
def Credits (p : CreditParams) (db db' : Db) : Prop :=
  ∃ (sharesMinted : ℚ) (id : ℕ) (shares : List ShareRow),
    computeSharesForDeposit p.depositUsd p.navPerShareAtDeposit = .ok sharesMinted ∧
    sharesAfter p.telegramId sharesMinted db = .ok shares ∧
    db' = audited p.now (some p.telegramId)
      (.depositCredited p.inboundTxSig p.depositUsd sharesMinted p.navPerShareAtDeposit)
      (snapshotted ⟨p.now, totalShares { db with shares } * p.navPerShareAtDeposit,
        totalShares { db with shares }, p.navPerShareAtDeposit, .deposit⟩
        { db with shares, deposits := db.deposits ++ [(p.deposit sharesMinted).row id] })

/-- Completed row, burn, snapshot and audit row of a withdrawal. -/
def Completes (now : ℤ) (row : WithdrawalRow) (p : Payout) (txSig : Signature) (db db' : Db) :
    Prop :=
  ∃ (stored : WithdrawalRow) (shares : List ShareRow),
    getWithdrawalById row.id db = some stored ∧
    sharesAfter stored.telegramId (-stored.sharesBurned) db = .ok shares ∧
    db' = audited now (some row.telegramId) (.withdrawalCompleted row.id txSig row.sharesBurned
        row.feeShares p.usdOwed p.navPerShare)
      (snapshotted ⟨now, (totalShares db - p.netShares) * p.navPerShare,
        totalShares { db with shares }, p.navPerShare, .withdrawal⟩
        { updateWithdrawal row.id (Completion.apply
            ⟨row.id, txSig, p.needSol, p.needBert, p.navPerShare, now⟩) db with shares })

/-- User row, first shares, snapshot and audit row of the founding. -/
def Founds (p : BootstrapParams) (db db' : Db) : Prop :=
  ∃ (ms : ℤ) (user : UserRow) (shares : List ShareRow),
    user.telegramId = p.operatorTelegramId ∧
    sharesAfter p.operatorTelegramId p.initialNavUsd { db with users := db.users ++ [user] } =
      .ok shares ∧
    db' = audited ms (some p.operatorTelegramId) (.bootstrap p.initialNavUsd)
      (snapshotted ⟨ms, p.initialNavUsd, p.initialNavUsd, 1, .bootstrap⟩
        { db with users := db.users ++ [user], shares })

theorem creditTransaction_atomic {p : CreditParams} {sharesMinted : ℚ}
    (h : computeSharesForDeposit p.depositUsd p.navPerShareAtDeposit = .ok sharesMinted) :
    Atomic H (creditTransaction p sharesMinted) w (Credits p w.db) := by
  apply atomic_transaction
  have hin := Inside.refl w
  refine Body.bind (creditDeposit_body hin _ fun id shares _ hshares => ?_)
  refine Body.bind (body_readDb (hin.withDb _) ?_)
  refine Body.bind (insertNavSnapshot_body (hin.withDb _) ?_)
  refine writeAudit_body (hin.withDb _) ?_
  exact ⟨sharesMinted, id, shares, h, hshares, rfl⟩

theorem credit_atomic (p : CreditParams) : Atomic H (credit p) w (Credits p w.db) := by
  unfold Atomic credit
  cases h : computeSharesForDeposit p.depositUsd p.navPerShareAtDeposit with
  | error e => exact (rfl : w.db = w.db)
  | ok sharesMinted => exact creditTransaction_atomic h

theorem completeWithdrawal_absent (hin : Inside w₀ w) (c : Completion)
    (hrow : getWithdrawalById c.id w.db = none) {Q : Unit → World → Prop} :
    Body w₀ w (completeWithdrawal c) Q := by
  refine body_transaction (Body.bind (body_readDb hin ?_))
  rw [hrow]
  exact body_throw hin

theorem completion_atomic (now : ℤ) (row : WithdrawalRow) (p : Payout) (txSig : Signature) :
    Atomic H (completion now row p txSig) w (Completes now row p txSig w.db) := by
  unfold Atomic completion
  apply safe_bind.mpr
  rw [safe_readDb, andThen_ok]
  apply atomic_transaction
  have hin := Inside.refl w
  cases hrow : getWithdrawalById row.id w.db with
  | none => exact Body.bind (completeWithdrawal_absent hin _ hrow)
  | some stored =>
    refine Body.bind (completeWithdrawal_body hin _ hrow fun shares hshares => ?_)
    refine Body.bind (body_readDb (hin.withDb _) ?_)
    refine Body.bind (insertNavSnapshot_body (hin.withDb _) ?_)
    refine writeAudit_body (hin.withDb _) ?_
    exact ⟨stored, shares, hrow, hshares, rfl⟩

theorem foundVault_atomic (p : BootstrapParams) (kp : Keypair) (enc : EncryptedBlob) (ms : ℤ) :
    Atomic H (foundVault p kp enc ms) w (Founds p w.db) := by
  apply atomic_transaction
  have hin := Inside.refl w
  refine Body.bind (createUser_body hin _ fun user huser => ?_)
  refine Body.bind (addShares_body (hin.withDb _) _ _ fun shares hshares => ?_)
  refine Body.bind (insertNavSnapshot_body (hin.withDb _) ?_)
  refine writeAudit_body (hin.withDb _) ?_
  exact ⟨ms, user, shares, huser, hshares, rfl⟩

theorem untouched_encryptSecret {plaintext : Bytes}
    {post : World → Except Thrown EncryptedBlob → World → Prop} (hpost : ∀ x, post w x w) :
    Safe (untouched H w.db Applied) (encryptSecret plaintext w) w post := by
  refine ⟨rfl, fun key _ => ?_⟩
  change Safe _ (encrypt plaintext key w) w post
  unfold encrypt
  split
  · exact hpost _
  · exact ⟨rfl, fun iv _ => ⟨rfl, fun out _ => hpost _⟩⟩

theorem runBootstrap_atomic (p : BootstrapParams) :
    Atomic H (runBootstrap ensureAta p) w (Founds p w.db) := by
  unfold Atomic runBootstrap
  refine safe_bind.mpr (safe_now.mpr ⟨rfl, fun ms _ => ?_⟩)
  refine safe_bind.mpr (safe_readDb.mpr ?_)
  rw [andThen_ok, AsyncProgram.ite_apply]
  refine safe_ite.mpr ⟨fun _ => rfl, fun _ => ⟨rfl, fun kp _ => ?_⟩⟩
  change Safe _ ((encryptSecret kp.secretKey >>= fun enc => do
    foundVault p kp enc ms
    ensureAta kp.publicKey) w) w _
  refine safe_bind.mpr (untouched_encryptSecret ?_)
  rintro (e | enc)
  · rfl
  rw [andThen_ok]
  have hfound : Atomic H (foundVault p kp enc ms) w (Founds p w.db) :=
    foundVault_atomic p kp enc ms
  change Safe _ ((foundVault p kp enc ms w).bind fun _ => ensureAta kp.publicKey) w _
  refine safe_bind.mpr (hfound.mono ?_)
  intro t x s hx
  cases x with
  | ok a => exact ⟨hx, fun _ _ hr => hr.elim⟩
  | error e => exact hx

/-- Whatever a statement of theirs throws, and wherever they are stopped, a credit, a
completion and the founding of the vault leave all their writes behind or none. -/
theorem share_writes_atomic (H : VaultHost) (w : World) (r : VaultRun Unit) :
    (∀ p, Segment H (credit p w) r → AllOrNothing w.db (Credits p w.db) r) ∧
    (∀ now row p txSig, Segment H (completion now row p txSig w) r →
      AllOrNothing w.db (Completes now row p txSig w.db) r) ∧
    (∀ p, Segment H (runBootstrap ensureAta p w) r → AllOrNothing w.db (Founds p w.db) r) :=
  ⟨fun p => (credit_atomic p).observed,
    fun now row p txSig => (completion_atomic now row p txSig).observed,
    fun p => (runBootstrap_atomic p).observed⟩

open PlayedRuns

/-- A store that is full when the audit row comes. -/
def fullStore : Scene where
  clock := 0
  faults st _ := match st with
    | .writeAudit _ => some (.error "disk full")
    | _ => none

def oneHolder : World :=
  ⟨{ Db.empty with users := [⟨2, .depositor, "holder", ⟨[], []⟩, none, none, none, none, none, 0, 0⟩] },
    Memory.fresh, oneSol, [], []⟩

def oneSolDeposit : CreditParams :=
  ⟨2, "inbound", txSig "sweep" sweep_ne, 1000000000, 0, plainMid, 1, 0, 0, 0⟩

def thrownCredit : VaultRun Unit := fullStore.script.settle (credit oneSolDeposit oneHolder)

theorem thrownCredit_segment : Segment fullStore.host (credit oneSolDeposit oneHolder) thrownCredit := by
  let S : System Unit vaultInterface World Thrown := ⟨fun _ _ => True, fullStore.host, id⟩
  have hallowed : Episode.Allowed S (fun _ _ => true) ⟨credit oneSolDeposit, fullStore.script⟩ :=
    ⟨⟨(), trivial⟩, fullStore.follows⟩
  exact settle_segment hallowed (Script.meets_any _ _)

theorem share_writes_atomic_thrown : thrownCredit.state.faults.length = 1 ∧
    thrownCredit.state.db.deposits = [] ∧
    AllOrNothing oneHolder.db (Credits oneSolDeposit oneHolder.db) thrownCredit :=
  ⟨by decide +kernel, by decide +kernel,
    (share_writes_atomic fullStore.host oneHolder thrownCredit).1 oneSolDeposit
      thrownCredit_segment⟩

end AtomicWrites
