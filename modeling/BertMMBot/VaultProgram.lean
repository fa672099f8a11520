import BertMMBot.VaultTypes

/-! # Programs of the vault

The state they share, the monad they are written in, and SQL statements as synchronous
points at which the host may make the store throw. The trace and the thrown statements are
ghost data, newest first: no program reads them. -/
namespace VaultProgram

open AsyncProgram AsyncContract VaultTypes

structure World where
  db : Db
  memory : Memory
  chain : Chain
  trace : List TraceEvent
  faults : List Stmt

def vaultInterface : Interface := ⟨Choice, Choice.Outcome, Query, Query.Reply⟩

abbrev Vault := Async vaultInterface World Thrown
abbrev VaultRun := Run vaultInterface World Thrown
abbrev VaultContract := Contract vaultInterface World Thrown
abbrev VaultHost := Host vaultInterface World Thrown

namespace World

def withDb (w : World) (db : Db) : World := { w with db }

def withMemory (w : World) (memory : Memory) : World := { w with memory }

def record (w : World) (e : TraceEvent) : World := { w with trace := e :: w.trace }

def fault (w : World) (st : Stmt) : World := { w with faults := st :: w.faults }

/-- A new process finds the database and the chain. -/
def restart (w : World) : World := { w with memory := Memory.fresh, trace := .stop :: w.trace }

def initial (chain : Chain) : World := ⟨Db.empty, Memory.fresh, chain, [], []⟩

@[simp] theorem withDb_db (w : World) (db : Db) : (w.withDb db).db = db := rfl
@[simp] theorem withDb_memory (w : World) (db : Db) : (w.withDb db).memory = w.memory := rfl
@[simp] theorem withDb_chain (w : World) (db : Db) : (w.withDb db).chain = w.chain := rfl
@[simp] theorem withDb_trace (w : World) (db : Db) : (w.withDb db).trace = w.trace := rfl
@[simp] theorem withDb_faults (w : World) (db : Db) : (w.withDb db).faults = w.faults := rfl
@[simp] theorem withMemory_db (w : World) (m : Memory) : (w.withMemory m).db = w.db := rfl
@[simp] theorem withMemory_memory (w : World) (m : Memory) : (w.withMemory m).memory = m := rfl
@[simp] theorem withMemory_chain (w : World) (m : Memory) : (w.withMemory m).chain = w.chain := rfl
@[simp] theorem withMemory_trace (w : World) (m : Memory) : (w.withMemory m).trace = w.trace := rfl
@[simp] theorem withMemory_faults (w : World) (m : Memory) : (w.withMemory m).faults = w.faults := rfl
@[simp] theorem record_db (w : World) (e : TraceEvent) : (w.record e).db = w.db := rfl
@[simp] theorem record_memory (w : World) (e : TraceEvent) : (w.record e).memory = w.memory := rfl
@[simp] theorem record_chain (w : World) (e : TraceEvent) : (w.record e).chain = w.chain := rfl
@[simp] theorem record_trace (w : World) (e : TraceEvent) : (w.record e).trace = e :: w.trace := rfl
@[simp] theorem record_faults (w : World) (e : TraceEvent) : (w.record e).faults = w.faults := rfl
@[simp] theorem fault_db (w : World) (st : Stmt) : (w.fault st).db = w.db := rfl
@[simp] theorem fault_memory (w : World) (st : Stmt) : (w.fault st).memory = w.memory := rfl
@[simp] theorem fault_chain (w : World) (st : Stmt) : (w.fault st).chain = w.chain := rfl
@[simp] theorem fault_trace (w : World) (st : Stmt) : (w.fault st).trace = w.trace := rfl
@[simp] theorem fault_faults (w : World) (st : Stmt) : (w.fault st).faults = st :: w.faults := rfl
@[simp] theorem restart_db (w : World) : w.restart.db = w.db := rfl
@[simp] theorem restart_memory (w : World) : w.restart.memory = Memory.fresh := rfl
@[simp] theorem restart_chain (w : World) : w.restart.chain = w.chain := rfl
@[simp] theorem restart_trace (w : World) : w.restart.trace = .stop :: w.trace := rfl
@[simp] theorem restart_faults (w : World) : w.restart.faults = w.faults := rfl

end World

/-- Reading a property of an absent result. -/
def typeError (property : String) : Thrown :=
  .error s!"Cannot read properties of null (reading '{property}')"

variable {α : Type}

def nonNull (property : String) : Option α → Vault α
  | some a => pure a
  | none => throw (typeError property)

def readDb (f : Db → α) : Vault α := Async.read fun w => f w.db

def readMemory (f : Memory → α) : Vault α := Async.read fun w => f w.memory

def modifyMemory (f : Memory → Memory) : Vault Unit :=
  Async.modify fun w => w.withMemory (f w.memory)

def record (e : TraceEvent) : Vault Unit := Async.modify fun w => w.record e

def now : Vault ℤ := Async.choose (I := vaultInterface) Choice.clock

def generateKeypair : Vault Keypair := Async.choose (I := vaultInterface) Choice.generateKeypair

def generateSecret : Vault String := Async.choose (I := vaultInterface) Choice.generateSecret

/-- `Keypair.fromSecretKey`, which checks the key it is given. -/
def fromSecretKey (secretKey : Bytes) : Vault Keypair := do
  let r : Except Thrown Keypair ←
    Async.choose (I := vaultInterface) (Choice.fromSecretKey secretKey)
  liftExcept r

/-- The step offset at which a code is valid for a secret, within the accepted window. -/
def totpValidate (secret code : String) : Vault (Option ℤ) :=
  Async.choose (I := vaultInterface) (Choice.totpValidate secret code)

def isPublicKey (address : String) : Vault Bool :=
  Async.choose (I := vaultInterface) (Choice.publicKey address)

/-- The effect of a statement that runs. -/
def execute (f : Db → Except Thrown (α × Db)) : Vault α :=
  Async.attempt fun w =>
    match f w.db with
    | .ok (a, db) => .ok (a, w.withDb db)
    | .error e => .error e

def afterStatement (st : Stmt) (f : Db → Except Thrown (α × Db)) : Option Thrown → Vault α
  | some e => do Async.modify (World.fault · st); throw e
  | none => execute f

/-- A statement that the host lets run, or makes throw before it has any effect. -/
def statement (st : Stmt) (f : Db → Except Thrown (α × Db)) : Vault α :=
  Async.choose (I := vaultInterface) (Choice.statement st) >>= afterStatement st f

/-- A statement without constraints of its own. -/
def update (st : Stmt) (f : Db → Db) : Vault Unit :=
  statement st fun db => .ok ((), f db)

def withTransaction (m : Vault α) : Vault α :=
  Async.transaction (fun old new => new.withDb old.db) m

section Rules

variable {Φ : VaultContract} {w t : World} {post : World → Except Thrown α → World → Prop}

@[simp] theorem safe_readDb {f : Db → α} :
    Safe Φ (readDb f w) t post ↔ post t (.ok (f w.db)) w := Iff.rfl

@[simp] theorem safe_readMemory {f : Memory → α} :
    Safe Φ (readMemory f w) t post ↔ post t (.ok (f w.memory)) w := Iff.rfl

@[simp] theorem safe_nonNull_some {property : String} {a : α} :
    Safe Φ (nonNull property (some a) w) t post ↔ post t (.ok a) w := Iff.rfl

@[simp] theorem safe_nonNull_none {property : String} :
    Safe Φ (nonNull property (none : Option α) w) t post ↔
      post t (.error (typeError property)) w := Iff.rfl

theorem safe_execute {f : Db → Except Thrown (α × Db)} :
    Safe Φ (execute f w) t post ↔
      (∀ a db, f w.db = .ok (a, db) → post t (.ok a) (w.withDb db)) ∧
        (∀ e, f w.db = .error e → post t (.error e) w) := by
  simp only [execute, Async.attempt]
  rcases hf : f w.db with e | ⟨a, db⟩ <;> simp

/-- A statement either throws and changes nothing, or has its effect at once. -/
theorem safe_statement {st : Stmt} {f : Db → Except Thrown (α × Db)} :
    Safe Φ (statement st f w) t post ↔ Φ.stop t w ∧
      (∀ e, Φ.choose (.statement st) w (some e) → post t (.error e) (w.fault st)) ∧
      (Φ.choose (.statement st) w none →
        (∀ a db, f w.db = .ok (a, db) → post t (.ok a) (w.withDb db)) ∧
          (∀ e, f w.db = .error e → post t (.error e) w)) := by
  have hbind : Safe Φ (statement st f w) t post ↔ Φ.stop t w ∧
      ∀ o : Option Thrown, Φ.choose (.statement st) w o →
        Safe Φ (afterStatement st f o w) t post := Iff.rfl
  rw [hbind]
  refine and_congr_right fun _ => ⟨fun h => ⟨fun e he => h (some e) he, fun ho => ?_⟩, ?_⟩
  · exact safe_execute.mp (h none ho)
  · rintro ⟨hs, hn⟩ (_ | e) ho
    · exact safe_execute.mpr (hn ho)
    · exact hs e ho

end Rules

section UpdateRule

variable {Φ : VaultContract} {w t : World} {post : World → Except Thrown Unit → World → Prop}

theorem safe_update {st : Stmt} {f : Db → Db} :
    Safe Φ (update st f w) t post ↔ Φ.stop t w ∧
      (∀ e, Φ.choose (.statement st) w (some e) → post t (.error e) (w.fault st)) ∧
      (Φ.choose (.statement st) w none → post t (.ok ()) (w.withDb (f w.db))) := by
  rw [update, safe_statement]
  refine and_congr_right fun _ => and_congr_right fun _ => forall_congr' fun _ => ?_
  constructor
  · rintro ⟨h, -⟩
    exact h () _ rfl
  · intro h
    refine ⟨?_, by simp⟩
    rintro ⟨⟩ db hdb
    cases hdb
    exact h

@[simp] theorem safe_modifyMemory {f : Memory → Memory} :
    Safe Φ (modifyMemory f w) t post ↔ post t (.ok ()) (w.withMemory (f w.memory)) := Iff.rfl

@[simp] theorem safe_record {e : TraceEvent} :
    Safe Φ (record e w) t post ↔ post t (.ok ()) (w.record e) := Iff.rfl

end UpdateRule

@[simp] theorem safe_now {Φ : VaultContract} {w t : World}
    {post : World → Except Thrown ℤ → World → Prop} :
    Safe Φ (now w) t post ↔
      Φ.stop t w ∧ ∀ ms : ℤ, Φ.choose .clock w ms → post t (.ok ms) w := Iff.rfl

end VaultProgram
