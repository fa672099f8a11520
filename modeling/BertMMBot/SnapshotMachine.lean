import BertMMBot.DepositorParts
import BertMMBot.JournalStore
import BertMMBot.OperatorBounds
import BertMMBot.RecordedOutcomes
import BertMMBot.SnapshotConsistency

/-! # Who writes snapshots, and at which price

The founding of the vault, a credit and a completed withdrawal write a snapshot together with
the shares that it counts; nothing else touches either table. A credit is priced by the
snapshot that was the latest when it began. -/
namespace SnapshotMachine

open AsyncProgram AsyncContract AsyncFibers AsyncRecords AsyncWiring AsyncParts
open RecordedTriples RecordedOutcomes KeyedTable VaultTypes VaultProgram DepositorStore ShareMath
open WithdrawalExecutor DepositPipeline AccountSecurity DepositorCommands OperatorCommands
open DepositorParts AtomicWrites VaultJournal
open SnapshotConsistency (mem_snapshotted_self)
open VaultRuntime (BotConfig commandsDeps commanderDeps pipelineDeps watcherDeps lastMid)
open VaultDiscipline (Environment)
open LedgerMachine (Fiber)
open MeteoraPosition (Venue)

variable {venue : Venue} {cfg : BotConfig} {env : Environment} {i : Fiber} {w w' : World}
  {h newer older : Journal} {p q : JournalPoint} {e : Line} {row : NavSnapshotRow} {db db' : Db}
  {msg : Msg} {α β : Type}

/-- The snapshots, the shares, and whether there are users yet. -/
def tables (db : Db) : List NavSnapshotRow × List ShareRow × Bool :=
  (db.navSnapshots, db.shares, db.users.isEmpty)

def Owned (db : Db) : Prop := db.users = [] → db.shares = []

/-- The latest snapshot counts the shares there are. -/
def Agrees (db : Db) : Prop :=
  ∀ row, latestNavSnapshot db = some row → row.totalShares = totalShares db

/-- Where a snapshot goes into the table, none is later. -/
def InTime : Line → Prop
  | .choice _ (Choice.statement (.insertNavSnapshot ts)) w _ => ∀ r ∈ w.db.navSnapshots, r.ts ≤ ts
  | _ => True

def Timely (h : Journal) : Prop := ∀ e ∈ h, InTime e

def JustSnapshot (i : Fiber) (h : Journal) : Prop :=
  ∃ ts w older, h = .choice i (Choice.statement (.insertNavSnapshot ts)) w (none : Option Thrown) ::
    older

/-- A credit, as its audit row tells it, and the state in which it was made. -/
structure Credit where
  world : World
  inboundTxSig : String
  depositUsd : ℚ
  sharesMinted : ℚ
  navPerShare : ℚ

def Credit.line (c : Credit) (i : Fiber) (o : Option Thrown) : Line :=
  .choice i (Choice.statement (.writeAudit (.depositCredited c.inboundTxSig c.depositUsd
    c.sharesMinted c.navPerShare))) c.world o

/-- The audit row comes right after the snapshot. -/
def Credited (h : Journal) (c : Credit) : Prop :=
  ∃ newer older i o, h = newer ++ c.line i o :: older ∧ JustSnapshot i older

/-- The price is the value of the latest snapshot over the shares, and the mid the last one
observed. -/
structure Quoted (c : Credit) : Prop where
  price : c.navPerShare = snapshotNavPerShare c.world.db
  minted : computeSharesForDeposit c.depositUsd c.navPerShare = .ok c.sharesMinted
  valued : ∃ mid sol bert, lastMid c.world.memory = some mid ∧
    c.depositUsd = tokenUsd mid (sol : ℕ) (bert : ℕ)

def Guarded (h : Journal) (e : Line) : Prop :=
  ∀ c i o, e = Credit.line c i o → JustSnapshot i h → Quoted c

/-- A snapshot goes in together with the shares that it counts, after a line of its own. -/
structure Writes (row : NavSnapshotRow) (w w' : World) (h : Journal) : Prop where
  line : ∃ i w₀ o, Entry.choice i (Choice.statement (.insertNavSnapshot row.ts)) w₀ o ∈ h ∧
    w₀.db.navSnapshots = w.db.navSnapshots
  snapshots : w'.db.navSnapshots = (snapshotted row w.db).navSnapshots
  counted : row.totalShares = totalShares w'.db
  users : w'.db.users ≠ []

inductive Act : Fiber → JournalPoint → JournalPoint → Prop where
  | tell {i : Fiber} {w : World} {h : Journal} (e : Line) : e.fiber = some i → Guarded h e →
      Act i (w, h) (w, e :: h)
  | aside {i : Fiber} {w w' : World} {h : Journal} : tables w'.db = tables w.db →
      Act i (w, h) (w', h)
  | enter {i : Fiber} {w w' : World} {h : Journal} : w'.db.navSnapshots = w.db.navSnapshots →
      w'.db.shares = w.db.shares → w'.db.users ≠ [] → Act i (w, h) (w', h)
  | write {i : Fiber} {w w' : World} {h : Journal} (row : NavSnapshotRow) : Writes row w w' h →
      Act i (w, h) (w', h)

structure Sound (p : JournalPoint) : Prop where
  owned : Owned p.1.db
  quoted : ∀ c, Credited p.2 c → Quoted c
  agrees : Timely p.2 → Agrees p.1.db

theorem agrees_congr (hsnapshots : db'.navSnapshots = db.navSnapshots)
    (hshares : db'.shares = db.shares) (h : Agrees db) : Agrees db' := by
  unfold Agrees latestNavSnapshot totalShares at h ⊢
  rw [hsnapshots, hshares]
  exact h

theorem sound_tables (hsame : tables w'.db = tables w.db) (hp : Sound (w, h)) : Sound (w', h) := by
  unfold tables at hsame
  simp only [Prod.mk.injEq] at hsame
  obtain ⟨hsnapshots, hshares, husers⟩ := hsame
  constructor
  · intro hnone
    rw [hnone] at husers
    exact hshares.trans (hp.owned (List.isEmpty_iff.mp husers.symm))
  · exact hp.quoted
  · intro ht
    exact agrees_congr hsnapshots hshares (hp.agrees ht)

theorem users_of_sharesAfter {u : TelegramId} {delta : ℚ} {shares : List ShareRow}
    (hown : Owned db) (h : sharesAfter u delta db = .ok shares) : db.users ≠ [] := by
  intro hnone
  unfold sharesAfter at h
  rw [hown hnone, hnone] at h
  cases h

theorem latest_snapshotted (hts : ∀ r ∈ db.navSnapshots, r.ts ≤ row.ts) :
    latestNavSnapshot (snapshotted row db) = some row := by
  -- the other rows are older
  have hothers : ∀ r ∈ (snapshotted row db).navSnapshots, r = row ∨ r.ts < row.ts := by
    unfold snapshotted
    dsimp only
    split
    · intro r hr
      obtain ⟨old, hold, rfl⟩ := List.mem_map.mp hr
      by_cases heq : old.ts = row.ts
      · rw [if_pos heq]
        exact .inl rfl
      · rw [if_neg heq]
        exact .inr (lt_of_le_of_ne (hts old hold) heq)
    · next hany =>
      intro r hr
      rcases List.mem_append.mp hr with hold | hnew
      · refine .inr (lt_of_le_of_ne (hts r hold) ?_)
        intro heq
        exact hany (List.any_eq_true.mpr ⟨r, hold, decide_eq_true heq⟩)
      · exact .inl (List.mem_singleton.mp hnew)
  cases hlatest : latestNavSnapshot (snapshotted row db) with
  | none =>
    have hself : row ∈ (snapshotted row db).navSnapshots := mem_snapshotted_self
    rw [List.argmax_eq_none.mp hlatest] at hself
    cases hself
  | some r =>
    have hle : row.ts ≤ r.ts := List.le_of_mem_argmax mem_snapshotted_self hlatest
    rcases hothers r (List.argmax_mem hlatest) with rfl | hlt
    · rfl
    · omega

theorem timely_older (ht : Timely (e :: h)) : Timely h :=
  fun x hx => ht x (List.mem_cons_of_mem e hx)

theorem credited_cons {c : Credit} (hc : Credited (e :: h) c) :
    Credited h c ∨ ∃ i o, e = c.line i o ∧ JustSnapshot i h := by
  obtain ⟨newer, older, i, o, heq, hjust⟩ := hc
  cases newer with
  | nil =>
    obtain ⟨rfl, rfl⟩ := List.cons.inj heq
    exact .inr ⟨i, o, rfl, hjust⟩
  | cons x newer =>
    obtain ⟨rfl, rfl⟩ := List.cons.inj heq
    exact .inl ⟨newer, older, i, o, rfl, hjust⟩

theorem addShares_users {u : TelegramId} {delta : ℚ}
    (hdb : (sharesAfter u delta db).map (fun shares => ((), { db with shares })) = .ok ((), db'))
    (hown : Owned db) :
    ∃ shares, sharesAfter u delta db = .ok shares ∧ db' = { db with shares } ∧ db.users ≠ [] := by
  cases hs : sharesAfter u delta db with
  | error e =>
    rw [hs] at hdb
    cases hdb
  | ok shares =>
    rw [hs] at hdb
    cases hdb
    exact ⟨shares, rfl, rfl, users_of_sharesAfter hown hs⟩

theorem sound_line (hp : Sound (w, h)) (hg : Guarded h e) : Sound (w, e :: h) where
  owned := hp.owned
  quoted := by
    intro c hc
    rcases credited_cons hc with hold | ⟨i, o, rfl, hjust⟩
    · exact hp.quoted c hold
    · exact hg c i o rfl hjust
  agrees ht := hp.agrees (timely_older ht)

theorem act_sound (hp : Sound p) (ha : Act i p q) : Sound q := by
  obtain ⟨w, h⟩ := p
  cases ha with
  | tell e _ hg => exact sound_line hp hg
  | aside hsame => exact sound_tables hsame hp
  | enter hsnapshots hshares husers =>
    exact ⟨fun hnone => absurd hnone husers, hp.quoted,
      fun ht => agrees_congr hsnapshots hshares (hp.agrees ht)⟩
  | write row hw =>
    refine ⟨fun hnone => absurd hnone hw.users, hp.quoted, ?_⟩
    intro ht r hr
    obtain ⟨j, w₀, o, hmem, hsame⟩ := hw.line
    have hts : ∀ r ∈ w.db.navSnapshots, r.ts ≤ row.ts := by
      rw [← hsame]
      exact ht _ hmem
    have hlatest := latest_snapshotted hts
    unfold latestNavSnapshot at hr hlatest
    rw [hw.snapshots, hlatest] at hr
    cases hr
    exact hw.counted

theorem tables_quiet (hq : VaultDiscipline.Quiet w w') : tables w'.db = tables w.db := by
  unfold tables
  rw [hq.navSnapshots, hq.shares, hq.users]

def snapshotMachine (env : Environment) : Machine Job vaultInterface World Thrown Fiber env.host where
  act := Act
  inv := Sound
  act_inv := act_sound
  respond_inv hp hr := sound_tables (tables_quiet (env.quiet hr)) hp

def Away (i : Fiber) (p : JournalPoint) : Prop := ¬JustSnapshot i p.2

def plain : Choice → Prop
  | .statement (.insertNavSnapshot _) => False
  | _ => True

def tableBounds : Bounds vaultInterface World (List NavSnapshotRow × List ShareRow × Bool) where
  choice := plain
  call _ := True
  view w := tables w.db

theorem told (he : e.fiber = some i) (hg : Guarded h e) :
    (snapshotMachine env).Acts i (w, h) (w, e :: h) := .single (.tell e he hg)

theorem away_other {j : Fiber} (he : e.fiber = some j) (hj : i ≠ j) : Away i (w, e :: h) := by
  rintro ⟨ts, w₀, older, heq⟩
  obtain ⟨rfl, -⟩ := List.cons.inj heq
  exact hj (Option.some.inj he)

theorem away_choice {c : Choice} {o : c.Outcome} (hc : plain c) :
    Away i (w, .choice i c w' o :: h) := by
  rintro ⟨ts, w₀, older, heq⟩
  obtain ⟨hline, -⟩ := List.cons.inj heq
  cases hline
  exact hc

theorem away_thrown {st : Stmt} {x : Thrown} :
    Away i (w, .choice i (Choice.statement st) w' (some x : Option Thrown) :: h) := by
  rintro ⟨ts, w₀, older, heq⟩
  obtain ⟨hline, -⟩ := List.cons.inj heq
  cases hline

theorem away_guarded (ha : Away i (w, h)) (he : e.fiber = some i) : Guarded h e := by
  rintro c j o rfl hjust
  cases he
  exact absurd hjust ha

theorem away_admits : Admits (snapshotMachine env) i tableBounds (Away i) where
  local_ hview _ ha := ⟨.single (.aside hview), ha⟩
  choice hc _ _ ha := ⟨told rfl (away_guarded ha rfl), away_choice hc⟩
  call := by
    intro q s h _ _ ha
    refine ⟨told rfl (away_guarded ha rfl), ?_⟩
    rintro ⟨ts, w₀, older, heq⟩
    cases heq
  answer := by
    intro q a s h _ _ ha
    refine ⟨told rfl (away_guarded ha rfl), ?_⟩
    rintro ⟨ts, w₀, older, heq⟩
    cases heq
  rely := by
    intro p q hd ha
    cases hd with
    | answer => exact ha
    | other hj hact =>
      cases hact with
      | tell e he => exact away_other he hj
      | aside => exact ha
      | enter => exact ha
      | write => exact ha

/-- The program keeps to the machine and does not end in the middle of a write. -/
abbrev Watched (env : Environment) (i : Fiber) (m : Vault α) : Prop :=
  Keeps (snapshotMachine env) i (Away i) m

theorem watched_within {x : Prop} {m : Vault α} (hm : Within tableBounds x m) :
    Watched env i m := triple_within away_admits hm

section Within

variable {x : Prop}

theorem within_statement {st : Stmt} {f : Db → Except Thrown (α × Db)}
    (hst : plain (.statement st)) (hf : ∀ db a db', f db = .ok (a, db') → tables db' = tables db) :
    Within tableBounds x (statement st f) :=
  OperatorBounds.within_statement (fun _ _ => rfl) hst fun w a db hdb => hf w.db a db hdb

theorem within_update {st : Stmt} {f : Db → Db} (hst : plain (.statement st))
    (hf : ∀ db, tables (f db) = tables db) : Within tableBounds x (update st f) := by
  apply within_statement hst
  intro db a db' hdb
  cases hdb
  exact hf db

theorem roomy_tables : OperatorBounds.Roomy tableBounds :=
  ⟨trivial, fun _ _ => trivial, fun _ => trivial, fun _ _ => rfl, fun _ _ => rfl⟩

theorem within_withTransaction {m : Vault α} (hm : Within tableBounds False m) :
    Within tableBounds x (withTransaction m) :=
  within_transaction (fun _ _ _ => rfl) hm

theorem within_choice {c : Choice} (hc : plain c) :
    Within tableBounds x (Async.choose (I := vaultInterface) c : Vault c.Outcome) :=
  within_choose hc

theorem within_now : Within tableBounds x now := within_choice trivial

theorem within_writeAudit (ms : ℤ) (u : Option TelegramId) (event : AuditEvent) :
    Within tableBounds x (writeAudit ms u event) :=
  OperatorBounds.within_writeAudit roomy_tables _ _ _

theorem within_record (event : TraceEvent) : Within tableBounds x (record event) :=
  within_modify fun _ => rfl

theorem within_nonNull (property : String) (a : Option α) :
    Within tableBounds x (nonNull property a) := by
  cases a with
  | none => exact within_throw _
  | some a => exact within_pure a

theorem within_liftExcept (r : Except Thrown α) :
    Within tableBounds x (liftExcept r : Vault α) := by
  cases r with
  | ok a => exact within_pure a
  | error e => exact within_throw e

theorem within_query (q : Query) :
    Within tableBounds True (Async.call (I := vaultInterface) q : Vault q.Reply) :=
  within_call trivial trivial

theorem within_getMid : Within tableBounds x VaultRuntime.getMid :=
  within_bind (within_choice trivial) fun _ => within_read _

theorem within_setFlag (name value : String) : Within tableBounds x (setFlag name value) := by
  have hst : plain (.statement (.setFlag name)) := trivial
  exact within_update hst fun _ => rfl

theorem within_failWithdrawal (id : ℕ) (reason : String) (processedAt : ℤ) :
    Within tableBounds x (failWithdrawal id reason processedAt) := by
  have hst : plain (.statement (.failWithdrawal id)) := trivial
  exact within_update hst fun _ => rfl

end Within

variable {t : JournalPoint} {st : Stmt} {f : Db → Except Thrown (α × Db)}
  {B : α → JournalPoint → Prop} {params : CreditParams}

def runLine (i : Fiber) (st : Stmt) (w : World) : Line :=
  .choice i (Choice.statement st) w (none : Option Thrown)

abbrev Staged (env : Environment) (i : Fiber) (t : JournalPoint) (w : World)
    (B : α → JournalPoint → Prop) (r : VaultRun α) (h : Journal) : Prop :=
  Body (snapshotMachine env) i (fun old new => new.withDb old.db) w t B
    (fun p => (snapshotMachine env).Kept i t p ∧ Away i p) r h

theorem staged_bind {m : Vault α} {k : α → Vault β} {C : β → JournalPoint → Prop}
    (hm : Staged env i t w (fun a p => Staged env i t w C (k a p.1) p.2) (m w') h) :
    Staged env i t w C ((m >>= k) w') h := body_bind hm

theorem staged_readDb {g : Db → α} (hb : B (g w'.db) (w', h)) :
    Staged env i t w B (readDb g w') h := hb

theorem staged_transaction {m : Vault α} (hm : Staged env i t w B (m w') h) :
    Staged env i t w B (withTransaction m w') h := body_transact (fun _ => rfl) hm

theorem staged_statement (hk : (snapshotMachine env).Kept i t (w, h))
    (hg : ∀ o, Guarded h (.choice i (Choice.statement st) w o))
    (herror : ∀ x, f db = .error x → plain (.statement st))
    (hok : ∀ a db', f db = .ok (a, db') →
      (snapshotMachine env).Kept i t (w, runLine i st w :: h) →
      B a (w.withDb db', runLine i st w :: h)) :
    Staged env i t w B (statement st f (w.withDb db)) h := by
  refine ⟨hk, ?_⟩
  intro (o : Option Thrown) _
  have htold : (snapshotMachine env).Kept i t (w, .choice i (Choice.statement st) w o :: h) :=
    hk.more (told rfl (hg o))
  cases o with
  | some x => exact ⟨htold.act (.aside rfl), away_thrown⟩
  | none =>
    change Staged env i t w B (execute f (w.withDb db)) _
    simp only [execute, Async.attempt, World.withDb_db]
    rcases hdb : f db with x | ⟨a, db'⟩
    · exact ⟨htold, away_choice (herror x hdb)⟩
    · exact hok a db' hdb htold

theorem staged_update {g : Db → Db} {B : Unit → JournalPoint → Prop}
    (hk : (snapshotMachine env).Kept i t (w, h))
    (hg : ∀ o, Guarded h (.choice i (Choice.statement st) w o))
    (hok : (snapshotMachine env).Kept i t (w, runLine i st w :: h) →
      B () (w.withDb (g db), runLine i st w :: h)) :
    Staged env i t w B (update st g (w.withDb db)) h := by
  apply staged_statement hk hg
  · intro x hx
    cases hx
  · intro a db' hdb hk
    cases hdb
    exact hok hk

structure Priced (params : CreditParams) (w : World) : Prop where
  price : params.navPerShareAtDeposit = snapshotNavPerShare w.db
  mid : lastMid w.memory = some params.mid

theorem creditTransaction_writes {minted : ℚ}
    (hminted : computeSharesForDeposit params.depositUsd params.navPerShareAtDeposit = .ok minted) :
    Triple (snapshotMachine env) i (fun p => Priced params p.1 ∧ Away i p)
      (creditTransaction params minted) (fun _ => Away i) (Away i) := by
  apply triple_transaction
  rintro t w h hk ⟨hpriced, haway⟩
  apply staged_bind
  apply staged_transaction
  apply staged_bind
  refine staged_statement hk (fun o => away_guarded haway rfl) (fun _ _ => trivial) ?_
  intro id db hdb hk
  obtain ⟨-, rfl⟩ := JournalStore.insertDeposit_ok hdb
  apply staged_bind
  refine staged_statement hk (fun o => away_guarded (w := w) (away_choice trivial) rfl)
    (fun _ _ => trivial) ?_
  intro _ db hdb hk
  obtain ⟨shares, -, rfl, husers⟩ := addShares_users hdb hk.inv.owned
  apply staged_bind
  apply staged_readDb
  apply staged_bind
  refine staged_update hk (fun o => away_guarded (w := w) (away_choice trivial) rfl) ?_
  intro hk
  refine staged_update hk ?_ ?_
  · intro o c j o' heq _
    cases c
    cases heq
    exact ⟨hpriced.price, hminted, params.mid, _, _, hpriced.mid, rfl⟩
  · intro hk
    exact ⟨hk.act (.write _ ⟨⟨i, w, _, List.mem_cons_of_mem _ (List.mem_cons_self ..), rfl⟩,
      rfl, rfl, husers⟩), away_choice trivial⟩

theorem credit_writes : Triple (snapshotMachine env) i (fun p => Priced params p.1 ∧ Away i p)
    (credit params) (fun _ => Away i) (Away i) := by
  apply Triple.bind (B := fun minted p =>
    computeSharesForDeposit params.depositUsd params.navPerShareAtDeposit = .ok minted ∧
      Priced params p.1 ∧ Away i p)
  · cases computeSharesForDeposit params.depositUsd params.navPerShareAtDeposit with
    | ok minted => exact triple_pure fun p hp => ⟨rfl, hp⟩
    | error e => exact triple_throw fun p hp => hp.2
  · intro minted
    exact triple_of_fact creditTransaction_writes

theorem completion_watched (ms : ℤ) (row : WithdrawalRow) (p : Payout) (txSig : Signature) :
    Watched env i (completion ms row p txSig) := by
  apply Keeps.bind keeps_read
  intro totalSharesBefore
  apply triple_transaction
  intro t w h hk haway
  apply staged_bind
  apply staged_transaction
  apply staged_bind
  apply staged_readDb
  cases getWithdrawalById row.id w.db with
  | none => exact ⟨hk, haway⟩
  | some stored =>
    apply staged_bind
    refine staged_update hk (fun o => away_guarded haway rfl) ?_
    intro hk
    refine staged_statement hk (fun o => away_guarded (w := w) (away_choice trivial) rfl)
      (fun _ _ => trivial) ?_
    intro _ db hdb hk
    obtain ⟨shares, -, rfl, husers⟩ := addShares_users hdb hk.inv.owned
    apply staged_bind
    apply staged_readDb
    apply staged_bind
    refine staged_update hk (fun o => away_guarded (w := w) (away_choice trivial) rfl) ?_
    intro hk
    refine staged_update hk ?_ ?_
    · intro o c j o' heq _
      cases heq
    · intro hk
      exact ⟨hk.act (.write _ ⟨⟨i, w, _, List.mem_cons_of_mem _ (List.mem_cons_self ..), rfl⟩,
        rfl, rfl, husers⟩), away_choice trivial⟩

theorem foundVault_watched (b : VaultRuntime.BootstrapParams) (kp : Keypair) (enc : EncryptedBlob)
    (ms : ℤ) : Triple (snapshotMachine env) i (fun p => p.1.db.users = [] ∧ Away i p)
      (VaultRuntime.foundVault b kp enc ms) (fun _ => Away i) (Away i) := by
  apply triple_transaction
  rintro t w h hk ⟨hnone, haway⟩
  have hshares : w.db.shares = [] := hk.inv.owned hnone
  apply staged_bind
  refine staged_statement hk (fun o => away_guarded haway rfl) (fun _ _ => trivial) ?_
  intro _ db hdb hk
  split at hdb
  · cases hdb
  cases hdb
  apply staged_bind
  refine staged_statement hk (fun o => away_guarded (w := w) (away_choice trivial) rfl)
    (fun _ _ => trivial) ?_
  intro _ db hdb hk
  rw [sharesAfter, hshares] at hdb
  split at hdb
  · next hfound => cases hfound
  split at hdb
  · cases hdb
    apply staged_bind
    refine staged_update hk (fun o => away_guarded (w := w) (away_choice trivial) rfl) ?_
    intro hk
    refine staged_update hk ?_ ?_
    · intro o c j o' heq _
      cases heq
    · intro hk
      refine ⟨hk.act (.write _ ⟨⟨i, w, _, List.mem_cons_of_mem _ (List.mem_cons_self ..), rfl⟩,
        rfl, ?_, ?_⟩), away_choice trivial⟩
      · simp [totalShares]
      · simp
  · cases hdb

end SnapshotMachine
