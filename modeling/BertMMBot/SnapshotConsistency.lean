import BertMMBot.AtomicWrites
import BertMMBot.ShareConservation

/-! # What a snapshot says of a share

A snapshot gives the price of a share twice: as a column of its own, and as value over shares.
The founding of the vault and a credit write both alike. A withdrawal writes the value without
the net shares beside the number of shares without the burned ones: its two prices differ by
what the fee is worth. -/
namespace SnapshotConsistency

open AsyncProgram AsyncContract AsyncFibers VaultTypes VaultProgram KeyedTable DepositorStore
open ShareMath WithdrawalExecutor DepositPipeline VaultRuntime AtomicWrites

/-- Both prices of a share are the same. -/
def Consistent (r : NavSnapshotRow) : Prop := r.navPerShare * r.totalShares = r.totalValueUsd

/-- What a completion is about: the withdrawal in hand and what it is paid. -/
structure Paid where
  now : ℤ
  row : WithdrawalRow
  payout : Payout
  txSig : Signature

inductive Writer where
  | bootstrap (p : BootstrapParams)
  | credit (p : CreditParams)
  | completion (paid : Paid)

def Writer.program : Writer → Vault Unit
  | .bootstrap p => runBootstrap ensureAta p
  | .credit p => DepositPipeline.credit p
  | .completion c => WithdrawalExecutor.completion c.now c.row c.payout c.txSig

/-- The withdrawal in hand is the one on record, and is paid for its net shares. -/
structure InHand (c : Paid) (db : Db) : Prop where
  stored : ∃ stored, getWithdrawalById c.row.id db = some stored ∧
    stored.sharesBurned = c.row.sharesBurned
  net : c.payout.netShares = c.row.sharesBurned - c.row.feeShares

def Writer.Ready : Writer → Db → Prop
  | .completion c, db => InHand c db
  | _, _ => True

def Writer.Applied : Writer → Db → Db → Prop
  | .bootstrap p => Founds p
  | .credit p => Credits p
  | .completion c => Completes c.now c.row c.payout c.txSig

/-- A writer at work: what it found, and what it left. -/
structure Commit where
  writer : Writer
  before : World
  after : World

/-- Writers one after the other, newest first, each with a host of its own. One that throws, or
is stopped before its commit, leaves the database as it was; nobody else writes snapshots. -/
inductive Commits : List Commit → World → Prop where
  | begun {w : World} : w.db.navSnapshots = [] → Commits [] w
  | committed {cs : List Commit} {w : World} {H : VaultHost} {writer : Writer} {r : VaultRun Unit} :
      Commits cs w → Keyed ShareRow.telegramId w.db.shares → writer.Ready w.db →
      Segment H (writer.program w) r → r.state.db ≠ w.db →
      Commits (⟨writer, w, r.state⟩ :: cs) r.state
  | meanwhile {cs : List Commit} {w w' : World} :
      Commits cs w → w'.db.navSnapshots = w.db.navSnapshots → Commits cs w'

variable {cs : List Commit} {c : Commit} {w : World} {db db' : Db} {row r : NavSnapshotRow}

theorem mem_snapshotted (h : r ∈ (snapshotted row db).navSnapshots) :
    r = row ∨ r ∈ db.navSnapshots := by
  unfold snapshotted at h
  dsimp only at h
  split at h
  · obtain ⟨old, hold, heq⟩ := List.mem_map.mp h
    by_cases hts : old.ts = row.ts
    · rw [if_pos hts] at heq
      exact .inl heq.symm
    · rw [if_neg hts] at heq
      exact .inr (heq ▸ hold)
  · rcases List.mem_append.mp h with hold | hnew
    · exact .inr hold
    · exact .inl (List.mem_singleton.mp hnew)

theorem mem_snapshotted_self : row ∈ (snapshotted row db).navSnapshots := by
  unfold snapshotted
  dsimp only
  split
  · next hany =>
    obtain ⟨old, hold, hts⟩ := List.any_eq_true.mp hany
    apply List.mem_map.mpr
    exact ⟨old, hold, if_pos (of_decide_eq_true hts)⟩
  · simp

theorem Writer.committed {H : VaultHost} {writer : Writer} {run : VaultRun Unit}
    (hrun : Segment H (writer.program w) run) (hchanged : run.state.db ≠ w.db) :
    writer.Applied w.db run.state.db := by
  cases writer with
  | bootstrap p => exact ((runBootstrap_atomic p).observed hrun).either.resolve_left hchanged
  | credit p => exact ((credit_atomic p).observed hrun).either.resolve_left hchanged
  | completion c =>
    exact ((completion_atomic c.now c.row c.payout c.txSig).observed hrun).either.resolve_left
      hchanged

structure Adds (row : NavSnapshotRow) (db db' : Db) : Prop where
  added : row ∈ db'.navSnapshots
  others : ∀ r ∈ db'.navSnapshots, r = row ∨ r ∈ db.navSnapshots

theorem adds_snapshotted {ts : ℤ} {telegramId : Option TelegramId} {event : AuditEvent}
    (hsame : db'.navSnapshots = db.navSnapshots) :
    Adds row db (audited ts telegramId event (snapshotted row db')) where
  added := mem_snapshotted_self
  others := by
    intro r hr
    rw [← hsame]
    exact mem_snapshotted hr

theorem completes_row {c : Paid} (hkeyed : Keyed ShareRow.telegramId db.shares)
    (hready : InHand c db) (h : Completes c.now c.row c.payout c.txSig db db') :
    ∃ row, Adds row db db' ∧ row.totalValueUsd =
      row.navPerShare * row.totalShares + c.row.feeShares * c.payout.navPerShare := by
  obtain ⟨stored, shares, hstored, hshares, rfl⟩ := h
  obtain ⟨stored', hstored', hburned⟩ := hready.stored
  rw [hstored] at hstored'
  cases hstored'
  have htotal := ShareConservation.totalShares_sharesAfter hkeyed hshares
  refine ⟨_, adds_snapshotted rfl, ?_⟩
  change (totalShares db - c.payout.netShares) * c.payout.navPerShare =
    c.payout.navPerShare * (shares.map ShareRow.shares).sum +
      c.row.feeShares * c.payout.navPerShare
  rw [htotal, hready.net, hburned]
  ring

theorem credits_row {p : CreditParams} (h : Credits p db db') :
    ∃ row, Adds row db db' ∧ Consistent row := by
  obtain ⟨sharesMinted, id, shares, -, -, rfl⟩ := h
  exact ⟨_, adds_snapshotted rfl, mul_comm _ _⟩

theorem founds_row {p : BootstrapParams} (h : Founds p db db') :
    ∃ row, Adds row db db' ∧ Consistent row := by
  obtain ⟨ms, user, shares, -, -, rfl⟩ := h
  exact ⟨_, adds_snapshotted rfl, one_mul _⟩

/-- The withdrawal leaves no fee in the pool, or a share is worth nothing. -/
def Writer.FeeFree : Writer → Prop
  | .completion c => c.row.feeShares * c.payout.navPerShare = 0
  | _ => True

theorem commit_row {writer : Writer} (hkeyed : Keyed ShareRow.telegramId db.shares)
    (hready : writer.Ready db) (h : writer.Applied db db') :
    ∃ row, Adds row db db' ∧ (Consistent row ↔ writer.FeeFree) := by
  cases writer with
  | bootstrap p =>
    obtain ⟨row, hadds, hrow⟩ := founds_row h
    exact ⟨row, hadds, iff_of_true hrow trivial⟩
  | credit p =>
    obtain ⟨row, hadds, hrow⟩ := credits_row h
    exact ⟨row, hadds, iff_of_true hrow trivial⟩
  | completion c =>
    obtain ⟨row, hadds, hvalue⟩ := completes_row hkeyed hready h
    refine ⟨row, hadds, ?_⟩
    unfold Consistent
    rw [hvalue, left_eq_add]
    exact Iff.rfl

/-- The table after every commit of the run. -/
def AlwaysConsistent (cs : List Commit) : Prop :=
  ∀ c ∈ cs, ∀ r ∈ c.after.db.navSnapshots, Consistent r

def AlwaysFeeFree (cs : List Commit) : Prop := ∀ c ∈ cs, c.writer.FeeFree

theorem commits_consistent (h : Commits cs w) (hfree : AlwaysFeeFree cs) :
    AlwaysConsistent cs ∧ ∀ r ∈ w.db.navSnapshots, Consistent r := by
  induction h with
  | begun hempty =>
    constructor
    · intro c hc
      cases hc
    · rw [hempty]
      intro r hr
      cases hr
  | committed _ hkeyed hready hrun hchanged ih =>
    obtain ⟨hnew, hold⟩ := List.forall_mem_cons.mp hfree
    obtain ⟨hbefore, htable⟩ := ih hold
    obtain ⟨row, hadds, hrow⟩ := commit_row hkeyed hready (Writer.committed hrun hchanged)
    have hafter : ∀ r ∈ _, Consistent r := fun r hr => (hadds.others r hr).elim
      (fun heq => heq ▸ hrow.mpr hnew) (htable r)
    exact ⟨List.forall_mem_cons.mpr ⟨hafter, hbefore⟩, hafter⟩
  | meanwhile _ hsame ih =>
    obtain ⟨hbefore, htable⟩ := ih hfree
    constructor
    · exact hbefore
    · rw [hsame]
      exact htable

theorem commits_feeFree (h : Commits cs w) (hcons : AlwaysConsistent cs) : AlwaysFeeFree cs := by
  induction h with
  | begun =>
    intro c hc
    cases hc
  | committed _ hkeyed hready hrun hchanged ih =>
    obtain ⟨hnew, hold⟩ := List.forall_mem_cons.mp hcons
    obtain ⟨row, hadds, hrow⟩ := commit_row hkeyed hready (Writer.committed hrun hchanged)
    exact List.forall_mem_cons.mpr ⟨hrow.mp (hnew row hadds.added), ih hold⟩
  | meanwhile _ _ ih => exact ih hcons

/-- After any sequence of writers: every snapshot ever written gives one price of a share, if
and only if no withdrawal left a fee that was worth something. -/
theorem snapshots_consistent_iff (cs : List Commit) (w : World) (h : Commits cs w) :
    AlwaysConsistent cs ↔ AlwaysFeeFree cs := by
  constructor
  · exact commits_feeFree h
  · exact fun hfree => (commits_consistent h hfree).1

open PlayedRuns

def feeRow : WithdrawalRow where
  id := 1
  telegramId := 2
  status := .processing
  destination := "away"
  sharesBurned := 60
  feeShares := 3
  navPerShareAt := none
  solLamportsOut := none
  bertRawOut := none
  txSig := some (txSig "transfer" transfer_ne)
  failureReason := none
  queuedAt := 0
  processedAt := none

def feePaid : Paid := ⟨0, feeRow, ⟨57, 1, 57, 570000000, 0⟩, txSig "transfer" transfer_ne⟩

def feeWorld : World :=
  ⟨{ Db.empty with
      users := [⟨2, .depositor, "holder", ⟨[], []⟩, none, none, none, none, none, 0, 0⟩]
      shares := [⟨2, 100⟩]
      withdrawals := [feeRow] }, Memory.fresh, oneSol, [], []⟩

def quietStore : Scene := { clock := 0 }

def feeCompleted : VaultRun Unit :=
  quietStore.script.settle ((Writer.completion feePaid).program feeWorld)

theorem feeCompleted_segment :
    Segment quietStore.host ((Writer.completion feePaid).program feeWorld) feeCompleted := by
  let S : System Unit vaultInterface World Thrown := ⟨fun _ _ => True, quietStore.host, id⟩
  have hallowed : Episode.Allowed S (fun _ _ => true)
      ⟨(Writer.completion feePaid).program, quietStore.script⟩ :=
    ⟨⟨(), trivial⟩, quietStore.follows⟩
  exact settle_segment hallowed (Script.meets_any _ _)

def feeCommit : Commit := ⟨.completion feePaid, feeWorld, feeCompleted.state⟩

theorem feeCommit_commits : Commits [feeCommit] feeCompleted.state := by
  have hchanged : feeCompleted.state.db.navSnapshots ≠ feeWorld.db.navSnapshots := by
    decide +kernel
  have hkeyed : Keyed ShareRow.telegramId feeWorld.db.shares := List.nodup_singleton _
  have hready : InHand feePaid feeWorld.db := ⟨⟨feeRow, by decide +kernel, rfl⟩, by decide +kernel⟩
  have hbegun : Commits [] feeWorld := .begun rfl
  exact .committed hbegun hkeyed hready feeCompleted_segment fun heq => hchanged (by rw [heq])

/-- 43 dollars on 40 shares, at a dollar for a share. -/
theorem fee_splits_the_price : ∃ cs w, Commits cs w ∧ ¬AlwaysConsistent cs := by
  refine ⟨_, _, feeCommit_commits, ?_⟩
  intro hcons
  have hrow : (⟨0, 43, 40, 1, .withdrawal⟩ : NavSnapshotRow) ∈
      feeCompleted.state.db.navSnapshots := by decide +kernel
  have hprice := hcons feeCommit (List.mem_cons_self ..) _ hrow
  revert hprice
  unfold Consistent
  decide +kernel

theorem snapshots_consistent_iff_fee :
    AlwaysConsistent [feeCommit] ↔ AlwaysFeeFree [feeCommit] :=
  snapshots_consistent_iff _ _ feeCommit_commits

end SnapshotConsistency
