import BertMMBot.SweptDeposits

/-! # Transactions with several recipients

Deltas are computed for one address, but a deposit row is keyed by its transaction alone. The
first recipient to be credited keeps every other one out, in every order of polls. -/
namespace SharedSignatures

open AsyncProgram AsyncContract AsyncFibers AsyncRecords RecordedTriples KeyedTable
open VaultTypes VaultProgram DepositorStore DepositPipeline ShareMath
open VaultJournal JournalMachine
open VaultDiscipline (Environment)
open LedgerMachine (Fiber)
open MeteoraPosition (Venue)
open VaultRuntime (BotConfig watcherDeps)
open PlayedRuns (plainVenue plainConfig oneSol anyEnvironment quotes)
open PlayedJournals
open SweptDeposits (journaled_tidy credit_error)

variable {venue : Venue} {cfg : BotConfig} {env : Environment} {w w' : World} {p : JournalPoint}
  {u v : TelegramId} {bertMint address : Address} {inboundTxSig : String} {db : Db}
  {tx : ParsedTransaction} {H : VaultHost}

/-- What the transaction brings to the address is an inflow. -/
def Pays (bertMint : Address) (tx : ParsedTransaction) (address : Address) : Prop :=
  ¬((computeDeltas bertMint tx address).solDelta = 0 ∧
    (computeDeltas bertMint tx address).bertDelta = 0)

instance (bertMint : Address) (tx : ParsedTransaction) (address : Address) :
    Decidable (Pays bertMint tx address) := inferInstanceAs (Decidable (¬_))

/-- The transaction pays into the deposit addresses of two users. -/
def PaysSeveral (bertMint : Address) (tx : ParsedTransaction) (db : Db) : Prop :=
  ∃ u v a b, u ≠ v ∧ Owns u a db ∧ Owns v b db ∧ Pays bertMint tx a ∧ Pays bertMint tx b

/-- The user was credited for this transaction. -/
def Credited (u : TelegramId) (inboundTxSig : String) (db : Db) : Prop :=
  ∃ d ∈ db.deposits, d.inboundTxSig = inboundTxSig ∧ d.telegramId = u

instance (u : TelegramId) (inboundTxSig : String) (db : Db) :
    Decidable (Credited u inboundTxSig db) :=
  inferInstanceAs (Decidable (∃ d ∈ db.deposits, d.inboundTxSig = inboundTxSig ∧ d.telegramId = u))

/-- Every inflow of the transaction was credited to the owner of its address. -/
def EachCredited (bertMint : Address) (inboundTxSig : String) (tx : ParsedTransaction)
    (db : Db) : Prop :=
  ∀ u address, Owns u address db → Pays bertMint tx address → Credited u inboundTxSig db

theorem credited_unique (hj : Journaled venue cfg env.host p)
    (hu : Credited u inboundTxSig p.1.db) (hv : Credited v inboundTxSig p.1.db) : u = v := by
  obtain ⟨d, hd, hsig, rfl⟩ := hu
  obtain ⟨d', hd', hsig', rfl⟩ := hv
  rw [keyed_unique (journaled_tidy hj).deposits hd hd' (hsig.trans hsig'.symm)]

theorem credited_hasDeposit (h : Credited u inboundTxSig db) :
    hasDeposit inboundTxSig db = true := by
  obtain ⟨d, hd, hsig, -⟩ := h
  exact List.any_eq_true.mpr ⟨d, hd, decide_eq_true hsig⟩

theorem pollSignature_skips {deps : WatcherDeps} {s : SignatureInfo}
    (h : hasDeposit s.signature w.db = true) :
    pollSignature deps address s w = .done (.ok ()) w := by
  have hread : (readDb (hasDeposit s.signature) : Vault Bool) w =
      .done (.ok (hasDeposit s.signature w.db)) w := rfl
  unfold pollSignature
  by_cases hfailed : s.failed
  · rw [if_pos hfailed]
    rfl
  · rw [if_neg hfailed, bind_apply, hread, h]
    rfl

theorem insertDeposit_refused {args : NewDeposit} (h : hasDeposit args.inboundTxSig w.db = true) :
    Throws H (insertDeposit args w) := by
  intro o _
  cases o with
  | none =>
    simp only [Run.bind, afterStatement, execute, Async.attempt, h, if_true]
    exact ⟨_, rfl⟩
  | some e => exact ⟨e, rfl⟩

theorem credit_refused {params : CreditParams} (h : hasDeposit params.inboundTxSig w.db = true) :
    Throws H (credit params w) := by
  unfold credit
  cases computeSharesForDeposit params.depositUsd params.navPerShareAtDeposit with
  | error e => exact ⟨e, rfl⟩
  | ok sharesMinted =>
    apply Throws.transact
    apply Throws.bind
    apply Throws.transact
    apply Throws.bind
    exact insertDeposit_refused h

/-- The inflows of a transaction with two recipients are at no point all credited: once one
is, every poll passes over the transaction, and every credit for it throws. -/
theorem never_each_credited (hj : Journaled venue cfg env.host p)
    (hpays : PaysSeveral cfg.bertMint tx p.1.db) :
    ¬EachCredited cfg.bertMint inboundTxSig tx p.1.db ∧
    (Credited u inboundTxSig p.1.db →
      (∀ (H : VaultHost) deps address s x w', s.signature = inboundTxSig →
        Ends H (pollSignature deps address s p.1) x w' → x = .ok () ∧ w' = p.1) ∧
      ∀ (H : VaultHost) params x w', params.inboundTxSig = inboundTxSig →
        Ends H (credit params p.1) x w' → (∃ e, x = .error e) ∧ w'.db = p.1.db) := by
  constructor
  · intro heach
    obtain ⟨u, v, a, b, hne, hu, hv, ha, hb⟩ := hpays
    exact hne (credited_unique hj (heach u a hu ha) (heach v b hv hb))
  · intro hcredited
    have hhas := credited_hasDeposit hcredited
    constructor
    · intro H deps address s x w' hsig hends
      subst hsig
      rw [pollSignature_skips hhas] at hends
      cases hends
      exact ⟨rfl, rfl⟩
    · intro H params x w' hsig hends
      subst hsig
      obtain ⟨e, rfl⟩ := (credit_refused hhas).ends hends
      exact ⟨⟨e, rfl⟩, credit_error hends⟩

def sharedTransaction : ParsedTransaction :=
  ⟨["operator", "holder"], [0, 0], [1000000000, 1000000000], [], []⟩

def sharedTick (clock : ℤ) : PlayedRuns.Scene × Job :=
  ticked {
    clock, samples := quotes
    signatures := fun a =>
      if a = "operator" ∨ a = "holder" then [⟨"shared", false, some 2000⟩] else []
    transactions := fun s => if s = "shared" then some sharedTransaction else none }

def sharing : JournaledRun :=
  (PlayedRuns.founding.1, .bootstrap ⟨1, 100⟩) ::
    (settlingIn ++ [sharedTick 2100000, sharedTick 2200000])

theorem sharing_paysSeveral : PaysSeveral plainConfig.bertMint sharedTransaction
    (sharing.point plainVenue plainConfig oneSol).1.db :=
  ⟨1, 2, "operator", "holder", by decide, by decide +kernel, by decide +kernel, by decide +kernel,
    by decide +kernel⟩

theorem never_each_credited_sharing :
    ¬EachCredited plainConfig.bertMint "shared" sharedTransaction
        (sharing.point plainVenue plainConfig oneSol).1.db ∧
      (Credited 1 "shared" (sharing.point plainVenue plainConfig oneSol).1.db →
        (∀ (H : VaultHost) deps address s x w', s.signature = "shared" →
          Ends H (pollSignature deps address s (sharing.point plainVenue plainConfig oneSol).1)
            x w' → x = .ok () ∧ w' = (sharing.point plainVenue plainConfig oneSol).1) ∧
        ∀ (H : VaultHost) params x w', params.inboundTxSig = "shared" →
          Ends H (credit params (sharing.point plainVenue plainConfig oneSol).1) x w' →
            (∃ e, x = .error e) ∧
              w'.db = (sharing.point plainVenue plainConfig oneSol).1.db) :=
  never_each_credited (played_journaled plainVenue plainConfig sharing oneSol) sharing_paysSeveral

/-- The operator is credited, and the holder's inflow is passed over for good. -/
theorem second_recipient_skipped : ∃ p, Journaled plainVenue plainConfig anyEnvironment.host p ∧
    PaysSeveral plainConfig.bertMint sharedTransaction p.1.db ∧
    Credited 1 "shared" p.1.db ∧ ¬Credited 2 "shared" p.1.db ∧
    Owns 2 "holder" p.1.db ∧ Pays plainConfig.bertMint sharedTransaction "holder" ∧
    pollSignature (watcherDeps plainConfig.bertMint) "holder" ⟨"shared", false, some 2000⟩ p.1 =
      .done (.ok ()) p.1 :=
  ⟨sharing.point plainVenue plainConfig oneSol, played_journaled _ _ _ _, sharing_paysSeveral,
    by decide +kernel, by decide +kernel, by decide +kernel, by decide +kernel,
    pollSignature_skips (by decide +kernel)⟩

end SharedSignatures
