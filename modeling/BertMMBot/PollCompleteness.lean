import BertMMBot.RecordedCourses
import BertMMBot.SharedSignatures

/-! # Completeness of polls

A poll reads two newest-first pages of bounded size, without a cursor. A transaction has been
handed to the pipeline if and only if it was still on a page of a poll that got as far as it. -/
namespace PollCompleteness

open AsyncProgram AsyncContract AsyncFibers AsyncRecords RecordedTriples RecordedCourses KeyedTable
open VaultTypes VaultProgram Encryption DepositorStore DepositPipeline ShareMath
open VaultJournal JournalMachine JournalTriples
open VaultDiscipline (Environment)
open LedgerMachine (Fiber)
open MeteoraPosition (Venue)
open VaultRuntime (BotConfig pipelineDeps watcherDeps)
open PlayedRuns (plainVenue plainConfig oneSol anyEnvironment)
open PlayedJournals
open SharedSignatures (Pays)

variable {venue : Venue} {cfg : BotConfig} {env : Environment} {i : Fiber} {w w' : World}
  {h : Journal} {p q : JournalPoint} {u : TelegramId} {address : Address} {sig : String}
  {bertMint : Address} {x : Except Thrown Unit} {α β : Type}

/-- The steps of the watcher that the journal shows. Its onInflow is the pipeline, whose first
audit row tells what it was handed. -/
inductive Watch where
  | listing (bertAta : Bool) (limit : ℕ)
  | page (bertAta : Bool) (limit : ℕ) (sigs : Except Thrown (List SignatureInfo))
  | read (signature : String) (tx : Except Thrown (Option ParsedTransaction))
  | passed (signature : String)

def watched : Line → Option Watch
  | .call .main (Query.getSignaturesForAddress _ bertAta limit) _ => some (.listing bertAta limit)
  | .answer .main (Query.getSignaturesForAddress _ bertAta limit) sigs _ =>
    some (.page bertAta limit sigs)
  | .answer .main (Query.getParsedTransaction signature) tx _ => some (.read signature tx)
  | .choice .main (Choice.statement (.writeAudit (.depositDetected signature _ _))) _ _ =>
    some (.passed signature)
  | _ => none

theorem watched_other {e : Line} (he : e.fiber ≠ some .main) : watched e = none := by
  unfold watched
  split
  · exact absurd rfl he
  · exact absurd rfl he
  · exact absurd rfl he
  · exact absurd rfl he
  · rfl

theorem watched_blind : Blind watched where
  choice i c s s' o := by
    cases i with
    | main =>
      cases c with
      | statement st =>
        cases st with
        | writeAudit event => cases event <;> rfl
        | _ => rfl
      | _ => rfl
    | telegram => rfl
    | cli => rfl
  call i q s s' := by
    cases i with
    | main => cases q <;> rfl
    | telegram => rfl
    | cli => rfl

theorem rely_seen (hr : (journalMachine venue cfg env).rely .main p q) :
    seen watched q.2 = seen watched p.2 := by
  refine rely_holds (A := fun q => seen watched q.2 = seen watched p.2) ?_ hr rfl
  intro p q hd hseen
  rw [← hseen]
  cases hd with
  | answer => rfl
  | @other j _ _ hj ha =>
    have line : ∀ {h : Journal} {e : Line}, e.fiber = some j →
        seen watched (e :: h) = seen watched h := by
      intro h e he
      apply List.filterMap_cons_none
      apply watched_other
      rw [he]
      intro hm
      exact hj (Option.some.inj hm).symm
    cases ha with
    | begin k => exact line rfl
    | tell e he => exact line he
    | minor => rfl
    | change => rfl
    | prompt => rfl

theorem now_quieted : Quieted watched .main now := quieted_choose fun _ _ => rfl

theorem liftExcept_quieted {r : Except Thrown α} : Quieted watched .main (liftExcept r : Vault α) := by
  cases r <;> exact fun _ => trivial

theorem afterStatement_quieted {st : Stmt} {f : Db → Except Thrown (α × Db)} (o : Option Thrown) :
    Quieted watched .main (afterStatement st f o) := by
  cases o with
  | none => exact quieted_attempt
  | some e => exact quieted_modify.bind fun _ _ => trivial

theorem statement_quieted {st : Stmt} {f : Db → Except Thrown (α × Db)}
    (hst : ∀ w o, watched (.choice .main (Choice.statement st) w o) = none) :
    Quieted watched .main (statement st f) :=
  (quieted_choose hst).bind afterStatement_quieted

theorem getMid_quieted : Quieted watched .main VaultRuntime.getMid :=
  (quieted_choose fun _ _ => rfl).bind fun _ => quieted_read

theorem recordFailure_quieted (event : InflowEvent) (reason : String) :
    Quieted watched .main (recordFailure u event reason) :=
  now_quieted.bind fun _ => statement_quieted fun _ _ => rfl

theorem credit_quieted (params : CreditParams) : Quieted watched .main (credit params) := by
  refine liftExcept_quieted.bind fun sharesMinted => Quieted.transaction watched_blind ?_
  refine Quieted.bind (Quieted.transaction watched_blind ?_) fun _ => ?_
  · refine Quieted.bind (statement_quieted fun _ _ => rfl) fun _ => ?_
    exact Quieted.bind (statement_quieted fun _ _ => rfl) fun _ => quieted_pure
  · refine quieted_read.bind fun total => ?_
    exact Quieted.bind (statement_quieted fun _ _ => rfl) fun _ => statement_quieted fun _ _ => rfl

theorem creditSwept_quieted (event : InflowEvent) (sweepSig : Signature) (sweptAt : ℤ) :
    Quieted watched .main (creditSwept pipelineDeps u event sweepSig sweptAt) := by
  refine getMid_quieted.bind fun mid => ?_
  cases mid with
  | none => exact recordFailure_quieted event _
  | some mid =>
    refine quieted_read.bind fun navPerShare => ?_
    exact (credit_quieted _).tryCatch fun _ => recordFailure_quieted event _

theorem sweepAndCredit_quieted (event : InflowEvent) (ixs : List SweepInstruction) :
    Quieted watched .main (sweepAndCredit pipelineDeps u event ixs) := by
  have hcall : Quieted watched .main (pipelineDeps.submitTx ixs) :=
    quieted_call (fun _ => rfl) fun _ _ => rfl
  have hsubmit : Quieted watched .main (submitSweep pipelineDeps event ixs) := by
    refine quieted_modify.bind fun _ => hcall.bind fun _ => ?_
    exact quieted_modify.bind fun _ => quieted_pure
  refine Quieted.bind (quieted_call (fun _ => rfl) fun _ _ => rfl) fun _ => ?_
  refine Quieted.bind (Quieted.tryCatch (hsubmit.bind fun _ => quieted_pure) fun _ => ?_) ?_
  · exact (recordFailure_quieted event _).bind fun _ => quieted_pure
  · intro swept
    cases swept with
    | none => exact quieted_pure
    | some sweepSig =>
      refine now_quieted.bind fun sweptAt => ?_
      exact Quieted.bind (statement_quieted fun _ _ => rfl) fun _ =>
        creditSwept_quieted event sweepSig sweptAt

theorem cryptographic_quieted {c : Choice} (hc : isCryptographic c = true) :
    Quieted watched .main (Async.choose (I := vaultInterface) c : Vault c.Outcome) := by
  apply quieted_choose
  intro _ _
  cases c with
  | statement st => cases hc
  | _ => rfl

theorem depositKeypair_quieted (secrets : UserSecrets) :
    Quieted watched .main (depositKeypair secrets) := by
  have hdecrypt : Quieted watched .main (decryptSecret secrets.depositSecretEnc) := by
    refine (cryptographic_quieted (c := .masterKey) rfl).bind fun key => ?_
    refine quieted_ite quieted_throw (quieted_ite quieted_throw (quieted_ite quieted_throw ?_))
    exact (cryptographic_quieted (c := .decipher key _ _ _) rfl).bind fun _ => liftExcept_quieted
  refine hdecrypt.bind fun secretKey => ?_
  exact (cryptographic_quieted (c := .fromSecretKey secretKey) rfl).bind fun _ => liftExcept_quieted

theorem sweepInflow_quieted (user : UserRow) (event : InflowEvent) :
    Quieted watched .main (sweepInflow pipelineDeps user event) := by
  refine quieted_read.bind fun secrets => ?_
  cases secrets with
  | none => exact quieted_pure
  | some secrets =>
    refine Quieted.bind (Quieted.tryCatch
      ((depositKeypair_quieted secrets).bind fun _ => quieted_pure) fun _ => ?_) ?_
    · exact (recordFailure_quieted event _).bind fun _ => quieted_pure
    · intro opened
      refine quieted_ite ?_ quieted_pure
      cases buildSweepInstructions event.solLamports event.bertRaw
          pipelineDeps.rentReserveLamports with
      | error e => exact recordFailure_quieted event _
      | ok ixs => exact quieted_ite quieted_pure (sweepAndCredit_quieted event ixs)

abbrev MainCourse (venue : Venue) (cfg : BotConfig) (env : Environment) (m : Vault α)
    (p : JournalPoint) (x : Except Thrown α) (q : JournalPoint) : Prop :=
  Course (journalMachine venue cfg env) .main m p x q

theorem quiet_course {m : Vault α} {x : Except Thrown α} (hm : Quieted watched .main m)
    (hc : MainCourse venue cfg env m p x q) : seen watched q.2 = seen watched p.2 :=
  hm.course rely_seen hc

theorem detected_course {ts : ℤ} {v : Option TelegramId} {sol bert : ℕ}
    (hc : MainCourse venue cfg env (writeAudit ts v (.depositDetected sig sol bert)) p x q) :
    seen watched q.2 = .passed sig :: seen watched p.2 := by
  rcases course_bind hc with ⟨o, p₁, hchoose, hrest⟩ | ⟨e, -, hchoose⟩
  · obtain ⟨o', -, rfl⟩ := course_choose hchoose
    exact quiet_course (afterStatement_quieted o) hrest
  · obtain ⟨o, ho, -⟩ := course_choose hchoose
    cases ho

theorem owns_found {db : Db} (ho : Owns u address db) :
    ∃ user, getUserByDepositAddress address db = some user := by
  obtain ⟨a, ha, -, haddress⟩ := ho
  obtain ⟨r, hr, rfl⟩ := List.mem_map.mp ha
  cases hfound : lookup UserRow.depositAddress address db.users with
  | none => exact absurd haddress (lookup_none.mp hfound r hr)
  | some r' => exact ⟨rowToUser r', by simp [getUserByDepositAddress, hfound]⟩

theorem onInflow_course {event : InflowEvent} (ho : Owns u event.depositAddress p.1.db)
    (hc : MainCourse venue cfg env (onInflow pipelineDeps event) p x q) :
    seen watched q.2 = .passed event.inboundTxSig :: seen watched p.2 := by
  obtain ⟨user, huser⟩ := owns_found ho
  rcases course_bind hc with ⟨found, p₁, hread, hrest⟩ | ⟨e, -, hread⟩
  · obtain ⟨hfound, rfl⟩ := course_read hread
    rw [huser] at hfound
    cases hfound
    rcases course_bind hrest with ⟨ts, p₂, hnow, hrest⟩ | ⟨e, -, hnow⟩
    · rw [← quiet_course now_quieted hnow]
      rcases course_bind hrest with ⟨_, p₃, haudit, hrest⟩ | ⟨e, -, haudit⟩
      · rw [← detected_course haudit]
        refine quiet_course (getMid_quieted.bind fun mid => ?_) hrest
        cases mid with
        | none => exact now_quieted.bind fun _ => statement_quieted fun _ _ => rfl
        | some mid => exact sweepInflow_quieted user event
      · exact detected_course haudit
    · obtain ⟨o, ho, -⟩ := course_choose hnow
      cases ho
  · obtain ⟨hfound, -⟩ := course_read hread
    cases hfound

/-- How the watcher can be done with a signature, and what it did about it. -/
inductive Visited (bertMint address : Address) (credited : String → Prop) (s : SignatureInfo) :
    Except Thrown Unit → List Watch → Prop where
  | skipped : s.failed = true ∨ credited s.signature → Visited bertMint address credited s (.ok ()) []
  | unread (e : Thrown) :
      Visited bertMint address credited s (.error e) [.read s.signature (.error e)]
  | idle (tx : Option ParsedTransaction) : (∀ t, tx = some t → ¬Pays bertMint t address) →
      Visited bertMint address credited s (.ok ()) [.read s.signature (.ok tx)]
  | passed (x : Except Thrown Unit) (t : ParsedTransaction) :
      Visited bertMint address credited s x [.passed s.signature, .read s.signature (.ok (some t))]

theorem confirmationTime_course {blockTime : Option ℤ} {x : Except Thrown ℤ}
    (hc : MainCourse venue cfg env (confirmationTime blockTime) p x q) :
    (∃ ms, x = .ok ms) ∧ q.1 = p.1 ∧ seen watched q.2 = seen watched p.2 := by
  cases blockTime with
  | some blockTime =>
    obtain ⟨rfl, rfl⟩ := course_pure hc
    exact ⟨⟨_, rfl⟩, rfl, rfl⟩
  | none =>
    rcases course_bind hc with ⟨ms, p₁, hnow, hrest⟩ | ⟨e, -, hnow⟩
    · obtain ⟨o, -, rfl⟩ := course_choose hnow
      obtain ⟨rfl, rfl⟩ := course_pure hrest
      exact ⟨⟨_, rfl⟩, rfl, rfl⟩
    · obtain ⟨o, ho, -⟩ := course_choose hnow
      cases ho

theorem rely_owns (hr : (journalMachine venue cfg env).rely .main p q) :
    SweptDeposits.OwnsStill p.1 q.1 := by
  intro u address ho
  exact rely_holds (A := fun p => Owns u address p.1.db) steady_owned.disturb hr ho

theorem getParsedTransaction_course {tx : Except Thrown (Option ParsedTransaction)}
    (hc : MainCourse venue cfg env ((watcherDeps bertMint).getParsedTransaction sig) p tx q) :
    seen watched q.2 = .read sig tx :: seen watched p.2 ∧ SweptDeposits.OwnsStill p.1 q.1 := by
  have hcall : MainCourse venue cfg env (Async.call (I := vaultInterface)
    (Query.getParsedTransaction sig)) p tx q := hc
  obtain ⟨p₁, hrely, rfl⟩ := course_call hcall
  have hseen := rely_seen hrely
  have howns := rely_owns hrely
  constructor
  · exact congrArg (Watch.read sig tx :: ·) hseen
  · exact howns

theorem pollSignature_course {s : SignatureInfo} (ho : Owns u address p.1.db)
    (hc : MainCourse venue cfg env (pollSignature (watcherDeps cfg.bertMint) address s) p x q) :
    ∃ log, seen watched q.2 = log ++ seen watched p.2 ∧
      Visited cfg.bertMint address (fun sig => hasDeposit sig p.1.db = true) s x log := by
  rcases course_ite hc with ⟨hfailed, hc⟩ | ⟨-, hc⟩
  · obtain ⟨rfl, rfl⟩ := course_pure hc
    exact ⟨[], rfl, .skipped (.inl hfailed)⟩
  rcases course_bind hc with ⟨credited, p₁, hread, hc⟩ | ⟨e, -, hread⟩
  swap
  · obtain ⟨hcredited, -⟩ := course_read hread
    cases hcredited
  obtain ⟨hcredited, rfl⟩ := course_read hread
  obtain rfl := Except.ok.inj hcredited
  rcases course_ite hc with ⟨hhas, hc⟩ | ⟨-, hc⟩
  · obtain ⟨rfl, rfl⟩ := course_pure hc
    exact ⟨[], rfl, .skipped (.inr hhas)⟩
  rcases course_bind hc with ⟨tx, p₂, hfetch, hc⟩ | ⟨e, rfl, hfetch⟩
  swap
  · exact ⟨[_], (getParsedTransaction_course hfetch).1, .unread e⟩
  obtain ⟨hseen, howns⟩ := getParsedTransaction_course hfetch
  cases tx with
  | none =>
    obtain ⟨rfl, rfl⟩ := course_pure hc
    exact ⟨[_], hseen, .idle none fun t ht => by cases ht⟩
  | some t =>
    rcases course_ite hc with ⟨hzero, hc⟩ | ⟨-, hc⟩
    · obtain ⟨rfl, rfl⟩ := course_pure hc
      refine ⟨[_], hseen, .idle (some t) fun t' ht hpays => ?_⟩
      cases ht
      exact hpays hzero
    · rcases course_bind hc with ⟨confirmedAt, p₃, htime, hc⟩ | ⟨e, -, htime⟩
      · obtain ⟨-, hstate, htime⟩ := confirmationTime_course htime
        have hin := onInflow_course (u := u) (by rw [hstate]; exact howns u address ho) hc
        rw [htime, hseen] at hin
        exact ⟨[_, _], hin, .passed x t⟩
      · obtain ⟨⟨ms, hms⟩, -⟩ := confirmationTime_course htime
        cases hms

/-- The watcher goes through a listing until an exception stops it. -/
inductive Walk (bertMint address : Address) (credited : String → Prop) :
    List SignatureInfo → Except Thrown Unit → List Watch → Prop where
  | done : Walk bertMint address credited [] (.ok ()) []
  | next {s rest x log log'} : Visited bertMint address credited s (.ok ()) log →
      Walk bertMint address credited rest x log' →
      Walk bertMint address credited (s :: rest) x (log' ++ log)
  | stop {s rest e log} : Visited bertMint address credited s (.error e) log →
      Walk bertMint address credited (s :: rest) (.error e) log

theorem Visited.mono {credited credited' : String → Prop} {s : SignatureInfo} {log : List Watch}
    (hv : Visited bertMint address credited s x log) (hD : ∀ sig, credited sig → credited' sig) :
    Visited bertMint address credited' s x log := by
  cases hv with
  | skipped hs => exact .skipped (hs.imp_right (hD _))
  | unread e => exact .unread e
  | idle tx htx => exact .idle tx htx
  | passed x t => exact .passed x t

theorem hasDeposit_congr {db db' : Db} (hdb : db'.deposits = db.deposits) :
    hasDeposit sig db' = hasDeposit sig db := by
  rw [hasDeposit, hasDeposit, hdb]

theorem act_hasDeposit (ha : Act venue cfg i p q) (hp : hasDeposit sig p.1.db = true) :
    hasDeposit sig q.1.db = true := by
  cases ha with
  | begin => exact hp
  | tell => exact hp
  | minor hm => exact (hasDeposit_congr hm.deposits).trans hp
  | prompt => exact hp
  | change c =>
    cases c with
    | addDeposit d =>
      obtain ⟨r, hr, hsig⟩ := List.any_eq_true.mp hp
      exact List.any_eq_true.mpr ⟨r, List.mem_append_left _ hr, hsig⟩
    | _ => exact hp

theorem course_hasDeposit {m : Vault α} {x : Except Thrown α} {A E : JournalPoint → Prop}
    {B : α → JournalPoint → Prop} (hm : Followed venue cfg env .main A m B E) (ht : Tidy p.1)
    (ha : A p) (hc : MainCourse venue cfg env m p x q) (hp : hasDeposit sig p.1.db = true) :
    hasDeposit sig q.1.db = true := by
  refine Course.lasting (F := fun p => hasDeposit sig p.1.db = true) ?_ ?_ hm ht ha hc hp
  · intro j p q _ ha hp
    exact act_hasDeposit ha hp
  · intro c w a w' h hr hp
    exact (hasDeposit_congr (quiet_minor (env.quiet hr)).deposits).trans hp

theorem course_owns {m : Vault α} {x : Except Thrown α} {A E : JournalPoint → Prop}
    {B : α → JournalPoint → Prop} (hm : Followed venue cfg env .main A m B E) (ht : Tidy p.1)
    (ha : A p) (hc : MainCourse venue cfg env m p x q) (ho : Owns u address p.1.db) :
    Owns u address q.1.db := by
  refine Course.lasting (F := fun p => Owns u address p.1.db) ?_ ?_ hm ht ha hc ho
  · intro j p q _ ha ho
    exact act_owns ha ho
  · intro c w a w' h hr ho
    exact owns_alike (quiet_minor (env.quiet hr)).toAlike ho

theorem forEach_course {xs : List SignatureInfo} (ht : Tidy p.1)
    (hpoll : MainJournal.Polling address p) (ho : Owns u address p.1.db)
    (hc : MainCourse venue cfg env
      (Async.forEach xs (pollSignature (watcherDeps cfg.bertMint) address)) p x q) :
    ∃ log, seen watched q.2 = log ++ seen watched p.2 ∧
      Walk cfg.bertMint address (fun sig => hasDeposit sig q.1.db = true) xs x log := by
  induction xs generalizing p with
  | nil =>
    obtain ⟨rfl, rfl⟩ := course_pure hc
    exact ⟨[], rfl, .done⟩
  | cons s rest ih =>
    have hlast : ∀ sig, hasDeposit sig p.1.db = true → hasDeposit sig q.1.db = true :=
      fun sig hp => course_hasDeposit (MainJournal.pollSignatures_followed (s :: rest)) ht hpoll hc hp
    rcases course_bind hc with ⟨_, p₁, hfirst, hrest⟩ | ⟨e, rfl, hfirst⟩
    · obtain ⟨log, hlog, hv⟩ := pollSignature_course ho hfirst
      have hfollowed : Followed venue cfg env .main (MainJournal.Polling address) _ _ _ :=
        MainJournal.pollSignature_followed s
      obtain ⟨ht₁, hpoll₁⟩ := triple_course hfollowed ht hpoll hfirst
      have ho₁ := course_owns hfollowed ht hpoll hfirst ho
      obtain ⟨log', hlog', hw⟩ := ih ht₁ hpoll₁ ho₁ hrest
      refine ⟨log' ++ log, ?_, .next (hv.mono hlast) hw⟩
      rw [hlog', hlog, List.append_assoc]
    · obtain ⟨log, hlog, hv⟩ := pollSignature_course ho hfirst
      exact ⟨log, hlog, .stop (hv.mono hlast)⟩

def readOf : Watch → Option (String × Bool)
  | .read signature (.ok _) => some (signature, true)
  | .read signature (.error _) => some (signature, false)
  | _ => none

/-- The latest signature that the watcher read, and whether the reading succeeded. -/
def lastRead (log : List Watch) : Option (String × Bool) := log.findSome? readOf

/-- The signature is listed, and the watcher was not stopped before it was done with reading it:
an exception came neither while it was busy with an earlier one nor from that reading. -/
def Presents (listed : List SignatureInfo) (x : Except Thrown Unit) (log : List Watch)
    (sig : String) : Prop :=
  ∃ before s after, listed = before ++ s :: after ∧ s.signature = sig ∧
    ∀ e, x = .error e → ∃ sig' ok, lastRead log = some (sig', ok) ∧
      (∀ b ∈ before, b.signature ≠ sig') ∧ (sig' = sig → ok = true)

variable {credited : String → Prop} {listed rest : List SignatureInfo} {s : SignatureInfo}
  {log log' : List Watch} {e : Thrown}

theorem visited_stopped (hv : Visited bertMint address credited s (.error e) log) :
    ∃ ok, lastRead log = some (s.signature, ok) ∧ (.passed s.signature ∈ log ↔ ok = true) := by
  cases hv with
  | unread e => exact ⟨false, rfl, by simp⟩
  | passed x t => exact ⟨true, rfl, by simp⟩

theorem visited_passed (hv : Visited bertMint address credited s x log) (hp : .passed sig ∈ log) :
    s.signature = sig := by
  cases hv with
  | skipped hs => simp at hp
  | unread e => simp at hp
  | idle tx htx => simp at hp
  | passed x t =>
    simp only [List.mem_cons, Watch.passed.injEq, reduceCtorEq, List.not_mem_nil, or_self,
      or_false] at hp
    exact hp.symm

theorem walk_lastRead (hw : Walk bertMint address credited listed (.error e) log) :
    ∃ sig ok, lastRead log = some (sig, ok) ∧ sig ∈ listed.map SignatureInfo.signature := by
  generalize hx : (Except.error e : Except Thrown Unit) = x at hw
  induction hw with
  | done => cases hx
  | @next s rest x log log' hv hw ih =>
    obtain ⟨sig, ok, hlast, hmem⟩ := ih hx
    refine ⟨sig, ok, ?_, List.mem_cons_of_mem _ hmem⟩
    rw [lastRead] at hlast
    rw [lastRead, List.findSome?_append, hlast]
    rfl
  | @stop s rest e log hv =>
    obtain ⟨ok, hlast, -⟩ := visited_stopped hv
    exact ⟨s.signature, ok, hlast, List.mem_cons_self ..⟩

/-- The transaction is confirmed, brings an inflow, and no row credits it. -/
structure Outstanding (bertMint address : Address) (credited : String → Prop)
    (listed : List SignatureInfo) (log : List Watch) (sig : String) : Prop where
  uncredited : ¬credited sig
  confirmed : ∀ s ∈ listed, s.signature = sig → s.failed = false
  pays : ∀ tx, .read sig (.ok tx) ∈ log → ∃ t, tx = some t ∧ Pays bertMint t address

theorem Outstanding.part (ho : Outstanding bertMint address credited listed log sig)
    (hlisted : rest ⊆ listed) (hlog : log' ⊆ log) :
    Outstanding bertMint address credited rest log' sig where
  uncredited := ho.uncredited
  confirmed s hs := ho.confirmed s (hlisted hs)
  pays tx htx := ho.pays tx (hlog htx)

theorem visited_outstanding (hv : Visited bertMint address credited s (.ok ()) log)
    (hs : s ∈ listed) (ho : Outstanding bertMint address credited listed log s.signature) :
    .passed s.signature ∈ log := by
  cases hv with
  | skipped hskip =>
    rcases hskip with hfailed | hcredited
    · rw [ho.confirmed s hs rfl] at hfailed
      cases hfailed
    · exact absurd hcredited ho.uncredited
  | idle tx htx =>
    obtain ⟨t, rfl, hpays⟩ := ho.pays tx (List.mem_cons_self ..)
    exact absurd hpays (htx t rfl)
  | passed x t => exact List.mem_cons_self ..

theorem presents_head (hx : ∀ e, x = .error e → ∃ sig' ok, lastRead log = some (sig', ok) ∧
    (sig' = s.signature → ok = true)) : Presents (s :: rest) x log s.signature := by
  refine ⟨[], s, rest, rfl, rfl, ?_⟩
  intro e he
  obtain ⟨sig', ok, hlast, hok⟩ := hx e he
  exact ⟨sig', ok, hlast, by simp, hok⟩

theorem presents_cons (hne : s.signature ≠ sig) :
    Presents (s :: rest) x log sig ↔ Presents rest x log sig ∧
      ∀ e, x = .error e → ∀ sig' ok, lastRead log = some (sig', ok) → s.signature ≠ sig' := by
  constructor
  · rintro ⟨before, t, after, hlisted, hsig, hx⟩
    cases before with
    | nil =>
      obtain ⟨rfl, -⟩ := List.cons.inj hlisted
      exact absurd hsig hne
    | cons b before =>
      obtain ⟨rfl, hrest⟩ := List.cons.inj hlisted
      constructor
      · refine ⟨before, t, after, hrest, hsig, ?_⟩
        intro e he
        obtain ⟨sig', ok, hlast, hbefore, hok⟩ := hx e he
        exact ⟨sig', ok, hlast, fun b hb => hbefore b (List.mem_cons_of_mem _ hb), hok⟩
      · intro e he sig' ok hlast
        obtain ⟨sig'', ok', hlast', hbefore, -⟩ := hx e he
        rw [hlast] at hlast'
        cases hlast'
        exact hbefore s (List.mem_cons_self ..)
  · rintro ⟨⟨before, t, after, rfl, hsig, hx⟩, hfirst⟩
    refine ⟨s :: before, t, after, rfl, hsig, ?_⟩
    intro e he
    obtain ⟨sig', ok, hlast, hbefore, hok⟩ := hx e he
    refine ⟨sig', ok, hlast, ?_, hok⟩
    intro b hb
    rcases List.mem_cons.mp hb with rfl | hmem
    · exact hfirst e he sig' ok hlast
    · exact hbefore b hmem

theorem presents_congr (hlast : ∀ e, x = .error e → lastRead log = lastRead log') :
    Presents listed x log sig ↔ Presents listed x log' sig := by
  constructor
  · rintro ⟨before, s, after, hlisted, hsig, hx⟩
    refine ⟨before, s, after, hlisted, hsig, ?_⟩
    intro e he
    rw [← hlast e he]
    exact hx e he
  · rintro ⟨before, s, after, hlisted, hsig, hx⟩
    refine ⟨before, s, after, hlisted, hsig, ?_⟩
    intro e he
    rw [hlast e he]
    exact hx e he

theorem walk_presents (hw : Walk bertMint address credited listed x log)
    (hnodup : (listed.map SignatureInfo.signature).Nodup)
    (ho : Outstanding bertMint address credited listed log sig) :
    .passed sig ∈ log ↔ Presents listed x log sig := by
  induction hw with
  | done =>
    constructor
    · intro hp
      cases hp
    · rintro ⟨before, s, after, hlisted, -⟩
      cases before <;> cases hlisted
  | @next s rest x log log' hv hw ih =>
    obtain ⟨hfresh, hnodup⟩ := List.nodup_cons.mp hnodup
    have hlast : ∀ e, x = .error e → lastRead (log' ++ log) = lastRead log' ∧
        ∀ sig' ok, lastRead log' = some (sig', ok) → s.signature ≠ sig' := by
      rintro e rfl
      obtain ⟨sig', ok, hlast, hmem⟩ := walk_lastRead hw
      constructor
      · rw [lastRead] at hlast
        rw [lastRead, List.findSome?_append, lastRead, hlast]
        rfl
      · intro sig'' ok' hlast' heq
        rw [hlast] at hlast'
        cases hlast'
        exact hfresh (heq ▸ hmem)
    have hrest : Presents rest x (log' ++ log) sig ↔ Presents rest x log' sig :=
      presents_congr fun e he => (hlast e he).1
    by_cases hsig : s.signature = sig
    · subst sig
      have hpassed := visited_outstanding hv (List.mem_cons_self ..)
        (ho.part (List.Subset.refl _) (List.subset_append_right ..))
      refine iff_of_true (List.mem_append_right _ hpassed) (presents_head ?_)
      intro e he
      obtain ⟨hsame, hfirst⟩ := hlast e he
      subst he
      obtain ⟨sig', ok, hread, -⟩ := walk_lastRead hw
      exact ⟨sig', ok, hsame.trans hread, fun heq => absurd heq.symm (hfirst sig' ok hread)⟩
    · rw [presents_cons hsig, hrest, List.mem_append]
      have htail := ih hnodup (ho.part (List.subset_cons_self ..) (List.subset_append_left ..))
      constructor
      · rintro (hp | hp)
        · refine ⟨htail.mp hp, ?_⟩
          intro e he sig' ok hread
          rw [(hlast e he).1] at hread
          exact (hlast e he).2 sig' ok hread
        · exact absurd (visited_passed hv hp) hsig
      · rintro ⟨hp, -⟩
        exact .inl (htail.mpr hp)
  | @stop s rest e log hv =>
    obtain ⟨ok, hlast, hpassed⟩ := visited_stopped hv
    by_cases hsig : s.signature = sig
    · subst sig
      rw [hpassed]
      constructor
      · intro hok
        exact presents_head fun _ _ => ⟨s.signature, ok, hlast, fun _ => hok⟩
      · rintro ⟨before, t, after, -, -, hx⟩
        obtain ⟨sig', ok', hlast', -, hok⟩ := hx e rfl
        rw [hlast] at hlast'
        cases hlast'
        exact hok rfl
    · rw [presents_cons hsig]
      constructor
      · intro hp
        exact absurd (visited_passed hv hp) hsig
      · rintro ⟨-, hfirst⟩
        exact absurd rfl (hfirst e rfl s.signature ok hlast)

theorem dedupe_mem {sigs : List SignatureInfo} {known : List String}
    (hs : s ∈ dedupeSignatures sigs known) : s ∈ sigs ∧ s.signature ∉ known := by
  induction sigs generalizing known with
  | nil => cases hs
  | cons t rest ih =>
    unfold dedupeSignatures at hs
    by_cases hknown : t.signature ∈ known
    · rw [if_pos hknown] at hs
      exact ⟨List.mem_cons_of_mem t (ih hs).1, (ih hs).2⟩
    · rw [if_neg hknown] at hs
      rcases List.mem_cons.mp hs with rfl | hs
      · exact ⟨List.mem_cons_self .., hknown⟩
      · obtain ⟨hmem, hfresh⟩ := ih hs
        exact ⟨List.mem_cons_of_mem t hmem, fun h => hfresh (List.mem_cons_of_mem _ h)⟩

theorem dedupe_nodup (sigs : List SignatureInfo) (known : List String) :
    ((dedupeSignatures sigs known).map SignatureInfo.signature).Nodup := by
  induction sigs generalizing known with
  | nil => exact List.nodup_nil
  | cons t rest ih =>
    unfold dedupeSignatures
    by_cases hknown : t.signature ∈ known
    · rw [if_pos hknown]
      exact ih known
    · rw [if_neg hknown, List.map_cons, List.nodup_cons]
      refine ⟨?_, ih _⟩
      intro hmem
      obtain ⟨s, hs, hsig⟩ := List.mem_map.mp hmem
      exact (dedupe_mem hs).2 (hsig ▸ List.mem_cons_self ..)

inductive Polled (bertMint address : Address) (credited : String → Prop) :
    Except Thrown Unit → List Watch → Prop where
  | unlisted (e : Thrown) : Polled bertMint address credited (.error e)
      [.page false 10 (.error e), .listing false 10]
  | halfListed (e : Thrown) (sigsMain : List SignatureInfo) :
      Polled bertMint address credited (.error e) [.page true 10 (.error e), .listing true 10,
        .page false 10 (.ok sigsMain), .listing false 10]
  | listed {x : Except Thrown Unit} {log : List Watch} (sigsMain sigsAta : List SignatureInfo) :
      Walk bertMint address credited (dedupeSignatures (sigsMain ++ sigsAta) []) x log →
      Polled bertMint address credited x (log ++ [.page true 10 (.ok sigsAta), .listing true 10,
        .page false 10 (.ok sigsMain), .listing false 10])

theorem getSignatures_course {bertAta : Bool} {limit : ℕ}
    {sigs : Except Thrown (List SignatureInfo)}
    (hc : MainCourse venue cfg env
      ((watcherDeps bertMint).getSignaturesForAddress address bertAta limit) p sigs q) :
    seen watched q.2 = .page bertAta limit sigs :: .listing bertAta limit :: seen watched p.2 ∧
      SweptDeposits.OwnsStill p.1 q.1 := by
  have hcall : MainCourse venue cfg env (Async.call (I := vaultInterface)
    (Query.getSignaturesForAddress address bertAta limit)) p sigs q := hc
  obtain ⟨p₁, hrely, rfl⟩ := course_call hcall
  have hseen := rely_seen hrely
  have howns := rely_owns hrely
  constructor
  · exact congrArg (Watch.page bertAta limit sigs :: ·) hseen
  · exact howns

theorem pollAddress_course (ht : Tidy p.1) (ho : Owns u address p.1.db)
    (hc : MainCourse venue cfg env (pollAddress (watcherDeps cfg.bertMint) address) p x q) :
    ∃ log, seen watched q.2 = log ++ seen watched p.2 ∧
      Polled cfg.bertMint address (fun sig => hasDeposit sig q.1.db = true) x log := by
  rcases course_bind hc with ⟨sigsMain, p₁, hmain, hc⟩ | ⟨e, rfl, hmain⟩
  swap
  · exact ⟨[_, _], (getSignatures_course hmain).1, .unlisted e⟩
  obtain ⟨hseen₁, howns₁⟩ := getSignatures_course hmain
  have ht₁ := (triple_course (MainJournal.getSignatures_followed false 10) ht trivial hmain).1
  rcases course_bind hc with ⟨sigsAta, p₂, hata, hc⟩ | ⟨e, rfl, hata⟩
  swap
  · refine ⟨[_, _, _, _], ?_, .halfListed e sigsMain⟩
    rw [(getSignatures_course hata).1, hseen₁]
    rfl
  obtain ⟨hseen₂, howns₂⟩ := getSignatures_course hata
  obtain ⟨ht₂, hpoll⟩ := triple_course (MainJournal.getSignatures_followed true 10) ht₁ trivial hata
  obtain ⟨log, hlog, hw⟩ := forEach_course ht₂ hpoll (howns₂ _ _ (howns₁ _ _ ho)) hc
  refine ⟨_, ?_, .listed sigsMain sigsAta hw⟩
  rw [hlog, hseen₂, hseen₁]
  simp

/-- What the chain has of transactions: what each of them moved, and whether it failed. -/
structure Archive where
  transaction : String → Option ParsedTransaction
  failed : String → Bool

/-- The node answers from the archive, and lists the newest signatures of each history. -/
def Serves (archive : Archive) (history : Bool → List SignatureInfo) : Watch → Prop
  | .page bertAta limit (.ok sigs) => sigs = (history bertAta).take limit
  | .read signature (.ok tx) => tx = archive.transaction signature
  | _ => True

/-- The ten newest of each history, as the watcher goes through them. -/
def newest (history : Bool → List SignatureInfo) : List SignatureInfo :=
  dedupeSignatures ((history false).take 10 ++ (history true).take 10) []

/-- A confirmed transaction with an inflow for the address that nobody was credited for. -/
structure Due (bertMint address : Address) (archive : Archive) (sig : String) (db : Db) : Prop where
  confirmed : archive.failed sig = false
  pays : ∃ t, archive.transaction sig = some t ∧ Pays bertMint t address
  uncredited : hasDeposit sig db = false

variable {archive : Archive} {history : Bool → List SignatureInfo} {db : Db}

theorem lastRead_append (hlast : ∃ r, lastRead log = some r) :
    lastRead (log ++ log') = lastRead log := by
  obtain ⟨r, hr⟩ := hlast
  rw [lastRead] at hr
  rw [lastRead, List.findSome?_append, lastRead, hr]
  rfl

theorem not_presents (hlast : lastRead log = none) : ¬Presents listed (.error e) log sig := by
  rintro ⟨before, s, after, -, -, hx⟩
  obtain ⟨sig', ok, hread, -⟩ := hx e rfl
  rw [hlast] at hread
  cases hread

theorem polled_presents
    (hp : Polled bertMint address (fun sig => hasDeposit sig db = true) x log)
    (hserved : ∀ e ∈ log, Serves archive history e)
    (hfailed : ∀ bertAta, ∀ s ∈ history bertAta, s.failed = archive.failed s.signature)
    (hd : Due bertMint address archive sig db) :
    .passed sig ∈ log ↔ Presents (newest history) x log sig := by
  cases hp with
  | unlisted e => exact iff_of_false (by simp) (not_presents rfl)
  | halfListed e sigsMain => exact iff_of_false (by simp) (not_presents rfl)
  | @listed x walked sigsMain sigsAta hw =>
    simp only [List.forall_mem_append, List.forall_mem_cons, List.not_mem_nil, false_imp_iff,
      implies_true, and_true] at hserved
    obtain ⟨hreads, hata, -, hmain, -⟩ := hserved
    have hlisted : dedupeSignatures (sigsMain ++ sigsAta) [] = newest history := by
      rw [newest, show sigsMain = _ from hmain, show sigsAta = _ from hata]
    have hout : Outstanding bertMint address (fun sig => hasDeposit sig db = true)
        (newest history) walked sig := by
      refine ⟨by simp [hd.uncredited], ?_, ?_⟩
      · intro s hs hsig
        rw [← hlisted, hmain, hata] at hs
        rcases List.mem_append.mp (dedupe_mem hs).1 with hmem | hmem
        · rw [hfailed false s (List.mem_of_mem_take hmem), hsig, hd.confirmed]
        · rw [hfailed true s (List.mem_of_mem_take hmem), hsig, hd.confirmed]
      · intro tx htx
        obtain ⟨t, ht, hpays⟩ := hd.pays
        exact ⟨t, (hreads _ htx).trans ht, hpays⟩
    rw [hlisted] at hw
    have hpages : Presents (newest history) x (walked ++ [.page true 10 (.ok sigsAta),
        .listing true 10, .page false 10 (.ok sigsMain), .listing false 10]) sig ↔
        Presents (newest history) x walked sig := by
      apply presents_congr
      rintro e rfl
      obtain ⟨sig', ok, hlast, -⟩ := walk_lastRead hw
      exact lastRead_append ⟨_, hlast⟩
    rw [hpages, ← walk_presents hw (dedupe_nodup _ _) hout]
    simp

def steps (p q : JournalPoint) : List Watch :=
  (seen watched q.2).take ((seen watched q.2).length - (seen watched p.2).length)

theorem steps_eq (hlog : seen watched q.2 = log ++ seen watched p.2) : steps p q = log := by
  unfold steps
  rw [hlog, List.length_append, Nat.add_sub_cancel, List.take_left]

/-- One poll of the address amid everything else, with the histories of the address and of its
BERT account, newest first, at that time. -/
structure Poll (venue : Venue) (cfg : BotConfig) (env : Environment) (archive : Archive)
    (address : Address) where
  start : JournalPoint
  result : Except Thrown Unit
  finish : JournalPoint
  history : Bool → List SignatureInfo
  made : MainCourse venue cfg env (pollAddress (watcherDeps cfg.bertMint) address) start result
    finish
  served : ∀ e ∈ steps start finish, Serves archive history e
  failed : ∀ bertAta, ∀ s ∈ history bertAta, s.failed = archive.failed s.signature

/-- The poll handed the transaction to the pipeline. -/
def Poll.Passes (P : Poll venue cfg env archive address) (sig : String) : Prop :=
  .passed sig ∈ steps P.start P.finish

/-- The transaction was among the ten newest, and no exception ended the poll before its turn. -/
def Poll.Reaches (P : Poll venue cfg env archive address) (sig : String) : Prop :=
  Presents (newest P.history) P.result (steps P.start P.finish) sig

theorem poll_passes (P : Poll venue cfg env archive address) (ht : Tidy P.start.1)
    (ho : Owns u address P.start.1.db)
    (hd : Due cfg.bertMint address archive sig P.finish.1.db) : P.Passes sig ↔ P.Reaches sig := by
  obtain ⟨log, hlog, hpolled⟩ := pollAddress_course ht ho P.made
  have hserved := P.served
  unfold Poll.Passes Poll.Reaches
  rw [steps_eq hlog] at hserved ⊢
  exact polled_presents hpolled hserved P.failed hd

/-- A run of the bot in which these polls of the address were made, the latest first. -/
inductive Schedule (venue : Venue) (cfg : BotConfig) (env : Environment) (archive : Archive)
    (address : Address) : List (Poll venue cfg env archive address) → JournalPoint → Prop where
  | opened {p : JournalPoint} {u : TelegramId} : Journaled venue cfg env.host p →
      Owns u address p.1.db → Schedule venue cfg env archive address [] p
  | meanwhile {polls : List (Poll venue cfg env archive address)} {p q : JournalPoint} :
      Schedule venue cfg env archive address polls p →
      (journalMachine venue cfg env).Turn World.restart p q →
      Schedule venue cfg env archive address polls q
  | polled {polls : List (Poll venue cfg env archive address)}
      (P : Poll venue cfg env archive address) :
      Schedule venue cfg env archive address polls P.start →
      Schedule venue cfg env archive address (P :: polls) P.finish

variable {polls : List (Poll venue cfg env archive address)}

structure Scheduled (polls : List (Poll venue cfg env archive address)) (p : JournalPoint) : Prop where
  tidy : Tidy p.1
  owned : ∃ u, Owns u address p.1.db
  polls : ∀ P ∈ polls, Tidy P.start.1 ∧ (∃ u, Owns u address P.start.1.db) ∧
    ∀ sig, hasDeposit sig P.finish.1.db = true → hasDeposit sig p.1.db = true

theorem Scheduled.later (h : Scheduled polls p) (ht : Tidy q.1)
    (ho : ∀ u, Owns u address p.1.db → Owns u address q.1.db)
    (hd : ∀ sig, hasDeposit sig p.1.db = true → hasDeposit sig q.1.db = true) :
    Scheduled polls q := by
  obtain ⟨-, ⟨u, hu⟩, hpolls⟩ := h
  refine ⟨ht, ⟨u, ho u hu⟩, ?_⟩
  intro P hP
  obtain ⟨htP, hoP, hkept⟩ := hpolls P hP
  exact ⟨htP, hoP, fun sig hsig => hd sig (hkept sig hsig)⟩

theorem schedule_scheduled (hs : Schedule venue cfg env archive address polls p) :
    Scheduled polls p := by
  induction hs with
  | opened hj ho => exact ⟨SweptDeposits.journaled_tidy hj, ⟨_, ho⟩, by simp⟩
  | meanwhile _ turn ih =>
    cases turn with
    | act ha =>
      exact ih.later (act_tidy ih.tidy ha) (fun u => act_owns ha) fun sig => act_hasDeposit ha
    | answer hr =>
      have hm := quiet_minor (env.quiet hr)
      apply ih.later (alike_tidy ih.tidy hm.toAlike)
      · intro u ho
        exact owns_alike hm.toAlike ho
      · intro sig hsig
        exact (hasDeposit_congr hm.deposits).trans hsig
    | stop =>
      have ht := ih.tidy
      exact ih.later ⟨ht.users, ht.addresses, ht.deposits, ht.withdrawals, ht.changes⟩
        (fun u ho => ho) fun sig hsig => hsig
  | polled P _ ih =>
    have hfollowed : Obeys venue cfg env .main (fun _ => True) _ :=
      MainJournal.pollAddress_obeys address
    obtain ⟨ht, -⟩ := triple_course hfollowed ih.tidy trivial P.made
    obtain ⟨-, hu, hpolls⟩ := ih.later ht
      (fun u ho => course_owns hfollowed ih.tidy trivial P.made ho)
      fun sig hsig => course_hasDeposit hfollowed ih.tidy trivial P.made hsig
    refine ⟨ht, hu, ?_⟩
    intro P' hP'
    rcases List.mem_cons.mp hP' with rfl | hmem
    · exact ⟨ih.tidy, ih.owned, fun sig hsig => hsig⟩
    · exact hpolls P' hmem

/-- After every schedule of polls a due transaction has been handed to the pipeline if and only
if some poll found it among the ten newest signatures and got as far as it. -/
theorem passed_iff_reached (hs : Schedule venue cfg env archive address polls p)
    (hd : Due cfg.bertMint address archive sig p.1.db) :
    (∃ P ∈ polls, P.Passes sig) ↔ ∃ P ∈ polls, P.Reaches sig := by
  have hall := (schedule_scheduled hs).polls
  have heach : ∀ P ∈ polls, P.Passes sig ↔ P.Reaches sig := by
    intro P hP
    obtain ⟨ht, ⟨u, ho⟩, hkept⟩ := hall P hP
    refine poll_passes P ht ho ⟨hd.confirmed, hd.pays, ?_⟩
    cases hhas : hasDeposit sig P.finish.1.db with
    | false => rfl
    | true => exact (hkept sig hhas).symm.trans hd.uncredited
  constructor
  · rintro ⟨P, hP, hpassed⟩
    exact ⟨P, hP, (heach P hP).mp hpassed⟩
  · rintro ⟨P, hP, hreached⟩
    exact ⟨P, hP, (heach P hP).mpr hreached⟩

theorem played_course (sc : PlayedRuns.Scene) (m : Vault Unit) (p : JournalPoint) :
    MainCourse plainVenue plainConfig anyEnvironment m p
      ((Scene.recording sc).play (recorded .main (m p.1) p.2)).1
      ((Scene.recording sc).play (recorded .main (m p.1) p.2)).2 := by
  refine play_ends (p := fun _ _ => true) ⟨fun _ _ _ => trivial, ?_⟩ (Script.meets_any _ _)
  intro q p
  have hr : anyEnvironment.host.respond q p.1 (sc.respond q p.1).1 (sc.respond q p.1).2 :=
    sc.quiet q p.1
  exact ⟨.single (.answer hr), p.1, hr⟩

def settled : JournalPoint :=
  JournaledRun.point plainVenue plainConfig
    ((PlayedRuns.founding.1, .bootstrap ⟨1, 100⟩) :: settlingIn) oneSol

/-- One transfer of one SOL. -/
def oneTransfer : Archive where
  transaction sig := if sig = "inbound" then some ⟨["holder"], [0], [1000000000], [], []⟩ else none
  failed sig := sig ≠ "inbound"

def listingScene (history : List SignatureInfo) : PlayedRuns.Scene where
  clock := 2100000
  signatures := fun a => if a = "holder" then history.take 10 else []
  transactions := oneTransfer.transaction

def polledPoint (history : List SignatureInfo) : Except Thrown Unit × JournalPoint :=
  (Scene.recording (listingScene history)).play
    (recorded .main (pollAddress (watcherDeps plainConfig.bertMint) "holder" settled.1) settled.2)

instance (archive : Archive) (history : Bool → List SignatureInfo) (e : Watch) :
    Decidable (Serves archive history e) := by
  unfold Serves
  split <;> infer_instance

def onlyMain (history : List SignatureInfo) (bertAta : Bool) : List SignatureInfo :=
  if bertAta then [] else history

def inbound : SignatureInfo := ⟨"inbound", false, some 2000⟩

def spam : List SignatureInfo :=
  ["a", "b", "c", "d", "e", "f", "g", "h", "i", "j"].map fun sig => ⟨sig, true, some 2001⟩

def playedPoll (history : List SignatureInfo)
    (hserved : ∀ e ∈ steps settled (polledPoint history).2, Serves oneTransfer (onlyMain history) e)
    (hfailed : ∀ s ∈ history, s.failed = oneTransfer.failed s.signature) :
    Poll plainVenue plainConfig anyEnvironment oneTransfer "holder" where
  start := settled
  result := (polledPoint history).1
  finish := (polledPoint history).2
  history := onlyMain history
  made := played_course (listingScene history) _ settled
  served := hserved
  failed bertAta s hs := by
    cases bertAta with
    | false => exact hfailed s hs
    | true => cases hs

def shortPoll : Poll plainVenue plainConfig anyEnvironment oneTransfer "holder" :=
  playedPoll [inbound] (by decide +kernel) (by decide +kernel)

def spammedPoll : Poll plainVenue plainConfig anyEnvironment oneTransfer "holder" :=
  playedPoll (spam ++ [inbound]) (by decide +kernel) (by decide +kernel)

theorem playedPoll_scheduled (P : Poll plainVenue plainConfig anyEnvironment oneTransfer "holder")
    (hP : P.start = settled) :
    Schedule plainVenue plainConfig anyEnvironment oneTransfer "holder" [P] P.finish := by
  refine .polled P ?_
  rw [hP]
  exact .opened (u := 2) (played_journaled _ _ _ _) (by decide +kernel)

instance (log : List Watch) (sig : String) : Decidable (.passed sig ∈ log) :=
  decidable_of_iff (log.any fun e => match e with | .passed sig' => sig' = sig | _ => false) (by
    simp only [List.any_eq_true]
    constructor
    · rintro ⟨e, he, hsig⟩
      split at hsig
      · exact of_decide_eq_true hsig ▸ he
      · cases hsig
    · intro hmem
      exact ⟨_, hmem, decide_eq_true rfl⟩)

theorem passed_iff_reached_shortPoll :
    (∃ P ∈ [shortPoll], P.Passes "inbound") ↔ ∃ P ∈ [shortPoll], P.Reaches "inbound" :=
  passed_iff_reached (playedPoll_scheduled shortPoll rfl)
    ⟨by decide, ⟨_, rfl, by decide +kernel⟩, by decide +kernel⟩

/-- Ten failed transactions of strangers, and a poll in which every call succeeds does not see
the transfer behind them. -/
theorem spam_hides : ∃ P : Poll plainVenue plainConfig anyEnvironment oneTransfer "holder",
    Schedule plainVenue plainConfig anyEnvironment oneTransfer "holder" [P] P.finish ∧
    P.result = .ok () ∧ inbound ∈ P.history false ∧
    Due plainConfig.bertMint "holder" oneTransfer inbound.signature P.finish.1.db ∧
    ¬∃ P' ∈ [P], P'.Passes inbound.signature := by
  refine ⟨spammedPoll, playedPoll_scheduled spammedPoll rfl, ?_, ?_, ?_, ?_⟩
  · rfl
  · decide +kernel
  · exact ⟨by decide, ⟨_, rfl, by decide +kernel⟩, by decide +kernel⟩
  · rintro ⟨P', hP', hpassed⟩
    rw [List.mem_singleton.mp hP'] at hpassed
    have hnone : ¬.passed inbound.signature ∈ steps spammedPoll.start spammedPoll.finish := by
      decide +kernel
    exact hnone hpassed

end PollCompleteness
