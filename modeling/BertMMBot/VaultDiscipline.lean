import BertMMBot.AsyncFibers
import BertMMBot.LedgerMachine
import BertMMBot.VaultRuntime

/-! # Triples for the fibers of the vault

What a fiber owes at each observable point, what it may rely on while it is suspended, and
rules that follow the text of its programs. An assertion that survives frames and the other
fibers passes through most of them unchanged. -/
namespace VaultDiscipline

open AsyncProgram AsyncContract AsyncFibers VaultTypes VaultProgram DepositorStore LedgerMachine
open VaultRuntime (observeMid lastMid computeTrustedMid quotedSolUsd)

/-- Answers from outside leave the vault's tables and its memory alone. -/
structure Quiet (w w' : World) : Prop where
  users : w'.db.users = w.db.users
  shares : w'.db.shares = w.db.shares
  deposits : w'.db.deposits = w.db.deposits
  withdrawals : w'.db.withdrawals = w.db.withdrawals
  whitelistChanges : w'.db.whitelistChanges = w.db.whitelistChanges
  navSnapshots : w'.db.navSnapshots = w.db.navSnapshots
  auditLog : w'.db.auditLog = w.db.auditLog
  memory : w'.memory = w.memory
  trace : w'.trace = w.trace
  faults : w'.faults = w.faults

/-- A host that only ever answers quietly. -/
structure Environment where
  host : VaultHost
  quiet : ∀ {q w a w'}, host.respond q w a w' → Quiet w w'

theorem Quiet.frame {w w' : World} (h : Quiet w w') : Frame w w' := by
  constructor <;> simp [h.users, h.shares, h.deposits, h.withdrawals, h.auditLog, h.memory,
    h.trace, h.faults, bootstraps, userIds]

/-- What the main loop finds again after an awaited call. -/
structure MainRely (w w' : World) : Prop where
  row : ∀ id row, getWithdrawalById id w.db = some row → row.status ≠ .failed →
    getWithdrawalById id w'.db = some row
  phase : ∀ id, phase id w'.trace = phase id w.trace
  trustedMid : w'.memory.trustedMid = w.memory.trustedMid
  priceHistory : w'.memory.priceHistory = w.memory.priceHistory

theorem MainRely.refl (w : World) : MainRely w w := ⟨fun _ _ h _ => h, fun _ => rfl, rfl, rfl⟩

theorem MainRely.trans {w w' w'' : World} (h : MainRely w w') (k : MainRely w' w'') :
    MainRely w w'' where
  row := fun id row hr hs => k.row id row (h.row id row hr hs) hs
  phase := fun id => (k.phase id).trans (h.phase id)
  trustedMid := k.trustedMid.trans h.trustedMid
  priceHistory := k.priceHistory.trans h.priceHistory

theorem Frame.mainRely {w w' : World} (h : Frame w w') : MainRely w w' where
  row := fun id row hr _ => by
    unfold getWithdrawalById at hr ⊢
    rw [h.withdrawals]
    exact hr
  phase := fun id => by rw [h.trace]
  trustedMid := h.trustedMid
  priceHistory := h.priceHistory

/-- A chat handler finds every user again, and the command line relies on nothing. -/
def Rely : Fiber → World → World → Prop
  | .main => MainRely
  | .telegram => fun w w' => userIds w.db <+: userIds w'.db
  | .cli => fun _ _ => True

theorem Rely.refl (f : Fiber) (w : World) : Rely f w w := by
  cases f
  · exact MainRely.refl w
  · exact List.prefix_rfl
  · trivial

theorem Rely.trans {f : Fiber} {w w' w'' : World} (h : Rely f w w') (k : Rely f w' w'') :
    Rely f w w'' := by
  cases f
  · exact MainRely.trans h k
  · exact List.IsPrefix.trans h k
  · trivial

theorem Rely.of_frame {f : Fiber} {w w' : World} (h : Frame w w') : Rely f w w' := by
  cases f
  · exact Frame.mainRely h
  · exact h.users
  · trivial

/-- A tick of the main loop may start its stretch by storing the mid it was given. -/
inductive Origin (P : Policy) : Fiber → World → World → Prop where
  | here {f w} : Origin P f w w
  | observed {w} (mid : Option MidPrice) : (∀ p, mid = some p → P.price p.mid) →
      Origin P .main w (w.withMemory (observeMid mid w.memory))

def Guar (P : Policy) (f : Fiber) (w w' : World) : Prop :=
  ∃ w₀, Origin P f w w₀ ∧ Moves P f w₀ w'

structure HostOk (P : Policy) (H : VaultHost) : Prop where
  choose : ∀ st w, H.choose (.statement st) w none → P.allow st w
  consult : ∀ w u, H.choose .consult w u → P.ready w.memory ∨ lastMid w.memory = none
  respond : ∀ q w a w', H.respond q w a w' → Quiet w w'
  mid : ∀ w mid w', H.respond .getMid w (.ok (some mid)) w' → P.price mid ∧ P.ready w'.memory
  oracle : ∀ w samples w', H.respond .fetchAllSources w (.ok samples) w' → ∀ ts bps p,
    computeTrustedMid samples (quotedSolUsd samples) ts bps = some p → P.price p.mid

def anyPolicy : Policy := ⟨fun _ _ => True, fun _ => True, fun _ => True, fun _ _ _ _ h => h⟩

theorem Environment.ok (env : Environment) : HostOk anyPolicy env.host :=
  ⟨fun _ _ _ => trivial, fun _ _ _ => .inl trivial, fun _ _ _ _ h => env.quiet h,
    fun _ _ _ _ => ⟨trivial, trivial⟩, fun _ _ _ _ _ _ _ _ => trivial⟩

/-- The part of an environment that stays within a policy: statements run only where it
allows them, the oracle is consulted only when it is ready or has no mid, and every mid has
an admitted price. -/
def Environment.within (env : Environment) (P : Policy) : VaultHost where
  choose c w o := env.host.choose c w o ∧
    match c, o with
    | .statement st, none => P.allow st w
    | .consult, _ => P.ready w.memory ∨ lastMid w.memory = none
    | _, _ => True
  respond q w a w' := env.host.respond q w a w' ∧
    match q, a with
    | .getMid, .ok (some mid) => P.price mid ∧ P.ready w'.memory
    | .fetchAllSources, .ok samples => ∀ ts bps p,
      computeTrustedMid samples (quotedSolUsd samples) ts bps = some p → P.price p.mid
    | _, _ => True

theorem Environment.within_ok (env : Environment) (P : Policy) : HostOk P (env.within P) :=
  ⟨fun _ _ h => h.2, fun _ _ h => h.2, fun _ _ _ _ h => env.quiet h.1, fun _ _ _ h => h.2,
    fun _ _ _ h => h.2⟩

def vaultSystem (jobs : Fiber → Vault Unit → Prop) (H : VaultHost) :
    System Fiber vaultInterface World Thrown :=
  ⟨jobs, H, World.restart⟩

section Preservation

variable {P : Policy} {f : Fiber} {w w' : World}

theorem observed_legal {mid : Option MidPrice} (hp : ∀ p, mid = some p → P.price p.mid)
    (h : Legal P w) : Legal P (w.withMemory (observeMid mid w.memory)) := by
  cases mid with
  | none => exact ⟨h.keyed, h.rows, h.owners, h.users, h.pending, h.prices⟩
  | some p =>
    refine ⟨h.keyed, h.rows, h.owners, h.users, h.pending, ?_⟩
    have happ : ∀ x ∈ w.memory.priceHistory ++ [p], P.price x.mid := by
      intro x hx
      rcases List.mem_append.mp hx with hold | hnew
      · exact h.prices x hold
      · rw [List.mem_singleton.mp hnew]
        exact hp p rfl
    intro x hx
    simp only [World.withMemory_memory, observeMid] at hx
    split at hx
    · exact happ x (List.mem_of_mem_tail hx)
    · exact happ x hx

theorem move_mainRely (hf : f ≠ .main) (m : Move P f w w') : MainRely w w' := by
  cases m with
  | frame h => exact Frame.mainRely h
  | found => exact ⟨fun _ _ h _ => h, fun _ => rfl, rfl, rfl⟩
  | credit => exact ⟨fun _ _ h _ => h, fun _ => rfl, rfl, rfl⟩
  | enqueue row =>
    refine ⟨?_, fun _ => rfl, rfl, rfl⟩
    intro id r hr _
    exact KeyedTable.lookup_append_some hr
  | requeue row hrow hst =>
    refine ⟨?_, fun _ => rfl, rfl, rfl⟩
    intro id r hr hns
    have hne : id ≠ row.id := by
      rintro rfl
      rw [hrow] at hr
      cases hr
      exact hns hst
    exact (updated_other (g := requeued) (fun _ => rfl) hne).trans hr
  | take | process | transfer | transferred | sweep | swept | send | complete | fail => exact absurd rfl hf

theorem guar_mainRely (hf : f ≠ .main) (hg : Guar P f w w') : MainRely w w' := by
  obtain ⟨w₀, ho, hm⟩ := hg
  cases ho with
  | observed => exact absurd rfl hf
  | here =>
    induction hm with
    | refl => exact MainRely.refl w
    | tail _ m ih => exact ih.trans (move_mainRely hf m)

theorem guar_users (hg : Guar P f w w') : userIds w.db <+: userIds w'.db := by
  obtain ⟨w₀, ho, hm⟩ := hg
  cases ho with
  | here => exact moves_users hm
  | observed =>
    have hu := moves_users hm
    exact hu

end Preservation

def discipline {P : Policy} {H : VaultHost} (hH : HostOk P H) (jobs : Fiber → Vault Unit → Prop) :
    Discipline (vaultSystem jobs H) where
  Inv := Legal P
  guar := Guar P
  rely := Rely
  rely_refl := Rely.refl
  rely_trans := fun _ _ _ _ => Rely.trans
  guar_rely := by
    intro i j s t hij _ hg
    cases j
    · exact guar_mainRely hij hg
    · exact guar_users hg
    · trivial
  respond_inv := fun q s a t hs hr => move_preserves_legal (P := P) (f := .main) hs
    (.frame (hH.respond q s a t hr).frame)
  respond_rely := fun _ q s a t _ hr => Rely.of_frame (hH.respond q s a t hr).frame
  restart_inv := fun _ hs => restart_preserves_legal hs

/-- The standing obligation of a fiber, from the start of its current stretch. -/
structure Kept (P : Policy) (f : Fiber) (t w : World) : Prop where
  legal : Legal P w
  guar : Guar P f t w

def fiberContract (P : Policy) (H : VaultHost) (f : Fiber) : VaultContract where
  choose := H.choose
  stop := Kept P f
  suspend _ := Kept P f
  resume q w a w' := Legal P w' ∧ Rely f w w' ∧ ∃ w₁, H.respond q w₁ a w'

/-- What survives the frames of a fiber and the moves of the others. -/
structure Steady (f : Fiber) (A : World → Prop) : Prop where
  frame : ∀ {w w'}, Frame w w' → A w → A w'
  rely : ∀ {w w'}, Rely f w w' → A w → A w'

theorem steady_true (f : Fiber) : Steady f fun _ => True := ⟨fun _ _ => trivial, fun _ _ => trivial⟩

theorem Steady.and {f : Fiber} {A B : World → Prop} (hA : Steady f A) (hB : Steady f B) :
    Steady f fun w => A w ∧ B w :=
  ⟨fun h hw => ⟨hA.frame h hw.1, hB.frame h hw.2⟩, fun h hw => ⟨hA.rely h hw.1, hB.rely h hw.2⟩⟩

theorem steady_ready (P : Policy) : Steady .main fun w => P.ready w.memory :=
  ⟨fun h hw => P.ready_oracle _ _ h.trustedMid h.priceHistory hw,
    fun h hw => P.ready_oracle _ _ h.trustedMid h.priceHistory hw⟩

def outcome {α : Type} (B : α → World → Prop) (E : World → Prop) (r : Except Thrown α)
    (w : World) : Prop :=
  match r with
  | .ok a => B a w
  | .error _ => E w

/-- From a state that meets `A`, the program keeps its fiber's obligation and ends in `B`,
or throws in `E`. -/
structure Triple {α : Type} (P : Policy) (H : VaultHost) (f : Fiber) (A : World → Prop)
    (m : Vault α) (B : α → World → Prop) (E : World → Prop) : Prop where
  safe : ∀ t w, Kept P f t w → A w →
    Safe (fiberContract P H f) (m w) t fun t r w => Kept P f t w ∧ outcome B E r w

/-- The program keeps its fiber's obligation and the assertion `A`. -/
def Keeps {α : Type} (P : Policy) (H : VaultHost) (f : Fiber) (A : World → Prop) (m : Vault α) :
    Prop :=
  Triple P H f A m (fun _ => A) A

variable {α β : Type} {P : Policy} {H : VaultHost} {f : Fiber} {A E : World → Prop}
  {B : α → World → Prop} {C : β → World → Prop}

theorem Kept.start {w : World} (h : Legal P w) : Kept P f w w := ⟨h, w, .here, .refl⟩

theorem Kept.moves {t w w' : World} (h : Kept P f t w) (hm : Moves P f w w') : Kept P f t w' := by
  obtain ⟨w₀, ho, hm₀⟩ := h.guar
  exact ⟨moves_preserve_legal h.legal hm, w₀, ho, hm₀.trans hm⟩

theorem Kept.move {t w w' : World} (h : Kept P f t w) (hm : Move P f w w') : Kept P f t w' :=
  h.moves (.single hm)

theorem Kept.frame {t w w' : World} (h : Kept P f t w) (hf : Frame w w') : Kept P f t w' :=
  h.move (.frame hf)

theorem frame_fault (w : World) (st : Stmt) : Frame w (w.fault st) :=
  ⟨rfl, rfl, rfl, rfl, List.prefix_rfl, id, rfl, List.suffix_cons .., rfl, rfl, id⟩

theorem triple_job (hH : HostOk P H) {jobs : Fiber → Vault Unit → Prop} {m : Vault Unit}
    (h : Keeps P H f (fun _ => True) m) {w : World} (hw : Legal P w) :
    Safe ((discipline hH jobs).contract f) (m w) w ((discipline hH jobs).owed f) := by
  have key : ∀ (r : VaultRun Unit) (t : World) (post : World → Except Thrown Unit → World → Prop),
      Safe (fiberContract P H f) r t post → Safe ((discipline hH jobs).contract f) r t post := by
    intro r
    induction r with
    | done r s => exact fun _ _ h => h
    | sync c s k ih => exact fun t post h => ⟨⟨h.1.legal, h.1.guar⟩, fun o ho => ih o t post (h.2 o ho)⟩
    | await q s k ih =>
      exact fun t post h => ⟨⟨h.1.legal, h.1.guar⟩, fun a s' ha => ih a s' s' post (h.2 a s' ha)⟩
  exact key _ _ _ ((h.safe w w (Kept.start hw) trivial).mono fun t r s hk => ⟨hk.1.legal, hk.1.guar⟩)

theorem Triple.mono {A' E' : World → Prop} {B' : α → World → Prop} {m : Vault α}
    (h : Triple P H f A m B E) (hA : ∀ w, A' w → A w) (hB : ∀ a w, B a w → B' a w)
    (hE : ∀ w, E w → E' w) : Triple P H f A' m B' E' := by
  refine ⟨fun t w hk ha => ?_⟩
  refine (h.safe t w hk (hA w ha)).mono ?_
  rintro t (e | a) w ⟨hk, ho⟩
  · exact ⟨hk, hE w ho⟩
  · exact ⟨hk, hB a w ho⟩

theorem triple_pure {a : α} (h : ∀ w, A w → B a w) : Triple P H f A (pure a) B E :=
  ⟨fun _ w hk ha => ⟨hk, h w ha⟩⟩

theorem triple_throw {e : Thrown} (h : ∀ w, A w → E w) : Triple P H f A (throw e) B E :=
  ⟨fun _ w hk ha => ⟨hk, h w ha⟩⟩

theorem Triple.bind {m : Vault α} {k : α → Vault β} (hm : Triple P H f A m B E)
    (hk : ∀ a, Triple P H f (B a) (k a) C E) : Triple P H f A (m >>= k) C E := by
  refine ⟨fun t w hkept ha => ?_⟩
  refine safe_bind.mpr ((hm.safe t w hkept ha).mono ?_)
  rintro t (e | a) w ⟨hkept, ho⟩
  · exact ⟨hkept, ho⟩
  · exact (hk a).safe t w hkept ho

theorem Triple.tryCatch {D : World → Prop} {m : Vault α} {h : Thrown → Vault α}
    (hm : Triple P H f A m B D) (hh : ∀ e, Triple P H f D (h e) B E) :
    Triple P H f A (tryCatch m h) B E := by
  refine ⟨fun t w hkept ha => ?_⟩
  refine safe_handle.mpr ((hm.safe t w hkept ha).mono ?_)
  rintro t (e | a) w ⟨hkept, ho⟩
  · exact (hh e).safe t w hkept ho
  · exact ⟨hkept, ho⟩

theorem triple_ite {c : Prop} [Decidable c] {m n : Vault α} (hm : c → Triple P H f A m B E)
    (hn : ¬c → Triple P H f A n B E) : Triple P H f A (if c then m else n) B E := by
  by_cases h : c
  · simpa [h] using hm h
  · simpa [h] using hn h

theorem triple_of_fact {p : Prop} {m : Vault α} (h : p → Triple P H f A m B E) :
    Triple P H f (fun w => p ∧ A w) m B E :=
  ⟨fun t w hk ha => (h ha.1).safe t w hk ha.2⟩

theorem triple_liftExcept {r : Except Thrown α} (hE : ∀ w, A w → E w) :
    Triple P H f A (liftExcept r) (fun a w => r = .ok a ∧ A w) E := by
  cases r
  · exact triple_throw hE
  · exact triple_pure fun _ h => ⟨rfl, h⟩

theorem triple_read {g : World → α} (h : ∀ w, Legal P w → A w → B (g w) w) :
    Triple P H f A (Async.read g) B E :=
  ⟨fun _ w hk ha => ⟨hk, h w hk.legal ha⟩⟩

theorem triple_choose {c : Choice} {B : vaultInterface.Outcome c → World → Prop}
    (h : ∀ o w, H.choose c w o → A w → B o w) :
    Triple P H f A (Async.choose (I := vaultInterface) c) B E :=
  ⟨fun _ w hk ha => ⟨hk, fun o ho => ⟨hk, h o w ho ha⟩⟩⟩

theorem triple_call (hA : Steady f A) {q : Query} {B : vaultInterface.Reply q → World → Prop}
    (hB : ∀ a w w', A w' → H.respond q w (.ok a) w' → B a w') (hE : ∀ w, A w → E w) :
    Triple P H f A (Async.call (I := vaultInterface) q) B E := by
  refine ⟨fun t w hk ha => ?_⟩
  refine ⟨hk, ?_⟩
  rintro a w' ⟨hl, hr, w₁, hresp⟩
  refine ⟨Kept.start hl, ?_⟩
  have ha' := hA.rely hr ha
  cases a with
  | error e => exact hE w' ha'
  | ok a => exact hB a w₁ w' ha' hresp

theorem triple_statement {st : Stmt} {g : Db → Except Thrown (α × Db)}
    (hfault : ∀ w, A w → E (w.fault st)) (herr : ∀ w, A w → E w)
    (hok : ∀ w a db, Legal P w → A w → P.allow st w → g w.db = .ok (a, db) →
      Moves P f w (w.withDb db) ∧ B a (w.withDb db)) (hH : HostOk P H) :
    Triple P H f A (statement st g) B E := by
  refine ⟨fun t w hk ha => ?_⟩
  refine safe_statement.mpr ⟨hk, ?_, ?_⟩
  · intro e _
    exact ⟨hk.frame (frame_fault w st), hfault w ha⟩
  · intro ho
    refine ⟨fun a db hg => ?_, fun e _ => ⟨hk, herr w ha⟩⟩
    obtain ⟨hm, hb⟩ := hok w a db hk.legal ha (hH.choose st w ho) hg
    exact ⟨hk.moves hm, hb⟩

theorem triple_update {st : Stmt} {g : Db → Db} {B : Unit → World → Prop}
    (hfault : ∀ w, A w → E (w.fault st))
    (hok : ∀ w, Legal P w → A w → P.allow st w →
      Moves P f w (w.withDb (g w.db)) ∧ B () (w.withDb (g w.db))) (hH : HostOk P H) :
    Triple P H f A (update st g) B E := by
  refine ⟨fun t w hk ha => ?_⟩
  refine safe_update.mpr ⟨hk, ?_, ?_⟩
  · intro e _
    exact ⟨hk.frame (frame_fault w st), hfault w ha⟩
  · intro ho
    obtain ⟨hm, hb⟩ := hok w hk.legal ha (hH.choose st w ho)
    exact ⟨hk.moves hm, hb⟩

theorem keeps_modifyMemory (hA : ∀ {w w'}, Frame w w' → A w → A w') {g : Memory → Memory}
    (hg : ∀ w, Legal P w → Frame w (w.withMemory (g w.memory))) :
    Keeps P H f A (modifyMemory g) :=
  ⟨fun _ w hk ha => ⟨hk.frame (hg w hk.legal), hA (hg w hk.legal) ha⟩⟩

theorem triple_record {e : TraceEvent} {B : Unit → World → Prop}
    (h : ∀ w, Legal P w → A w → Move P f w (w.record e) ∧ B () (w.record e)) :
    Triple P H f A (record e) B E := by
  refine ⟨fun t w hk ha => ?_⟩
  obtain ⟨hm, hb⟩ := h w hk.legal ha
  exact ⟨hk.move hm, hb⟩

theorem keeps_pure {a : α} : Keeps P H f A (pure a : Vault α) := triple_pure fun _ h => h

theorem keeps_throw {e : Thrown} : Keeps P H f A (throw e : Vault α) := triple_throw fun _ h => h

theorem Keeps.bind {m : Vault α} {k : α → Vault β} (hm : Keeps P H f A m)
    (hk : ∀ a, Keeps P H f A (k a)) : Keeps P H f A (m >>= k) := Triple.bind hm hk

theorem Keeps.tryCatch {m : Vault α} {h : Thrown → Vault α} (hm : Keeps P H f A m)
    (hh : ∀ e, Keeps P H f A (h e)) : Keeps P H f A (tryCatch m h) := Triple.tryCatch hm hh

theorem keeps_ite {c : Prop} [Decidable c] {m n : Vault α} (hm : Keeps P H f A m)
    (hn : Keeps P H f A n) : Keeps P H f A (if c then m else n) :=
  triple_ite (fun _ => hm) (fun _ => hn)

theorem keeps_read {g : World → α} : Keeps P H f A (Async.read g : Vault α) :=
  triple_read fun _ _ h => h

theorem keeps_choose {c : Choice} : Keeps P H f A (Async.choose (I := vaultInterface) c) :=
  triple_choose fun _ _ _ h => h

theorem keeps_call (hA : Steady f A) {q : Query} :
    Keeps P H f A (Async.call (I := vaultInterface) q) :=
  triple_call hA (fun _ _ _ h _ => h) fun _ h => h

theorem keeps_nonNull {property : String} {o : Option α} :
    Keeps P H f A (nonNull property o) := by
  cases o
  · exact keeps_throw
  · exact keeps_pure

theorem keeps_liftExcept {r : Except Thrown α} : Keeps P H f A (liftExcept r : Vault α) := by
  cases r
  · exact keeps_throw
  · exact keeps_pure

theorem triple_forEach {g : β → Vault Unit} {A : List β → World → Prop}
    (body : ∀ x xs, Triple P H f (A (x :: xs)) (g x) (fun _ => A xs) E) :
    ∀ xs, Triple P H f (A xs) (Async.forEach xs g) (fun _ => A []) E := by
  intro xs
  induction xs with
  | nil => exact triple_pure fun _ h => h
  | cons x xs ih => exact (body x xs).bind fun _ => ih

theorem keeps_forEach {g : β → Vault Unit} (body : ∀ x, Keeps P H f A (g x)) (xs : List β) :
    Keeps P H f A (Async.forEach xs g) :=
  triple_forEach (A := fun _ => A) (fun x _ => body x) xs

structure Inside (w₀ w : World) : Prop where
  memory : w.memory = w₀.memory
  trace : w.trace = w₀.trace
  faults : w₀.faults <:+ w.faults

theorem Inside.refl (w : World) : Inside w w := ⟨rfl, rfl, List.suffix_rfl⟩

theorem Inside.withDb {w₀ w : World} (h : Inside w₀ w) (db : Db) : Inside w₀ (w.withDb db) :=
  ⟨h.memory, h.trace, h.faults⟩

theorem Inside.fault {w₀ w : World} (h : Inside w₀ w) (st : Stmt) : Inside w₀ (w.fault st) :=
  ⟨h.memory, h.trace, h.faults.trans (List.suffix_cons ..)⟩

theorem Inside.rollback {w₀ w : World} (h : Inside w₀ w) : Frame w₀ (w.withDb w₀.db) := by
  constructor <;> simp [h.memory, h.trace, h.faults]

def bodyContract (w₀ : World) : VaultContract where
  choose _ _ _ := True
  stop _ := Inside w₀
  suspend _ _ _ := False
  resume _ _ _ _ := False

/-- The body of a transaction opened at `w₀`, run from `w`, commits only in `Q`. -/
def Body (w₀ w : World) (m : Vault α) (Q : α → World → Prop) : Prop :=
  Safe (bodyContract w₀) (m w) w₀ fun _ r w' => Inside w₀ w' ∧ ∀ a, r = .ok a → Q a w'

section Bodies

variable {w₀ w : World} {Q : α → World → Prop} {R : β → World → Prop}

theorem body_pure {a : α} (h : Inside w₀ w) (hq : Q a w) : Body w₀ w (pure a) Q := by
  refine ⟨h, ?_⟩
  rintro b ⟨⟩
  exact hq

theorem body_throw {e : Thrown} (h : Inside w₀ w) : Body w₀ w (throw e) Q :=
  ⟨h, nofun⟩

theorem body_origin {r : VaultRun α} {t : World} {post}
    (h : Safe (bodyContract w₀) r t post) :
    Safe (bodyContract w₀) r t fun t' x w => t' = t ∧ post t x w := by
  induction r with
  | done x s => exact ⟨rfl, h⟩
  | sync c s k ih => exact ⟨h.1, fun o ho => ih o (h.2 o ho)⟩
  | await q s k => exact h.1.elim

theorem Body.bind {m : Vault α} {k : α → Vault β}
    (h : Body w₀ w m fun a w' => Body w₀ w' (k a) R) : Body w₀ w (m >>= k) R := by
  refine safe_bind.mpr ((body_origin h).mono ?_)
  rintro t (e | a) w' ⟨rfl, hin, hq⟩
  · exact ⟨hin, nofun⟩
  · exact hq a rfl

theorem Body.seq {m : Vault α} {k : α → Vault β} (h : Body w₀ w m Q)
    (hk : ∀ a w', Inside w₀ w' → Q a w' → Body w₀ w' (k a) R) : Body w₀ w (m >>= k) R := by
  refine Body.bind (Safe.mono h ?_)
  rintro t (e | a) w' ⟨hin, hq⟩
  · exact ⟨hin, nofun⟩
  · refine ⟨hin, ?_⟩
    rintro b ⟨⟩
    exact hk a w' hin (hq a rfl)

theorem body_readDb {g : Db → α} (h : Inside w₀ w) (hq : Q (g w.db) w) :
    Body w₀ w (readDb g) Q := by
  refine ⟨h, ?_⟩
  rintro b ⟨⟩
  exact hq

theorem body_statement {st : Stmt} {g : Db → Except Thrown (α × Db)} (h : Inside w₀ w)
    (hq : ∀ a db, g w.db = .ok (a, db) → Q a (w.withDb db)) : Body w₀ w (statement st g) Q := by
  refine safe_statement.mpr ⟨h, fun e _ => ⟨h.fault st, nofun⟩, fun _ => ⟨?_, ?_⟩⟩
  · intro a db hg
    refine ⟨h.withDb db, ?_⟩
    rintro b ⟨⟩
    exact hq a db hg
  · exact fun e _ => ⟨h, nofun⟩

theorem body_update {st : Stmt} {g : Db → Db} {Q : Unit → World → Prop} (h : Inside w₀ w)
    (hq : Q () (w.withDb (g w.db))) : Body w₀ w (update st g) Q := by
  refine body_statement h ?_
  rintro ⟨⟩ db hg
  cases hg
  exact hq

theorem body_transaction {m : Vault α} (h : Body w₀ w m Q) : Body w₀ w (withTransaction m) Q := by
  refine safe_transact.mpr ?_
  have key : ∀ (r : VaultRun α) {post : World → Except Thrown α → World → Prop},
      Safe (bodyContract w₀) r w₀ post →
      Safe ((bodyContract w₀).within (fun old new => new.withDb old.db) w) r w₀ post := by
    intro r post hr
    induction r with
    | done x s => exact hr
    | sync c s k ih => exact ⟨hr.1.withDb w.db, fun o _ => ih o (hr.2 o trivial)⟩
    | await q s k => exact hr.1.elim
  refine (key _ h).mono ?_
  rintro t (e | a) w' ⟨hin, hq⟩
  · exact ⟨hin.withDb w.db, nofun⟩
  · exact ⟨hin, hq⟩

end Bodies

theorem triple_transaction {m : Vault α} (hE : ∀ {w w'}, Frame w w' → A w → E w')
    (hbody : ∀ w, Legal P w → A w → Body w w m fun a w' => Moves P f w w' ∧ B a w') :
    Triple P H f A (withTransaction m) B E := by
  refine ⟨fun t w hk ha => ?_⟩
  refine safe_transact.mpr ?_
  have key : ∀ (r : VaultRun α) (post : World → Except Thrown α → World → Prop),
      Safe (bodyContract w) r w post →
      Safe ((fiberContract P H f).within (fun old new => new.withDb old.db) w) r t
        fun t' x w' => t' = t ∧ post w x w' := by
    intro r post hr
    induction r with
    | done x s => exact ⟨rfl, hr⟩
    | sync c s k ih => exact ⟨hk.frame (Inside.rollback hr.1), fun o _ => ih o (hr.2 o trivial)⟩
    | await q s k => exact hr.1.elim
  refine (key _ _ (hbody w hk.legal ha)).mono ?_
  rintro t' (e | a) w' ⟨rfl, hin, hq⟩
  · exact ⟨hk.frame hin.rollback, hE hin.rollback ha⟩
  · obtain ⟨hm, hb⟩ := hq a rfl
    exact ⟨hk.moves hm, hb⟩

end VaultDiscipline
