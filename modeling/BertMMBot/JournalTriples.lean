import BertMMBot.JournalMachine

/-! # Triples for the journal

What the chat and the main loop find again after an awaited call, and the rules by which
their programs are followed. An assertion about a fiber's own part of the journal, or about
what the others never change, passes through most of them as it is. -/
namespace JournalTriples

open AsyncProgram AsyncContract AsyncFibers AsyncRecords RecordedTriples KeyedTable
open VaultTypes VaultProgram VaultDiscipline DepositorStore ShareMath LedgerMachine
open VaultJournal JournalMachine
open RecordedTriples (Triple Keeps)
open MeteoraPosition (Venue)
open VaultRuntime (BotConfig)

variable {venue : Venue} {cfg : BotConfig} {env : Environment} {i : Fiber} {w w' : World}
  {h h' : Journal} {p q : JournalPoint} {u : TelegramId} {α β : Type}

theorem enrolled_amend {g : Account → Account} {db db' : Db} {v : TelegramId}
    (hdb : accounts db' = amend Account.telegramId v g (accounts db))
    (hid : ∀ a, (g a).telegramId = a.telegramId) (hen : ∀ a, (g a).isEnrolled = a.isEnrolled) :
    Enrolled u db' ↔ Enrolled u db := by
  unfold Enrolled accountOf
  rw [hdb]
  by_cases hv : u = v
  · subst v
    rw [lookup_amend_self hid]
    simp [hen]
  · rw [lookup_amend_of_ne hid hv]

theorem enrolled_alike (ha : Alike w w') : Enrolled u w'.db ↔ Enrolled u w.db := by
  unfold Enrolled accountOf
  rw [ha.accounts]

structure ChatSees (p q : JournalPoint) : Prop where
  own : own .telegram q.2 = own .telegram p.2
  enrolled : ∀ u, Enrolled u q.1.db ↔ Enrolled u p.1.db

theorem act_chatSees (hi : i ≠ .telegram) (ha : Act venue cfg i p q) : ChatSees p q := by
  cases ha with
  | begin j =>
    refine ⟨own_other rfl hi, ?_⟩
    intro u
    exact Iff.rfl
  | tell e he hs =>
    refine ⟨own_other he hi, ?_⟩
    intro u
    exact Iff.rfl
  | minor hm =>
    refine ⟨rfl, ?_⟩
    intro u
    exact enrolled_alike hm.toAlike
  | prompt => exact absurd rfl hi
  | @change _ w h c hp =>
    refine ⟨rfl, ?_⟩
    intro u
    cases c with
    | addUser row =>
      obtain ⟨hmain, hcli, -, hnone, -⟩ := hp
      have hempty : i = .cli := by
        cases i with
        | main => exact absurd rfl hmain
        | telegram => exact absurd rfl hi
        | cli => rfl
      have husers := hcli hempty
      simp only [Change.apply, World.withDb_db, Enrolled, accountOf, accounts, husers]
      constructor
      · rintro ⟨a, ha, hen⟩
        have hmem := (lookup_some ha).1
        simp only [List.nil_append, List.map_cons, List.map_nil, List.mem_singleton] at hmem
        subst a
        simp [Account.isEnrolled, account, hnone] at hen
      · rintro ⟨a, ha, -⟩
        cases ha
    | setEnrolment => exact absurd hp.1 hi
    | addDeposit => exact Iff.rfl
    | addWithdrawal => exact Iff.rfl
    | amendWithdrawal => exact Iff.rfl
    | requestWhitelist => exact absurd hp.1 hi
    | firstWhitelist => exact absurd hp.1 hi
    | activateWhitelist c =>
      exact enrolled_amend (accounts_whitelist c.newAddress w.db) (fun _ => rfl) fun _ => rfl
    | cancelWhitelist => exact Iff.rfl
    | addSwept => exact Iff.rfl
    | setPending => exact Iff.rfl
    | setUnlocked => exact Iff.rfl
    | record => exact Iff.rfl

theorem disturbs_chat (hd : (journalMachine venue cfg env).Disturbs .telegram p q) :
    ChatSees p q := by
  cases hd with
  | other hi ha => exact act_chatSees (Ne.symm hi) ha
  | answer hr =>
    refine ⟨rfl, ?_⟩
    intro u
    exact enrolled_alike (quiet_minor (env.quiet hr)).toAlike

def Stored (id : ℕ) (destination : Address) (w : World) : Prop :=
  ∃ r ∈ w.db.withdrawals, r.id = id ∧ r.destination = destination

structure MainSees (p q : JournalPoint) : Prop where
  own : own .main q.2 = own .main p.2
  polled : polled q.2 = polled p.2
  sweeps : sweeps q.2 = sweeps p.2
  trace : q.1.trace = p.1.trace
  sweptRows : sweptRows q.1.db = sweptRows p.1.db
  owns : ∀ u address, Owns u address p.1.db → Owns u address q.1.db
  stored : ∀ id destination, Stored id destination p.1 → Stored id destination q.1

theorem polled_other {e : Line} (he : e.fiber ≠ some .main) : polled (e :: h) = polled h := by
  have hnone : pollOf e = none := by
    unfold pollOf
    split
    · exact absurd rfl he
    · rfl
  simp [polled, hnone]

theorem sweeps_other {e : Line} (he : e.fiber ≠ some .main) : sweeps (e :: h) = sweeps h := by
  have hnone : sweepAt h e = none := by
    unfold sweepAt
    split
    · exact absurd rfl he
    · rfl
  simp [sweeps, hnone]

theorem owns_amend {g : Account → Account} {db db' : Db} {v : TelegramId} {address : Address}
    (hdb : accounts db' = amend Account.telegramId v g (accounts db))
    (hid : ∀ a, (g a).telegramId = a.telegramId)
    (haddr : ∀ a, (g a).depositAddress = a.depositAddress)
    (ho : Owns u address db) : Owns u address db' := by
  obtain ⟨a, ha, hu, haddress⟩ := ho
  unfold Owns
  rw [hdb]
  by_cases hv : a.telegramId = v
  · exact ⟨g a, mem_amend.mpr (.inr ⟨a, ha, hv, rfl⟩), (hid a).trans hu, (haddr a).trans haddress⟩
  · exact ⟨a, mem_amend.mpr (.inl ⟨ha, hv⟩), hu, haddress⟩

theorem owns_alike (ha : Alike w w') {address : Address} (ho : Owns u address w.db) :
    Owns u address w'.db := by
  unfold Owns
  rw [ha.accounts]
  exact ho

theorem stored_alike (ha : Alike w w') {id : ℕ} {destination : Address}
    (hs : Stored id destination w) : Stored id destination w' := by
  unfold Stored
  rw [ha.withdrawals]
  exact hs

theorem change_owns {c : Change} (address : Address) (ho : Owns u address w.db) :
    Owns u address (c.apply w).db := by
  cases c with
  | addUser row =>
    obtain ⟨a, ha, hu, haddress⟩ := ho
    refine ⟨a, ?_, hu, haddress⟩
    simp only [Change.apply, World.withDb_db, accounts, List.map_append]
    exact List.mem_append_left _ ha
  | setEnrolment v enrolledAt =>
    exact owns_amend (accounts_enrol enrolledAt w.db) (fun _ => rfl) (fun _ => rfl) ho
  | firstWhitelist c =>
    exact owns_amend (accounts_whitelist c.newAddress _) (fun _ => rfl) (fun _ => rfl) ho
  | activateWhitelist c =>
    exact owns_amend (accounts_whitelist c.newAddress w.db) (fun _ => rfl) (fun _ => rfl) ho
  | _ => exact ho

theorem act_owns {address : Address} (ha : Act venue cfg i p q) (ho : Owns u address p.1.db) :
    Owns u address q.1.db := by
  cases ha with
  | begin => exact ho
  | tell => exact ho
  | minor hm => exact owns_alike hm.toAlike ho
  | change c => exact change_owns address ho
  | prompt => exact ho

theorem change_stored {c : Change} (hp : Permitted venue cfg i w h c) {id : ℕ}
    {destination : Address} (hs : Stored id destination w) : Stored id destination (c.apply w) := by
  obtain ⟨r, hr, hid, hdest⟩ := hs
  cases c with
  | addWithdrawal row => exact ⟨r, List.mem_append_left _ hr, hid, hdest⟩
  | amendWithdrawal id' f =>
    by_cases hr' : r.id = id'
    · have horder := hp r
      refine ⟨f r, mem_amend.mpr (.inr ⟨r, hr, hr', rfl⟩), ?_, ?_⟩
      · exact (congrArg Order.id horder).trans hid
      · exact (congrArg Order.destination horder).trans hdest
    · exact ⟨r, mem_amend.mpr (.inl ⟨hr, hr'⟩), hid, hdest⟩
  | _ => exact ⟨r, hr, hid, hdest⟩

theorem act_mainSees (hi : i ≠ .main) (ha : Act venue cfg i p q) : MainSees p q := by
  have line : ∀ {w : World} {h : Journal} {e : Line}, e.fiber = some i → MainSees (w, h) (w, e :: h) := by
    intro w h e he
    have hne : e.fiber ≠ some .main := by
      rw [he]
      intro hm
      exact hi (Option.some.inj hm)
    exact ⟨own_other he hi, polled_other hne, sweeps_other hne, rfl, rfl, fun _ _ h => h,
      fun _ _ h => h⟩
  cases ha with
  | begin j => exact line rfl
  | tell e he hs => exact line he
  | minor hm =>
    exact ⟨rfl, rfl, rfl, hm.trace, hm.sweptRows, fun _ _ ho => owns_alike hm.toAlike ho,
      fun _ _ hs => stored_alike hm.toAlike hs⟩
  | @change _ w h c hp =>
    have keeps : ∀ w', w' = c.apply w → w'.trace = w.trace → sweptRows w'.db = sweptRows w.db →
        MainSees (w, h) (w', h) := by
      rintro w' rfl htrace hswept
      exact ⟨rfl, rfl, rfl, htrace, hswept, fun _ address ho => change_owns address ho,
        fun _ _ hs => change_stored hp hs⟩
    cases c with
    | record => exact absurd hp hi
    | addSwept => exact absurd hp.1 hi
    | _ => exact keeps _ rfl rfl rfl
  | prompt chatId u amountUsd destination notice =>
    exact ⟨own_other rfl (by decide), rfl, rfl, rfl, rfl, fun _ _ h => h, fun _ _ h => h⟩

theorem disturbs_main (hd : (journalMachine venue cfg env).Disturbs .main p q) : MainSees p q := by
  cases hd with
  | other hi ha => exact act_mainSees (Ne.symm hi) ha
  | answer hr =>
    have hm := quiet_minor (env.quiet hr)
    exact ⟨rfl, rfl, rfl, hm.trace, hm.sweptRows, fun _ _ ho => owns_alike hm.toAlike ho,
      fun _ _ hs => stored_alike hm.toAlike hs⟩

/-- An assertion that plain lines, minor changes and the other fibers leave standing. -/
structure Steady (venue : Venue) (cfg : BotConfig) (env : Environment) (i : Fiber)
    (A : JournalPoint → Prop) : Prop where
  tell : ∀ {w : World} {h : Journal} {e : Line}, e.fiber = some i → e.isStart = false → Plain e →
    A (w, h) → A (w, e :: h)
  alike : ∀ {w w' : World} {h : Journal}, Alike w w' → A (w, h) → A (w', h)
  disturb : ∀ {p q : JournalPoint}, (journalMachine venue cfg env).Disturbs i p q → A p → A q

abbrev Followed (venue : Venue) (cfg : BotConfig) (env : Environment) (i : Fiber)
    (A : JournalPoint → Prop) (m : Vault α) (B : α → JournalPoint → Prop)
    (E : JournalPoint → Prop) : Prop :=
  Triple (journalMachine venue cfg env) i A m B E

/-- The program leaves the assertion standing, also where it throws. -/
abbrev Passed (venue : Venue) (cfg : BotConfig) (env : Environment) (i : Fiber)
    (A : JournalPoint → Prop) (m : Vault α) : Prop :=
  Keeps (journalMachine venue cfg env) i A m

theorem steady_true : Steady venue cfg env i fun _ => True :=
  ⟨fun _ _ _ _ => trivial, fun _ _ => trivial, fun _ _ => trivial⟩

theorem Steady.and {A B : JournalPoint → Prop} (hA : Steady venue cfg env i A)
    (hB : Steady venue cfg env i B) : Steady venue cfg env i fun p => A p ∧ B p where
  tell he hs hp h := ⟨hA.tell he hs hp h.1, hB.tell he hs hp h.2⟩
  alike ha h := ⟨hA.alike ha h.1, hB.alike ha h.2⟩
  disturb hd h := ⟨hA.disturb hd h.1, hB.disturb hd h.2⟩

theorem Steady.or {A B : JournalPoint → Prop} (hA : Steady venue cfg env i A)
    (hB : Steady venue cfg env i B) : Steady venue cfg env i fun p => A p ∨ B p where
  tell he hs hp h := h.imp (hA.tell he hs hp) (hB.tell he hs hp)
  alike ha h := h.imp (hA.alike ha) (hB.alike ha)
  disturb hd h := h.imp (hA.disturb hd) (hB.disturb hd)

theorem steady_own {F : Journal → Prop} (hi : i ≠ .cli)
    (hF : ∀ e L, e.fiber = some i → Plain e → F L → F (e :: L)) :
    Steady venue cfg env i fun p => F (own i p.2) where
  tell he hs hp h := by
    rw [own_tell he hs]
    exact hF _ _ he hp h
  alike _ h := h
  disturb hd h := by
    cases i with
    | main =>
      rw [(disturbs_main hd).own]
      exact h
    | telegram =>
      rw [(disturbs_chat hd).own]
      exact h
    | cli => exact absurd rfl hi

theorem steady_enrolled : Steady venue cfg env .telegram fun p => Enrolled u p.1.db where
  tell _ _ _ h := h
  alike ha h := (enrolled_alike ha).mpr h
  disturb hd h := ((disturbs_chat hd).enrolled u).mpr h

theorem steady_owned {address : Address} :
    Steady venue cfg env i fun p => Owns u address p.1.db where
  tell _ _ _ h := h
  alike ha h := owns_alike ha h
  disturb hd h := by
    cases hd with
    | other hi ha => exact act_owns ha h
    | answer hr => exact owns_alike (quiet_minor (env.quiet hr)).toAlike h

theorem steady_notEnrolled : Steady venue cfg env .telegram fun p => ¬Enrolled u p.1.db where
  tell _ _ _ h := h
  alike ha h := fun hen => h ((enrolled_alike ha).mp hen)
  disturb hd h := fun hen => h (((disturbs_chat hd).enrolled u).mp hen)

theorem mem_own_self {e : Line} (he : e.fiber = some i) (hs : e.isStart = false) :
    e ∈ own i (e :: h) := by
  rw [own_tell he hs]
  exact List.mem_cons_self ..

theorem rely_own (hi : i ≠ .cli) {p q : JournalPoint}
    (hr : (journalMachine venue cfg env).rely i p q) : own i q.2 = own i p.2 := by
  refine rely_holds (A := fun q => own i q.2 = own i p.2) ?_ hr rfl
  intro p' q' hd hown
  rw [← hown]
  cases i with
  | main => exact (disturbs_main hd).own
  | telegram => exact (disturbs_chat hd).own
  | cli => exact absurd rfl hi

section Rules

variable {A : JournalPoint → Prop} {B : α → JournalPoint → Prop}

theorem told {e : Line} (he : e.fiber = some i) (hs : e.isStart = false) (hstate : e.state = w)
    (hg : Guarded venue cfg h e) : (journalMachine venue cfg env).Acts i (w, h) (w, e :: h) :=
  .single (.tell e he hs hstate hg)

theorem changed (c : Change) (hp : Permitted venue cfg i w h c) :
    (journalMachine venue cfg env).Acts i (w, h) (c.apply w, h) := .single (.change c hp)

theorem minored (hm : Minor w w') : (journalMachine venue cfg env).Acts i (w, h) (w', h) :=
  .single (.minor hm)

theorem passed_choose (hA : Steady venue cfg env i A) {c : Choice}
    (hg : ∀ h w o, Guarded venue cfg h (.choice i c w o)) :
    Passed venue cfg env i A (Async.choose (I := vaultInterface) c) := by
  refine triple_choose ?_
  intro w h o _ ha _
  exact ⟨told rfl rfl rfl (hg h w o), hA.tell rfl rfl trivial ha⟩

theorem passed_call (hA : Steady venue cfg env i A) {q : Query}
    (hcall : ∀ h w, Guarded venue cfg h (.call i q w) ∧ Plain (.call i q w))
    (hanswer : ∀ h a w, Guarded venue cfg h (.answer i q a w) ∧ Plain (.answer i q a w)) :
    Passed venue cfg env i A (Async.call (I := vaultInterface) q) := by
  refine triple_call ?_ ?_
  · intro w h _ _
    exact told rfl rfl rfl (hcall h w).1
  · intro w h w' h' a ha hr _
    have hcalled := hA.tell (e := .call i q w) rfl rfl (hcall h w).2 ha
    have hfound := rely_holds hA.disturb hr hcalled
    have hend := hA.tell (e := .answer i q a w') rfl rfl (hanswer h' a w').2 hfound
    refine ⟨told rfl rfl rfl (hanswer h' a w').1, ?_⟩
    cases a <;> exact hend

theorem passed_memory (hA : Steady venue cfg env i A) {g : Memory → Memory}
    (hp : ∀ m, (g m).pending = m.pending) (hu : ∀ m, (g m).unlockedUntil = m.unlockedUntil) :
    Passed venue cfg env i A (modifyMemory g) := by
  refine triple_modify ?_
  intro w h _ ha
  have hm : Minor w (w.withMemory (g w.memory)) :=
    ⟨⟨rfl, rfl, rfl, rfl, rfl, rfl⟩, hp w.memory, hu w.memory⟩
  exact ⟨minored hm, hA.alike hm.toAlike ha⟩

theorem followed_statement {P : JournalPoint → Prop} (hA : Steady venue cfg env i A)
    (hP : ∀ p, P p → A p) {st : Stmt} {f : Db → Except Thrown (α × Db)}
    (hg : ∀ w h o, P (w, h) → Guarded venue cfg h (.choice i (Choice.statement st) w o))
    (hok : ∀ w h a db, Tidy w → P (w, h) → f w.db = .ok (a, db) →
      (journalMachine venue cfg env).Acts i
          (w, .choice i (Choice.statement st) w (none : Option Thrown) :: h)
          (w.withDb db, .choice i (Choice.statement st) w (none : Option Thrown) :: h) ∧
        B a (w.withDb db, .choice i (Choice.statement st) w (none : Option Thrown) :: h)) :
    Followed venue cfg env i P (statement st f) B A := by
  have hasked : Followed venue cfg env i P (Async.choose (I := vaultInterface) (Choice.statement st))
      (fun (o : Option Thrown) p => ∃ w h, Tidy w ∧ P (w, h) ∧
        p = (w, .choice i (Choice.statement st) w o :: h)) A := by
    refine triple_choose ?_
    intro w h o ht ha _
    exact ⟨told rfl rfl rfl (hg w h o ha), w, h, ht, ha, rfl⟩
  refine hasked.bind ?_
  rintro (_ | e)
  · refine triple_attempt ?_ ?_
    · rintro w h a w' - ⟨w₀, h₀, ht, ha, heq⟩ hf
      cases heq
      rcases hdb : f w.db with e | ⟨a', db⟩
      · simp [hdb] at hf
      · simp only [hdb, Except.ok.injEq, Prod.mk.injEq] at hf
        obtain ⟨rfl, rfl⟩ := hf
        exact hok w h₀ a' db ht ha hdb
    · rintro w h e ⟨w₀, h₀, -, ha, heq⟩ -
      cases heq
      exact hA.tell rfl rfl trivial (hP _ ha)
  · have hfault : Followed venue cfg env i (fun p => ∃ w h, Tidy w ∧ P (w, h) ∧
        p = (w, .choice i (Choice.statement st) w (some e : Option Thrown) :: h))
        (Async.modify (World.fault · st)) (fun _ => A) A := by
      refine triple_modify ?_
      rintro w h - ⟨w₀, h₀, -, ha, heq⟩
      cases heq
      have hm : Minor w (w.fault st) := ⟨⟨rfl, rfl, rfl, rfl, rfl, rfl⟩, rfl, rfl⟩
      exact ⟨minored hm, hA.alike hm.toAlike (hA.tell rfl rfl trivial (hP _ ha))⟩
    exact hfault.bind fun _ => triple_throw fun _ ha => ha

theorem passed_statement (hA : Steady venue cfg env i A) {st : Stmt}
    {f : Db → Except Thrown (α × Db)}
    (hg : ∀ h w o, Guarded venue cfg h (.choice i (Choice.statement st) w o))
    (hm : ∀ w a db, f w.db = .ok (a, db) → Minor w (w.withDb db)) :
    Passed venue cfg env i A (statement st f) := by
  refine followed_statement hA (fun _ ha => ha) (fun w h o _ => hg h w o) ?_
  intro w h a db _ ha hdb
  have hminor := hm w a db hdb
  exact ⟨minored hminor, hA.alike hminor.toAlike (hA.tell rfl rfl trivial ha)⟩

theorem passed_update (hA : Steady venue cfg env i A) {st : Stmt} {g : Db → Db}
    (hg : ∀ h w o, Guarded venue cfg h (.choice i (Choice.statement st) w o))
    (hm : ∀ w, Minor w (w.withDb (g w.db))) : Passed venue cfg env i A (update st g) := by
  refine passed_statement hA hg ?_
  intro w a db hdb
  cases hdb
  exact hm w

theorem passed_nonNull {property : String} {o : Option α} :
    Passed venue cfg env i A (nonNull property o : Vault α) := by
  cases o with
  | none => exact keeps_throw
  | some a => exact keeps_pure

theorem passed_liftExcept {r : Except Thrown α} :
    Passed venue cfg env i A (liftExcept r : Vault α) := by
  cases r with
  | error e => exact keeps_throw
  | ok a => exact keeps_pure

end Rules

section Jobs

variable {A : JournalPoint → Prop}

/-- The program keeps to the machine; nothing is asked of its end. -/
abbrev Obeys (venue : Venue) (cfg : BotConfig) (env : Environment) (i : Fiber)
    (A : JournalPoint → Prop) (m : Vault Unit) : Prop :=
  Followed venue cfg env i A m (fun _ _ => True) fun _ => True

theorem obeys_of {m : Vault Unit} (hm : Passed venue cfg env i (fun _ => True) m) :
    Obeys venue cfg env i A m :=
  Triple.mono hm (fun _ _ => trivial) (fun _ _ _ => trivial) fun _ _ => trivial

theorem obeys_pure : Obeys venue cfg env i A (pure ()) := obeys_of keeps_pure

theorem passed_then {m : Vault α} {k : α → Vault Unit} (hm : Passed venue cfg env i A m)
    (hk : ∀ a, Obeys venue cfg env i A (k a)) : Obeys venue cfg env i A (m >>= k) :=
  Triple.bind (Triple.mono hm (fun _ ha => ha) (fun _ _ ha => ha) fun _ _ => trivial) hk

theorem followed_then {m : Vault α} {k : α → Vault Unit} {B : α → JournalPoint → Prop}
    (hm : Followed venue cfg env i A m B A) (hk : ∀ a, Obeys venue cfg env i (B a) (k a)) :
    Obeys venue cfg env i A (m >>= k) :=
  Triple.bind (Triple.mono hm (fun _ ha => ha) (fun _ _ hb => hb) fun _ _ => trivial) hk

theorem weaken {m : Vault Unit} {A' : JournalPoint → Prop} (hm : Obeys venue cfg env i A m)
    (hA : ∀ p, A' p → A p) : Obeys venue cfg env i A' m :=
  Triple.mono hm hA (fun _ _ _ => trivial) fun _ _ => trivial

theorem followed_readDb {f : Db → α} :
    Followed venue cfg env i A (readDb f) (fun a p => A p ∧ f p.1.db = a) A :=
  triple_read fun _ _ ha => ⟨ha, rfl⟩

theorem followed_readMemory {f : Memory → α} :
    Followed venue cfg env i A (readMemory f) (fun a p => A p ∧ f p.1.memory = a) A :=
  triple_read fun _ _ ha => ⟨ha, rfl⟩

theorem any_then {m : Vault α} {k : α → Vault Unit}
    (hm : Followed venue cfg env i A m (fun _ _ => True) fun _ => True)
    (hk : ∀ a, Obeys venue cfg env i (fun _ => True) (k a)) :
    Obeys venue cfg env i A (m >>= k) := Triple.bind hm hk

end Jobs

section Transactions

variable {A : JournalPoint → Prop} {B : α → JournalPoint → Prop} {t : JournalPoint} {w₀ : World}

/-- What can be seen of a transaction is the database at its start. -/
structure Shown (venue : Venue) (cfg : BotConfig) (env : Environment) (i : Fiber)
    (A : JournalPoint → Prop) (t : JournalPoint) (w₀ w : World) (h : Journal) : Prop where
  kept : (journalMachine venue cfg env).Kept i t (w.withDb w₀.db, h)
  holds : A (w.withDb w₀.db, h)

/-- The body of a transaction, from its state `w` and journal `h` on. -/
abbrev Within (venue : Venue) (cfg : BotConfig) (env : Environment) (i : Fiber)
    (A : JournalPoint → Prop) (t : JournalPoint) (w₀ : World) (B : α → JournalPoint → Prop)
    (r : VaultRun α) (h : Journal) : Prop :=
  Body (journalMachine venue cfg env) i (fun old new => new.withDb old.db) w₀ t B
    (fun p => (journalMachine venue cfg env).Kept i t p ∧ A p) r h

theorem within_bind {m : Vault α} {k : α → Vault β} {C : β → JournalPoint → Prop}
    (hm : Within venue cfg env i A t w₀ (fun a p => Within venue cfg env i A t w₀ C (k a p.1) p.2)
      (m w) h) : Within venue cfg env i A t w₀ C ((m >>= k) w) h := body_bind hm

theorem within_statement (hA : Steady venue cfg env i A) {st : Stmt}
    {f : Db → Except Thrown (α × Db)} (hs : Shown venue cfg env i A t w₀ w h)
    (hg : ∀ o, Guarded venue cfg h (.choice i (Choice.statement st) (w.withDb w₀.db) o))
    (hok : ∀ a db, f w.db = .ok (a, db) →
      Shown venue cfg env i A t w₀ (w.withDb db)
        (.choice i (Choice.statement st) (w.withDb w₀.db) (none : Option Thrown) :: h) →
      B a (w.withDb db,
        .choice i (Choice.statement st) (w.withDb w₀.db) (none : Option Thrown) :: h)) :
    Within venue cfg env i A t w₀ B (statement st f w) h := by
  refine ⟨hs.kept, ?_⟩
  rintro (_ | e) -
  · have hkept := hs.kept.more (told (i := i) rfl rfl rfl (hg none))
    have hholds := hA.tell (e := .choice i (Choice.statement st) (w.withDb w₀.db)
      (none : Option Thrown)) rfl rfl trivial hs.holds
    change Within venue cfg env i A t w₀ B (execute f w) _
    simp only [execute, Async.attempt]
    rcases hdb : f w.db with e | ⟨a, db⟩
    · exact ⟨hkept, hholds⟩
    · exact hok a db hdb ⟨hkept, hholds⟩
  · have hkept := hs.kept.more (told (i := i) rfl rfl rfl (hg (some e)))
    have hholds := hA.tell (e := .choice i (Choice.statement st) (w.withDb w₀.db)
      (some e : Option Thrown)) rfl rfl trivial hs.holds
    have hm : Minor (w.withDb w₀.db) ((w.fault st).withDb w₀.db) :=
      ⟨⟨rfl, rfl, rfl, rfl, rfl, rfl⟩, rfl, rfl⟩
    exact ⟨hkept.more (minored hm), hA.alike hm.toAlike hholds⟩

theorem within_readDb {g : Db → α} (hb : B (g w.db) (w, h)) :
    Within venue cfg env i A t w₀ B (readDb g w) h := hb

theorem within_transaction {m : Vault α} (hm : Within venue cfg env i A t w₀ B (m w) h) :
    Within venue cfg env i A t w₀ B (withTransaction m w) h := body_transact (fun _ => rfl) hm

theorem followed_transaction {P : JournalPoint → Prop} (hP : ∀ p, P p → A p) {m : Vault α}
    (hm : ∀ t w h, Tidy w → P (w, h) → Shown venue cfg env i A t w w h →
      Within venue cfg env i A t w
        (fun a p => (journalMachine venue cfg env).Kept i t p ∧ B a p) (m w) h) :
    Followed venue cfg env i P (withTransaction m) B A := by
  refine triple_transaction ?_
  intro t w h hk hp
  exact hm t w h hk.inv hp ⟨hk, hP _ hp⟩

end Transactions

end JournalTriples
