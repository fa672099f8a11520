import BertMMBot.ChatSessions
import BertMMBot.JournalLaws
import BertMMBot.LoopBounds
import BertMMBot.OperatorBounds
import BertMMBot.RecordedOutcomes

/-! # Who may change a credential

A row enters with no secret; a secret is offered to a user who is not enrolled, confirmed as it
is stored, and cleared by a reset. The disclaimer is shown to nobody with an account, and pends
for nobody who is enrolled. What these acts leave of a credential is said here. -/
namespace CredentialMachine

open AsyncProgram AsyncContract AsyncFibers AsyncRecords AsyncWiring RecordedTriples
open RecordedOutcomes KeyedTable VaultTypes VaultProgram DepositorStore DepositorCommands
open VaultJournal
open LoopBounds (Credential credential credentials)
open JournalMachine (Reading withPending)
open VaultDiscipline (Environment)
open LedgerMachine (Fiber)
open VaultRuntime (BotConfig)

variable {cfg : BotConfig} {env : Environment} {i : Fiber} {w w' : World}
  {h h' newer older : Journal} {p q : JournalPoint} {u : TelegramId} {c c' : Credential}
  {e x : Line} {msg : Msg} {α β : Type} {R R' : Prop}

def credentialOf (u : TelegramId) (db : Db) : Option Credential :=
  lookup Credential.telegramId u (credentials db)

/-- The secret is confirmed. -/
def Confirmed (c : Credential) : Prop :=
  c.totpEnrolledAt ≠ none ∧ c.totpEnrolledAt ≠ some 0

/-- The statement behind a reset, in a session that the operator opened with `/resettotp`. -/
def IsReset (cfg : BotConfig) (u : TelegramId) (older : Journal) (e : Line) : Prop :=
  (∃ w, e = .choice .telegram (Choice.statement (.clearUserTotp u)) w (none : Option Thrown)) ∧
    ∃ msg w₀, Opened (.message msg) w₀ (own .telegram older) ∧
      msg.userId = cfg.operatorTelegramId ∧
      TextInput.commandName msg.text = some "resettotp" ∧
      TextInput.resetTotpTarget msg.text = some u

/-- The journal has such a statement above `older`. -/
def ResetSince (cfg : BotConfig) (u : TelegramId) (older h : Journal) : Prop :=
  ∃ newer e below, h = newer ++ e :: below ∧ older <:+ below ∧ IsReset cfg u below e

/-- What becomes of a credential. -/
structure Retained (reset : Prop) (c c' : Credential) : Prop where
  depositAddress : c'.depositAddress = c.depositAddress
  depositSecretEnc : c'.depositSecretEnc = c.depositSecretEnc
  stored : c.totpSecretEnc ≠ none → c'.totpSecretEnc ≠ none ∨ reset
  enrolled : Confirmed c →
    (c'.totpSecretEnc = c.totpSecretEnc ∧ Confirmed c') ∨ reset

/-- The clock never reads its origin, the value that stands for an unconfirmed secret. -/
def PastOrigin (h : Journal) : Prop := ∀ ms, Reading ms h → ms ≠ 0

theorem credentialOf_eq (db : Db) :
    credentialOf u db = (lookup UserRow.telegramId u db.users).map credential := by
  simp only [credentialOf, credentials, lookup, List.find?_map]
  rfl

theorem enrolled_iff (db : Db) :
    Enrolled u db ↔ ∃ c, credentialOf u db = some c ∧ Confirmed c := by
  unfold Enrolled
  rw [accountOf_eq, credentialOf_eq]
  cases lookup UserRow.telegramId u db.users with
  | none => simp
  | some r => simp [account, credential, Account.isEnrolled, Confirmed]

theorem credentialOf_congr {db db' : Db} (hc : credentials db' = credentials db) :
    credentialOf u db' = credentialOf u db := by
  rw [credentialOf, credentialOf, hc]

theorem enrolled_of_credentials {db db' : Db} (hc : credentials db' = credentials db)
    (he : Enrolled u db') : Enrolled u db := by
  rw [enrolled_iff, credentialOf_congr hc] at he
  exact (enrolled_iff db).mpr he

theorem getUser_credential {db : Db} {user : UserRow} (hget : getUser u db = some user) :
    ∃ c, credentialOf u db = some c ∧ (user.totpEnrolledAt.isSome ↔ Confirmed c) := by
  obtain ⟨r, hr, rfl⟩ := Option.map_eq_some_iff.mp hget
  refine ⟨credential r, ?_, ?_⟩
  · rw [credentialOf_eq, hr]
    rfl
  · rw [account_rowToUser]
    exact decide_eq_true_iff

theorem getUser_none {db : Db} (hget : getUser u db = none) : credentialOf u db = none := by
  rw [credentialOf_eq, Option.map_eq_none_iff.mp hget]
  rfl

/-- A stretch that touches no credential and shows nobody the disclaimer. -/
structure Aside (w w' : World) : Prop where
  credentials : credentials w'.db = credentials w.db
  disclaimers : ∀ u, w'.memory.pending u = some .disclaimer → w.memory.pending u = some .disclaimer

def withSecret (secretEnc : Option EncryptedBlob) (enrolledAt : Option ℤ) (c : Credential) :
    Credential := { c with totpSecretEnc := secretEnc, totpEnrolledAt := enrolledAt }

def Rewrites (u : TelegramId) (secretEnc : Option EncryptedBlob) (enrolledAt : Option ℤ)
    (w w' : World) : Prop :=
  credentials w'.db =
    amend Credential.telegramId u (withSecret secretEnc enrolledAt) (credentials w.db) ∧
  w'.memory.pending = w.memory.pending

inductive Act (cfg : BotConfig) : Fiber → JournalPoint → JournalPoint → Prop where
  | begin {w : World} {h : Journal} (j : Job) : Act cfg j.fiber (w, h) (w, .start j.fiber j w :: h)
  | tell {i : Fiber} {w : World} {h : Journal} (e : Line) : e.fiber = some i →
      e.isStart = false → e.state = w → Act cfg i (w, h) (w, e :: h)
  | aside {i : Fiber} {w w' : World} {h : Journal} : Aside w w' → Act cfg i (w, h) (w', h)
  | enter {i : Fiber} {w w' : World} {h : Journal} (c : Credential) :
      credentialOf c.telegramId w.db = none → c.totpEnrolledAt = none →
      credentials w'.db = credentials w.db ++ [c] →
      w'.memory.pending = w.memory.pending → Act cfg i (w, h) (w', h)
  | invite {w : World} {h : Journal} (u : TelegramId) : credentialOf u w.db = none →
      Act cfg .telegram (w, h) (w.withMemory (withPending u (some .disclaimer) w.memory), h)
  | offer {w w' : World} {h : Journal} (u : TelegramId) (secretEnc : EncryptedBlob) :
      ¬Enrolled u w.db → Rewrites u (some secretEnc) (some 0) w w' → Act cfg .telegram (w, h) (w', h)
  | confirm {w w' : World} {h : Journal} (c : Credential) (secretEnc : EncryptedBlob) (ms : ℤ) :
      credentialOf c.telegramId w.db = some c → c.totpSecretEnc = some secretEnc →
      w.memory.pending c.telegramId ≠ some .disclaimer → Reading ms h →
      Rewrites c.telegramId (some secretEnc) (some ms) w w' → Act cfg .telegram (w, h) (w', h)
  | reset {w w' : World} {h : Journal} (u : TelegramId) (e : Line) : IsReset cfg u h e →
      Rewrites u none none w w' → Act cfg .telegram (w, e :: h) (w', e :: h)

theorem credentialOf_rewrites {secretEnc : Option EncryptedBlob} {enrolledAt : Option ℤ}
    (hw : Rewrites u secretEnc enrolledAt w w') :
    credentialOf u w'.db = (credentialOf u w.db).map (withSecret secretEnc enrolledAt) ∧
      ∀ v, v ≠ u → credentialOf v w'.db = credentialOf v w.db := by
  have hself : ∀ c, (withSecret secretEnc enrolledAt c).telegramId = c.telegramId := fun _ => rfl
  simp only [credentialOf, hw.1]
  exact ⟨lookup_amend_self hself, fun v hv => lookup_amend_of_ne hself hv⟩

theorem credentialOf_enters (hc : credentials w'.db = credentials w.db ++ [c])
    (hfresh : credentialOf c.telegramId w.db = none) :
    credentialOf c.telegramId w'.db = some c ∧
      ∀ v, v ≠ c.telegramId → credentialOf v w'.db = credentialOf v w.db := by
  simp only [credentialOf, hc]
  exact ⟨lookup_append_fresh hfresh, fun v hv => lookup_append_of_ne hv⟩

def Unenrolled (w : World) : Prop := ∀ u, w.memory.pending u = some .disclaimer → ¬Enrolled u w.db

theorem credentials_rewritten {f : UserRow → UserRow} {g : Credential → Credential}
    (hfg : ∀ r, credential (f r) = g (credential r)) (db : Db) :
    credentials (updateUser u f db) = amend Credential.telegramId u g (credentials db) := by
  simp only [credentials, updateUser, amend, List.map_map]
  apply List.map_congr_left
  intro r _
  change credential (if r.telegramId = u then f r else r) =
    if r.telegramId = u then g (credential r) else credential r
  by_cases hr : r.telegramId = u
  · rw [if_pos hr, if_pos hr, hfg]
  · rw [if_neg hr, if_neg hr]

theorem act_unenrolled (hp : Unenrolled p.1) (ha : Act cfg i p q) : Unenrolled q.1 := by
  intro u hu
  rw [enrolled_iff]
  rintro ⟨c', hc', hen⟩
  cases ha with
  | begin j => exact hp u hu ((enrolled_iff _).mpr ⟨c', hc', hen⟩)
  | tell e => exact hp u hu ((enrolled_iff _).mpr ⟨c', hc', hen⟩)
  | aside hw =>
    refine hp u (hw.disclaimers u hu) (enrolled_of_credentials hw.credentials ?_)
    exact (enrolled_iff _).mpr ⟨c', hc', hen⟩
  | enter c hfresh hnone hcred hpending =>
    obtain ⟨hself, hothers⟩ := credentialOf_enters hcred hfresh
    by_cases huc : u = c.telegramId
    · rw [huc, hself] at hc'
      cases hc'
      exact hen.1 hnone
    · rw [hpending] at hu
      rw [hothers u huc] at hc'
      exact hp u hu ((enrolled_iff _).mpr ⟨c', hc', hen⟩)
  | invite v hnone =>
    by_cases huv : u = v
    · subst huv
      cases hnone.symm.trans hc'
    · simp only [World.withMemory_memory, withPending, Function.update_of_ne huv] at hu
      exact hp u hu ((enrolled_iff _).mpr ⟨c', hc', hen⟩)
  | offer v secretEnc hnot hw =>
    obtain ⟨hself, hothers⟩ := credentialOf_rewrites hw
    rw [hw.2] at hu
    by_cases huv : u = v
    · subst huv
      rw [hself] at hc'
      obtain ⟨c, -, rfl⟩ := Option.map_eq_some_iff.mp hc'
      exact hen.2 rfl
    · rw [hothers u huv] at hc'
      exact hp u hu ((enrolled_iff _).mpr ⟨c', hc', hen⟩)
  | confirm c secretEnc ms hc hsecret hnot hreading hw =>
    obtain ⟨hself, hothers⟩ := credentialOf_rewrites hw
    rw [hw.2] at hu
    by_cases huc : u = c.telegramId
    · subst huc
      exact hnot hu
    · rw [hothers u huc] at hc'
      exact hp u hu ((enrolled_iff _).mpr ⟨c', hc', hen⟩)
  | reset v e hreset hw =>
    obtain ⟨hself, hothers⟩ := credentialOf_rewrites hw
    rw [hw.2] at hu
    by_cases huv : u = v
    · subst huv
      rw [hself] at hc'
      obtain ⟨c, -, rfl⟩ := Option.map_eq_some_iff.mp hc'
      exact hen.1 rfl
    · rw [hothers u huv] at hc'
      exact hp u hu ((enrolled_iff _).mpr ⟨c', hc', hen⟩)

theorem quiet_aside (hq : VaultDiscipline.Quiet w w') : Aside w w' where
  credentials := by rw [credentials, credentials, hq.users]
  disclaimers u hu := by rwa [hq.memory] at hu

def credentialMachine (cfg : BotConfig) (env : Environment) :
    Machine Job vaultInterface World Thrown Fiber env.host where
  act := Act cfg
  inv p := Unenrolled p.1
  act_inv := act_unenrolled
  respond_inv := by
    intro q w a w' h hp hr
    have hw := quiet_aside (env.quiet hr)
    intro u hu hen
    exact hp u (hw.disclaimers u hu) (enrolled_of_credentials hw.credentials hen)

/-- What the lines and the asides of a fiber, and the other fibers, leave standing. -/
structure Firm (cfg : BotConfig) (env : Environment) (i : Fiber) (A : JournalPoint → Prop) :
    Prop where
  tell : ∀ {w : World} {h : Journal} {e : Line}, e.fiber = some i → e.isStart = false →
    A (w, h) → A (w, e :: h)
  aside : ∀ {w w' : World} {h : Journal}, Aside w w' → A (w, h) → A (w', h)
  disturb : ∀ {p q : JournalPoint}, (credentialMachine cfg env).Disturbs i p q → A p → A q

theorem firm_true : Firm cfg env i fun _ => True :=
  ⟨fun _ _ _ => trivial, fun _ _ => trivial, fun _ _ => trivial⟩

theorem Firm.and {A B : JournalPoint → Prop} (hA : Firm cfg env i A) (hB : Firm cfg env i B) :
    Firm cfg env i fun p => A p ∧ B p where
  tell he hs h := ⟨hA.tell he hs h.1, hB.tell he hs h.2⟩
  aside hw h := ⟨hA.aside hw h.1, hB.aside hw h.2⟩
  disturb hd h := ⟨hA.disturb hd h.1, hB.disturb hd h.2⟩

/-- While a chat handler waits, the others at most found the vault. -/
structure Meanwhile (p q : JournalPoint) : Prop where
  own : own .telegram q.2 = own .telegram p.2
  suffix : p.2 <:+ q.2
  disclaimers : ∀ u, q.1.memory.pending u = some .disclaimer →
    p.1.memory.pending u = some .disclaimer
  kept : ∀ u c, credentialOf u p.1.db = some c → credentialOf u q.1.db = some c
  enrolled : ∀ u, Enrolled u q.1.db → Enrolled u p.1.db

theorem aside_meanwhile (hw : Aside w w') : Meanwhile (w, h) (w', h) where
  own := rfl
  suffix := List.suffix_rfl
  disclaimers := hw.disclaimers
  kept _ _ hc := (credentialOf_congr hw.credentials).trans hc
  enrolled _ he := enrolled_of_credentials hw.credentials he

theorem disturbs_meanwhile (hd : (credentialMachine cfg env).Disturbs .telegram p q) :
    Meanwhile p q := by
  cases hd with
  | answer hr => exact aside_meanwhile (quiet_aside (env.quiet hr))
  | @other j _ _ hi ha =>
    cases ha with
    | begin j =>
      exact ⟨own_other rfl (Ne.symm hi), List.suffix_cons .., fun _ hu => hu, fun _ _ hc => hc,
        fun _ he => he⟩
    | tell e hfiber =>
      exact ⟨own_other hfiber (Ne.symm hi), List.suffix_cons .., fun _ hu => hu,
        fun _ _ hc => hc, fun _ he => he⟩
    | aside hw => exact aside_meanwhile hw
    | enter c hfresh hnone hcred hpending =>
      obtain ⟨hself, hothers⟩ := credentialOf_enters hcred hfresh
      refine ⟨rfl, List.suffix_rfl, ?_, ?_, ?_⟩
      · intro u hu
        rwa [hpending] at hu
      · intro u c' hc'
        simp only [credentialOf, hcred]
        exact lookup_append_some hc'
      · intro u he
        obtain ⟨c', hc', hen⟩ := (enrolled_iff _).mp he
        by_cases huc : u = c.telegramId
        · rw [huc, hself] at hc'
          cases hc'
          exact absurd hnone hen.1
        · rw [hothers u huc] at hc'
          exact (enrolled_iff _).mpr ⟨c', hc', hen⟩
    | invite => exact absurd rfl hi
    | offer => exact absurd rfl hi
    | confirm => exact absurd rfl hi
    | reset => exact absurd rfl hi

theorem firm_notEnrolled : Firm cfg env .telegram fun p => ¬Enrolled u p.1.db where
  tell _ _ h := h
  aside hw h he := h (enrolled_of_credentials hw.credentials he)
  disturb hd h he := h ((disturbs_meanwhile hd).enrolled u he)

theorem firm_undisclaimed :
    Firm cfg env .telegram fun p => p.1.memory.pending u ≠ some .disclaimer where
  tell _ _ h := h
  aside hw h hu := h (hw.disclaimers u hu)
  disturb hd h hu := h ((disturbs_meanwhile hd).disclaimers u hu)

theorem firm_credential {F : Credential → Prop} :
    Firm cfg env .telegram fun p => ∃ c, credentialOf u p.1.db = some c ∧ F c where
  tell _ _ h := h
  aside hw h := h.imp fun _ hc => ⟨(credentialOf_congr hw.credentials).trans hc.1, hc.2⟩
  disturb hd h := h.imp fun c hc => ⟨(disturbs_meanwhile hd).kept u c hc.1, hc.2⟩

theorem reading_suffix {ms : ℤ} (hsuffix : h <:+ h') (hr : Reading ms h) : Reading ms h' := by
  obtain ⟨i, w, hmem⟩ := hr
  exact ⟨i, w, hsuffix.subset hmem⟩

theorem firm_reading {ms : ℤ} : Firm cfg env .telegram fun p => Reading ms p.2 where
  tell _ _ h := reading_suffix (List.suffix_cons ..) h
  aside _ h := h
  disturb hd h := reading_suffix (disturbs_meanwhile hd).suffix h

def Serving (msg : Msg) (p : JournalPoint) : Prop :=
  ∃ w₀, Opened (.message msg) w₀ (own .telegram p.2)

abbrev Follows (cfg : BotConfig) (env : Environment) (i : Fiber) (A : JournalPoint → Prop)
    (m : Vault α) (B : α → JournalPoint → Prop) : Prop :=
  Triple (credentialMachine cfg env) i A m B fun _ => True

/-- The program keeps to the machine; nothing is asked of its end. -/
abbrev Obeys (cfg : BotConfig) (env : Environment) (i : Fiber) (A : JournalPoint → Prop)
    (m : Vault α) : Prop := Follows cfg env i A m fun _ _ => True

variable {A : JournalPoint → Prop}

theorem obeys_of {m : Vault α} (hm : Keeps (credentialMachine cfg env) i A m) :
    Obeys cfg env i A m := Triple.mono hm (fun _ ha => ha) (fun _ _ _ => trivial) fun _ _ => trivial

theorem keeps_then {m : Vault α} {k : α → Vault β} {B : β → JournalPoint → Prop}
    (hm : Keeps (credentialMachine cfg env) i A m) (hk : ∀ a, Follows cfg env i A (k a) B) :
    Follows cfg env i A (m >>= k) B :=
  Triple.bind (Triple.mono hm (fun _ ha => ha) (fun _ _ ha => ha) fun _ _ => trivial) hk

theorem weaken {m : Vault α} {A' : JournalPoint → Prop} (hm : Obeys cfg env i A m)
    (hA : ∀ p, A' p → A p) : Obeys cfg env i A' m :=
  Triple.mono hm hA (fun _ _ _ => trivial) fun _ _ => trivial

theorem told {e : Line} (he : e.fiber = some i) (hs : e.isStart = false) (hstate : e.state = w) :
    (credentialMachine cfg env).Acts i (w, h) (w, e :: h) := .single (.tell e he hs hstate)

def keepingBounds :
    Bounds vaultInterface World (List Credential × (TelegramId → Option PendingAction)) where
  choice _ := True
  call _ := True
  view w := (credentials w.db, w.memory.pending)

theorem firm_admits (hA : Firm cfg env i A) :
    Admits (credentialMachine cfg env) i keepingBounds A where
  local_ := by
    intro w w' h hview _ ha
    obtain ⟨hc, hp⟩ := Prod.mk.inj hview
    have hw : Aside w w' := ⟨hc, fun u hu => by rwa [← hp]⟩
    exact ⟨.single (.aside hw), hA.aside hw ha⟩
  choice _ _ _ ha := ⟨told rfl rfl rfl, hA.tell rfl rfl ha⟩
  call _ _ ha := ⟨told rfl rfl rfl, hA.tell rfl rfl ha⟩
  answer _ _ ha := ⟨told rfl rfl rfl, hA.tell rfl rfl ha⟩
  rely hd ha := hA.disturb hd ha

theorem firm_within {x : Prop} {m : Vault α} (hA : Firm cfg env i A)
    (hm : Within keepingBounds x m) : Keeps (credentialMachine cfg env) i A m :=
  triple_within (firm_admits hA) hm

theorem within_obeys {m : Vault α} (hm : Within keepingBounds True m) : Obeys cfg env i A m :=
  weaken (obeys_of (firm_within firm_true hm)) fun _ _ => trivial

theorem of_footprint {x : Prop} {m : Vault α} (hm : Within (LoopBounds.loopRoom True) x m) :
    Within keepingBounds x m :=
  (LoopBounds.within_footprint hm).mono (fun _ _ => trivial) (fun _ _ => trivial)
    fun _ _ hview => congrArg Prod.snd hview

theorem within_statement {x : Prop} {st : Stmt} {f : Db → Except Thrown (α × Db)}
    (hf : ∀ db a db', f db = .ok (a, db') → credentials db' = credentials db) :
    Within keepingBounds x (statement st f) := by
  apply OperatorBounds.within_statement (fun _ _ => rfl) trivial
  intro w a db hdb
  simp only [keepingBounds, World.withDb_db, World.withDb_memory, hf w.db a db hdb]

theorem roomy_keeping : OperatorBounds.Roomy keepingBounds :=
  ⟨trivial, fun _ _ => trivial, fun _ => trivial, fun _ _ => rfl, fun _ _ => rfl⟩

theorem within_update {x : Prop} {st : Stmt} {f : Db → Db}
    (hf : ∀ db, credentials (f db) = credentials db) : Within keepingBounds x (update st f) := by
  apply within_statement
  intro db a db' hdb
  cases hdb
  exact hf db

theorem statement_follows {st : Stmt} {f : Db → Except Thrown (α × Db)}
    {B : α → JournalPoint → Prop}
    (hok : ∀ w h a db, A (w, h) → f w.db = .ok (a, db) →
      Act cfg i (w, .choice i (Choice.statement st) w (none : Option Thrown) :: h)
          (w.withDb db, .choice i (Choice.statement st) w (none : Option Thrown) :: h) ∧
        B a (w.withDb db, .choice i (Choice.statement st) w (none : Option Thrown) :: h)) :
    Follows cfg env i A (statement st f) B := by
  refine Triple.bind (B := fun (o : Option Thrown) p => ∃ w h, A (w, h) ∧
    p = (w, .choice i (Choice.statement st) w o :: h)) ?_ ?_
  · refine triple_choose ?_
    intro w h o _ ha _
    exact ⟨told rfl rfl rfl, w, h, ha, rfl⟩
  · intro (o : Option Thrown)
    cases o with
    | some e =>
      refine Triple.bind (B := fun _ _ => True) (triple_modify ?_) fun _ =>
        triple_throw fun _ _ => trivial
      intro w h _ _
      exact ⟨.single (.aside ⟨rfl, fun _ hu => hu⟩), trivial⟩
    | none =>
      refine triple_attempt ?_ fun _ _ _ _ _ => trivial
      rintro w h a w' - ⟨w₀, h₀, ha, heq⟩ hrun
      cases heq
      rcases hdb : f w.db with e | ⟨b, db⟩
      · simp [hdb] at hrun
      · simp only [hdb, Except.ok.injEq, Prod.mk.injEq] at hrun
        obtain ⟨rfl, rfl⟩ := hrun
        obtain ⟨hact, hb⟩ := hok w h₀ b db ha hdb
        exact ⟨.single hact, hb⟩

theorem Retained.refl (c : Credential) : Retained R c c where
  depositAddress := rfl
  depositSecretEnc := rfl
  stored hc := .inl hc
  enrolled hc := .inl ⟨rfl, hc⟩

theorem Retained.mono (h : Retained R c c') (hR : R → R') : Retained R' c c' where
  depositAddress := h.depositAddress
  depositSecretEnc := h.depositSecretEnc
  stored hc := (h.stored hc).imp id hR
  enrolled hc := (h.enrolled hc).imp id hR

theorem resetSince_cons (hr : ResetSince cfg u older h) : ResetSince cfg u older (e :: h) := by
  obtain ⟨newer, x, below, rfl, hsuffix, hreset⟩ := hr
  exact ⟨e :: newer, x, below, rfl, hsuffix, hreset⟩

/-- The state and the journal kept the credentials of every earlier line. -/
def Keeping (cfg : BotConfig) (p : JournalPoint) : Prop :=
  ∀ newer e older u c, p.2 = newer ++ e :: older → credentialOf u e.state.db = some c →
    ∃ c', credentialOf u p.1.db = some c' ∧ Retained (ResetSince cfg u older p.2) c c'

def Changes (cfg : BotConfig) (w w' : World) (h : Journal) : Prop :=
  ∀ u c, credentialOf u w.db = some c → ∃ c', credentialOf u w'.db = some c' ∧
    ∀ newer e older, h = newer ++ e :: older →
      ∀ c₀, Retained (ResetSince cfg u older h) c₀ c → Retained (ResetSince cfg u older h) c₀ c'

theorem changes_same (hsame : ∀ u c, credentialOf u w.db = some c → credentialOf u w'.db = some c) :
    Changes cfg w w' h := fun u c hc => ⟨c, hsame u c hc, fun _ _ _ _ _ hr => hr⟩

theorem changes_rewrites {secretEnc : Option EncryptedBlob} {enrolledAt : Option ℤ}
    (hw : Rewrites u secretEnc enrolledAt w w')
    (hself : ∀ c, credentialOf u w.db = some c → ∀ newer e older, h = newer ++ e :: older →
      ∀ c₀, Retained (ResetSince cfg u older h) c₀ c →
        Retained (ResetSince cfg u older h) c₀ (withSecret secretEnc enrolledAt c)) :
    Changes cfg w w' h := by
  obtain ⟨hrow, hothers⟩ := credentialOf_rewrites hw
  intro v c hc
  by_cases hv : v = u
  · subst hv
    refine ⟨withSecret secretEnc enrolledAt c, ?_, hself c hc⟩
    rw [hrow, hc]
    rfl
  · exact ⟨c, (hothers v hv).trans hc, fun _ _ _ _ _ hr => hr⟩

theorem keeping_changes (hk : Keeping cfg (w, h)) (hc : Changes cfg w w' h) :
    Keeping cfg (w', h) := by
  intro newer e older u c₀ hsplit hc₀
  obtain ⟨c, hcur, hret⟩ := hk newer e older u c₀ hsplit hc₀
  obtain ⟨c', hnext, hstep⟩ := hc u c hcur
  exact ⟨c', hnext, hstep newer e older hsplit c₀ hret⟩

theorem keeping_line (hk : Keeping cfg (w, h)) (he : e.state = w) : Keeping cfg (w, e :: h) := by
  intro newer x older u c hsplit hc
  rcases JournalLaws.split_cons hsplit with ⟨rfl, rfl, rfl⟩ | ⟨newer', hdeeper⟩
  · subst he
    exact ⟨c, hc, .refl c⟩
  · obtain ⟨c', hcur, hret⟩ := hk newer' x older u c hdeeper hc
    exact ⟨c', hcur, hret.mono resetSince_cons⟩

theorem retained_offer {secretEnc : EncryptedBlob} {c₀ : Credential} (hnot : ¬Confirmed c)
    (hr : Retained R c₀ c) : Retained R c₀ (withSecret (some secretEnc) (some 0) c) where
  depositAddress := hr.depositAddress
  depositSecretEnc := hr.depositSecretEnc
  stored _ := .inl (Option.some_ne_none _)
  enrolled hc := by
    rcases hr.enrolled hc with ⟨-, hen⟩ | hreset
    · exact absurd hen hnot
    · exact .inr hreset

theorem retained_confirm {secretEnc : EncryptedBlob} {ms : ℤ} {c₀ : Credential}
    (hsecret : c.totpSecretEnc = some secretEnc) (hms : ms ≠ 0) (hr : Retained R c₀ c) :
    Retained R c₀ (withSecret (some secretEnc) (some ms) c) where
  depositAddress := hr.depositAddress
  depositSecretEnc := hr.depositSecretEnc
  stored _ := .inl (Option.some_ne_none _)
  enrolled hc := by
    rcases hr.enrolled hc with ⟨hsame, -⟩ | hreset
    · refine .inl ⟨hsecret.symm.trans hsame, Option.some_ne_none _, ?_⟩
      intro hzero
      exact hms (Option.some.inj hzero)
    · exact .inr hreset

theorem retained_reset {c₀ : Credential} (hreset : R) (hr : Retained R c₀ c) :
    Retained R c₀ (withSecret none none c) where
  depositAddress := hr.depositAddress
  depositSecretEnc := hr.depositSecretEnc
  stored _ := .inr hreset
  enrolled _ := .inr hreset

theorem resetSince_here (hreset : IsReset cfg u h e) (hsplit : e :: h = newer ++ x :: older) :
    ResetSince cfg u older (e :: h) := by
  refine ⟨[], e, h, rfl, ?_, hreset⟩
  rcases JournalLaws.split_cons hsplit with ⟨-, -, rfl⟩ | ⟨newer', rfl⟩
  · exact List.suffix_rfl
  · exact (List.suffix_cons ..).trans (List.suffix_append ..)

theorem keeping_act (hclock : PastOrigin q.2) (hp : Keeping cfg p) (ha : Act cfg i p q) :
    Keeping cfg q := by
  cases ha with
  | begin j => exact keeping_line hp rfl
  | tell e _ _ hstate => exact keeping_line hp hstate
  | aside hw =>
    refine keeping_changes hp (changes_same fun u c hc => ?_)
    exact (credentialOf_congr hw.credentials).trans hc
  | enter c hfresh _ hcred _ =>
    refine keeping_changes hp (changes_same fun u c' hc' => ?_)
    simp only [credentialOf, hcred]
    exact lookup_append_some hc'
  | invite u _ => exact keeping_changes hp (changes_same fun _ _ hc => hc)
  | offer u secretEnc hnot hw =>
    refine keeping_changes hp (changes_rewrites hw ?_)
    intro c hc _ _ _ _ c₀ hr
    exact retained_offer (fun hen => hnot ((enrolled_iff _).mpr ⟨c, hc, hen⟩)) hr
  | confirm c secretEnc ms hc hsecret _ hreading hw =>
    refine keeping_changes hp (changes_rewrites hw ?_)
    intro c' hc' _ _ _ _ c₀ hr
    cases hc.symm.trans hc'
    exact retained_confirm hsecret (hclock ms hreading) hr
  | reset u e hreset hw =>
    refine keeping_changes hp (changes_rewrites hw ?_)
    intro c _ _ _ _ hsplit c₀ hr
    exact retained_reset (resetSince_here hreset hsplit) hr

end CredentialMachine
