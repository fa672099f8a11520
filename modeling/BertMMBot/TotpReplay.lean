import BertMMBot.BruteForceBound

/-! # When a code works twice

The counter of an accepted code is put together from two readings of the clock. While both fall
into one step it is the step of the code, and no step is accepted twice; a step that begins in
between makes the counter one too high, and the code of the step before works again. -/
namespace TotpReplay

open AsyncProgram AsyncContract AsyncRecords
open VaultTypes VaultProgram VaultJournal DepositorStore AccountSecurity DepositorCommands
open Encryption
open KeyedTable BruteForceBound
open LedgerMachine (Fiber)

/-- A code for an enrolled user, or the code that confirms an enrolment. -/
inductive Kind where
  | verify
  | confirm (ms : ℤ)

def Kind.program (u : TelegramId) (code : String) : Kind → Vault Bool
  | .verify => verifyTotp u code
  | .confirm ms => confirmTotp u code ms

def stepMs : ℤ := 1000 * stepSec

/-- `validate` reads the clock at `t₁`, `currentCounter` at `t₂`. `codeOf` is the code of a secret
and a step; an offset is that of a step with this code, from the step of `t₁`. -/
def readings (codeOf : String → ℤ → String) (t₁ t₂ : ℤ) : VaultHost where
  choose
    | .clock, _, ms => ms = t₂
    | .totpValidate secret code, _, offset => ∀ delta : ℤ, (offset : Option ℤ) = some delta →
        (delta = -1 ∨ delta = 0 ∨ delta = 1) ∧ codeOf secret (t₁ / stepMs + delta) = code
    | _, _, _ => True
  respond _ _ _ _ := True

def matchedStep (t₁ : ℤ) (lines : Journal) : Option ℤ :=
  lines.findSome? fun
    | .choice _ (Choice.totpValidate _ _) _ offset =>
      (offset : Option ℤ).map fun delta => t₁ / stepMs + delta
    | _ => none

def storedCounter (u : TelegramId) (w : World) : Option ℤ :=
  (getUser u w.db).bind UserRow.totpLastUsedCounter

def storedSecret (u : TelegramId) (w : World) : Option EncryptedBlob :=
  (getUserSecrets u w.db).bind UserSecrets.totpSecretEnc

/-- Attempts on one secret at times that do not decrease; the steps whose codes were accepted and
the counters that were stored with them, newest first. In between the row keeps its secret and
its counter. -/
inductive Attempts (Allowed : Kind → List ℤ → ℤ → ℤ → Prop) (codeOf : String → ℤ → String)
    (u : TelegramId) (secretEnc : EncryptedBlob) : ℤ → List ℤ → List ℤ → World → Prop where
  | begun {t : ℤ} {w : World} : storedSecret u w = some secretEnc →
      Attempts Allowed codeOf u secretEnc t [] [] w
  | accepted {t t₁ t₂ : ℤ} {steps counters : List ℤ} {w w' : World} {kind : Kind} {code : String}
      {lines : Journal} :
      Attempts Allowed codeOf u secretEnc t steps counters w → t ≤ t₁ → t₁ ≤ t₂ →
      Allowed kind counters t₁ t₂ →
      Ends (recordedHost (readings codeOf t₁ t₂)) (recorded Fiber.telegram (kind.program u code w) [])
        (.ok true) (w', lines) →
      Attempts Allowed codeOf u secretEnc t₂ ((matchedStep t₁ lines).toList ++ steps)
        ((storedCounter u w').toList ++ counters) w'
  | refused {t t₁ t₂ : ℤ} {steps counters : List ℤ} {w w' : World} {kind : Kind} {code : String}
      {lines : Journal} {x : Except Thrown Bool} :
      Attempts Allowed codeOf u secretEnc t steps counters w → t ≤ t₁ → t₁ ≤ t₂ →
      Ends (recordedHost (readings codeOf t₁ t₂)) (recorded Fiber.telegram (kind.program u code w) [])
        x (w', lines) → x ≠ .ok true →
      Attempts Allowed codeOf u secretEnc t₂ steps counters w'
  | meanwhile {t t' : ℤ} {steps counters : List ℤ} {w w' : World} :
      Attempts Allowed codeOf u secretEnc t steps counters w → t ≤ t' →
      storedSecret u w' = storedSecret u w → storedCounter u w' = storedCounter u w →
      Attempts Allowed codeOf u secretEnc t' steps counters w'

variable {α β : Type} {H : VaultHost} {codeOf : String → ℤ → String} {t t₁ t₂ : ℤ} {u : TelegramId}
  {w w' : World} {p q : JournalPoint} {kind : Kind} {code : String}

theorem after_readDb_bind {f : Db → α} {k : α → Vault β}
    {post : Except Thrown β → JournalPoint → Prop} (h : After H (k (f p.1.db)) p post) :
    After H (readDb f >>= k) p post := h

theorem after_choose_bind {c : Choice} {k : c.Outcome → Vault β}
    {post : Except Thrown β → JournalPoint → Prop}
    (h : ∀ o, H.choose c p.1 o →
      After H (k o) (p.1, .choice Fiber.telegram c p.1 o :: p.2) post) :
    After H (Async.choose (I := vaultInterface) c >>= k) p post := h

/-- A code found valid, with what was read from the clock afterwards. -/
structure Matches (t₁ t₂ : ℤ) (last : Option ℤ) (counter : ℤ) (q : JournalPoint) : Prop where
  matched : ∃ delta : ℤ, matchedStep t₁ q.2 = some (t₁ / stepMs + delta) ∧
    counter = t₂ / stepMs + delta
  exceeds : ∀ l, last = some l → l < counter

theorem judged {last : Option ℤ} {matched : ℤ} {q : JournalPoint}
    {post : Except Thrown VerifyResult → JournalPoint → Prop}
    (hreplay : post (.ok (.replay matched)) q)
    (hok : (∀ l, last = some l → l < matched) → post (.ok (.ok matched)) q) :
    After H (if (last.map fun l => decide (matched ≤ l)).getD false then pure (.replay matched)
      else pure (.ok matched)) q post := by
  by_cases h : (last.map fun l => decide (matched ≤ l)).getD false = true
  · rw [if_pos h]
    exact hreplay
  · rw [if_neg h]
    apply hok
    intro l hl
    subst hl
    simpa using h

theorem after_verifyCode (secret code : String) (last : Option ℤ) (p : JournalPoint) :
    After (readings codeOf t₁ t₂) (verifyCode secret code last) p fun x q =>
      q.1 = p.1 ∧ ∀ counter, x = .ok (.ok counter) → Matches t₁ t₂ last counter q := by
  unfold verifyCode
  by_cases hdigits : TextInput.isSixDigits code = true
  · rw [if_pos hdigits]
    refine after_choose_bind (c := Choice.totpValidate secret code) fun offset _ => ?_
    rcases offset with _ | delta
    · exact ⟨rfl, nofun⟩
    · intro ms hms
      obtain rfl : t₂ = ms := hms.symm
      change After (readings codeOf t₁ t₂)
        (if (last.map fun l => decide (t₂ / stepMs + delta ≤ l)).getD false then
          pure (VerifyResult.replay (t₂ / stepMs + delta)) else
            pure (VerifyResult.ok (t₂ / stepMs + delta)))
        (p.1, .choice Fiber.telegram Choice.clock p.1 t₂ :: .choice Fiber.telegram
          (Choice.totpValidate secret code) p.1 (some delta : Option ℤ) :: p.2) _
      refine judged ⟨rfl, nofun⟩ fun hexceeds => ⟨rfl, fun counter hcounter => ?_⟩
      cases hcounter
      exact ⟨⟨delta, rfl, rfl⟩, hexceeds⟩
  · rw [if_neg hdigits]
    exact ⟨rfl, nofun⟩

theorem storedCounter_set (counter : ℤ) (db : Db) {user : UserRow}
    (h : lookup UserRow.telegramId u db.users = some user) :
    (getUser u (updateUser u (fun r => { r with totpLastUsedCounter := some counter }) db)).bind
      UserRow.totpLastUsedCounter = some counter := by
  have hkey : ∀ r : UserRow, ({ r with totpLastUsedCounter := some counter } : UserRow).telegramId =
      r.telegramId := fun _ => rfl
  unfold getUser
  rw [updateUser, lookup_amend_self hkey, h]
  rfl

theorem after_store (t₁ : ℤ) {user : UserRow} {counter : ℤ}
    (h : lookup UserRow.telegramId u p.1.db.users = some user) :
    After H (setTotpLastCounter u counter) p fun x q =>
      matchedStep t₁ q.2 = matchedStep t₁ p.2 ∧
        (x = .ok () → storedCounter u q.1 = some counter) ∧
        (x ≠ .ok () → storedCounter u q.1 = storedCounter u p.1) := by
  intro o _
  cases o with
  | none => exact ⟨rfl, fun _ => storedCounter_set counter p.1.db h, fun hne => absurd rfl hne⟩
  | some e => exact ⟨rfl, nofun, fun _ => rfl⟩

/-- An attempt stores the counter of an accepted code, and nothing otherwise. -/
structure Verdict (t₁ t₂ : ℤ) (u : TelegramId) (kind : Kind) (w : World) (x : Except Thrown Bool)
    (q : JournalPoint) : Prop where
  accepted : x = .ok true → ∃ delta : ℤ, matchedStep t₁ q.2 = some (t₁ / stepMs + delta) ∧
    storedCounter u q.1 = some (t₂ / stepMs + delta) ∧
    (kind = .verify → ∀ last, storedCounter u w = some last → last < t₂ / stepMs + delta)
  refused : x ≠ .ok true → storedCounter u q.1 = storedCounter u w

theorem verdict_same {x : Except Thrown Bool} (hq : q.1 = w) (hx : x ≠ .ok true) :
    Verdict t₁ t₂ u kind w x q :=
  ⟨fun h => absurd h hx, fun _ => congrArg (storedCounter u) hq⟩

theorem after_decryptSecret (blob : EncryptedBlob) (p : JournalPoint) :
    After (readings codeOf t₁ t₂) (decryptSecret blob) p fun _ q =>
      q.1 = p.1 ∧ matchedStep t₁ q.2 = matchedStep t₁ p.2 := by
  apply after_choose_bind (c := Choice.masterKey)
  intro key _
  unfold decrypt
  split
  · exact ⟨rfl, rfl⟩
  · split
    · exact ⟨rfl, rfl⟩
    · split
      · exact ⟨rfl, rfl⟩
      · apply after_choose_bind (c := Choice.decipher _ _ _ _)
        rintro (e | plaintext) _
        · exact ⟨rfl, rfl⟩
        · exact ⟨rfl, rfl⟩

theorem after_checked {secretEnc : EncryptedBlob} {last : Option ℤ} {f : VerifyResult → Vault Bool}
    (hrefused : ∀ r, (∀ counter, r ≠ .ok counter) → f r = pure false)
    (hok : ∀ counter q, q.1 = p.1 → Matches t₁ t₂ last counter q →
      After (readings codeOf t₁ t₂) (f (.ok counter)) q (Verdict t₁ t₂ u kind p.1)) :
    After (readings codeOf t₁ t₂) (do
      let secretBase32 ← decryptSecret secretEnc
      let result ← verifyCode (utf8Text secretBase32) code last
      f result) p (Verdict t₁ t₂ u kind p.1) := by
  refine (after_decryptSecret secretEnc p).bind (fun secretBase32 q hq => ?_)
    fun e q hq => verdict_same hq.1 nofun
  refine (after_verifyCode _ _ _ q).bind (fun result q₁ hq₁ => ?_)
    fun e q₁ hq₁ => verdict_same (hq₁.1.trans hq.1) nofun
  have hsame : q₁.1 = p.1 := hq₁.1.trans hq.1
  by_cases hresult : ∃ counter, result = .ok counter
  · obtain ⟨counter, rfl⟩ := hresult
    exact hok counter q₁ hsame (hq₁.2 counter rfl)
  · rw [hrefused result fun counter heq => hresult ⟨counter, heq⟩]
    exact verdict_same hsame nofun

theorem after_verifyTotp (p : JournalPoint) :
    After (readings codeOf t₁ t₂) (verifyTotp u code) p fun x q =>
      Verdict t₁ t₂ u .verify p.1 x q := by
  unfold verifyTotp
  refine after_readDb_bind ?_
  cases huser : enrolled (getUser u p.1.db) with
  | none => exact verdict_same rfl nofun
  | some user =>
    refine after_readDb_bind ?_
    cases (getUserSecrets u p.1.db).bind UserSecrets.totpSecretEnc with
    | none => exact verdict_same rfl nofun
    | some secretEnc =>
      have hget : getUser u p.1.db = some user := by
        unfold enrolled at huser
        exact (Option.filter_eq_some_iff.mp huser).1
      obtain ⟨stored, hstored, hrow⟩ := Option.map_eq_some_iff.mp hget
      have hlast : storedCounter u p.1 = user.totpLastUsedCounter := by
        unfold storedCounter
        rw [hget]
        rfl
      apply after_checked
      · intro r hr
        cases r with
        | ok counter => exact absurd rfl (hr counter)
        | _ => rfl
      intro counter q hsame hmatches
      obtain ⟨⟨delta, hmatched, hcounter⟩, hexceeds⟩ := hmatches
      have hrow₁ : lookup UserRow.telegramId u q.1.db.users = some stored := by
        rw [hsame]
        exact hstored
      refine (after_store t₁ hrow₁).bind (fun _ r hr => ?_) fun e r hr => ?_
      · constructor
        · intro _
          refine ⟨delta, hr.1.trans hmatched, ?_, fun _ last hl => ?_⟩
          · rw [← hcounter]
            exact hr.2.1 rfl
          · rw [hlast] at hl
            rw [← hcounter]
            exact hexceeds last hl
        · exact fun hne => absurd rfl hne
      · refine ⟨nofun, fun _ => ?_⟩
        rw [hr.2.2 nofun, hsame]

theorem after_setTotp (t₁ : ℤ) {user : UserRow} (secretEnc : EncryptedBlob) (enrolledAt : ℤ)
    (h : lookup UserRow.telegramId u p.1.db.users = some user) :
    After H (setTotp u secretEnc enrolledAt) p fun x q =>
      matchedStep t₁ q.2 = matchedStep t₁ p.2 ∧ storedCounter u q.1 = storedCounter u p.1 ∧
        (x = .ok () → ∃ user', lookup UserRow.telegramId u q.1.db.users = some user') := by
  intro o _
  cases o with
  | some e => exact ⟨rfl, rfl, nofun⟩
  | none =>
    have hkey : ∀ r : UserRow, ({ r with
        totpSecretEnc := some secretEnc, totpEnrolledAt := some enrolledAt } : UserRow).telegramId =
          r.telegramId := fun _ => rfl
    have hrow : lookup UserRow.telegramId u (amend UserRow.telegramId u _ p.1.db.users) = _ :=
      lookup_amend_self hkey
    rw [h] at hrow
    refine ⟨rfl, ?_, fun _ => ⟨_, hrow⟩⟩
    unfold storedCounter getUser
    change ((lookup UserRow.telegramId u (amend UserRow.telegramId u _ p.1.db.users)).map _).bind
      _ = _
    rw [hrow, h]
    rfl

theorem after_confirmTotp (ms : ℤ) (p : JournalPoint) :
    After (readings codeOf t₁ t₂) (confirmTotp u code ms) p fun x q =>
      Verdict t₁ t₂ u (.confirm ms) p.1 x q := by
  unfold confirmTotp
  refine after_readDb_bind ?_
  cases hsecret : (getUserSecrets u p.1.db).bind UserSecrets.totpSecretEnc with
  | none => exact verdict_same rfl nofun
  | some secretEnc =>
    obtain ⟨secrets, hsecrets, _⟩ := Option.bind_eq_some_iff.mp hsecret
    obtain ⟨stored, hstored, _⟩ := Option.map_eq_some_iff.mp hsecrets
    apply after_checked
    · intro r hr
      cases r with
      | ok counter => exact absurd rfl (hr counter)
      | _ => rfl
    intro counter q hsame hmatches
    obtain ⟨delta, hmatched, hcounter⟩ := hmatches.matched
    have hrow₁ : lookup UserRow.telegramId u q.1.db.users = some stored := by
      rw [hsame]
      exact hstored
    refine (after_setTotp t₁ secretEnc ms hrow₁).bind (fun _ r hr => ?_) fun e r hr => ?_
    · obtain ⟨user', hrow₂⟩ := hr.2.2 rfl
      refine (after_store t₁ hrow₂).bind (fun _ r' hr' => ?_) fun e r' hr' => ?_
      · constructor
        · intro _
          refine ⟨delta, (hr'.1.trans hr.1).trans hmatched, ?_, nofun⟩
          rw [← hcounter]
          exact hr'.2.1 rfl
        · exact fun hne => absurd rfl hne
      · refine ⟨nofun, fun _ => ?_⟩
        rw [hr'.2.2 nofun, hr.2.1, hsame]
    · refine ⟨nofun, fun _ => ?_⟩
      rw [hr.2.1, hsame]

theorem attempt_verdict (kind : Kind) {x : Except Thrown Bool} {lines : Journal}
    (h : Ends (recordedHost (readings codeOf t₁ t₂))
      (recorded Fiber.telegram (kind.program u code w) []) x (w', lines)) :
    Verdict t₁ t₂ u kind w x (w', lines) := by
  cases kind with
  | verify => exact (after_verifyTotp (w, [])).ends h
  | confirm ms => exact (after_confirmTotp ms (w, [])).ends h

/-- Both readings fall into one step, and an enrolment is only confirmed with the first code. -/
def SameStep (kind : Kind) (counters : List ℤ) (t₁ t₂ : ℤ) : Prop :=
  t₁ / stepMs = t₂ / stepMs ∧ (kind ≠ .verify → counters = [])

/-- The steps are the counters, newest first; the last one is stored. -/
structure Spent (u : TelegramId) (steps counters : List ℤ) (w : World) : Prop where
  same : steps = counters
  falling : counters.Pairwise (· > ·)
  stored : ∀ c ∈ counters, ∃ last, storedCounter u w = some last ∧ c ≤ last

variable {steps counters : List ℤ}

theorem Spent.accepted {lines : Journal} (h : Spent u steps counters w)
    (hv : Verdict t₁ t₂ u kind w (.ok true) (w', lines)) (hstep : SameStep kind counters t₁ t₂) :
    Spent u ((matchedStep t₁ lines).toList ++ steps) ((storedCounter u w').toList ++ counters) w' := by
  obtain ⟨delta, hmatched, hstored, hexceeds⟩ := hv.accepted rfl
  have hbelow : ∀ c ∈ counters, c < t₂ / stepMs + delta := by
    intro c hc
    obtain ⟨last, hlast, hle⟩ := h.stored c hc
    by_cases hkind : kind = .verify
    · exact lt_of_le_of_lt hle (hexceeds hkind last hlast)
    · rw [hstep.2 hkind] at hc
      cases hc
  have hnew : matchedStep t₁ lines = some (t₂ / stepMs + delta) := by
    rw [← hstep.1]
    exact hmatched
  have hstored : storedCounter u w' = some (t₂ / stepMs + delta) := hstored
  rw [hnew, hstored, h.same]
  constructor
  · rfl
  · exact List.pairwise_cons.mpr ⟨hbelow, h.falling⟩
  · intro c hc
    refine ⟨_, hstored, ?_⟩
    rcases List.mem_cons.mp hc with rfl | hc
    · exact le_rfl
    · exact (hbelow c hc).le

theorem Spent.unchanged (h : Spent u steps counters w)
    (hsame : storedCounter u w' = storedCounter u w) : Spent u steps counters w' where
  same := h.same
  falling := h.falling
  stored c hc := by
    rw [hsame]
    exact h.stored c hc

theorem attempts_spent {secretEnc : EncryptedBlob}
    (h : Attempts SameStep codeOf u secretEnc t steps counters w) : Spent u steps counters w := by
  induction h with
  | begun _ => exact ⟨rfl, List.Pairwise.nil, by simp⟩
  | accepted _ _ _ hstep hends ih => exact ih.accepted (attempt_verdict _ hends) hstep
  | refused _ _ _ hends hx ih => exact ih.unchanged ((attempt_verdict _ hends).refused hx)
  | meanwhile _ _ _ hsame ih => exact ih.unchanged hsame

/-- While both readings of the clock fall into one step, no step is accepted twice, and the
stored counter rises. -/
theorem codes_spent_once (codeOf : String → ℤ → String) (u : TelegramId) (secretEnc : EncryptedBlob)
    (t : ℤ) (steps counters : List ℤ) (w : World)
    (h : Attempts SameStep codeOf u secretEnc t steps counters w) :
    steps.Pairwise (· > ·) ∧ counters.Pairwise (· > ·) := by
  obtain ⟨hsame, hfalling, _⟩ := attempts_spent h
  rw [hsame]
  exact ⟨hfalling, hfalling⟩

open PlayedRuns (Scene oneSol playedSecret)
open BruteForceBound (recordedScript)

/-- The clocks of one attempt; a code is valid if it is that of the step. -/
def reading (codeOf : String → ℤ → String) (t₁ t₂ : ℤ) :
    AsyncContract.Script vaultInterface JournalPoint Thrown where
  choose
    | .clock, _ => t₂
    | .totpValidate secret code, _ => if codeOf secret (t₁ / stepMs) = code then some 0 else none
    | c, p => ({ clock := t₂ } : Scene).choose c p.1
  respond := (recordedScript { clock := t₂ }).respond

theorem reading_follows : (reading codeOf t₁ t₂).Follows (recordedHost (readings codeOf t₁ t₂))
    fun _ _ => true where
  choose c p _ := by
    cases c with
    | clock => exact rfl
    | totpValidate secret code =>
      intro delta hdelta
      change (if codeOf secret (t₁ / stepMs) = code then some (0 : ℤ) else none) = some delta
        at hdelta
      split at hdelta
      next hcode =>
        cases hdelta
        refine ⟨by omega, ?_⟩
        rw [add_zero]
        exact hcode
      next => cases hdelta
    | _ => exact trivial
  respond _ _ := ⟨trivial, rfl⟩

/-- The codes of a secret. -/
def sampleCode (_ : String) (step : ℤ) : String := if step = 10 then "101010" else "111111"

def tried (t₁ t₂ : ℤ) (code : String) (w : World) : Except Thrown Bool × JournalPoint :=
  (reading sampleCode t₁ t₂).play (recorded Fiber.telegram (Kind.verify.program 2 code w) [])

theorem tried_ends (t₁ t₂ : ℤ) (code : String) (w : World) :
    Ends (recordedHost (readings sampleCode t₁ t₂))
      (recorded Fiber.telegram (Kind.verify.program 2 code w) [])
      (tried t₁ t₂ code w).1 (tried t₁ t₂ code w).2 :=
  play_ends reading_follows (Script.meets_any _ _)

/-- User 2 has confirmed a secret; this is the counter that was stored last. -/
def confirmed (counter : ℤ) : World :=
  ⟨{ Db.empty with users :=
      [⟨2, .depositor, "holder", ⟨[], []⟩, some playedSecret, some 1, some counter, none, none, 0,
        0⟩] },
    Memory.fresh, oneSol, [], []⟩

theorem tried_accepted {Allowed : Kind → List ℤ → ℤ → ℤ → Prop} {counter : ℤ}
    (t₁ t₂ step counter' : ℤ) (code : String)
    (h : Attempts Allowed sampleCode 2 playedSecret t steps counters (confirmed counter))
    (hle : t ≤ t₁) (hle' : t₁ ≤ t₂) (hallowed : Allowed .verify counters t₁ t₂)
    (haccepted : (tried t₁ t₂ code (confirmed counter)).1 = .ok true)
    (hworld : (tried t₁ t₂ code (confirmed counter)).2.1 = confirmed counter')
    (hstep : matchedStep t₁ (tried t₁ t₂ code (confirmed counter)).2.2 = some step) :
    Attempts Allowed sampleCode 2 playedSecret t₂ (step :: steps) (counter' :: counters)
      (confirmed counter') := by
  have hends := tried_ends t₁ t₂ code (confirmed counter)
  generalize tried t₁ t₂ code (confirmed counter) = outcome at *
  obtain ⟨x, w', lines⟩ := outcome
  subst haccepted
  have hworld : w' = confirmed counter' := hworld
  have hstep : matchedStep t₁ lines = some step := hstep
  have hnext := Attempts.accepted h hle hle' hallowed hends
  have hstored : storedCounter 2 w' = some counter' := by
    rw [hworld]
    rfl
  rw [hstep, hstored, hworld] at hnext
  exact hnext

/-- The last millisecond of step 10, and the first of the next. -/
theorem accepted_twice : ∃ w,
    Attempts (fun _ _ _ _ => True) sampleCode 2 playedSecret 330000 [10, 10] [11, 10] w ∧
      ¬ List.Pairwise (· > ·) [(10 : ℤ), 10] := by
  have hfirst := tried_accepted 300000 300000 10 10 "101010"
    (.begun rfl : Attempts (fun _ _ _ _ => True) sampleCode 2 playedSecret 0 [] [] (confirmed 0))
    (by decide) (by decide) trivial rfl rfl rfl
  have hsecond := tried_accepted 329999 330000 10 11 "101010" hfirst
    (by decide) (by decide) trivial rfl rfl rfl
  exact ⟨_, hsecond, by decide⟩

/-- The codes of two steps, each in its own. -/
theorem codes_spent_once_sample :
    Attempts SameStep sampleCode 2 playedSecret 330000 [11, 10] [11, 10] (confirmed 11) ∧
      List.Pairwise (· > ·) [(11 : ℤ), 10] ∧ List.Pairwise (· > ·) [(11 : ℤ), 10] := by
  have hfirst := tried_accepted 300000 300000 10 10 "101010"
    (.begun rfl : Attempts SameStep sampleCode 2 playedSecret 0 [] [] (confirmed 0))
    (by decide) (by decide) ⟨rfl, fun h => absurd rfl h⟩ rfl rfl rfl
  have hsecond := tried_accepted 330000 330000 11 11 "111111" hfirst
    (by decide) (by decide) ⟨rfl, fun h => absurd rfl h⟩ rfl rfl rfl
  exact ⟨hsecond, codes_spent_once sampleCode 2 playedSecret 330000 [11, 10] [11, 10]
    (confirmed 11) hsecond⟩

end TotpReplay
