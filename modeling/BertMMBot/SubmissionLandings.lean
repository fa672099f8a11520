import BertMMBot.AnsweredCalls
import BertMMBot.TxSubmission

/-! # What a submission puts on the chain

An attempt to send may land although waiting for its confirmation throws or times out, and the
next attempt is a transaction of its own. So a submission takes effect once for every attempt
that lands unheard, and once more for the one that is heard of. -/
namespace SubmissionLandings

open AsyncProgram AsyncContract AsyncWiring AnsweredCalls VaultTypes BotProgram MainLoop
open VaultProgram (World)
open TxSubmission

/-- `late` says that the attempt lands even if it is not reported confirmed. -/
structure Attempt where
  tx : Transaction
  confirmed : Bool
  late : Bool
  deriving DecidableEq, Repr

def Attempt.landed (a : Attempt) : Bool := a.confirmed || a.late

/-- The attempts so far, newest first. -/
abbrev Ledger := List Attempt

def confirmLast : Ledger → Ledger
  | [] => []
  | a :: g => { a with confirmed := true } :: g

/-- Whether a status tells the client that its bundle has landed. -/
def confirms (status : BundleStatus) : Bool := !status.failed && status.confirmed

/-- The ledger that is kept of a submission on a chain where the attempts given by `lands` land
unheard. A bundle may land even when the engine rejects it or cannot be reached. -/
def ledger (lands : ℕ → Bool) : Account botInterface Thrown Ledger where
  book
    | .sendAndConfirmTransaction tx, .ok _, g => ⟨tx, true, lands g.length⟩ :: g
    | .sendAndConfirmTransaction tx, .error _, g => ⟨tx, false, lands g.length⟩ :: g
    | .sendBundle tx, _, g => ⟨tx, false, lands g.length⟩ :: g
    | .getBundleStatuses _, .ok (some status), g => if confirms status then confirmLast g else g
    | _, _, g => g
  inOrder _ _ := True

/-- How often the instructions take effect. -/
def effects (tx : Transaction) (g : Ledger) : ℕ :=
  g.countP fun a => a.landed && decide (tx <:+: a.tx)

def heard (g : Ledger) : ℕ := g.countP fun a => a.confirmed

/-- Attempts that land although they are not reported confirmed. -/
def unheard (g : Ledger) : ℕ := g.countP fun a => a.late && !a.confirmed

/-- Every attempt carries the instructions, and `n` of them are reported confirmed. -/
structure Carries (tx : Transaction) (n : ℕ) (g : Ledger) : Prop where
  carried : ∀ a ∈ g, tx <:+: a.tx
  heard : heard g = n

variable {tx : Transaction} {lands : ℕ → Bool} {g : Ledger} {n : ℕ}

theorem countP_cons_toNat (p : Attempt → Bool) (a : Attempt) (g : Ledger) :
    (a :: g).countP p = g.countP p + (p a).toNat := by
  rw [List.countP_cons]
  cases p a <;> rfl

theorem heard_cons (a : Attempt) (g : Ledger) : heard (a :: g) = heard g + a.confirmed.toNat :=
  countP_cons_toNat _ a g

theorem unheard_cons (a : Attempt) (g : Ledger) :
    unheard (a :: g) = unheard g + (a.late && !a.confirmed).toNat := countP_cons_toNat _ a g

theorem effects_cons {a : Attempt} (h : tx <:+: a.tx) (g : Ledger) :
    effects tx (a :: g) = effects tx g + a.landed.toNat := by
  have hcarried : decide (tx <:+: a.tx) = true := decide_eq_true h
  unfold effects
  rw [countP_cons_toNat, hcarried, Bool.and_true]

theorem effects_carried (h : ∀ a ∈ g, tx <:+: a.tx) : effects tx g = heard g + unheard g := by
  induction g with
  | nil => rfl
  | cons a g ih =>
    have htail := ih fun b hb => h b (List.mem_cons_of_mem a hb)
    rw [effects_cons (h a List.mem_cons_self), heard_cons, unheard_cons, htail]
    unfold Attempt.landed
    cases a.confirmed <;> cases a.late <;> simp <;> omega

theorem carries_nil (tx : Transaction) : Carries tx 0 [] := by
  constructor
  · intro a ha
    cases ha
  · rfl

theorem Carries.push (h : Carries tx n g) {whole : Transaction} (hwhole : tx <:+: whole)
    (confirmed late : Bool) :
    Carries tx (n + confirmed.toNat) (⟨whole, confirmed, late⟩ :: g) := by
  constructor
  · intro a ha
    rcases List.mem_cons.mp ha with rfl | ha
    · exact hwhole
    · exact h.carried a ha
  · rw [heard_cons, h.heard]

theorem withPriority_carries (tx : Transaction) (opts : SubmitOptions) :
    tx <:+: withPriority tx opts :=
  List.infix_cons (List.infix_refl tx)

theorem trySend_settles {whole : Transaction} (hwhole : tx <:+: whole) (attempt : ℕ) :
    Settles (ledger lands) (Carries tx 0) (trySend whole attempt)
      (fun r => Carries tx (if r.isOk then 1 else 0)) (Carries tx 0) := by
  apply settles_tryCatch (F := Carries tx 0)
  · apply settles_bind (B := fun _ => Carries tx 1)
    · apply settles_call
      · exact fun _ _ => trivial
      · exact fun g _ hg => hg.push hwhole true _
      · exact fun g _ hg => hg.push hwhole false _
    · exact fun sig => settles_pure fun g hg => hg
  · intro e
    apply settles_bind (B := fun _ => Carries tx 0)
    · apply settles_call
      · exact fun _ _ => trivial
      · exact fun _ _ hg => hg
      · exact fun _ _ hg => hg
    · exact fun _ => settles_pure fun g hg => hg

theorem sendRetrying_settles {whole : Transaction} (hwhole : tx <:+: whole) (maxRetries left : ℕ)
    (lastErr : Option Thrown) :
    Settles (ledger lands) (Carries tx 0) (sendRetrying whole maxRetries left lastErr)
      (fun _ => Carries tx 1) (Carries tx 0) := by
  induction left generalizing lastErr with
  | zero => exact settles_throw fun _ hg => hg
  | succ left ih =>
    apply settles_bind (trySend_settles hwhole _)
    intro r
    cases r with
    | ok sig => exact settles_pure fun _ hg => hg
    | error e => exact ih (some e)

theorem submit_settles (tx : Transaction) (opts : SubmitOptions) :
    Settles (ledger lands) (Carries tx 0) (submit tx opts)
      (fun _ => Carries tx (if opts.dryRun then 0 else 1)) (Carries tx 0) := by
  apply settles_ite
  · intro hdry
    rw [if_pos hdry]
    exact settles_pure fun _ hg => hg
  · intro hdry
    rw [if_neg hdry]
    exact sendRetrying_settles (withPriority_carries tx opts) _ _ _

/-- The bundle is the only attempt so far and has not been reported confirmed. -/
def Bundled (tx : Transaction) (g : Ledger) : Prop :=
  ∃ whole late, g = [⟨whole, false, late⟩] ∧ tx <:+: whole

theorem Bundled.carries (h : Bundled tx g) : Carries tx 0 g := by
  obtain ⟨whole, late, rfl, hwhole⟩ := h
  exact (carries_nil tx).push hwhole false late

theorem Bundled.confirmed (h : Bundled tx g) : Carries tx 1 (confirmLast g) := by
  obtain ⟨whole, late, rfl, hwhole⟩ := h
  exact (carries_nil tx).push hwhole true late

/-- What is known once the bundle may have been reported confirmed. -/
def Told (tx : Transaction) : Option Signature → Ledger → Prop
  | some _, g => Carries tx 1 g
  | none, g => Bundled tx g

def Answered (tx : Transaction) : Option BundleStatus → Ledger → Prop
  | some status, g => if confirms status then Carries tx 1 g else Bundled tx g
  | none, g => Bundled tx g

theorem askStatus_settles (bundleId : String) :
    Settles (ledger lands) (Bundled tx) (ask (.getBundleStatuses bundleId)) (Answered tx)
      (Bundled tx) := by
  apply settles_call
  · exact fun _ _ => trivial
  · intro g status hg
    cases status with
    | none => exact hg
    | some status =>
      unfold Answered ledger
      by_cases hconfirms : confirms status = true
      · simpa only [if_pos hconfirms] using hg.confirmed
      · simpa only [if_neg hconfirms] using hg
  · exact fun _ _ hg => hg

theorem confirmedAs_settles (expectedSig : Signature) (status : Option BundleStatus) :
    Settles (ledger lands) (Answered tx status) (confirmedAs expectedSig status) (Told tx)
      (Bundled tx) := by
  cases status with
  | none => exact settles_pure fun _ hg => hg
  | some status =>
    apply settles_ite
    · intro hfailed
      apply settles_throw
      intro g hg
      simpa [Answered, confirms, hfailed] using hg
    · intro hfailed
      apply settles_ite
      · intro hconfirmed
        apply settles_pure
        intro g hg
        change Carries tx 1 g
        simpa [Answered, confirms, hfailed, hconfirmed] using hg
      · intro hconfirmed
        apply settles_pure
        intro g hg
        change Bundled tx g
        simpa [Answered, confirms, hconfirmed] using hg

theorem pollStatus_settles (expectedSig : Signature) (bundleId : String) :
    Settles (ledger lands) (Bundled tx) (pollStatus expectedSig bundleId) (Told tx)
      (Bundled tx) := by
  apply settles_tryCatch (F := Bundled tx)
  · exact settles_bind (askStatus_settles bundleId) (confirmedAs_settles expectedSig)
  · exact fun e => settles_pure fun _ hg => hg

theorem pollBundle_settles (expectedSig : Signature) (bundleId : String) (deadline : ℤ)
    (polls : ℕ) :
    Settles (ledger lands) (Bundled tx) (pollBundle expectedSig bundleId deadline polls) (Told tx)
      (Bundled tx) := by
  induction polls with
  | zero => exact settles_pure fun _ hg => hg
  | succ polls ih =>
    apply settles_bind (B := fun _ => Bundled tx)
    · exact settles_choose fun _ _ hg => hg
    intro ms
    apply settles_ite
    · intro _
      apply settles_bind (B := fun _ => Bundled tx)
      · apply settles_call
        · exact fun _ _ => trivial
        · exact fun _ _ hg => hg
        · exact fun _ _ hg => hg
      intro _
      apply settles_bind (pollStatus_settles expectedSig bundleId)
      intro r
      cases r with
      | some sig => exact settles_pure fun _ hg => hg
      | none => exact ih
    · exact fun _ => settles_pure fun _ hg => hg

theorem withTip_carries (jito : JitoClient) (tx : Transaction) : tx <:+: jito.withTip tx :=
  ⟨[], [.tip jito.config.tipLamports], rfl⟩

theorem sendBundle_settles {whole : Transaction} (hwhole : tx <:+: whole) :
    Settles (ledger lands) (fun g => g = []) (sendBundle whole) (fun _ => Bundled tx)
      (Bundled tx) := by
  apply settles_tryCatch (F := Bundled tx)
  · apply settles_bind (B := fun _ => Bundled tx)
    · apply settles_call
      · exact fun _ _ => trivial
      · rintro g _ rfl
        exact ⟨whole, _, rfl, hwhole⟩
      · rintro g _ rfl
        exact ⟨whole, _, rfl, hwhole⟩
    intro answer
    apply settles_bind (B := fun _ => Bundled tx)
    · cases answer with
      | ok bundleId => exact settles_pure fun _ hg => hg
      | error e => exact settles_throw fun _ hg => hg
    · exact fun bundleId => settles_pure fun _ hg => hg
  · exact fun e => settles_pure fun _ hg => hg

theorem jito_settles (jito : JitoClient) (tx : Transaction) :
    Settles (ledger lands) (fun g => g = []) (jito.submitProtected tx)
      (fun r => Carries tx (if r.isSome then 1 else 0)) (Carries tx 0) := by
  apply settles_bind (B := fun _ g => g = [])
  · apply settles_call
    · exact fun _ _ => trivial
    · exact fun _ _ hg => hg
    · rintro g _ rfl
      exact carries_nil tx
  intro blockhash
  apply settles_bind (B := fun _ => Bundled tx)
  · exact (sendBundle_settles (withTip_carries jito tx)).mono (fun _ hg => hg) (fun _ _ hg => hg)
      fun _ hg => hg.carries
  intro bundleId
  cases bundleId with
  | none => exact settles_pure fun _ hg => hg.carries
  | some bundleId =>
    apply settles_bind (B := fun _ => Bundled tx)
    · exact settles_choose fun _ _ hg => hg
    intro ms
    apply (pollBundle_settles _ bundleId _ jito.polls).mono
    · exact fun _ hg => hg
    · intro r g hg
      cases r with
      | some sig => exact hg
      | none => exact hg.carries
    · exact fun _ hg => hg.carries

theorem submitProtected_settles (jito : Option JitoClient) (tx : Transaction)
    (opts : SubmitOptions) :
    Settles (ledger lands) (fun g => g = []) (submitProtected jito tx opts)
      (fun _ => Carries tx (if opts.dryRun then 0 else 1)) (Carries tx 0) := by
  have hopen : Settles (ledger lands) (Carries tx 0) (submit tx opts)
      (fun _ => Carries tx (if opts.dryRun then 0 else 1)) (Carries tx 0) := submit_settles tx opts
  cases jito with
  | none =>
    apply hopen.mono
    · rintro g rfl
      exact carries_nil tx
    · exact fun _ _ hg => hg
    · exact fun _ hg => hg
  | some jito =>
    apply settles_ite
    · intro hdry
      apply settles_pure
      rintro g rfl
      rw [if_pos hdry]
      exact carries_nil tx
    · intro hdry
      apply settles_bind
      · apply settles_tryCatch (jito_settles jito tx)
        exact fun e => settles_pure fun _ hg => hg
      · intro r
        cases r with
        | some sig =>
          rw [if_neg hdry]
          exact settles_pure fun _ hg => hg
        | none => exact hopen

/-- No attempt lands unheard; or a single one does, and no other is reported confirmed. -/
def Lone (g : Ledger) : Prop := unheard g = 0 ∨ unheard g = 1 ∧ heard g = 0

theorem Carries.lone_iff (h : Carries tx n g) (hn : n ≤ 1) : effects tx g ≤ 1 ↔ Lone g := by
  have heffects := effects_carried h.carried
  have hheard := h.heard
  unfold Lone
  omega

theorem lone_of_settles {m : Process Signature} {opts : SubmitOptions}
    (hm : Settles (ledger lands) (fun g => g = []) m
      (fun _ => Carries tx (if opts.dryRun then 0 else 1)) (Carries tx 0)) (b : BotWorld) :
    Accounted (ledger lands) [] (m b) fun _ g => effects tx g ≤ 1 ↔ Lone g := by
  apply (hm b [] rfl).mono
  intro x g hx
  cases x with
  | ok sig =>
    have hcarries : Carries tx (if opts.dryRun then 0 else 1) g := hx
    apply hcarries.lone_iff
    split <;> omega
  | error e =>
    have hcarries : Carries tx 0 g := hx
    exact hcarries.lone_iff (Nat.zero_le 1)

theorem submit_settles_nil (tx : Transaction) (opts : SubmitOptions) :
    Settles (ledger lands) (fun g => g = []) (submit tx opts)
      (fun _ => Carries tx (if opts.dryRun then 0 else 1)) (Carries tx 0) := by
  apply (submit_settles tx opts).mono
  · rintro g rfl
    exact carries_nil tx
  · exact fun _ _ hg => hg
  · exact fun _ hg => hg

/-- A transfer pays at most once, and not at all if the call throws. -/
def PaysOnce (tx : Transaction) (x : Except Thrown (Option Signature)) (g : Ledger) : Prop :=
  effects tx g ≤ 1 ∧ ∀ e, x = .error e → effects tx g = 0

variable {library : ConfigFile.Library} {pool : MeteoraPosition.Venue} {jito : Option JitoClient}
  {cfg : MainConfig}

theorem executeTransfer_settles (destination : Address) (solLamports bertRaw : ℤ) :
    Settles (ledger lands) (fun g => g = [])
      (executeTransfer (networkDeps library pool jito) cfg destination solLamports bertRaw)
      (fun _ => Carries [.withdrawal destination solLamports bertRaw] 1)
      (Carries [.withdrawal destination solLamports bertRaw] 0) := by
  have hsubmit := @submit_settles_nil lands
    [.withdrawal destination solLamports bertRaw] (vaultSubmitOptions cfg)
  apply settles_bind hsubmit
  exact fun sig => settles_pure fun _ hg => hg

theorem effect_once_iff (lands : ℕ → Bool) (jito : Option JitoClient) :
    (∀ tx opts b, Accounted (ledger lands) [] (submit tx opts b) fun _ g =>
      effects tx g ≤ 1 ↔ Lone g) ∧
    (∀ tx opts b, Accounted (ledger lands) [] (submitProtected jito tx opts b) fun _ g =>
      effects tx g ≤ 1 ↔ Lone g) ∧
    ∀ library pool cfg destination solLamports bertRaw b, Accounted (ledger lands) []
      (executeTransfer (networkDeps library pool jito) cfg destination solLamports bertRaw b)
      fun x g => PaysOnce [.withdrawal destination solLamports bertRaw] x g ↔ unheard g = 0 := by
  refine ⟨?_, ?_, ?_⟩
  · exact fun tx opts b => lone_of_settles (submit_settles_nil tx opts) b
  · exact fun tx opts b => lone_of_settles (submitProtected_settles jito tx opts) b
  · intro library pool cfg destination solLamports bertRaw b
    apply (executeTransfer_settles destination solLamports bertRaw b [] rfl).mono
    intro x g hx
    unfold PaysOnce
    cases x with
    | ok sig =>
      have hcarries : Carries [.withdrawal destination solLamports bertRaw] 1 g := hx
      have heffects := effects_carried hcarries.carried
      have hheard := hcarries.heard
      simp only [reduceCtorEq, false_implies, implies_true, and_true]
      omega
    | error e =>
      have hcarries : Carries [.withdrawal destination solLamports bertRaw] 0 g := hx
      have heffects := effects_carried hcarries.carried
      have hheard := hcarries.heard
      constructor
      · rintro ⟨-, hnone⟩
        have := hnone e rfl
        omega
      · intro hnone
        exact ⟨by omega, fun _ _ => by omega⟩

/-- The confirmation of a withdrawal's transfer times out, the transfer lands, and so does its
second attempt. -/
theorem withdrawal_paid_twice :
    ¬∀ (lands : ℕ → Bool) (b : BotWorld), Accounted (ledger lands) []
      (submit [.withdrawal "dest" 1000000000 0] {} b) fun _ g =>
        effects [.withdrawal "dest" 1000000000 0] g ≤ 1 := by
  intro hall
  let b : BotWorld := ⟨World.initial ⟨⟨0, 0⟩, []⟩, [], [], "", none, false⟩
  have hsent := hall (fun _ => true) b
  have hwaited := (hsent.2 (.error (.error "timed out")) b).2 (.ok ()) b
  have hconfirmed : effects [.withdrawal "dest" 1000000000 0]
      [⟨[.setComputeUnitPrice 10000, .withdrawal "dest" 1000000000 0], true, true⟩,
        ⟨[.setComputeUnitPrice 10000, .withdrawal "dest" 1000000000 0], false, true⟩] ≤ 1 :=
    hwaited.2 (.ok dryRunSignature) b
  exact absurd hconfirmed (by decide)

end SubmissionLandings
