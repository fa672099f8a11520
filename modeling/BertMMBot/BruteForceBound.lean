import BertMMBot.AsyncWiring
import BertMMBot.PlayedJournals

/-! # How many codes can fail

A failing code is remembered for a window, and so many in a window lock the user out for at
least as long; so no window holds more. The limiter is told of a failing setup code only after
its audit row is written, and never when that write throws. -/
namespace BruteForceBound

open AsyncProgram AsyncContract AsyncRecords AsyncWiring
open VaultTypes VaultProgram VaultJournal DepositorStore AccountSecurity DepositorCommands
open Encryption
open VaultRuntime (BotConfig commandsDeps)
open LedgerMachine (Fiber)
open MeteoraPosition (Venue)

structure Strikes where
  failures : List ℤ
  lockedUntil : Option ℤ

def strikesOf (u : TelegramId) (w : World) : Strikes :=
  ⟨(w.memory.failures u).getD [], w.memory.lockedUntil u⟩

def Strikes.looked (now : ℤ) (k : Strikes) : Strikes :=
  match k.lockedUntil with
  | none => k
  | some until_ => if now < until_ then k else { k with lockedUntil := none }

def Strikes.struck (limits : RateLimits) (now : ℤ) (k : Strikes) : Strikes :=
  let recent := (k.failures.filter fun t => now - t ≤ limits.windowMs) ++ [now]
  if limits.threshold ≤ recent.length then ⟨[], some (now + limits.lockoutMs)⟩
  else { k with failures := recent }

/-- The failures of a half-open interval of the length of the window. -/
def inWindow (limits : RateLimits) (a : ℤ) (fails : List ℤ) : ℕ :=
  fails.countP fun f => a ≤ f ∧ f < a + limits.windowMs

def recent (limits : RateLimits) (now : ℤ) (fails : List ℤ) : ℕ :=
  fails.countP fun f => now - f ≤ limits.windowMs

variable {limits : RateLimits} {now now' : ℤ} {k k' : Strikes} {fails : List ℤ}

/-- After `fails`, newest first, all up to `now`: the limiter remembers the recent ones of
`epoch`, and the lockout that the others led to covers their window. -/
structure Remembers (limits : RateLimits) (now : ℤ) (k : Strikes) (fails : List ℤ) : Prop where
  past : ∀ f ∈ fails, f ≤ now
  few : k.failures.length < limits.threshold
  windows : ∀ a, inWindow limits a fails ≤ limits.threshold
  tracked : ∃ epoch older, fails = epoch ++ older ∧
    (∀ t, now ≤ t → recent limits t epoch ≤ recent limits t k.failures) ∧
    ∀ f ∈ older, f + limits.windowMs ≤ k.lockedUntil.getD now

theorem looked_free (hfree : k.lockedUntil = none) : k.looked now = k := by
  simp only [Strikes.looked, hfree]

theorem remembers_fresh (hpos : 1 ≤ limits.threshold) (now : ℤ) :
    Remembers limits now ⟨[], none⟩ [] where
  past := by simp
  few := hpos
  windows := by simp [inWindow]
  tracked := ⟨[], [], rfl, by simp [recent], by simp⟩

theorem Remembers.later (h : Remembers limits now k fails) (hle : now ≤ now') :
    Remembers limits now' k fails where
  past f hf := (h.past f hf).trans hle
  few := h.few
  windows := h.windows
  tracked := by
    obtain ⟨epoch, older, hsplit, hepoch, holder⟩ := h.tracked
    refine ⟨epoch, older, hsplit, fun t ht => hepoch t (hle.trans ht), fun f hf => ?_⟩
    have hf := holder f hf
    cases hlock : k.lockedUntil with
    | none =>
      rw [hlock] at hf
      exact hf.trans hle
    | some until_ =>
      rw [hlock] at hf
      exact hf

theorem Remembers.looked (h : Remembers limits now k fails) :
    Remembers limits now (k.looked now) fails := by
  unfold Strikes.looked
  cases hlock : k.lockedUntil with
  | none => exact h
  | some until_ =>
    by_cases hheld : now < until_
    · simpa only [if_pos hheld] using h
    · simp only [if_neg hheld]
      obtain ⟨epoch, older, hsplit, hepoch, holder⟩ := h.tracked
      refine ⟨h.past, h.few, h.windows, epoch, older, hsplit, hepoch, fun f hf => ?_⟩
      have hf := holder f hf
      rw [hlock] at hf
      exact hf.trans (not_lt.mp hheld)

theorem recent_filter {t : ℤ} (hle : now ≤ t) (fails : List ℤ) :
    recent limits t (fails.filter fun f => now - f ≤ limits.windowMs) = recent limits t fails := by
  unfold recent
  rw [List.countP_filter]
  apply List.countP_congr
  intro f _
  simp only [Bool.and_eq_true, decide_eq_true_eq]
  omega

theorem Remembers.window_now (h : Remembers limits now k fails) (hfree : k.lockedUntil = none)
    (a : ℤ) (ha : a ≤ now) (hb : now < a + limits.windowMs) :
    inWindow limits a (now :: fails) ≤
      ((k.failures.filter fun t => now - t ≤ limits.windowMs) ++ [now]).length := by
  obtain ⟨epoch, older, hsplit, hepoch, holder⟩ := h.tracked
  rw [hfree] at holder
  have hout : inWindow limits a older = 0 := by
    apply List.countP_eq_zero.mpr
    intro f hf
    have hf : f + limits.windowMs ≤ now := holder f hf
    simp only [decide_eq_true_eq, not_and, not_lt]
    omega
  have hin : inWindow limits a epoch ≤ recent limits now epoch := by
    apply List.countP_mono_left
    intro f _ hf
    simp only [decide_eq_true_eq] at hf ⊢
    omega
  have hnow := hepoch now le_rfl
  have hlen : (k.failures.filter fun t => now - t ≤ limits.windowMs).length =
      recent limits now k.failures := (List.countP_eq_length_filter ..).symm
  have hcons : inWindow limits a (now :: fails) = inWindow limits a fails + 1 := by
    unfold inWindow
    rw [List.countP_cons_of_pos]
    simp only [decide_eq_true_eq]
    exact ⟨ha, hb⟩
  have happ : inWindow limits a fails = inWindow limits a epoch + inWindow limits a older := by
    rw [hsplit]
    exact List.countP_append ..
  rw [List.length_append, hlen, List.length_singleton]
  omega

theorem Remembers.struck (h : Remembers limits now k fails) (hpos : 1 ≤ limits.threshold)
    (hlock : limits.windowMs ≤ limits.lockoutMs) (hfree : k.lockedUntil = none) :
    Remembers limits now (k.struck limits now) (now :: fails) := by
  have hpast : ∀ f ∈ now :: fails, f ≤ now := by
    intro f hf
    rcases List.mem_cons.mp hf with rfl | hf
    · exact le_rfl
    · exact h.past f hf
  have hshort : ((k.failures.filter fun t => now - t ≤ limits.windowMs) ++ [now]).length ≤
      limits.threshold := by
    have hfew := h.few
    have hle := List.length_filter_le (fun t => decide (now - t ≤ limits.windowMs)) k.failures
    rw [List.length_append, List.length_singleton]
    omega
  have hwindows : ∀ a, inWindow limits a (now :: fails) ≤ limits.threshold := by
    intro a
    by_cases hin : a ≤ now ∧ now < a + limits.windowMs
    · exact (h.window_now hfree a hin.1 hin.2).trans hshort
    · have hskip : inWindow limits a (now :: fails) = inWindow limits a fails := by
        unfold inWindow
        rw [List.countP_cons_of_neg]
        simpa only [decide_eq_true_eq] using hin
      rw [hskip]
      exact h.windows a
  unfold Strikes.struck
  obtain ⟨epoch, older, hsplit, hepoch, holder⟩ := h.tracked
  rw [hfree] at holder
  by_cases htrip : limits.threshold ≤
      ((k.failures.filter fun t => now - t ≤ limits.windowMs) ++ [now]).length
  · rw [if_pos htrip]
    refine ⟨hpast, hpos, hwindows, [], now :: fails, rfl, by simp [recent], fun f hf => ?_⟩
    have hf := hpast f hf
    change f + limits.windowMs ≤ now + limits.lockoutMs
    omega
  · rw [if_neg htrip]
    refine ⟨hpast, not_le.mp htrip, hwindows, now :: epoch, older, ?_, fun t ht => ?_, ?_⟩
    · rw [hsplit]
      rfl
    · have hle := hepoch t ht
      have hsplit' : recent limits t
          ((k.failures.filter fun t => now - t ≤ limits.windowMs) ++ [now]) =
          recent limits t k.failures + recent limits t [now] := by
        rw [← recent_filter ht k.failures]
        exact List.countP_append ..
      have hcons : recent limits t ([now] ++ epoch) = recent limits t [now] + recent limits t epoch :=
        List.countP_append ..
      change recent limits t ([now] ++ epoch) ≤ recent limits t _
      rw [hsplit', hcons]
      omega
    · intro f hf
      change f + limits.windowMs ≤ k.lockedUntil.getD now
      rw [hfree]
      exact holder f hf

def isFailure : Line → Bool
  | .choice _ (Choice.statement (.writeAudit (.totpVerifyFailed _))) _ _ => true
  | _ => false

def isAcceptance : Line → Bool
  | .choice _ (Choice.statement (.setTotpLastCounter _)) _ o => (o : Option Thrown).isNone
  | _ => false

/-- The audit row of a setup code that failed, and the write threw. -/
def isLost : Line → Bool
  | .choice _ (Choice.statement (.writeAudit (.totpVerifyFailed (.totpSetupConfirm _)))) _ o =>
    (o : Option Thrown).isSome
  | _ => false

def failed (lines : Journal) : ℕ := lines.countP isFailure

/-- Every reading of the clock is `now`; whatever happens while the bot waits, the limiter
keeps what it knows of the user. -/
def chat (u : TelegramId) (now : ℤ) : VaultHost where
  choose
    | .clock, _, ms => ms = now
    | _, _, _ => True
  respond _ w _ w' := strikesOf u w' = strikesOf u w

/-- The program is left alone from a point, and writes its lines there. -/
def After {α : Type} (H : VaultHost) (m : Vault α) (p : JournalPoint)
    (post : Except Thrown α → JournalPoint → Prop) : Prop :=
  Yields (recordedHost H) (recorded Fiber.telegram (m p.1) p.2) post

variable {α β : Type} {H : VaultHost} {p q : JournalPoint} {m : Vault α} {u : TelegramId}
  {post : Except Thrown α → JournalPoint → Prop}

theorem After.mono {post' : Except Thrown α → JournalPoint → Prop} (h : After H m p post)
    (hp : ∀ x q, post x q → post' x q) : After H m p post' := Yields.mono h hp

theorem After.bind {f : α → Vault β} {mid : Except Thrown α → JournalPoint → Prop}
    {post : Except Thrown β → JournalPoint → Prop} (h : After H m p mid)
    (ok : ∀ a q, mid (.ok a) q → After H (f a) q post)
    (error : ∀ e q, mid (.error e) q → post (.error e) q) : After H (m >>= f) p post := by
  have heq : recorded Fiber.telegram ((m >>= f) p.1) p.2 =
      ((recorded Fiber.telegram (m p.1) p.2).bind fun a q =>
        recorded Fiber.telegram (f a q.1) q.2 : Run vaultInterface JournalPoint Thrown β) :=
    recorded_bind Fiber.telegram (m p.1) f p.2
  unfold After
  rw [heq]
  exact Yields.bind h ok error

theorem after_written (H : VaultHost) (m : Vault α) (p : JournalPoint) :
    After H m p fun _ q => p.2 <:+ q.2 := by
  have key : ∀ (r : VaultRun α) (h : Journal), p.2 <:+ h →
      Yields (recordedHost H) (recorded Fiber.telegram r h) fun _ q => p.2 <:+ q.2 := by
    intro r
    induction r with
    | done x s => exact fun h hh => hh
    | sync c s k ih => exact fun h hh o _ => ih o _ (hh.trans (List.suffix_cons ..))
    | await q s k ih =>
      intro h hh a q' hr
      rw [recordedHost] at hr
      refine ih a q'.1 _ ?_
      rw [hr.2]
      exact (hh.trans (List.suffix_cons ..)).trans (List.suffix_cons ..)
  exact key _ _ List.suffix_rfl

/-- Neither an audit row of a failing code nor the counter of an accepted one. -/
def verifiesNothing : Choice → Prop
  | .statement (.writeAudit (.totpVerifyFailed _)) => False
  | .statement (.setTotpLastCounter _) => False
  | _ => True

def chatBounds (u : TelegramId) : Bounds vaultInterface World Strikes where
  choice := verifiesNothing
  call _ := True
  view := strikesOf u

abbrev Apart (u : TelegramId) (m : Vault α) : Prop := Within (chatBounds u) True m

structure Aside (u : TelegramId) (p q : JournalPoint) : Prop where
  strikes : strikesOf u q.1 = strikesOf u p.1
  failed : failed q.2 = failed p.2
  accepted : q.2.any isAcceptance = p.2.any isAcceptance
  lost : q.2.any isLost = p.2.any isLost

theorem Aside.trans {r : JournalPoint} (h : Aside u p q) (k : Aside u q r) : Aside u p r :=
  ⟨k.strikes.trans h.strikes, k.failed.trans h.failed, k.accepted.trans h.accepted,
    k.lost.trans h.lost⟩

theorem verifiesNothing_line {c : Choice} (hc : verifiesNothing c) (i : Fiber) (w : World)
    (o : c.Outcome) : isFailure (.choice i c w o) = false ∧
      isAcceptance (.choice i c w o) = false ∧ isLost (.choice i c w o) = false := by
  cases c with
  | statement st =>
    cases st with
    | writeAudit event =>
      cases event with
      | totpVerifyFailed op => exact hc.elim
      | _ => exact ⟨rfl, rfl, rfl⟩
    | setTotpLastCounter v => exact hc.elim
    | _ => exact ⟨rfl, rfl, rfl⟩
  | _ => exact ⟨rfl, rfl, rfl⟩

theorem aside_cons {e : Line} {w' : World} (hs : strikesOf u w' = strikesOf u p.1)
    (he : isFailure e = false ∧ isAcceptance e = false ∧ isLost e = false) :
    Aside u p (w', e :: p.2) := by
  obtain ⟨hf, ha, hl⟩ := he
  constructor
  · exact hs
  · simp [failed, hf]
  · simp [ha]
  · simp [hl]

theorem after_apart (now : ℤ) (hm : Apart u m) (p : JournalPoint) :
    After (chat u now) m p fun _ q => Aside u p q := by
  have key : ∀ (r : VaultRun α) (h : Journal), Bounded (chatBounds u) True (strikesOf u p.1) r →
      (∀ w, strikesOf u w = strikesOf u p.1 → Aside u p (w, h)) →
      Yields (recordedHost (chat u now)) (recorded Fiber.telegram r h) fun _ q => Aside u p q := by
    intro r
    induction r with
    | done x s => exact fun h hr hh => hh s hr
    | sync c s k ih =>
      intro h hr hh o _
      exact ih o _ (hr.2.2 o) fun w hw => (hh s hr.2.1).trans
        (aside_cons (hw.trans hr.2.1.symm) (verifiesNothing_line hr.1 _ _ _))
    | await q s k ih =>
      intro h hr hh a q' ha
      have hstrikes : strikesOf u q'.1 = strikesOf u s := ha.1
      have hstay : strikesOf u s = strikesOf u p.1 := hr.2.2.1
      refine ih a q'.1 _ ?_ fun w hw => ?_
      · have hrest := hr.2.2.2 a q'.1
        change Bounded (chatBounds u) True (strikesOf u q'.1) _ at hrest
        rwa [hstrikes, hstay] at hrest
      · rw [ha.2]
        have hcalled : Aside u (s, h) (s, .call Fiber.telegram q s :: h) :=
          aside_cons rfl ⟨rfl, rfl, rfl⟩
        refine ((hh s hstay).trans hcalled).trans (aside_cons ?_ ⟨rfl, rfl, rfl⟩)
        exact hw.trans hstay.symm
  exact key _ _ (hm p.1) fun w hw => ⟨hw, rfl, rfl, rfl⟩

section Apart

-- a rule is applied to the text of a program, never to its run
attribute [local irreducible] Bounded

variable {venue : Venue} {cfg : BotConfig} {deps : CommandsDeps}

theorem apart_choice {c : Choice} (hc : verifiesNothing c) :
    Apart u (Async.choose (I := vaultInterface) c : Vault c.Outcome) := within_choose hc

theorem apart_now : Apart u VaultProgram.now := apart_choice (c := Choice.clock) trivial

theorem apart_call (q : Query) :
    Apart u (Async.call (I := vaultInterface) q : Vault q.Reply) := within_call trivial trivial

theorem apart_memory {f : Memory → Memory} (hf : ∀ m, (f m).failures = m.failures)
    (hl : ∀ m, (f m).lockedUntil = m.lockedUntil) : Apart u (modifyMemory f) := by
  apply within_modify
  intro w
  change Strikes.mk (((f w.memory).failures u).getD []) ((f w.memory).lockedUntil u) = _
  rw [hf, hl]
  rfl

theorem apart_setPending (v : TelegramId) (action : PendingAction) : Apart u (setPending v action) :=
  apart_memory (fun _ => rfl) fun _ => rfl

theorem apart_clearPending (v : TelegramId) : Apart u (clearPending v) :=
  apart_memory (fun _ => rfl) fun _ => rfl

theorem apart_setTotpSetupFailures (v : TelegramId) (failures : Option ℕ) :
    Apart u (setTotpSetupFailures v failures) := apart_memory (fun _ => rfl) fun _ => rfl

theorem apart_nonNull (property : String) (a : Option α) : Apart u (nonNull property a) := by
  cases a with
  | some a => exact within_pure a
  | none => exact within_throw _

theorem apart_statement {waits : Prop} {st : Stmt} {f : Db → Except Thrown (α × Db)}
    (hst : verifiesNothing (.statement st)) : Within (chatBounds u) waits (statement st f) := by
  apply within_bind (within_choose hst)
  intro r
  cases r with
  | some e => exact within_bind (within_modify fun _ => rfl) fun _ => within_throw e
  | none =>
    apply within_attempt
    intro s a s' h
    rcases hfs : f s.db with e | ⟨b, db⟩
    · simp [hfs] at h
    · simp only [hfs, Except.ok.injEq, Prod.mk.injEq] at h
      obtain ⟨-, rfl⟩ := h
      rfl

theorem apart_writeAudit {ts : ℤ} {telegramId : Option TelegramId} {event : AuditEvent}
    (h : verifiesNothing (.statement (.writeAudit event))) :
    Apart u (writeAudit ts telegramId event) := apart_statement h

theorem apart_decryptSecret (blob : EncryptedBlob) : Apart u (decryptSecret blob) :=
  within_decryptSecret (fun c hc => by cases c <;> cases hc <;> trivial) blob

theorem apart_verifyCode (secret code : String) (lastUsedCounter : Option ℤ) :
    Apart u (verifyCode secret code lastUsedCounter) := by
  refine within_ite (fun _ => ?_) fun _ => within_pure _
  refine within_bind (apart_choice (c := Choice.totpValidate secret code) trivial) fun delta => ?_
  rcases delta with _ | delta
  · exact within_pure _
  · refine within_bind (within_bind apart_now fun _ => within_pure _) fun counter => ?_
    exact within_ite (fun _ => within_pure _) fun _ => within_pure _

theorem apart_reply (chatId : ℤ) (notice : Notice) : Apart u (VaultRuntime.reply chatId notice) :=
  apart_call _

theorem apart_isUnlocked (v : TelegramId) : Apart u (isUnlocked v) := by
  apply within_bind (within_read _)
  intro until_
  cases until_ with
  | none => exact within_pure _
  | some until_ => exact within_bind apart_now fun _ => within_pure _

theorem apart_getNav (venue : Venue) (minSolFloorLamports : ℕ) :
    Apart u (VaultRuntime.getNav venue minSolFloorLamports) := by
  have hread : ∀ (stored : Option StoredPosition) (solUsd : ℚ),
      Apart u (VaultRuntime.trackedPosition venue stored solUsd) := by
    intro stored solUsd
    cases stored with
    | none => exact within_pure _
    | some p =>
      refine within_tryCatch ?_ fun _ => within_pure _
      exact within_bind (within_bind (apart_call _) fun _ => within_pure _) fun _ => within_pure _
  refine within_tryCatch (within_bind (within_read _) fun last => ?_) fun _ => within_read _
  cases last with
  | none => exact within_read _
  | some last =>
    refine within_bind (apart_call _) fun bal => within_bind (apart_nonNull _ bal) fun bal => ?_
    refine within_bind (within_read _) fun stored => within_bind (hread _ _) fun pos => ?_
    exact within_bind (within_read _) fun total => within_pure _

structure Bystanding (u : TelegramId) (deps : CommandsDeps) : Prop where
  reply : ∀ chatId notice, Apart u (deps.reply chatId notice)
  getNav : Apart u deps.getNav

variable (hdeps : Bystanding u deps)

include hdeps

theorem apart_doWithdraw (userId : TelegramId) (chatId : ℤ) (amountUsd : ℚ) :
    Apart u (doWithdraw deps userId chatId amountUsd) := by
  refine within_bind (within_read _) fun user => within_bind (apart_nonNull _ _) fun user => ?_
  cases user.whitelistAddress.filter (· ≠ "") with
  | none => exact hdeps.reply _ _
  | some destination =>
    refine within_bind hdeps.getNav fun nav => ?_
    cases nav with
    | none => exact hdeps.reply _ _
    | some nav =>
      refine within_ite (fun _ => hdeps.reply _ _) fun _ => ?_
      refine within_bind apart_now fun queuedAt => ?_
      refine within_bind (apart_statement trivial) fun id => within_bind apart_now fun ms => ?_
      exact within_bind (apart_writeAudit trivial) fun _ => hdeps.reply _ _

theorem apart_confirmWithdrawal (msg : Msg) (prompt : Notice) (amountUsd : ℚ) :
    Apart u (confirmWithdrawal deps msg prompt amountUsd) := by
  refine within_bind (apart_isUnlocked _) fun open_ => within_ite (fun _ => ?_) fun _ => ?_
  · exact apart_doWithdraw hdeps _ _ _
  · exact within_bind (apart_setPending _ _) fun _ => hdeps.reply _ _

theorem apart_respondWithdrawAmountEntry (msg : Msg) :
    Apart u (respondWithdrawAmountEntry deps msg) := by
  unfold respondWithdrawAmountEntry
  refine within_bind (apart_clearPending _) fun _ => ?_
  split
  · exact hdeps.reply _ _
  · refine within_bind (within_read _) fun user => ?_
    cases (Option.bind user UserRow.whitelistAddress).filter (· ≠ "") with
    | none => exact hdeps.reply _ _
    | some destination =>
      refine within_bind hdeps.getNav fun nav => ?_
      cases nav with
      | none => exact hdeps.reply _ _
      | some nav =>
        refine within_bind (within_bind (within_read _) fun _ => within_pure _) fun userUsd => ?_
        split
        · exact hdeps.reply _ _
        · exact apart_confirmWithdrawal hdeps _ _ _

theorem apart_doSetWhitelist (userId : TelegramId) (chatId : ℤ) (address : Address) :
    Apart u (doSetWhitelist deps userId chatId address) := by
  have hrequest : ∀ ts, Apart u (requestChange deps.cooldownMs userId address ts) := by
    intro ts
    refine within_bind (within_read _) fun user => ?_
    cases user with
    | none => exact within_throw _
    | some user =>
      cases huser : user.whitelistAddress with
      | none =>
        simp only [huser]
        refine within_transaction (fun _ _ hs => hs) ?_
        refine within_bind (apart_statement trivial) fun id => ?_
        exact within_bind (apart_statement trivial) fun _ => within_pure _
      | some old =>
        simp only [huser]
        exact within_bind (apart_statement trivial) fun id => within_pure _
  refine within_bind apart_now fun ts => within_bind (hrequest ts) fun result => ?_
  refine within_bind apart_now fun ms => within_bind (apart_writeAudit trivial) fun _ => ?_
  exact within_ite (fun _ => hdeps.reply _ _) fun _ => hdeps.reply _ _

end Apart

/-- What an attempt can come to from a point at which no lockout holds the user off. -/
inductive Tried (limits : RateLimits) (u : TelegramId) (now : ℤ) (p q : JournalPoint) : Prop where
  | accepted : q.2.any isAcceptance = true → Tried limits u now p q
  | lost : q.2.any isLost = true → Tried limits u now p q
  | aside : Aside u p q → Tried limits u now p q
  | struck : strikesOf u q.1 = (strikesOf u p.1).struck limits now →
      failed q.2 = failed p.2 + 1 → Tried limits u now p q

theorem Tried.after {r : JournalPoint} (h : Tried limits u now p q) (hr : Aside u q r) :
    Tried limits u now p r := by
  cases h with
  | accepted ha => exact .accepted (hr.accepted.trans ha)
  | lost hl => exact .lost (hr.lost.trans hl)
  | aside ha => exact .aside (ha.trans hr)
  | struck hs hf => exact .struck (hr.strikes.trans hs) (hr.failed.trans hf)

theorem Tried.before {r : JournalPoint} (hr : Aside u p q) (h : Tried limits u now q r) :
    Tried limits u now p r := by
  cases h with
  | accepted ha => exact .accepted ha
  | lost hl => exact .lost hl
  | aside ha => exact .aside (hr.trans ha)
  | struck hs hf =>
    rw [hr.strikes] at hs
    rw [hr.failed] at hf
    exact .struck hs hf

theorem any_written {f : Line → Bool} (h : p.2 <:+ q.2) (hp : p.2.any f = true) :
    q.2.any f = true := by
  obtain ⟨e, he, hf⟩ := List.any_eq_true.mp hp
  exact List.any_eq_true.mpr ⟨e, h.subset he, hf⟩

theorem after_accepted (m : Vault α) (h : p.2.any isAcceptance = true) :
    After H m p fun _ q => q.2.any isAcceptance = true :=
  (after_written H m p).mono fun _ _ hq => any_written hq h

theorem after_apart_bind {f : α → Vault β} {post : Except Thrown β → JournalPoint → Prop}
    (hm : Apart u m) (hk : ∀ a q, Aside u p q → After (chat u now) (f a) q post)
    (herror : ∀ e q, Aside u p q → post (.error e) q) : After (chat u now) (m >>= f) p post :=
  (after_apart now hm p).bind hk herror

theorem after_now :
    After (chat u now) VaultProgram.now p fun x q => x = .ok now ∧ Aside u p q :=
  fun _ ho => ⟨congrArg _ ho, aside_cons rfl ⟨rfl, rfl, rfl⟩⟩

theorem after_isLockedOut :
    After (chat u now) (isLockedOut u now) p fun x q =>
      q.2 = p.2 ∧ strikesOf u q.1 = (strikesOf u p.1).looked now ∧
        (x = .ok none ∧ (strikesOf u q.1).lockedUntil = none ∨ ∃ until_, x = .ok (some until_)) := by
  obtain ⟨w, h⟩ := p
  have hrun : isLockedOut u now w = match w.memory.lockedUntil u with
      | none => .done (.ok none) w
      | some until_ => if now < until_ then .done (.ok (some until_)) w
          else .done (.ok none) (w.withMemory { w.memory with
            lockedUntil := Function.update w.memory.lockedUntil u none }) := by
    unfold isLockedOut
    simp only [bind_apply, readMemory, Async.read, Run.bind]
    cases w.memory.lockedUntil u with
    | none => rfl
    | some until_ =>
      simp only [AsyncProgram.ite_apply]
      by_cases hheld : now < until_
      · rw [if_pos hheld, if_pos hheld]
        rfl
      · rw [if_neg hheld, if_neg hheld]
        rfl
  unfold After
  change Yields _ (recorded _ (isLockedOut u now w) h) _
  rw [hrun]
  unfold Strikes.looked
  cases hlock : w.memory.lockedUntil u with
  | none => simp [recorded, Yields, strikesOf, hlock]
  | some until_ =>
    by_cases hheld : now < until_
    · simp [recorded, Yields, strikesOf, hlock, hheld]
    · simp [recorded, Yields, strikesOf, hlock, hheld]

theorem after_recordFailure :
    After (chat u now) (recordFailure limits u now) p fun x q =>
      q.2 = p.2 ∧ strikesOf u q.1 = (strikesOf u p.1).struck limits now ∧ ∃ r, x = .ok r := by
  obtain ⟨w, h⟩ := p
  unfold After
  change Yields _ (recorded _ (recordFailure limits u now w) h) _
  unfold recordFailure
  simp only [bind_apply, readMemory, Async.read, Run.bind, AsyncProgram.ite_apply]
  by_cases htrip : limits.threshold ≤ ((((w.memory.failures u).getD []).filter fun t =>
      now - t ≤ limits.windowMs) ++ [now]).length
  · have hstruck : (strikesOf u w).struck limits now = ⟨[], some (now + limits.lockoutMs)⟩ :=
      if_pos htrip
    rw [if_pos htrip]
    refine ⟨rfl, ?_, _, rfl⟩
    rw [hstruck]
    simp [strikesOf]
  · have hstruck : (strikesOf u w).struck limits now = ⟨(((w.memory.failures u).getD []).filter
        fun t => now - t ≤ limits.windowMs) ++ [now], w.memory.lockedUntil u⟩ := if_neg htrip
    rw [if_neg htrip]
    refine ⟨rfl, ?_, _, rfl⟩
    rw [hstruck]
    simp [strikesOf]

theorem after_setTotpLastCounter (v : TelegramId) (counter : ℤ) :
    After (chat u now) (setTotpLastCounter v counter) p fun x q =>
      q.2.any isAcceptance = true ∨ Aside u p q ∧ x ≠ .ok () := by
  obtain ⟨w, h⟩ := p
  intro o _
  cases o with
  | none => exact .inl rfl
  | some e => exact .inr ⟨aside_cons rfl ⟨rfl, rfl, rfl⟩, nofun⟩

theorem after_failure {ts : ℤ} {telegramId : Option TelegramId} {op : TotpOp} :
    After (chat u now) (writeAudit ts telegramId (.totpVerifyFailed op)) p fun x q =>
      strikesOf u q.1 = strikesOf u p.1 ∧ failed q.2 = failed p.2 + 1 ∧
        (x = .ok () ∨ (∃ e, x = .error e) ∧
          (∀ failures, op = .totpSetupConfirm failures → q.2.any isLost = true)) := by
  obtain ⟨w, h⟩ := p
  intro o _
  cases o with
  | none => exact ⟨rfl, List.countP_cons_of_pos rfl, .inl rfl⟩
  | some e =>
    refine ⟨rfl, List.countP_cons_of_pos rfl, .inr ⟨⟨e, rfl⟩, ?_⟩⟩
    rintro failures rfl
    rfl

theorem after_verifyTotp (code : String) :
    After (chat u now) (verifyTotp u code) p fun x q =>
      q.2.any isAcceptance = true ∨ Aside u p q ∧ x ≠ .ok true := by
  have hquiet : ∀ {q r : JournalPoint} {x : Except Thrown Bool}, Aside u p q → Aside u q r →
      x ≠ .ok true → r.2.any isAcceptance = true ∨ Aside u p r ∧ x ≠ .ok true :=
    fun h k hx => .inr ⟨h.trans k, hx⟩
  have herror : ∀ (e : Thrown) (q : JournalPoint), Aside u p q →
      q.2.any isAcceptance = true ∨ Aside u p q ∧ (Except.error e : Except Thrown Bool) ≠ .ok true :=
    fun e q h => .inr ⟨h, nofun⟩
  refine after_apart_bind (within_read _) (fun user q hq => ?_) herror
  cases enrolled user with
  | none => exact .inr ⟨hq, nofun⟩
  | some user =>
    refine after_apart_bind (within_read _) (fun secrets q₁ hq₁ => ?_) fun e q₁ hq₁ =>
      hquiet hq hq₁ nofun
    have hq := hq.trans hq₁
    cases secrets.bind UserSecrets.totpSecretEnc with
    | none => exact .inr ⟨hq, nofun⟩
    | some secretEnc =>
      refine after_apart_bind (apart_decryptSecret secretEnc) (fun secretBase32 q₂ hq₂ => ?_)
        fun e q₂ hq₂ => hquiet hq hq₂ nofun
      have hq := hq.trans hq₂
      refine after_apart_bind (apart_verifyCode _ _ _) (fun result q₃ hq₃ => ?_)
        fun e q₃ hq₃ => hquiet hq hq₃ nofun
      have hq := hq.trans hq₃
      cases result with
      | ok counter =>
        refine (after_setTotpLastCounter u counter).bind (fun _ r hr => ?_) fun e r hr => ?_
        · rcases hr with haccepted | ⟨-, hne⟩
          · exact .inl haccepted
          · exact absurd rfl hne
        · rcases hr with haccepted | ⟨hr, -⟩
          · exact .inl haccepted
          · exact hquiet hq hr nofun
      | badFormat => exact .inr ⟨hq, nofun⟩
      | invalid => exact .inr ⟨hq, nofun⟩
      | replay counter => exact .inr ⟨hq, nofun⟩

theorem after_recordVerifyFailure {deps : CommandsDeps} {op : TotpOp} :
    After (chat u now) (recordVerifyFailure deps u op now) p fun x q =>
      Tried deps.limits u now p q ∧ x ≠ .ok .ok := by
  refine after_recordFailure.bind (fun lockedUntil q hq => ?_) fun e q hq => ?_
  · obtain ⟨hlines, hstrikes, -⟩ := hq
    refine after_failure.bind (fun _ q₁ hq₁ => ?_) fun e q₁ hq₁ => ?_
    · have hstruck : Tried deps.limits u now p q₁ := by
        refine .struck (hq₁.1.trans hstrikes) ?_
        rw [hq₁.2.1, hlines]
      cases lockedUntil with
      | none => exact ⟨hstruck, nofun⟩
      | some until_ =>
        refine after_apart_bind (apart_writeAudit trivial) (fun _ q₂ hq₂ => ?_) fun e q₂ hq₂ => ?_
        · exact ⟨hstruck.after hq₂, nofun⟩
        · exact ⟨hstruck.after hq₂, nofun⟩
    · refine ⟨.struck (hq₁.1.trans hstrikes) ?_, nofun⟩
      rw [hq₁.2.1, hlines]
  · obtain ⟨-, -, r, hr⟩ := hq
    cases hr

theorem after_verifyTotpGated {deps : CommandsDeps} {op : TotpOp} (code : String)
    (hfree : (strikesOf u p.1).lockedUntil = none) :
    After (chat u now) (verifyTotpGated deps u code op) p fun x q =>
      q.2.any isAcceptance = true ∨ Tried deps.limits u now p q ∧ x ≠ .ok .ok := by
  refine after_now.bind ?_ ?_
  · rintro ms q ⟨hms, hq⟩
    obtain rfl := (Except.ok.inj hms).symm
    have hqfree : (strikesOf u q.1).lockedUntil = none := by
      rw [hq.strikes]
      exact hfree
    refine after_isLockedOut.bind (fun lockedUntil q₁ hq₁ => ?_) fun e q₁ hq₁ => ?_
    · obtain ⟨hlines, hstrikes, -⟩ := hq₁
      rw [looked_free hqfree] at hstrikes
      have hlooked : Aside u q q₁ := ⟨hstrikes, by rw [hlines], by rw [hlines], by rw [hlines]⟩
      have hq := hq.trans hlooked
      cases lockedUntil with
      | some until_ => exact .inr ⟨.aside hq, nofun⟩
      | none =>
        refine (after_verifyTotp code).bind (fun valid q₂ hq₂ => ?_) fun e q₂ hq₂ => ?_
        · rcases hq₂ with haccepted | ⟨hq₂, hinvalid⟩
          · exact (after_accepted _ haccepted).mono fun _ _ h => .inl h
          · cases valid with
            | true => exact absurd rfl hinvalid
            | false =>
              have hq := hq.trans hq₂
              exact after_recordVerifyFailure.mono fun x r hr => .inr ⟨.before hq hr.1, hr.2⟩
        · rcases hq₂ with haccepted | ⟨hq₂, -⟩
          · exact .inl haccepted
          · exact .inr ⟨.aside (hq.trans hq₂), nofun⟩
    · obtain ⟨-, -, ⟨hx, -⟩ | ⟨until_, hx⟩⟩ := hq₁
      · cases hx
      · cases hx
  · rintro e q ⟨hx, -⟩
    cases hx

theorem after_respondGated {deps : CommandsDeps} (hdeps : Bystanding u deps) {msg : Msg}
    (hmsg : msg.userId = u) {op : TotpOp} {act : Vault Unit}
    (hfree : (strikesOf u p.1).lockedUntil = none) :
    After (chat u now) (respondGated deps msg op act) p fun _ q =>
      Tried deps.limits u now p q := by
  unfold respondGated
  subst hmsg
  refine after_apart_bind (apart_clearPending _) (fun _ q hq => ?_) fun e q hq => .aside hq
  have hqfree : (strikesOf msg.userId q.1).lockedUntil = none := by
    rw [hq.strikes]
    exact hfree
  refine (after_verifyTotpGated _ hqfree).bind (fun gate q₁ hq₁ => ?_) fun e q₁ hq₁ => ?_
  · rcases hq₁ with haccepted | ⟨htried, hgate⟩
    · exact (after_accepted _ haccepted).mono fun _ _ h => .accepted h
    · have htried := htried.before hq
      cases gate with
      | ok => exact absurd rfl hgate
      | locked until_ =>
        refine after_apart_bind apart_now (fun ms q₂ hq₂ => ?_) fun e q₂ hq₂ => htried.after hq₂
        exact (after_apart now (hdeps.reply _ _) q₂).mono fun _ _ h =>
          (htried.after hq₂).after h
      | failed => exact (after_apart now (hdeps.reply _ _) q₁).mono fun _ _ h => htried.after h
  · rcases hq₁ with haccepted | ⟨htried, -⟩
    · exact .accepted haccepted
    · exact htried.before hq

theorem after_confirmTotp (code : String) (ms : ℤ) :
    After (chat u now) (confirmTotp u code ms) p fun x q =>
      q.2.any isAcceptance = true ∨ Aside u p q ∧ x ≠ .ok true := by
  have hquiet : ∀ {q r : JournalPoint} {x : Except Thrown Bool}, Aside u p q → Aside u q r →
      x ≠ .ok true → r.2.any isAcceptance = true ∨ Aside u p r ∧ x ≠ .ok true :=
    fun h k hx => .inr ⟨h.trans k, hx⟩
  refine after_apart_bind (within_read _) (fun secrets q hq => ?_) fun e q hq => .inr ⟨hq, nofun⟩
  cases secrets.bind UserSecrets.totpSecretEnc with
  | none => exact .inr ⟨hq, nofun⟩
  | some secretEnc =>
    refine after_apart_bind (apart_decryptSecret secretEnc) (fun secretBase32 q₁ hq₁ => ?_)
      fun e q₁ hq₁ => hquiet hq hq₁ nofun
    have hq := hq.trans hq₁
    refine after_apart_bind (apart_verifyCode _ _ _) (fun result q₂ hq₂ => ?_)
      fun e q₂ hq₂ => hquiet hq hq₂ nofun
    have hq := hq.trans hq₂
    cases result with
    | ok counter =>
      refine after_apart_bind (apart_statement trivial) (fun _ q₃ hq₃ => ?_)
        fun e q₃ hq₃ => hquiet hq hq₃ nofun
      have hq := hq.trans hq₃
      refine (after_setTotpLastCounter u counter).bind (fun _ r hr => ?_) fun e r hr => ?_
      · rcases hr with haccepted | ⟨-, hne⟩
        · exact .inl haccepted
        · exact absurd rfl hne
      · rcases hr with haccepted | ⟨hr, -⟩
        · exact .inl haccepted
        · exact hquiet hq hr nofun
    | badFormat => exact .inr ⟨hq, nofun⟩
    | invalid => exact .inr ⟨hq, nofun⟩
    | replay counter => exact .inr ⟨hq, nofun⟩

theorem after_totpSetupRejected {deps : CommandsDeps} (hdeps : Bystanding u deps) {msg : Msg}
    (hmsg : msg.userId = u) :
    After (chat u now) (totpSetupRejected deps msg now) p fun _ q =>
      Tried deps.limits u now p q := by
  subst hmsg
  refine after_apart_bind (within_read _) (fun failures q hq => ?_) fun e q hq => .aside hq
  refine after_failure.bind (fun _ q₁ hq₁ => ?_) fun e q₁ hq₁ => ?_
  · refine after_recordFailure.bind (fun lockedUntil q₂ hq₂ => ?_) fun e q₂ hq₂ => ?_
    · obtain ⟨hlines, hstrikes, -⟩ := hq₂
      have hstruck : Tried deps.limits msg.userId now p q₂ := by
        refine .before hq (.struck ?_ ?_)
        · rw [hstrikes, hq₁.1]
        · rw [hlines, hq₁.2.1]
      cases lockedUntil with
      | some until_ =>
        refine after_apart_bind (apart_clearPending _) (fun _ q₃ hq₃ => ?_)
          fun e q₃ hq₃ => hstruck.after hq₃
        have hstruck := hstruck.after hq₃
        refine after_apart_bind (apart_setTotpSetupFailures _ _) (fun _ q₄ hq₄ => ?_)
          fun e q₄ hq₄ => hstruck.after hq₄
        have hstruck := hstruck.after hq₄
        refine after_apart_bind (apart_writeAudit trivial) (fun _ q₅ hq₅ => ?_)
          fun e q₅ hq₅ => hstruck.after hq₅
        exact (after_apart now (hdeps.reply _ _) q₅).mono fun _ _ h =>
          (hstruck.after hq₅).after h
      | none =>
        have hrest : Apart msg.userId (if totpSetupMaxFailures ≤ failures then (do
            clearPending msg.userId
            setTotpSetupFailures msg.userId none
            deps.reply msg.chatId .tooManyInvalidCodes)
          else (do
            setTotpSetupFailures msg.userId (some failures)
            deps.reply msg.chatId .invalidCodeTryAgain)) := by
          refine within_ite (fun _ => ?_) fun _ => ?_
          · refine within_bind (apart_clearPending _) fun _ => ?_
            exact within_bind (apart_setTotpSetupFailures _ _) fun _ => hdeps.reply _ _
          · exact within_bind (apart_setTotpSetupFailures _ _) fun _ => hdeps.reply _ _
        exact (after_apart now hrest q₂).mono fun _ _ h => hstruck.after h
    · obtain ⟨-, -, r, hr⟩ := hq₂
      cases hr
  · obtain ⟨-, -, hx | ⟨-, hlost⟩⟩ := hq₁
    · cases hx
    · exact .lost (hlost failures rfl)

theorem after_respondTotpSetupConfirm {deps : CommandsDeps} (hdeps : Bystanding u deps) {msg : Msg}
    (hmsg : msg.userId = u) :
    After (chat u now) (respondTotpSetupConfirm deps msg) p fun _ q =>
      Tried deps.limits u now p q := by
  refine after_now.bind ?_ ?_
  · rintro ms q ⟨hms, hq⟩
    obtain rfl := (Except.ok.inj hms).symm
    subst hmsg
    refine (after_confirmTotp _ _).bind (fun valid q₁ hq₁ => ?_) fun e q₁ hq₁ => ?_
    · rcases hq₁ with haccepted | ⟨hq₁, hinvalid⟩
      · exact (after_accepted _ haccepted).mono fun _ _ h => .accepted h
      · cases valid with
        | true => exact absurd rfl hinvalid
        | false =>
          exact (after_totpSetupRejected hdeps rfl).mono fun _ _ h => .before (hq.trans hq₁) h
    · rcases hq₁ with haccepted | ⟨hq₁, -⟩
      · exact .accepted haccepted
      · exact .aside (hq.trans hq₁)
  · rintro e q ⟨hx, -⟩
    cases hx

structure Glimpsed (u : TelegramId) (now : ℤ) (p q : JournalPoint) : Prop where
  strikes : strikesOf u q.1 = (strikesOf u p.1).looked now
  failed : failed q.2 = failed p.2
  accepted : q.2.any isAcceptance = p.2.any isAcceptance
  lost : q.2.any isLost = p.2.any isLost

theorem Glimpsed.aside {r : JournalPoint} (h : Glimpsed u now p q) (k : Aside u q r) :
    Glimpsed u now p r :=
  ⟨k.strikes.trans h.strikes, k.failed.trans h.failed, k.accepted.trans h.accepted,
    k.lost.trans h.lost⟩

theorem Glimpsed.free (h : Glimpsed u now p q) (hfree : (strikesOf u p.1).lockedUntil = none) :
    Aside u p q := by
  obtain ⟨hs, hf, ha, hl⟩ := h
  rw [looked_free hfree] at hs
  exact ⟨hs, hf, ha, hl⟩

theorem after_rejectIfLocked {deps : CommandsDeps} (hdeps : Bystanding u deps) (chatId : ℤ) :
    After (chat u now) (rejectIfLocked deps chatId u) p fun x q =>
      Glimpsed u now p q ∧ (x = .ok false → (strikesOf u q.1).lockedUntil = none) := by
  refine after_now.bind ?_ ?_
  · rintro ms q ⟨hms, hq⟩
    obtain rfl := (Except.ok.inj hms).symm
    refine after_isLockedOut.bind (fun lockedUntil q₁ hq₁ => ?_) fun e q₁ hq₁ => ?_
    · obtain ⟨hlines, hstrikes, hx⟩ := hq₁
      have hglimpsed : Glimpsed u now p q₁ := by
        rw [hq.strikes] at hstrikes
        refine ⟨hstrikes, ?_, ?_, ?_⟩
        · rw [hlines, hq.failed]
        · rw [hlines, hq.accepted]
        · rw [hlines, hq.lost]
      cases lockedUntil with
      | none =>
        refine ⟨hglimpsed, fun _ => ?_⟩
        rcases hx with ⟨-, hfree⟩ | ⟨until_, hx⟩
        · exact hfree
        · cases hx
      | some until_ =>
        refine after_apart_bind (hdeps.reply _ _) (fun _ q₂ hq₂ => ?_) fun e q₂ hq₂ => ?_
        · exact ⟨hglimpsed.aside hq₂, nofun⟩
        · exact ⟨hglimpsed.aside hq₂, nofun⟩
    · obtain ⟨-, -, ⟨hx, -⟩ | ⟨until_, hx⟩⟩ := hq₁
      · cases hx
      · cases hx
  · rintro e q ⟨hx, -⟩
    cases hx

theorem after_pure {a : α} {post : Except Thrown α → JournalPoint → Prop} (h : post (.ok a) p) :
    After H (pure a) p post := h

section Respond

attribute [local irreducible] After Bounded

theorem after_setWhitelistTo {deps : CommandsDeps} (hdeps : Bystanding u deps) {msg : Msg}
    (hmsg : msg.userId = u) (user : UserRow) (addr : Address)
    (hfree : (strikesOf u p.1).lockedUntil = none) :
    After (chat u now) (setWhitelistTo deps msg user addr) p fun _ q => Aside u p q := by
  subst hmsg
  have hrest : Apart msg.userId (do
      if ← isUnlocked msg.userId then doSetWhitelist deps msg.userId msg.chatId addr
      else if user.whitelistAddress = none then
        setPending msg.userId (.setwhitelistFirst addr)
        deps.reply msg.chatId (.firstWhitelistPrompt addr)
      else
        setPending msg.userId (.setwhitelistChange addr)
        deps.reply msg.chatId (.whitelistChangePrompt addr)) := by
    refine within_bind (apart_isUnlocked _) fun open_ => within_ite (fun _ => ?_) fun _ => ?_
    · exact apart_doSetWhitelist hdeps _ _ _
    · refine within_ite (fun _ => ?_) fun _ => ?_
      · exact within_bind (apart_setPending _ _) fun _ => hdeps.reply _ _
      · exact within_bind (apart_setPending _ _) fun _ => hdeps.reply _ _
  refine (after_rejectIfLocked hdeps _).bind (fun locked q hq => ?_) fun e q hq => ?_
  · have haside := hq.1.free hfree
    cases locked with
    | true => exact after_pure haside
    | false => exact (after_apart now hrest q).mono fun _ _ h => haside.trans h
  · exact hq.1.free hfree

theorem after_handleSetWhitelist {deps : CommandsDeps} (hdeps : Bystanding u deps)
    {msg : Msg} (hmsg : msg.userId = u) (hfree : (strikesOf u p.1).lockedUntil = none) :
    After (chat u now) (handleSetWhitelist deps msg) p fun _ q => Aside u p q := by
  unfold handleSetWhitelist
  refine after_apart_bind (within_read _) (fun user q hq => ?_) fun e q hq => hq
  cases enrolled user with
  | none => exact (after_apart now (hdeps.reply _ _) q).mono fun _ _ h => hq.trans h
  | some user =>
    cases TextInput.argument msg.text with
    | none => exact (after_apart now (hdeps.reply _ _) q).mono fun _ _ h => hq.trans h
    | some addr =>
      refine after_apart_bind (apart_choice (c := Choice.publicKey addr) trivial)
        (fun valid q₁ hq₁ => ?_) fun e q₁ hq₁ => hq.trans hq₁
      have hq := hq.trans hq₁
      rcases valid with _ | _
      · exact (after_apart now (hdeps.reply _ _) q₁).mono fun _ _ h => hq.trans h
      · have hq₁free : (strikesOf u q₁.1).lockedUntil = none := by
          rw [hq.strikes]
          exact hfree
        exact (after_setWhitelistTo hdeps hmsg _ _ hq₁free).mono fun _ _ h => hq.trans h

theorem after_respondSetWhitelistAddressEntry {deps : CommandsDeps} (hdeps : Bystanding u deps)
    {msg : Msg} (hmsg : msg.userId = u) (hfree : (strikesOf u p.1).lockedUntil = none) :
    After (chat u now) (respondSetWhitelistAddressEntry deps msg) p fun _ q => Aside u p q := by
  unfold respondSetWhitelistAddressEntry
  refine after_apart_bind (apart_clearPending _) (fun _ q hq => ?_) fun e q hq => hq
  refine after_apart_bind (apart_choice (c := Choice.publicKey _) trivial) (fun valid q₁ hq₁ => ?_)
    fun e q₁ hq₁ => hq.trans hq₁
  have hq := hq.trans hq₁
  rcases valid with _ | _
  · exact (after_apart now (hdeps.reply _ _) q₁).mono fun _ _ h => hq.trans h
  · have hq₁free : (strikesOf u q₁.1).lockedUntil = none := by
      rw [hq.strikes]
      exact hfree
    have hmsg' : ({ msg with text := s!"/setwhitelist {TextInput.trim msg.text}" } : Msg).userId = u :=
      hmsg
    exact (after_handleSetWhitelist hdeps hmsg' hq₁free).mono fun _ _ h => hq.trans h

theorem after_respond {deps : CommandsDeps} (hdeps : Bystanding u deps) {msg : Msg}
    (hmsg : msg.userId = u) (pending : PendingAction)
    (hfree : (strikesOf u p.1).lockedUntil = none) :
    After (chat u now) (respond deps msg pending) p fun _ q => Tried deps.limits u now p q := by
  cases pending with
  | depositReveal => exact after_respondGated hdeps hmsg hfree
  | balanceReveal => exact after_respondGated hdeps hmsg hfree
  | setwhitelistFirst address => exact after_respondGated hdeps hmsg hfree
  | setwhitelistChange address => exact after_respondGated hdeps hmsg hfree
  | cancelwhitelist => exact after_respondGated hdeps hmsg hfree
  | withdrawAmountEntry =>
    exact (after_apart now (apart_respondWithdrawAmountEntry hdeps msg) p).mono
      fun _ _ h => .aside h
  | withdraw amountUsd => exact after_respondGated hdeps hmsg hfree
  | setwhitelistAddressEntry =>
    exact (after_respondSetWhitelistAddressEntry hdeps hmsg hfree).mono fun _ _ h => .aside h
  | totpSetupConfirm => exact after_respondTotpSetupConfirm hdeps hmsg
  | disclaimer => exact (after_apart now (within_pure ()) p).mono fun _ _ h => .aside h

inductive Attempted (limits : RateLimits) (u : TelegramId) (now : ℤ) (p q : JournalPoint) : Prop where
  | accepted : q.2.any isAcceptance = true → Attempted limits u now p q
  | lost : q.2.any isLost = true → Attempted limits u now p q
  | aside : Aside u p q → Attempted limits u now p q
  | glimpsed : Glimpsed u now p q → Attempted limits u now p q
  | struck : ((strikesOf u p.1).looked now).lockedUntil = none →
      strikesOf u q.1 = ((strikesOf u p.1).looked now).struck limits now →
      failed q.2 = failed p.2 + 1 → Attempted limits u now p q

theorem after_handleMessage {deps : CommandsDeps} (hdeps : Bystanding u deps) {msg : Msg}
    (hmsg : msg.userId = u) (p : JournalPoint) :
    After (chat u now) (handleMessage deps msg) p fun _ q =>
      Attempted deps.limits u now p q := by
  unfold handleMessage
  refine after_apart_bind (within_read _) (fun pending q hq => ?_) fun e q hq => .aside hq
  have hdone : After (chat u now) (pure () : Vault Unit) q
      fun _ r => Attempted deps.limits u now p r := after_pure (.aside hq)
  have hrest : ∀ action : PendingAction, After (chat u now) (do
      if ← rejectIfLocked deps msg.chatId msg.userId then pure () else respond deps msg action) q
      fun _ r => Attempted deps.limits u now p r := by
    intro action
    subst hmsg
    refine (after_rejectIfLocked hdeps _).bind (fun locked q₁ hq₁ => ?_) fun e q₁ hq₁ => ?_
    · obtain ⟨hglimpsed, hfree⟩ := hq₁
      obtain ⟨hs, hf, ha, hl⟩ := hglimpsed
      rw [hq.strikes] at hs
      have hglimpsed : Glimpsed msg.userId now p q₁ :=
        ⟨hs, hf.trans hq.failed, ha.trans hq.accepted, hl.trans hq.lost⟩
      cases locked with
      | true => exact after_pure (.glimpsed hglimpsed)
      | false =>
        have hfree := hfree rfl
        refine (after_respond hdeps rfl action hfree).mono fun x r hr => ?_
        cases hr with
        | accepted h => exact .accepted h
        | lost h => exact .lost h
        | aside h => exact .glimpsed (hglimpsed.aside h)
        | struck h k =>
          rw [hs] at hfree
          exact .struck hfree (h.trans (by rw [hs])) (by rw [k, hglimpsed.failed])
    · obtain ⟨⟨hs, hf, ha, hl⟩, -⟩ := hq₁
      rw [hq.strikes] at hs
      exact .glimpsed ⟨hs, hf.trans hq.failed, ha.trans hq.accepted, hl.trans hq.lost⟩
  rcases pending with _ | action
  · exact hdone
  · cases action with
    | disclaimer => exact hdone
    | _ => exact hrest _

end Respond

/-- The commands of the bot under any limits. -/
def limitedDeps (venue : Venue) (cfg : BotConfig) (limits : RateLimits) : CommandsDeps :=
  { commandsDeps venue cfg with limits }

theorem limitedDeps_bystanding (venue : Venue) (cfg : BotConfig) (limits : RateLimits) :
    Bystanding u (limitedDeps venue cfg limits) :=
  ⟨fun chatId notice => apart_reply chatId notice, apart_getNav venue cfg.minSolFloorLamports⟩

/-- Messages of a user at times that do not decrease, none with an accepted code, and the times
of the codes that failed, newest first. Between two messages the limiter may be asked about the
user; anything else may change. -/
inductive Submitted (Allowed : Journal → Prop) (deps : CommandsDeps) (u : TelegramId) :
    ℤ → List ℤ → World → Prop where
  | fresh {now : ℤ} {w : World} : strikesOf u w = ⟨[], none⟩ → Submitted Allowed deps u now [] w
  | attempt {now now' : ℤ} {fails : List ℤ} {w w' : World} {msg : Msg} {x : Except Thrown Unit}
      {lines : Journal} : Submitted Allowed deps u now fails w → now ≤ now' → msg.userId = u →
      Ends (recordedHost (chat u now')) (recorded Fiber.telegram (handleMessage deps msg w) [])
        x (w', lines) →
      lines.any isAcceptance = false → Allowed lines →
      Submitted Allowed deps u now' (List.replicate (failed lines) now' ++ fails) w'
  | meanwhile {now now' : ℤ} {fails : List ℤ} {w w' : World} :
      Submitted Allowed deps u now fails w → now ≤ now' →
      (strikesOf u w' = strikesOf u w ∨ strikesOf u w' = (strikesOf u w).looked now') →
      Submitted Allowed deps u now' fails w'

/-- No audit row of a failing setup code was lost. -/
def NoneLost (lines : Journal) : Prop := lines.any isLost = false

theorem submitted_remembers {deps : CommandsDeps} (hdeps : Bystanding u deps) {w : World}
    (hpos : 1 ≤ deps.limits.threshold) (hlock : deps.limits.windowMs ≤ deps.limits.lockoutMs)
    (h : Submitted NoneLost deps u now fails w) :
    Remembers deps.limits now (strikesOf u w) fails := by
  induction h with
  | fresh hfresh =>
    rw [hfresh]
    exact remembers_fresh hpos _
  | @attempt now now' fails w w' msg x lines _ hle hmsg hends hrefused hnone ih =>
    have ih := ih.later hle
    have hattempted : Attempted deps.limits u now' (w, []) (w', lines) :=
      (after_handleMessage hdeps hmsg (w, [])).ends hends
    cases hattempted with
    | accepted h =>
      rw [hrefused] at h
      cases h
    | lost h =>
      rw [NoneLost] at hnone
      rw [hnone] at h
      cases h
    | aside h =>
      have hcount : failed lines = 0 := h.failed
      have hsame : strikesOf u w' = strikesOf u w := h.strikes
      rw [hcount, hsame]
      exact ih
    | glimpsed h =>
      have hcount : failed lines = 0 := h.failed
      have hlooked : strikesOf u w' = (strikesOf u w).looked now' := h.strikes
      rw [hcount, hlooked]
      exact ih.looked
    | struck hfree hstruck hcount =>
      have hcount : failed lines = 1 := hcount
      have hstruck : strikesOf u w' = ((strikesOf u w).looked now').struck deps.limits now' :=
        hstruck
      rw [hcount, hstruck]
      exact ih.looked.struck hpos hlock hfree
  | meanwhile _ hle hstrikes ih =>
    have ih := ih.later hle
    rcases hstrikes with hsame | hlooked
    · rw [hsame]
      exact ih
    · rw [hlooked]
      exact ih.looked

/-- While no failure is lost, no half-open interval as long as the window holds more failing
codes than the threshold. -/
theorem code_failures_bounded (venue : Venue) (cfg : BotConfig) (limits : RateLimits)
    (hpos : 1 ≤ limits.threshold) (hlock : limits.windowMs ≤ limits.lockoutMs) (u : TelegramId)
    (now : ℤ) (fails : List ℤ) (w : World)
    (h : Submitted NoneLost (limitedDeps venue cfg limits) u now fails w) (a : ℤ) :
    inWindow limits a fails ≤ limits.threshold :=
  (submitted_remembers (limitedDeps_bystanding venue cfg limits) hpos hlock h).windows a

open PlayedRuns (Scene plainVenue plainConfig oneSol playedSecret)

def recordedScript (sc : Scene) : Script vaultInterface JournalPoint Thrown where
  choose c p := sc.choose c p.1
  respond q p := ((sc.respond q p.1).1, (sc.respond q p.1).2, p.2)

theorem recordedScript_follows (sc : Scene) (hlimits : ∀ q w, strikesOf u (sc.respond q w).2 =
    strikesOf u w) : (recordedScript sc).Follows (recordedHost (chat u sc.clock)) fun _ _ => true where
  choose c p _ := by
    cases c with
    | clock => exact rfl
    | _ => exact trivial
  respond q p := ⟨hlimits q p.1, rfl⟩

theorem respond_strikes (sc : Scene) (q : Query) (w : World) :
    strikesOf u (sc.respond q w).2 = strikesOf u w := by
  unfold strikesOf
  rw [(sc.quiet q w).memory]

def attempted (sc : Scene) (msg : Msg) (w : World) : Except Thrown Unit × JournalPoint :=
  (recordedScript sc).play (recorded Fiber.telegram
    (handleMessage (limitedDeps plainVenue plainConfig {}) msg w) [])

theorem attempted_ends (sc : Scene) (msg : Msg) (w : World) :
    Ends (recordedHost (chat u sc.clock)) (recorded Fiber.telegram
      (handleMessage (limitedDeps plainVenue plainConfig {}) msg w) [])
      (attempted sc msg w).1 (attempted sc msg w).2 :=
  play_ends (recordedScript_follows sc (respond_strikes sc)) (Script.meets_any _ _)

def typo : Msg := ⟨2, 2, "abc"⟩

def sealedStore : Scene where
  clock := 0
  faults st _ := match st with
    | .writeAudit _ => some (.error "disk full")
    | _ => none

def settingUp (faults : List Stmt) : World :=
  ⟨{ Db.empty with users :=
      [⟨2, .depositor, "holder", ⟨[], []⟩, some playedSecret, some 0, none, none, none, 0, 0⟩] },
    { Memory.fresh with pending := Function.update Memory.fresh.pending 2 (some .totpSetupConfirm) },
    oneSol, [], faults⟩

theorem settingUp_fresh (faults : List Stmt) : strikesOf 2 (settingUp faults) = ⟨[], none⟩ := rfl

theorem sealed_attempt (faults : List Stmt) :
    (attempted sealedStore typo (settingUp faults)).2.1 =
      settingUp (.writeAudit (.totpVerifyFailed (.totpSetupConfirm 1)) :: faults) ∧
    (attempted sealedStore typo (settingUp faults)).2.2.any isAcceptance = false ∧
    failed (attempted sealedStore typo (settingUp faults)).2.2 = 1 := by
  refine ⟨rfl, rfl, rfl⟩

theorem sealed_submitted (n : ℕ) : ∃ faults,
    Submitted (fun _ => True) (limitedDeps plainVenue plainConfig {}) 2 0 (List.replicate n 0)
      (settingUp faults) := by
  induction n with
  | zero => exact ⟨[], .fresh (settingUp_fresh [])⟩
  | succ n ih =>
    obtain ⟨faults, ih⟩ := ih
    have hends := attempted_ends (u := 2) sealedStore typo (settingUp faults)
    obtain ⟨hworld, haccepted, hfailed⟩ := sealed_attempt faults
    generalize attempted sealedStore typo (settingUp faults) = outcome at hends hworld haccepted hfailed
    obtain ⟨x, w', lines⟩ := outcome
    have hnext := Submitted.attempt ih le_rfl rfl hends haccepted trivial
    have hone : failed lines = 1 := hfailed
    have hthere : w' = settingUp (.writeAudit (.totpVerifyFailed (.totpSetupConfirm 1)) :: faults) :=
      hworld
    rw [hone, hthere] at hnext
    exact ⟨_, hnext⟩

/-- Six wrong codes at one moment, where five lock the user out. -/
theorem failures_unbounded : ∃ w, Submitted (fun _ => True)
    (limitedDeps plainVenue plainConfig {}) 2 0 (List.replicate 6 0) w ∧
      ({} : RateLimits).threshold < inWindow {} 0 (List.replicate 6 0) := by
  obtain ⟨faults, h⟩ := sealed_submitted 6
  exact ⟨settingUp faults, h, by decide⟩

/-- The limiter remembers this of user 2, who is still setting up. -/
def struck (failures : List ℤ) (lockedUntil : Option ℤ) : World :=
  { settingUp [] with memory := { (settingUp []).memory with
      failures := Function.update Memory.fresh.failures 2 (some failures)
      lockedUntil := Function.update Memory.fresh.lockedUntil 2 lockedUntil } }

theorem struck_again {failures failures' fails : List ℤ} {lockedUntil lockedUntil' : Option ℤ}
    (n : ℕ) (now' : ℤ) (h : Submitted NoneLost (limitedDeps plainVenue plainConfig {}) 2 now fails
      (struck failures lockedUntil)) (hle : now ≤ now')
    (hrefused : (attempted { clock := now' } typo (struck failures lockedUntil)).2.2.any
      isAcceptance = false)
    (hnone : (attempted { clock := now' } typo (struck failures lockedUntil)).2.2.any isLost = false)
    (hfailed : failed (attempted { clock := now' } typo (struck failures lockedUntil)).2.2 = n)
    (hstrikes : strikesOf 2 (attempted { clock := now' } typo (struck failures lockedUntil)).2.1 =
      ⟨failures', lockedUntil'⟩) :
    Submitted NoneLost (limitedDeps plainVenue plainConfig {}) 2 now' (List.replicate n now' ++ fails)
      (struck failures' lockedUntil') := by
  have hends := attempted_ends (u := 2) { clock := now' } typo (struck failures lockedUntil)
  generalize attempted { clock := now' } typo (struck failures lockedUntil) = outcome at *
  obtain ⟨x, w', lines⟩ := outcome
  have hnone : NoneLost lines := hnone
  have hfailed : failed lines = n := hfailed
  have hnext := Submitted.attempt h hle rfl hends hrefused hnone
  rw [hfailed] at hnext
  exact .meanwhile hnext le_rfl (.inl hstrikes.symm)

/-- Five wrong codes, a minute apart, lock the user out; the sixth is not looked at. -/
theorem code_failures_bounded_lockout :
    Submitted NoneLost (limitedDeps plainVenue plainConfig {}) 2 300000
      [240000, 180000, 120000, 60000, 0] (struck [] (some 1140000)) ∧
    inWindow {} 0 [240000, 180000, 120000, 60000, 0] = 5 ∧
    inWindow {} 0 [240000, 180000, 120000, 60000, 0] ≤ ({} : RateLimits).threshold := by
  have h₀ : Submitted NoneLost (limitedDeps plainVenue plainConfig {}) 2 0 [] (struck [] none) :=
    .fresh rfl
  have h₁ := struck_again 1 0 h₀ (by decide) rfl rfl rfl rfl
  have h₂ := struck_again 1 60000 h₁ (by decide) rfl rfl rfl rfl
  have h₃ := struck_again 1 120000 h₂ (by decide) rfl rfl rfl rfl
  have h₄ := struck_again 1 180000 h₃ (by decide) rfl rfl rfl rfl
  have h₅ := struck_again 1 240000 h₄ (by decide) rfl rfl rfl rfl
  have h₆ := struck_again 0 300000 h₅ (by decide) rfl rfl rfl rfl
  exact ⟨h₆, by decide, code_failures_bounded plainVenue plainConfig {} (by decide) (by decide) 2
    300000 [240000, 180000, 120000, 60000, 0] (struck [] (some 1140000)) h₆ 0⟩

end BruteForceBound
