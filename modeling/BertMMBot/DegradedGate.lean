import BertMMBot.PlayedBot

/-! # The degraded flag

A rebalance that fails after its close leaves the degraded flag set. A tick reads the flag
before it opens, rebalances or drains, and nothing it does in between sets the flag, so that
no such step follows until the flag has been found cleared. -/
namespace DegradedGate

open AsyncProgram AsyncContract AsyncRecords RecordedTriples RecordedOutcomes AsyncWiring
open VaultTypes VaultProgram BotProgram Rebalancer MainLoop MakerBounds LoopWalk PlayedBot
open DepositorStore (degradedFlag)
open MeteoraPosition (PositionSnapshot)

variable {ι J : Type} {H : BotHost} {i : ι}

def degraded (b : BotWorld) : Bool := DepositorStore.isDegraded b.world.db

/-- The host never makes the write of the degraded flag throw. -/
def FlagWrites (H : BotHost) : Prop :=
  ∀ b o, H.choose (.vault (.statement (.setFlag degradedFlag))) b o → o = (none : Option Thrown)

/-- The close went through: it was accepted, or it is being announced. -/
def closeSubmitted : BotEntry ι J → Bool
  | .answer _ (.submit [.closePosition _]) (.ok _) _ => true
  | .call _ (.post _ (.positionClosed ..)) _ => true
  | _ => false

def flagWritten : BotEntry ι J → Bool
  | .choice _ (.vault (.statement (.setFlag key))) _ none => key = degradedFlag
  | _ => false

/-- The flag was written and has not been found cleared since. -/
def latched : BotHistory ι J → Bool
  | [] => false
  | e :: h => flagWritten e || degraded e.state && latched h

/-- Between two lines nobody clears the flag. -/
def Uncleared (h : BotHistory ι J) : Prop :=
  h.IsChain fun e older => degraded older.state = true → degraded e.state = true

/-- No step is taken while the flag is latched. -/
def Obedient (h : BotHistory ι J) : Prop :=
  ∀ later e older, h = later ++ e :: older → acts e = true → latched (e :: older) = false

def Watched (p : BotPoint ι J) : Prop :=
  (latched p.2 = true → degraded p.1 = true) ∧ Obedient p.2

def Free (p : BotPoint ι J) : Prop := latched p.2 = false ∧ Obedient p.2

theorem Free.watched {p : BotPoint ι J} (hp : Free p) : Watched p := by
  refine ⟨?_, hp.2⟩
  intro h
  rw [hp.1] at h
  cases h

theorem obedient_nil : Obedient ([] : BotHistory ι J) := by
  intro later e older h
  simp at h

theorem Obedient.cons {h : BotHistory ι J} {e : BotEntry ι J} (ho : Obedient h)
    (he : acts e = true → latched (e :: h) = false) : Obedient (e :: h) := by
  intro later e' older hsplit hacts
  cases later with
  | nil =>
    obtain ⟨rfl, rfl⟩ := List.cons.inj hsplit
    exact he hacts
  | cons _ later =>
    obtain ⟨-, rfl⟩ := List.cons.inj hsplit
    exact ho later e' older rfl hacts

theorem Watched.tell {b b' : BotWorld} {h : BotHistory ι J} {e : BotEntry ι J}
    (hp : Watched (b, h)) (hflag : flagWritten e = false) (hacts : acts e = false)
    (hstate : degraded e.state = true → degraded b' = true) : Watched (b', e :: h) := by
  refine ⟨?_, hp.2.cons fun h => by simp [hacts] at h⟩
  intro hl
  simp only [latched, hflag, Bool.false_or, Bool.and_eq_true] at hl
  exact hstate hl.1

theorem Free.tell {b b' : BotWorld} {h : BotHistory ι J} {e : BotEntry ι J} (hp : Free (b, h))
    (hflag : flagWritten e = false) : Free (b', e :: h) := by
  have hl : latched (e :: h) = false := by
    have hfree : latched h = false := hp.1
    simp [latched, hflag, hfree]
  exact ⟨hl, hp.2.cons fun _ => hl⟩

theorem allowed_keeps_flag {w : Bool} {c : BotChoice} (hc : allows w false c) (b : BotWorld)
    (o : botInterface.Outcome c) : flagWritten (ι := ι) (J := J) (.choice i c b o) = false := by
  cases c with
  | vault c =>
    cases c with
    | statement st =>
      cases st with
      | setFlag key => cases hc
      | _ => rfl
    | _ => rfl
  | _ => rfl

theorem view_degraded {b b' : BotWorld} (h : makerState false b' = makerState false b) :
    degraded b' = degraded b := by
  have hflags : b'.world.db.flags degradedFlag = b.world.db.flags degradedFlag :=
    Option.some.inj (congrArg MakerState.degraded h)
  have hread : ∀ db, DepositorStore.isDegraded db = decide (db.flags degradedFlag = some "1") :=
    fun _ => rfl
  simp only [degraded, hread, hflags]

theorem watched_undisturbed {moves : Bool} :
    Undisturbed H i (botBounds false moves false) (Watched (ι := ι) (J := J)) where
  local_ := by
    intro b b' h hview hp
    refine ⟨?_, hp.2⟩
    rw [view_degraded hview]
    exact hp.1
  choice := by
    intro c b o h hc _ hp
    exact hp.tell (allowed_keeps_flag hc b o) (allowed_idles hc b o) fun hd => hd
  call := by
    intro q b a b' h hq _ hp
    have hidle : acting q = false := by simpa using hq.1
    have hcalled : Watched (b, .call i q b :: h) := hp.tell rfl hidle fun hd => hd
    exact hcalled.tell rfl rfl fun hd => hd

theorem free_undisturbed {moves : Bool} :
    Undisturbed H i (botBounds true moves false) (Free (ι := ι) (J := J)) where
  local_ _ hp := hp
  choice := by
    intro c b o h hc _ hp
    exact hp.tell (allowed_keeps_flag hc b o)
  call := by
    intro q b a b' h _ _ hp
    have hcalled : Free (b, .call i q b :: h) := hp.tell rfl
    exact hcalled.tell rfl

def Before (h₀ : BotHistory ι J) (p : BotPoint ι J) : Prop :=
  (∃ new, p.2 = new ++ h₀ ∧ new.any closeSubmitted = false) ∧ Free p

def Closed (h₀ : BotHistory ι J) (p : BotPoint ι J) : Prop := h₀ <:+ p.2 ∧ Free p

/-- The flag has been written, and stands unless somebody cleared it. -/
def Halted (h₀ : BotHistory ι J) (p : BotPoint ι J) : Prop :=
  (∃ later line older, p.2 = later ++ line :: (older ++ h₀) ∧ flagWritten line = true ∧
    (Uncleared later → (∀ e ∈ later, degraded e.state = true) ∧ degraded p.1 = true)) ∧ Watched p

variable {h₀ : BotHistory ι J}

theorem Before.closed {p : BotPoint ι J} (hp : Before h₀ p) : Closed h₀ p := by
  obtain ⟨⟨new, hnew, -⟩, hfree⟩ := hp
  exact ⟨⟨new, hnew.symm⟩, hfree⟩

theorem Before.tell {b b' : BotWorld} {h : BotHistory ι J} {e : BotEntry ι J}
    (hp : Before h₀ (b, h)) (hflag : flagWritten e = false) (hclose : closeSubmitted e = false) :
    Before h₀ (b', e :: h) := by
  obtain ⟨⟨new, hnew, hany⟩, hfree⟩ := hp
  refine ⟨⟨e :: new, ?_, ?_⟩, hfree.tell hflag⟩
  · exact congrArg (e :: ·) hnew
  · rw [List.any_cons, hclose, hany]
    rfl

theorem Closed.tell {b b' : BotWorld} {h : BotHistory ι J} {e : BotEntry ι J}
    (hp : Closed h₀ (b, h)) (hflag : flagWritten e = false) : Closed h₀ (b', e :: h) :=
  ⟨hp.1.trans (List.suffix_cons e h), hp.2.tell hflag⟩

theorem closed_undisturbed {moves : Bool} :
    Undisturbed H i (botBounds true moves false) (Closed (ι := ι) (J := J) h₀) where
  local_ _ hp := hp
  choice := by
    intro c b o h hc _ hp
    exact hp.tell (allowed_keeps_flag hc b o)
  call := by
    intro q b a b' h _ _ hp
    have hcalled : Closed h₀ (b, .call i q b :: h) := hp.tell rfl
    exact hcalled.tell rfl

theorem Halted.tell {b : BotWorld} {h : BotHistory ι J} {e : BotEntry ι J}
    (hp : Halted h₀ (b, h)) (hflag : flagWritten e = false) (hacts : acts e = false)
    (hstate : e.state = b) : Halted h₀ (b, e :: h) := by
  obtain ⟨⟨later, line, older, hsplit, hline, hkept⟩, hwatched⟩ := hp
  refine ⟨⟨e :: later, line, older, congrArg (e :: ·) hsplit, hline, ?_⟩,
    hwatched.tell hflag hacts fun hd => hstate ▸ hd⟩
  intro hchain
  obtain ⟨hall, hb⟩ := hkept hchain.tail
  refine ⟨?_, hb⟩
  intro e' he'
  rcases List.mem_cons.mp he' with rfl | hlater
  · rw [hstate]
    exact hb
  · exact hall e' hlater

theorem Halted.answered {b b' : BotWorld} {h : BotHistory ι J} {q : BotQuery}
    {a : Except Thrown (botInterface.Reply q)} (hp : Halted h₀ (b, h)) (hq : acting q = false) :
    Halted h₀ (b', .answer i q a b' :: .call i q b :: h) := by
  have hcalled : Halted h₀ (b, .call i q b :: h) := hp.tell rfl hq rfl
  have hwatched : Watched (b', .answer i q a b' :: .call i q b :: h) :=
    hcalled.2.tell rfl rfl fun hd => hd
  obtain ⟨⟨later, line, older, hsplit, hline, hkept⟩, -⟩ := hp
  refine ⟨⟨.answer i q a b' :: .call i q b :: later, line, older, ?_, hline, ?_⟩, hwatched⟩
  · exact congrArg (fun h => .answer i q a b' :: .call i q b :: h) hsplit
  · intro hchain
    obtain ⟨hall, hb⟩ := hkept hchain.tail.tail
    have hb' : degraded b' = true := (List.isChain_cons_cons.mp hchain).1 hb
    refine ⟨?_, hb'⟩
    intro e he
    rcases List.mem_cons.mp he with rfl | he
    · exact hb'
    · rcases List.mem_cons.mp he with rfl | he
      · exact hb
      · exact hall e he

theorem halted_undisturbed {moves : Bool} :
    Undisturbed H i (botBounds false moves false) (Halted (ι := ι) (J := J) h₀) where
  local_ := by
    rintro b b' h hview ⟨⟨later, line, older, hsplit, hline, hkept⟩, hwatched⟩
    have hsame := view_degraded hview
    refine ⟨⟨later, line, older, hsplit, hline, ?_⟩, ?_, hwatched.2⟩
    · rw [hsame]
      exact hkept
    · rw [hsame]
      exact hwatched.1
  choice := by
    intro c b o h hc _ hp
    exact hp.tell (allowed_keeps_flag hc b o) (allowed_idles hc b o) rfl
  call := by
    intro q b a b' h hq _ hp
    have hidle : acting q = false := by simpa using hq.1
    exact hp.answered hidle

theorem outcome_notify {A E : BotPoint ι J → Prop}
    (hA : Undisturbed H i (botBounds false false false) A) (severity : Severity) (message : Message) :
    Outcome H i A (notify severity message) (fun _ => A) E := by
  apply (outcome_within hA (within_look rfl rfl)).tryCatch
  intro e
  exact outcome_pure fun p hp => hp

theorem outcome_setDegraded (hH : FlagWrites H) :
    Outcome H i (Closed (ι := ι) (J := J) h₀) (setDegraded true)
      (fun _ => Halted h₀) (fun _ => False) := by
  rintro b h ⟨⟨older, hsuffix⟩, hfree⟩ o ho
  obtain rfl := hH b o ho
  have hset : ∀ b' : BotWorld, b'.world.db.flags degradedFlag = some "1" → degraded b' = true :=
    fun _ hb => decide_eq_true hb
  have hdone : ∀ b', degraded b' = true → Halted h₀
      (b', .choice i (.vault (.statement (.setFlag degradedFlag))) b (none : Option Thrown) :: h) := by
    intro b' hb
    refine ⟨⟨[], _, older, congrArg _ hsuffix.symm, rfl, ?_⟩, fun _ => hb, hfree.2.cons ?_⟩
    · intro _
      exact ⟨(fun e he => by cases he), hb⟩
    · intro hacts
      cases hacts
  apply hdone
  apply hset
  simp [vaultWiring, World.withDb]

theorem outcome_unflagged {α : Type} {m : Process α}
    (hm : Within (botBounds true true false) True m) :
    Outcome H i (Closed (ι := ι) (J := J) h₀) m (fun _ => Closed h₀) (Closed h₀) :=
  outcome_within closed_undisturbed hm

theorem outcome_degrade {α : Type} (hH : FlagWrites H) (detail : Detail)
    (closeSig : Option Signature) :
    Outcome H i (Closed (ι := ι) (J := J) h₀) (degrade detail closeSig : Process (Staged α))
      (staged (fun _ _ => False) (Halted h₀)) (fun _ => False) := by
  apply (outcome_setDegraded hH).bind
  intro _
  apply (outcome_notify halted_undisturbed _ _).bind
  intro _
  exact outcome_pure fun p hp => hp

def unrelated : BotQuery → Bool
  | .submit _ => false
  | .post _ (.positionClosed ..) => false
  | _ => true

theorem outcome_before {q : BotQuery} (hq : unrelated q = true) :
    Outcome H i (Before (ι := ι) (J := J) h₀) (ask q) (fun _ => Before h₀) (Before h₀) := by
  have hcall : ∀ b, closeSubmitted (ι := ι) (J := J) (.call i q b) = false := by
    intro b
    unfold closeSubmitted
    split
    · next heq => cases heq
    · next heq =>
      cases heq
      cases hq
    · rfl
  have hanswer : ∀ a b, closeSubmitted (ι := ι) (J := J) (.answer i q a b) = false := by
    intro a b
    unfold closeSubmitted
    split
    · next heq =>
      cases heq
      cases hq
    · next heq => cases heq
    · rfl
  apply outcome_call
  intro b h b' a hp _
  have hcalled : Before h₀ (b, .call i q b :: h) := hp.tell rfl (hcall b)
  have hanswered : Before h₀ (b', .answer i q a b' :: .call i q b :: h) :=
    hcalled.tell rfl (hanswer a b')
  cases a with
  | ok a => exact hanswered
  | error e => exact hanswered

theorem outcome_before_notify {E : BotPoint ι J → Prop} (severity : Severity) {message : Message}
    (hm : unrelated (.post severity message) = true) :
    Outcome H i (Before (ι := ι) (J := J) h₀) (notify severity message) (fun _ => Before h₀) E := by
  apply (outcome_before hm).tryCatch
  intro e
  exact outcome_pure fun p hp => hp

theorem outcome_reportFailure {α : Type} (detail : Detail) :
    Outcome H i (Before (ι := ι) (J := J) h₀) (reportFailure detail : Process (Staged α))
      (staged (fun _ _ => False) (Before h₀)) (fun _ => False) := by
  apply (outcome_before_notify _ rfl).bind
  intro _
  exact outcome_pure fun p hp => hp

section Rebalance

variable (config : BotConfig) {mid : MidPrice} {current : Option PositionSnapshot}

theorem outcome_drawdownBreaker (hH : FlagWrites H) :
    Outcome H i (Before (ι := ι) (J := J) h₀) (drawdownBreaker (hostRebalancer config) mid current)
      (fun r p => Before h₀ p ∨ r.isSome = true ∧ Halted h₀ p) (fun _ => False) := by
  have htrip : ∀ detail, Outcome H i (Before (ι := ι) (J := J) h₀) (tripBreaker detail)
      (fun r p => Before h₀ p ∨ r.isSome = true ∧ Halted h₀ p) (fun _ => False) := by
    intro detail
    apply ((outcome_setDegraded hH).mono (fun p hp => hp.closed) (fun _ _ hp => hp)
      fun _ hp => hp).bind
    intro _
    apply (outcome_notify halted_undisturbed _ _).bind
    intro _
    exact outcome_pure fun p hp => .inr ⟨rfl, hp⟩
  cases current with
  | none => exact outcome_pure fun p hp => .inl hp
  | some current =>
    apply Outcome.tryCatch (D := Before h₀)
    · apply (outcome_before rfl).bind
      intro sim
      apply outcome_ite
      · intro _
        exact (htrip _).mono (fun _ hp => hp) (fun _ _ hp => hp) fun _ hp => hp.elim
      · exact fun _ => outcome_pure fun p hp => .inl hp
    · intro e
      apply (outcome_before_notify _ rfl).bind
      intro _
      exact outcome_pure fun p hp => .inl hp

theorem outcome_closePosition :
    Outcome H i (Before (ι := ι) (J := J) h₀) (closePosition (hostRebalancer config) current)
      (staged (fun _ => Closed h₀) (Before h₀)) (fun _ => False) := by
  cases current with
  | none => exact outcome_pure fun p hp => hp.closed
  | some current =>
    have hbuild : Outcome H i (Before (ι := ι) (J := J) h₀)
        (buildClose (hostRebalancer config) current.nftMint)
        (staged (fun c p => c.tx = [.closePosition current.nftMint] ∧ Before h₀ p) (Before h₀))
        (fun _ => False) := by
      have hbuilt : Outcome H i (Before (ι := ι) (J := J) h₀)
          (hostVenue.buildClosePositionTx current.nftMint)
          (fun c p => c.tx = [.closePosition current.nftMint] ∧ Before h₀ p) (Before h₀) := by
        apply (outcome_before rfl).bind
        intro expected
        exact outcome_pure fun p hp => ⟨rfl, hp⟩
      apply Outcome.tryCatch
      · apply hbuilt.bind
        intro c
        exact outcome_pure fun p hp => hp
      · intro e
        exact (outcome_reportFailure _).mono (fun _ hp => hp)
          (staged_mono (fun _ _ h => h.elim) fun _ h => h) fun _ hp => hp
    have hsubmit : Outcome H i (Before (ι := ι) (J := J) h₀)
        (hostSubmitter.submitProtected [.closePosition current.nftMint]
          (submitOptions (hostRebalancer config)))
        (fun _ => Closed h₀) (Before h₀) := by
      apply outcome_ite
      · exact fun _ => outcome_pure fun p hp => hp.closed
      · intro _
        apply outcome_call
        intro b h b' a hp _
        have hcalled : Before h₀ (b, .call i (.submit [.closePosition current.nftMint]) b :: h) :=
          hp.tell rfl rfl
        cases a with
        | ok sig => exact hcalled.closed.tell rfl
        | error e => exact hcalled.tell rfl rfl
    have hclosed : ∀ c : ClosePosition, c.tx = [.closePosition current.nftMint] →
        Outcome H i (Before (ι := ι) (J := J) h₀) (submitClose (hostRebalancer config) c)
          (staged (fun _ => Closed h₀) (Before h₀)) (fun _ => False) := by
      intro c htx
      rw [submitClose, htx]
      apply Outcome.tryCatch
      · apply hsubmit.bind
        intro closeSig
        exact outcome_pure fun p hp => hp
      · intro e
        exact (outcome_reportFailure _).mono (fun _ hp => hp)
          (staged_mono (fun _ _ h => h.elim) fun _ h => h) fun _ hp => hp
    apply hbuild.bind
    intro built
    cases built with
    | error r => exact outcome_pure fun p hp => hp
    | ok c =>
      apply outcome_of_fact
      intro htx
      apply (hclosed c htx).bind
      intro submitted
      cases submitted with
      | error r => exact outcome_pure fun p hp => hp
      | ok closeSig =>
        apply Outcome.bind (B := fun _ => Closed h₀)
        · apply (outcome_unflagged (within_look rfl rfl)).tryCatch
          intro e
          exact outcome_pure fun p hp => hp
        · intro _
          exact outcome_pure fun p hp => hp

/-- How a rebalance is over: before its close, in full, or with the flag set. -/
def Concluded (h₀ : BotHistory ι J) (r : RebalanceResult) (p : BotPoint ι J) : Prop :=
  Before h₀ p ∨ (r.kind = .ok ∧ Closed h₀ p) ∨ Halted h₀ p

theorem outcome_openPosition (hH : FlagWrites H) {range : PriceRange} {sizing : Sizing}
    {closeSig : Option Signature} :
    Outcome H i (Closed (ι := ι) (J := J) h₀)
      (openPosition (hostRebalancer config) mid range sizing closeSig)
      (staged (fun _ => Closed h₀) (Halted h₀)) (fun _ => False) := by
  apply Outcome.tryCatch
  · apply (outcome_unflagged (within_submitOpen config mid range sizing)).bind
    intro o
    exact outcome_pure fun p hp => hp
  · intro e
    exact (outcome_degrade hH _ _).mono (fun _ hp => hp)
      (staged_mono (fun _ _ h => h.elim) fun _ h => h) fun _ hp => hp

theorem outcome_sizePosition (hH : FlagWrites H) {closeSig : Option Signature} :
    Outcome H i (Closed (ι := ι) (J := J) h₀)
      (sizePosition (hostRebalancer config) mid closeSig)
      (staged (fun _ => Closed h₀) (Halted h₀)) (fun _ => False) := by
  apply Outcome.tryCatch
  · apply (outcome_unflagged (within_look rfl rfl)).bind
    intro bal
    apply (outcome_unflagged (within_swapToRatio config mid bal)).bind
    intro _
    apply (outcome_unflagged (within_finalAmounts config mid _)).bind
    intro sizing
    exact outcome_pure fun p hp => hp
  · intro e
    exact (outcome_degrade hH _ _).mono (fun _ hp => hp)
      (staged_mono (fun _ _ h => h.elim) fun _ h => h) fun _ hp => hp

theorem outcome_persist (hH : FlagWrites H) {now : ℤ} {range : PriceRange} {n : String}
    {cause : Cause} :
    Outcome H i (Closed (ι := ι) (J := J) h₀)
      (persist (hostRebalancer config) now range current n cause)
      (staged (fun _ => Closed h₀) (Halted h₀)) (fun _ => False) := by
  have hrecord : Outcome H i (Closed (ι := ι) (J := J) h₀)
      (recordOpened now range current n cause) (fun _ => Closed h₀) (Closed h₀) := by
    apply Outcome.bind (B := fun _ => Closed h₀)
    · apply outcome_botStatement
      · exact fun b h hp => hp.tell rfl
      · exact fun b h e hp => hp.tell rfl
    · intro _
      apply outcome_botStatement
      · exact fun b h hp => hp.tell rfl
      · exact fun b h e hp => hp.tell rfl
  have hback : Outcome H i (Closed (ι := ι) (J := J) h₀) (rollback (hostRebalancer config) n)
      (fun _ => Closed h₀) (fun _ => False) := by
    apply Outcome.bind (B := fun _ => Closed h₀)
    · apply (outcome_unflagged (within_closeUnrecorded config n)).tryCatch
      intro e
      apply (outcome_unflagged (within_look rfl rfl)).tryCatch
      intro e'
      exact outcome_pure fun p hp => hp
    · intro _
      exact outcome_modify fun b h hp => hp
  apply outcome_ite
  · exact fun _ => outcome_pure fun p hp => hp
  · intro _
    apply Outcome.tryCatch
    · apply hrecord.bind
      intro _
      exact outcome_pure fun p hp => hp
    · intro e
      apply hback.bind
      intro _
      exact (outcome_degrade hH _ _).mono (fun _ hp => hp)
        (staged_mono (fun _ _ h => h.elim) fun _ h => h) fun _ hp => hp

theorem outcome_reopen (hH : FlagWrites H) {now : ℤ} {cause : Cause}
    {closeSig : Option Signature} :
    Outcome H i (Closed (ι := ι) (J := J) h₀)
      (reopen (hostRebalancer config) now mid current cause closeSig)
      (fun r p => (r.kind = .ok ∧ Closed h₀ p) ∨ Halted h₀ p) (fun _ => False) := by
  apply Outcome.bind (B := fun _ => Closed h₀)
  · apply (outcome_unflagged (within_ask (fun _ => rfl) fun h => by cases h)).tryCatch
    intro e
    exact outcome_pure fun p hp => hp
  intro _
  apply (outcome_sizePosition config hH).bind
  intro sized
  cases sized with
  | error r => exact outcome_pure fun p hp => .inr hp
  | ok sizing =>
    apply (outcome_openPosition config hH).bind
    intro o
    cases o with
    | error r => exact outcome_pure fun p hp => .inr hp
    | ok o =>
      apply (outcome_persist config hH).bind
      intro saved
      cases saved with
      | error r => exact outcome_pure fun p hp => .inr hp
      | ok _ =>
        apply Outcome.bind (B := fun _ => Closed h₀)
        · apply (outcome_unflagged (within_look rfl rfl)).tryCatch
          intro e
          exact outcome_pure fun p hp => hp
        · intro _
          exact outcome_pure fun p hp => .inl ⟨rfl, hp⟩

theorem outcome_executeRebalance (hH : FlagWrites H) {cause : Cause} :
    Outcome H i (Before (ι := ι) (J := J) h₀)
      (executeRebalance (hostRebalancer config) mid current cause)
      (Concluded h₀) (fun _ => False) := by
  apply Outcome.bind (B := fun _ => Before h₀)
  · exact outcome_choose fun b h o hp _ => hp.tell rfl rfl
  intro now
  apply (outcome_drawdownBreaker config hH).bind
  intro tripped
  cases tripped with
  | some r =>
    apply outcome_pure
    rintro p (hp | hp)
    · exact .inl hp
    · exact .inr (.inr hp.2)
  | none =>
    apply Outcome.bind (B := fun _ => Before h₀)
    · apply outcome_read
      rintro p (hp | hp)
      · exact hp
      · cases hp.1
    intro today
    apply outcome_ite
    · exact fun _ => outcome_pure fun p hp => .inl hp
    · intro _
      apply (outcome_closePosition config).bind
      intro closed
      cases closed with
      | error r => exact outcome_pure fun p hp => .inl hp
      | ok closeSig =>
        exact (outcome_reopen config hH).mono (fun _ hp => hp) (fun _ _ hp => .inr hp) fun _ hp => hp

theorem outcome_rebalance (hH : FlagWrites H) {cause : Cause} :
    Outcome H i (Free (ι := ι) (J := J)) (executeRebalance (hostRebalancer config) mid current cause)
      (fun _ => Watched) Watched := by
  apply outcome_at
  intro b h hp
  apply (outcome_executeRebalance config hH).mono
  · rintro p rfl
    exact ⟨⟨[], rfl, rfl⟩, hp⟩
  · rintro r p (hb | ⟨-, hc⟩ | hh)
    · exact hb.2.watched
    · exact hc.2.watched
    · exact hh.2
  · exact fun p hp => hp.elim

end Rebalance

section Tick

variable {library : ConfigFile.Library} {pool : MeteoraPosition.Venue} {cfg : MainConfig}

theorem outcome_looks {α : Type} {m : Process α} (hm : Within (botBounds false false false) True m) :
    Outcome H i (Watched (ι := ι) (J := J)) m (fun _ => Watched) Watched :=
  outcome_within watched_undisturbed hm

theorem watched_leads :
    Leads H i (botBounds false false false) (Watched (ι := ι) (J := J)) Watched :=
  fun _ hm => outcome_looks hm

theorem Watched.free {p : BotPoint ι J} (hp : Watched p) (hclear : degraded p.1 = false) :
    Free p := by
  refine ⟨?_, hp.2⟩
  by_contra hl
  have hset := hp.1 (by simpa using hl)
  rw [hclear] at hset
  cases hset

theorem outcome_vaultPostRebalance (killed : Bool) :
    Outcome H i (Watched (ι := ι) (J := J))
      (vaultPostRebalance (hostDeps library pool) cfg killed) (fun _ => Watched) Watched := by
  unfold vaultPostRebalance
  cases wiredVault cfg with
  | none => exact outcome_pure fun p hp => hp
  | some v =>
    have hnever : False → false = true := False.elim
    have halways : True → true = true := fun _ => rfl
    have hdrain : Within (botBounds true false false) True (vaultProgram (hostDeps library pool) cfg
        (VaultRuntime.swallow (WithdrawalExecutor.drain
          (VaultRuntime.executorDeps pool cfg.maker.minSolFloorLamports)))) :=
      within_vault (LoopBounds.within_swallow (LoopBounds.within_drain _ _)) halways
        (within_answerVault library pool cfg halways)
    have hactivate : Within (botBounds false false false) True
        (vaultProgram (hostDeps library pool) cfg
          (VaultRuntime.swallow VaultRuntime.activateWhitelists)) :=
      within_vault (w := True) (LoopBounds.within_swallow LoopBounds.within_activateWhitelists) hnever
        (within_answerVault library pool cfg hnever)
    rw [vaultProgram_postRebalance]
    apply Outcome.bind (B := fun _ => Watched)
    · apply Outcome.bind (B := fun _ => Watched)
      · exact outcome_read fun p hp => hp
      intro paused
      apply Outcome.bind (B := fun d p => d = degraded p.1 ∧ Watched p)
      · exact outcome_read fun p hp => ⟨rfl, hp⟩
      intro d
      apply outcome_ite
      · exact fun _ => outcome_pure fun p hp => hp.2
      · intro hgo
        have hd : d = false := by
          by_contra hset
          exact hgo (.inl (by simpa using hset))
        refine (outcome_within free_undisturbed hdrain).mono ?_ (fun _ _ hp => hp.watched)
          fun _ hp => hp.watched
        rintro p ⟨hread, hp⟩
        exact hp.free (hread.symm.trans hd)
    · intro _
      exact outcome_looks hactivate

theorem outcome_tickWithPosition (hH : FlagWrites H) {tickStart : ℤ} {killed : Bool}
    {mid : Option MidPrice} {row : Option StoredPosition} {position : Option PositionSnapshot} :
    Outcome H i (Watched (ι := ι) (J := J))
      (tickWithPosition (hostDeps library pool) cfg tickStart killed mid row position)
      (fun _ => Watched) Watched := by
  apply Outcome.bind (B := fun s p => (s.degraded = false → Free p) ∧ Watched p)
  · apply outcome_read
    intro p hp
    exact ⟨hp.free, hp⟩
  intro s
  have hfree : s.degraded = false → ∀ {α : Type} {m : Process α},
      Outcome H i (Free (ι := ι) (J := J)) m (fun _ => Watched) Watched →
      Outcome H i (fun p => (s.degraded = false → Free (ι := ι) (J := J) p) ∧ Watched p) m
        (fun _ => Watched) Watched := by
    intro hs α m hm
    exact hm.mono (fun p hp => hp.1 hs) (fun _ _ hp => hp) fun _ hp => hp
  have hlooks : Leads H i (botBounds false false false)
      (fun p => (s.degraded = false → Free (ι := ι) (J := J) p) ∧ Watched p) Watched := by
    intro m hm
    exact (outcome_looks hm).mono (fun p hp => hp.2) (fun _ _ hp => hp) fun _ hp => hp
  cases hinit : initialMid row s with
  | some mid =>
    obtain ⟨-, -, -, hs⟩ := initialMid_some hinit
    have hopen : Outcome H i (Free (ι := ι) (J := J)) (openInitial (hostDeps library pool) cfg mid)
        (fun _ => Watched) Watched :=
      outcome_openInitial_of observant_botBounds watched_leads (outcome_rebalance cfg.maker hH)
    exact (hfree hs hopen).bind fun _ => outcome_looks within_writeHeartbeat
  | none =>
    have hact : Outcome H i
        (fun p => (s.degraded = false → Free (ι := ι) (J := J) p) ∧ Watched p)
        (actOn (hostDeps library pool) cfg s (Strategy.decide s (strategyParams cfg.maker)))
        (fun _ => Watched) Watched := by
      apply outcome_actOn_of observant_botBounds hlooks
      intro reason center mid hdecision _
      obtain ⟨-, hs, -⟩ := Strategy.decide_rebalance hdecision
      exact hfree hs (outcome_rebalance cfg.maker hH)
    apply hact.bind
    intro _
    exact (outcome_vaultPostRebalance _).bind fun _ => outcome_looks within_writeHeartbeat

theorem outcome_tick (hH : FlagWrites H) :
    Outcome H i (Watched (ι := ι) (J := J)) (tick (hostDeps library pool) cfg)
      (fun _ => Watched) Watched := by
  have hbody : ∀ tickStart, Outcome H i (Watched (ι := ι) (J := J))
      (tickBody (hostDeps library pool) cfg tickStart) (fun _ => Watched) Watched := by
    intro tickStart
    apply (outcome_looks (within_killSwitchTripped library pool cfg)).bind
    intro killed
    apply (outcome_looks (within_readOracle cfg tickStart)).bind
    intro mid
    apply (outcome_looks (within_vaultPreRebalance library pool cfg)).bind
    intro _
    apply (outcome_looks (within_read _)).bind
    intro row
    apply (outcome_looks (within_readTracked library pool mid row)).bind
    intro tracked
    cases tracked with
    | rpcFailed => exact outcome_looks within_writeHeartbeat
    | position p => exact outcome_tickWithPosition hH
  exact outcome_tick_of observant_botBounds watched_leads (outcome_looks within_now) hbody

end Tick

theorem latched_append {h h₀ : BotHistory ι J} (hl : latched h = true) :
    latched (h ++ h₀) = true := by
  induction h with
  | nil => cases hl
  | cons e h ih =>
    simp only [latched, Bool.or_eq_true, Bool.and_eq_true, List.cons_append] at hl ⊢
    rcases hl with hflag | ⟨hstate, hold⟩
    · exact .inl hflag
    · exact .inr ⟨hstate, ih hold⟩

theorem latched_since {later older : BotHistory ι J} {line : BotEntry ι J}
    (hline : flagWritten line = true) (hlater : ∀ e ∈ later, degraded e.state = true) :
    latched (later ++ line :: older) = true := by
  induction later with
  | nil => simp [latched, hline]
  | cons e later ih =>
    have hrest := ih fun e' he' => hlater e' (List.mem_cons_of_mem e he')
    simp [latched, hlater e (List.mem_cons_self ..), hrest]

/-- A rebalance whose close went through and whose result is not OK returns with the degraded
flag set, unless somebody cleared it meanwhile; and however ticks and failures go on, no step
towards a position or a payout is taken from a latched flag on until it has been found
cleared. -/
theorem failed_close_halts (hH : FlagWrites H) (library : ConfigFile.Library)
    (pool : MeteoraPosition.Venue) (cfg : MainConfig) :
    (∀ (config : BotConfig) (mid : MidPrice) (current : Option PositionSnapshot) (cause : Cause)
      (b b' : BotWorld) (x : Except Thrown RebalanceResult) (new h₀ : BotHistory Unit Unit),
      Ends (recordedHost H)
        (recorded () (executeRebalance (hostRebalancer config) mid current cause b) h₀)
        x (b', new ++ h₀) →
      new.any closeSubmitted = true → (∀ r, x = .ok r → r.kind ≠ .ok) → Uncleared new →
      degraded b' = true ∧ latched (new ++ h₀) = true) ∧
    ∀ (b : BotWorld) (p : BotPoint Unit Unit),
      Relation.ReflTransGen (RecordedTick H (hostDeps library pool) cfg) (b, []) p →
      Obedient p.2 := by
  constructor
  · intro config mid current cause b b' x new h₀ hends hclosed hresult huncleared
    obtain ⟨new', hnew, hends'⟩ := ends_recorded_append (h := []) _ hends
    obtain rfl := List.append_cancel_right hnew
    have hbefore : Before ([] : BotHistory Unit Unit) (b, []) :=
      ⟨⟨[], rfl, rfl⟩, rfl, obedient_nil⟩
    have hover := (outcome_executeRebalance config hH).ends hbefore hends'
    cases x with
    | error e => exact hover.elim
    | ok r =>
      rcases hover with ⟨⟨own, hown, hnone⟩, -⟩ | ⟨hok, -⟩ | ⟨⟨later, line, older, hsplit, hline, hkept⟩, -⟩
      · simp only [List.append_nil] at hown
        rw [hown, hnone] at hclosed
        cases hclosed
      · exact absurd hok (hresult r rfl)
      · simp only [List.append_nil] at hsplit
        subst hsplit
        obtain ⟨hall, hb'⟩ := hkept huncleared.left_of_append
        exact ⟨hb', latched_append (latched_since hline hall)⟩
  · intro b p hrun
    have hwatched : Watched p := by
      induction hrun with
      | refl => exact ⟨(fun h => by cases h), obedient_nil⟩
      | tail _ htick ih =>
        obtain ⟨x, hends⟩ := htick
        have hend := (outcome_tick hH).ends ih hends
        cases x with
        | ok _ => exact hend
        | error e => exact hend
    exact hwatched.2

def haltingScene : BotScene where
  vault := { clock := 1000 }
  down q := match q with
    | .getWalletBalances => true
    | _ => false

def haltingRun : Run botInterface (BotPoint Unit Unit) Thrown RebalanceResult :=
  recorded () (executeRebalance (hostRebalancer playedConfig) playedMid
    (some (haltingScene.snapshot (positionAt "a"))) .initialOpen
    (botWith [positionAt "a"] (some (storedAs "a")))) []

def haltingEnd : BotPoint Unit Unit := (haltingScene.recording.play haltingRun).2

theorem halting_close_halts : haltingEnd.2.any closeSubmitted = true ∧
    degraded haltingEnd.1 = true ∧ latched haltingEnd.2 = true := by
  have hH : FlagWrites haltingScene.host := by
    intro b o ho
    exact ho
  have hclosed : haltingEnd.2.any closeSubmitted = true := by decide +kernel
  have hfailed : (haltingScene.recording.play haltingRun).1.toOption.map RebalanceResult.kind =
      some .failed := by decide +kernel
  have huncleared : Uncleared haltingEnd.2 := by
    unfold Uncleared
    decide +kernel
  have hrecords : Ends (recordedHost haltingScene.host) haltingRun
      (haltingScene.recording.play haltingRun).1 (haltingEnd.1, haltingEnd.2 ++ []) := by
    rw [List.append_nil]
    exact haltingScene.records haltingRun
  have hhalts := (failed_close_halts hH blindLibrary flatVenue playedMain).1 _ _ _ _ _ _ _ _ _
    hrecords hclosed
  refine ⟨hclosed, ?_⟩
  rw [List.append_nil] at hhalts
  apply hhalts _ huncleared
  intro r hr hok
  rw [hr] at hfailed
  simp [Except.toOption, hok] at hfailed

end DegradedGate
