import BertMMBot.MakerBounds
import BertMMBot.RecordedOutcomes

/-! # The tracked position

Which positions are open on chain, which of them `position_state` names, and how one
rebalance can leave the two. A host is truthful if a rejected submission has not landed and
the venue says whether a position is open. -/
namespace TrackedPosition

open AsyncProgram AsyncContract AsyncRecords RecordedTriples RecordedOutcomes AsyncWiring
open VaultTypes BotProgram Rebalancer MakerBounds
open MeteoraPosition (PositionSnapshot)

/-- The keys of the positions that are open on chain. -/
def openKeys (b : BotWorld) : Set String := {k | ∃ p ∈ b.world.chain.positions, p.publicKey = k}

/-- The key that `position_state` holds. -/
def storedKey (b : BotWorld) : Option String :=
  (DepositorStore.getCurrentPosition b.world.db).map StoredPosition.nftMint

/-- `position_state` is empty or names an open position. -/
def Named (b : BotWorld) : Prop := ∀ k, storedKey b = some k → k ∈ openKeys b

def landed (O : Set String) : Instruction → Set String
  | .openPosition k => insert k O
  | .closePosition k => O \ {k}
  | _ => O

structure Truthful (H : BotHost) : Prop where
  quiet : ∀ {q s a s'}, H.respond q s a s' → (∀ tx, q ≠ .submit tx) → openKeys s' = openKeys s
  accepted : ∀ {tx s sig s'}, H.respond (.submit tx) s (.ok sig) s' →
    openKeys s' = tx.foldl landed (openKeys s)
  fresh : ∀ {tx s sig s' k}, H.respond (.submit tx) s (.ok sig) s' →
    .openPosition k ∈ tx → k ∉ openKeys s
  rejected : ∀ {tx s e s'}, H.respond (.submit tx) s (.error e) s' → openKeys s' = openKeys s
  position : ∀ {k solUsd s r s'}, H.respond (.getPosition k solUsd) s (.ok r) s' →
    (∀ p, r = some p → p.nftMint = k) ∧ (r.isSome ↔ k ∈ openKeys s')
  own : ∀ {q s a s'}, H.respond q s a s' →
    s'.world.db.positionState = s.world.db.positionState ∧ s'.rollingBack = s.rollingBack
  rollbackBuilt : ∀ {k s a s'}, H.respond (.buildClosePositionTx k) s a s' →
    s.rollingBack = true → ∃ x, a = .ok x
  rollbackSubmitted : ∀ {k s a s'}, H.respond (.submit [.closePosition k]) s a s' →
    s.rollingBack = true → ∃ x, a = .ok x

variable {ι J : Type} {H : BotHost} {i : ι}

theorem storedKey_eq {b b' : BotWorld} (h : b'.world.db.positionState = b.world.db.positionState) :
    storedKey b' = storedKey b := by
  simp [storedKey, DepositorStore.getCurrentPosition, h]

theorem foldl_landed {tx : Transaction} (h : tx.any repositions = false) (O : Set String) :
    tx.foldl landed O = O := by
  induction tx generalizing O with
  | nil => rfl
  | cons ins tx ih =>
    simp only [List.any_cons, Bool.or_eq_false_iff] at h
    have hins : landed O ins = O := by
      cases ins with
      | openPosition k => cases h.1
      | closePosition k => cases h.1
      | _ => rfl
    rw [List.foldl_cons, hins]
    exact ih h.2 O

theorem Truthful.still (hH : Truthful H) {q : BotQuery} {s s' : BotWorld}
    {a : Except Thrown (botInterface.Reply q)} (hq : moving q = false) (h : H.respond q s a s') :
    openKeys s' = openKeys s := by
  by_cases hsubmit : ∃ tx, q = .submit tx
  · obtain ⟨tx, rfl⟩ := hsubmit
    cases a with
    | error e => exact hH.rejected h
    | ok sig => exact (hH.accepted h).trans (foldl_landed hq _)
  · exact hH.quiet h fun tx htx => hsubmit ⟨tx, htx⟩

/-- The close of the current position was submitted and accepted. -/
def closeLanded (key : Option String) : Entry ι J botInterface BotWorld Thrown → Bool
  | .answer _ (.submit [.closePosition k]) (.ok _) _ => key = some k
  | _ => false

/-- The new position was written to `position_state`. -/
def rowWritten : Entry ι J botInterface BotWorld Thrown → Bool
  | .choice _ (.statement (.setCurrentPosition _)) _ none => true
  | _ => false

/-- The rebalance was written to `rebalance_log`. -/
def logWritten : Entry ι J botInterface BotWorld Thrown → Bool
  | .choice _ (.statement (.recordRebalance _)) _ none => true
  | _ => false

/-- Where a rebalance that started with the history `h₀` stands. -/
structure Stage (key : Option String) (h₀ : History ι J botInterface BotWorld Thrown)
    (O : Set String) (stored : Option String) (close row log : Bool)
    (p : Point ι J botInterface BotWorld Thrown) : Prop where
  opened : openKeys p.1 = O
  stored : storedKey p.1 = stored
  record : ∃ new, p.2 = new ++ h₀ ∧ new.any (closeLanded key) = close ∧
    new.any rowWritten = row ∧ new.any logWritten = log

variable {key stored : Option String} {h₀ : History ι J botInterface BotWorld Thrown}
  {O : Set String} {close row log : Bool}

theorem Stage.tell {s s' : BotWorld} {h : History ι J botInterface BotWorld Thrown}
    {e : Entry ι J botInterface BotWorld Thrown} {O' : Set String} {close' row' log' : Bool}
    (hs : Stage key h₀ O stored close row log (s, h)) (hO : openKeys s' = O')
    (hstored : storedKey s' = stored) (hclose : closeLanded key e = close')
    (hrow : rowWritten e = row') (hlog : logWritten e = log') :
    Stage key h₀ O' stored (close' || close) (row' || row) (log' || log) (s', e :: h) := by
  obtain ⟨-, -, new, hnew, rfl, rfl, rfl⟩ := hs
  subst hO hstored hclose hrow hlog
  refine ⟨rfl, rfl, e :: new, ?_, by simp, by simp, by simp⟩
  simpa using hnew

theorem Stage.silent {s s' : BotWorld} {h : History ι J botInterface BotWorld Thrown}
    {e : Entry ι J botInterface BotWorld Thrown}
    (hs : Stage key h₀ O stored close row log (s, h)) (hO : openKeys s' = openKeys s)
    (hstored : storedKey s' = storedKey s) (hclose : closeLanded key e = false)
    (hrow : rowWritten e = false) (hlog : logWritten e = false) :
    Stage key h₀ O stored close row log (s', e :: h) := by
  have htold := hs.tell (hO.trans hs.opened) (hstored.trans hs.stored) hclose hrow hlog
  simpa using htold

theorem quiet_choice {acts flags : Bool} {c : BotChoice} (hc : allows acts flags c) (s : BotWorld)
    (o : botInterface.Outcome c) :
    rowWritten (ι := ι) (J := J) (.choice i c s o) = false ∧
      logWritten (ι := ι) (J := J) (.choice i c s o) = false := by
  cases c with
  | statement st =>
    cases st with
    | setCurrentPosition position => exact hc.elim
    | recordRebalance row => exact hc.elim
    | recordOperatorAction action => exact ⟨rfl, rfl⟩
  | _ => exact ⟨rfl, rfl⟩

theorem quiet_answer {q : BotQuery} (hq : moving q = false) (a : Except Thrown (botInterface.Reply q))
    (s : BotWorld) : closeLanded (ι := ι) (J := J) key (.answer i q a s) = false := by
  unfold closeLanded
  split
  · next heq =>
    cases heq
    cases hq
  · rfl

theorem stage_undisturbed (hH : Truthful H) :
    Undisturbed H i (botBounds true false true) (Stage (ι := ι) (J := J) key h₀ O stored close row log) where
  local_ := by
    intro s s' h hview hs
    have hchain : s'.world.chain = s.world.chain := congrArg MakerState.chain hview
    have hstate : s'.world.db.positionState = s.world.db.positionState :=
      congrArg MakerState.positionState hview
    refine ⟨?_, (storedKey_eq hstate).trans hs.stored, hs.record⟩
    rw [← hs.opened]
    simp [openKeys, hchain]
  choice := by
    intro c s o h hc _ hs
    obtain ⟨hrow, hlog⟩ := quiet_choice (ι := ι) (J := J) (i := i) hc s o
    exact hs.silent rfl rfl rfl hrow hlog
  call := by
    intro q s a s' h hq hr hs
    have hmoving : moving q = false := by simpa using hq.2
    have hcalled : Stage key h₀ O stored close row log (s, .call i q s :: h) :=
      hs.silent rfl rfl rfl rfl rfl
    exact hcalled.silent (hH.still hmoving hr) (storedKey_eq (hH.own hr).1)
      (quiet_answer hmoving a s') rfl rfl

def leftOpen (config : BotConfig) (key : Option String) (O : Set String) : Set String :=
  if config.dryRun then O else O \ {k | key = some k}

def closes (config : BotConfig) (key : Option String) : Bool := !config.dryRun && key.isSome

section Rebalance

variable (config : BotConfig) {mid : MidPrice}

theorem outcome_steady {α : Type} (hH : Truthful H) {m : Process α}
    (hm : Within (botBounds true false true) True m) :
    Outcome H i (Stage (ι := ι) (J := J) key h₀ O stored close row log) m
      (fun _ => Stage key h₀ O stored close row log) (Stage key h₀ O stored close row log) :=
  outcome_within (stage_undisturbed hH) hm

theorem outcome_notify {E : Point ι J botInterface BotWorld Thrown → Prop} (hH : Truthful H)
    (severity : Severity) (message : Message) :
    Outcome H i (Stage (ι := ι) (J := J) key h₀ O stored close row log) (notify severity message)
      (fun _ => Stage key h₀ O stored close row log) E := by
  apply Outcome.tryCatch (outcome_steady hH (within_look rfl rfl))
  intro e
  exact outcome_pure fun p hp => hp

theorem outcome_reportFailure {α : Type} (hH : Truthful H) (detail : Detail) :
    Outcome H i (Stage (ι := ι) (J := J) key h₀ O stored close row log)
      (reportFailure detail : Process (Staged α))
      (staged (fun _ _ => False) (Stage key h₀ O stored close row log))
      (Stage key h₀ O stored close row log) := by
  apply (outcome_notify hH _ _).bind
  intro _
  exact outcome_pure fun p hp => hp

theorem outcome_degrade {α : Type} (hH : Truthful H) (detail : Detail)
    (closeSig : Option Signature) :
    Outcome H i (Stage (ι := ι) (J := J) key h₀ O stored close row log)
      (degrade detail closeSig : Process (Staged α))
      (staged (fun _ _ => False) (Stage key h₀ O stored close row log))
      (Stage key h₀ O stored close row log) := by
  apply (outcome_steady hH (within_setDegraded true)).bind
  intro _
  apply (outcome_notify hH _ _).bind
  intro _
  exact outcome_pure fun p hp => hp

theorem outcome_buildClose (hH : Truthful H) (nftMint : String) :
    Outcome H i (Stage (ι := ι) (J := J) key h₀ O stored close row log)
      (buildClose (hostRebalancer config) nftMint)
      (staged (fun c p => c.tx = [.closePosition nftMint] ∧ Stage key h₀ O stored close row log p)
        (Stage key h₀ O stored close row log))
      (Stage key h₀ O stored close row log) := by
  have hbuilt : Outcome H i (Stage (ι := ι) (J := J) key h₀ O stored close row log)
      (hostVenue.buildClosePositionTx nftMint)
      (fun c p => c.tx = [.closePosition nftMint] ∧ Stage key h₀ O stored close row log p)
      (Stage key h₀ O stored close row log) := by
    apply (outcome_steady hH (within_ask (fun _ => rfl) fun h => by cases h)).bind
    intro expected
    exact outcome_pure fun p hp => ⟨rfl, hp⟩
  apply Outcome.tryCatch
  · apply hbuilt.bind
    intro c
    exact outcome_pure fun p hp => hp
  · intro e
    exact (outcome_reportFailure hH _).mono (fun _ hp => hp)
      (staged_mono (fun _ _ h => h.elim) fun _ h => h) fun _ hp => hp

theorem leftOpen_some {k : String} (hdry : config.dryRun = false) :
    leftOpen config (some k) O = O \ {k} := by
  ext j
  simp [leftOpen, hdry, eq_comm]

theorem outcome_submitProtected (hH : Truthful H) {k : String} :
    Outcome H i (Stage (ι := ι) (J := J) (some k) h₀ O stored false false false)
      (hostSubmitter.submitProtected [.closePosition k] (submitOptions (hostRebalancer config)))
      (fun _ => Stage (some k) h₀ (leftOpen config (some k) O) stored (closes config (some k))
        false false)
      (Stage (some k) h₀ O stored false false false) := by
  by_cases hdry : config.dryRun = true
  · apply outcome_ite
    · intro _
      apply outcome_pure
      intro p hp
      simpa [leftOpen, closes, hdry] using hp
    · intro h
      exact absurd hdry h
  · apply outcome_ite
    · intro h
      exact absurd h hdry
    · intro _
      have hlive : config.dryRun = false := by simpa using hdry
      apply outcome_call
      intro s h s' a hs hr
      have hcalled : Stage (some k) h₀ O stored false false false
          (s, .call i (.submit [.closePosition k]) s :: h) := hs.silent rfl rfl rfl rfl rfl
      have hstored := storedKey_eq (hH.own hr).1
      cases a with
      | error e => exact hcalled.silent (hH.rejected hr) hstored rfl rfl rfl
      | ok sig =>
        have hopen : openKeys s' = leftOpen config (some k) O := by
          rw [hH.accepted hr, hs.opened, leftOpen_some config hlive]
          rfl
        have htold : Stage (some k) h₀ (leftOpen config (some k) O) stored
            (decide (some k = some k) || false) (false || false) (false || false)
            (s', .answer i (.submit [.closePosition k]) (.ok sig) s' ::
              .call i (.submit [.closePosition k]) s :: h) :=
          hcalled.tell hopen (hstored.trans hs.stored) rfl rfl rfl
        simpa [ending, closes, hlive] using htold

theorem outcome_closePosition (hH : Truthful H) (current : Option PositionSnapshot)
    (hkey : current.map PositionSnapshot.nftMint = key) :
    Outcome H i (Stage (ι := ι) (J := J) key h₀ O stored false false false)
      (closePosition (hostRebalancer config) current)
      (staged (fun _ => Stage key h₀ (leftOpen config key O) stored (closes config key) false false)
        (Stage key h₀ O stored false false false))
      (Stage key h₀ O stored false false false) := by
  cases current with
  | none =>
    apply outcome_pure
    intro p hp
    subst hkey
    simpa [staged, leftOpen, closes] using hp
  | some current =>
    subst hkey
    apply (outcome_buildClose config hH current.nftMint).bind
    intro built
    cases built with
    | error r => exact outcome_pure fun p hp => hp
    | ok c =>
      apply outcome_of_fact
      intro htx
      have hsubmit : Outcome H i
          (Stage (ι := ι) (J := J) (some current.nftMint) h₀ O stored false false false)
          (submitClose (hostRebalancer config) c)
          (staged (fun _ => Stage (some current.nftMint) h₀
            (leftOpen config (some current.nftMint) O) stored
            (closes config (some current.nftMint)) false false)
            (Stage (some current.nftMint) h₀ O stored false false false))
          (Stage (some current.nftMint) h₀ O stored false false false) := by
        apply Outcome.tryCatch
        · rw [htx]
          apply (outcome_submitProtected config hH).bind
          intro sig
          exact outcome_pure fun p hp => hp
        · intro e
          exact (outcome_reportFailure hH _).mono (fun _ hp => hp)
            (staged_mono (fun _ _ h => h.elim) fun _ h => h) fun _ hp => hp
      apply hsubmit.bind
      intro sig
      cases sig with
      | error r => exact outcome_pure fun p hp => hp
      | ok sig =>
        apply (outcome_notify hH _ _).bind
        intro _
        exact outcome_pure fun p hp => hp

theorem outcome_openPosition (hH : Truthful H) {range : PriceRange} {sizing : Sizing}
    {closeSig : Option Signature} :
    Outcome H i (Stage (ι := ι) (J := J) key h₀ O stored close row log)
      (openPosition (hostRebalancer config) mid range sizing closeSig)
      (staged (fun o p => if config.dryRun then Stage key h₀ O stored close row log p
          else o.nftMint ∉ O ∧ Stage key h₀ (insert o.nftMint O) stored close row log p)
        (Stage key h₀ O stored close row log))
      (Stage key h₀ O stored close row log) := by
  have hsubmit : ∀ n, Outcome H i (Stage (ι := ι) (J := J) key h₀ O stored close row log)
      (hostSubmitter.submitProtected [.openPosition n] (submitOptions (hostRebalancer config)))
      (fun _ p => if config.dryRun then Stage key h₀ O stored close row log p
        else n ∉ O ∧ Stage key h₀ (insert n O) stored close row log p)
      (Stage key h₀ O stored close row log) := by
    intro n
    apply outcome_ite
    · intro (hdry : config.dryRun = true)
      apply outcome_pure
      intro p hp
      simpa [hdry] using hp
    · intro (hdry : ¬config.dryRun = true)
      apply outcome_call
      intro s h s' a hs hr
      have hcalled : Stage key h₀ O stored close row log
          (s, .call i (.submit [.openPosition n]) s :: h) := hs.silent rfl rfl rfl rfl rfl
      have hstored := storedKey_eq (hH.own hr).1
      cases a with
      | error e => exact hcalled.silent (hH.rejected hr) hstored rfl rfl rfl
      | ok sig =>
        have hopen : openKeys s' = insert n O := by
          rw [hH.accepted hr, hs.opened]
          rfl
        have hfresh : n ∉ O := by
          rw [← hs.opened]
          exact hH.fresh hr (by simp)
        have htold : Stage key h₀ (insert n O) stored (false || close) (false || row)
            (false || log) (s', .answer i (.submit [.openPosition n]) (.ok sig) s' ::
              .call i (.submit [.openPosition n]) s :: h) :=
          hcalled.tell hopen (hstored.trans hs.stored) rfl rfl rfl
        simpa [ending, hdry, hfresh] using htold
  have hbuild : ∀ params, Outcome H i (Stage (ι := ι) (J := J) key h₀ O stored close row log)
      (hostVenue.buildOpenPositionTx params)
      (fun o p => o.tx = [.openPosition o.nftMint] ∧ Stage key h₀ O stored close row log p)
      (Stage key h₀ O stored close row log) := by
    intro params
    apply (outcome_steady hH (within_ask (fun _ => rfl) fun h => by cases h)).bind
    intro nftMint
    exact outcome_pure fun p hp => ⟨rfl, hp⟩
  have hopen : Outcome H i (Stage (ι := ι) (J := J) key h₀ O stored close row log)
      (submitOpen (hostRebalancer config) mid range sizing)
      (fun o p => if config.dryRun then Stage key h₀ O stored close row log p
        else o.nftMint ∉ O ∧ Stage key h₀ (insert o.nftMint O) stored close row log p)
      (Stage key h₀ O stored close row log) := by
    apply (hbuild _).bind
    intro built
    apply outcome_of_fact
    intro htx
    rw [htx]
    apply (hsubmit built.nftMint).bind
    intro openSig
    exact outcome_pure fun p hp => hp
  apply Outcome.tryCatch
  · apply hopen.bind
    intro o
    exact outcome_pure fun p hp => hp
  · intro e
    exact (outcome_degrade hH _ _).mono (fun _ hp => hp)
      (staged_mono (fun _ _ h => h.elim) fun _ h => h) fun _ hp => hp

theorem outcome_rollback (hH : Truthful H) {n : String} (hn : n ∉ O) (hkey : close = key.isSome) :
    Outcome H i (Stage (ι := ι) (J := J) key h₀ (insert n O) stored close row log)
      (rollback (hostRebalancer config) n)
      (fun _ => Stage key h₀ O stored close row log) (Stage key h₀ O stored close row log) := by
  have hback : ∀ c : ClosePosition, c.tx = [.closePosition n] →
      Outcome H i (fun p => Stage (ι := ι) (J := J) key h₀ (insert n O) stored close row log p ∧
          p.1.rollingBack = true)
        (hostSubmitter.submit c.tx {
          priorityFeeMicroLamports := some config.priorityFeeMicroLamports })
        (fun _ => Stage key h₀ O stored close row log) (fun _ => False) := by
    intro c htx
    rw [htx]
    change Outcome H i _ (ask (.submit [.closePosition n])) _ _
    apply outcome_call
    rintro s h s' a ⟨hs, hrolling⟩ hr
    have hcalled : Stage key h₀ (insert n O) stored close row log
        (s, .call i (.submit [.closePosition n]) s :: h) := hs.silent rfl rfl rfl rfl rfl
    obtain ⟨sig, rfl⟩ := hH.rollbackSubmitted hr hrolling
    have hopen : openKeys s' = O := by
      rw [hH.accepted hr, hs.opened]
      simp [landed, hn]
    have hstored := storedKey_eq (hH.own hr).1
    have htold : Stage key h₀ O stored (decide (key = some n) || close) (false || row)
        (false || log) (s', .answer i (.submit [.closePosition n]) (.ok sig) s' ::
          .call i (.submit [.closePosition n]) s :: h) :=
      hcalled.tell hopen (hstored.trans hs.stored) rfl rfl rfl
    have hclose : (decide (key = some n) || close) = close := by
      subst hkey
      cases key with
      | none => simp
      | some k => simp
    simpa [ending, hclose] using htold
  have hbuild : Outcome H i (fun p => Stage (ι := ι) (J := J) key h₀ (insert n O) stored close row log p ∧
        p.1.rollingBack = true)
      (hostVenue.buildClosePositionTx n)
      (fun c p => c.tx = [.closePosition n] ∧
        (Stage key h₀ (insert n O) stored close row log p ∧ p.1.rollingBack = true))
      (fun _ => False) := by
    apply Outcome.bind (B := fun _ p => Stage key h₀ (insert n O) stored close row log p ∧
      p.1.rollingBack = true)
    · apply outcome_call
      rintro s h s' a ⟨hs, hrolling⟩ hr
      obtain ⟨x, rfl⟩ := hH.rollbackBuilt hr hrolling
      have hown := hH.own hr
      have hcalled : Stage key h₀ (insert n O) stored close row log
          (s, .call i (.buildClosePositionTx n) s :: h) := hs.silent rfl rfl rfl rfl rfl
      have hopen := hH.quiet hr fun tx h => by cases h
      exact ⟨hcalled.silent hopen (storedKey_eq hown.1) rfl rfl rfl, hown.2.trans hrolling⟩
    · intro expected
      exact outcome_pure fun p hp => ⟨rfl, hp⟩
  have hclosed : Outcome H i (Stage (ι := ι) (J := J) key h₀ (insert n O) stored close row log)
      (closeUnrecorded (hostRebalancer config) n)
      (fun _ => Stage key h₀ O stored close row log) (fun _ => False) := by
    apply Outcome.bind (B := fun _ p => Stage key h₀ (insert n O) stored close row log p ∧
      p.1.rollingBack = true)
    · apply outcome_modify
      intro s h hs
      exact ⟨⟨hs.opened, hs.stored, hs.record⟩, rfl⟩
    · intro _
      apply hbuild.bind
      intro c
      apply outcome_of_fact
      intro htx
      apply (hback c htx).bind
      intro sig
      exact outcome_pure fun p hp => hp
  apply Outcome.bind (B := fun _ => Stage key h₀ O stored close row log)
  · apply hclosed.tryCatch
    intro e
    exact fun s h hs => hs.elim
  · intro _
    apply outcome_modify
    intro s h hs
    exact ⟨hs.opened, hs.stored, hs.record⟩

theorem Stage.writeRow {s s' : BotWorld} {h : History ι J botInterface BotWorld Thrown}
    {row : StoredPosition} {n : String} (hs : Stage key h₀ O stored close false false (s, h))
    (hO : openKeys s' = openKeys s) (hstored : storedKey s' = some n) :
    Stage key h₀ O (some n) close true false
      (s', .choice i (.statement (.setCurrentPosition row)) s none :: h) := by
  have htold : Stage key h₀ O stored (false || close) (true || false) (false || false)
      (s, .choice i (.statement (.setCurrentPosition row)) s none :: h) :=
    hs.tell hs.opened hs.stored rfl rfl rfl
  refine ⟨hO.trans hs.opened, hstored, ?_⟩
  simpa using htold.record

theorem Stage.writeLog {s s' : BotWorld} {h : History ι J botInterface BotWorld Thrown}
    {entry : LoggedRebalance} (hs : Stage key h₀ O stored close true false (s, h))
    (hO : openKeys s' = openKeys s) (hstored : storedKey s' = storedKey s) :
    Stage key h₀ O stored close true true
      (s', .choice i (.statement (.recordRebalance entry)) s none :: h) := by
  have htold : Stage key h₀ O stored (false || close) (false || true) (true || false)
      (s', .choice i (.statement (.recordRebalance entry)) s none :: h) :=
    hs.tell (hO.trans hs.opened) (hstored.trans hs.stored) rfl rfl rfl
  simpa using htold

theorem outcome_recordOpened {now : ℤ} {range : PriceRange} {current : Option PositionSnapshot}
    {n : String} {cause : Cause} :
    Outcome H i (Stage (ι := ι) (J := J) key h₀ O stored close false false)
      (recordOpened now range current n cause)
      (fun _ => Stage key h₀ O (some n) close true true)
      (fun p => Stage key h₀ O stored close false false p ∨
        Stage key h₀ O (some n) close true false p) := by
  apply Outcome.bind (B := fun _ => Stage key h₀ O (some n) close true false)
  · apply outcome_botStatement
    · intro s h hs
      exact hs.writeRow rfl rfl
    · intro s h e hs
      exact .inl (hs.silent rfl rfl rfl rfl rfl)
  · intro _
    apply outcome_botStatement
    · intro s h hs
      exact hs.writeLog rfl rfl
    · intro s h e hs
      exact .inr (hs.silent rfl rfl rfl rfl rfl)

/-- How the positions can stand once a rebalance is over. -/
inductive Ended (config : BotConfig) (key : Option String)
    (h₀ : History ι J botInterface BotWorld Thrown) (O : Set String) (stored : Option String)
    (p : Point ι J botInterface BotWorld Thrown) : Prop where
  | untouched : Stage key h₀ O stored false false false p → Ended config key h₀ O stored p
  | closed : Stage key h₀ (leftOpen config key O) stored (closes config key) false false p →
      Ended config key h₀ O stored p
  | undone {n} : config.dryRun = false → n ∉ leftOpen config key O →
      Stage key h₀ (leftOpen config key O) (some n) (closes config key) true false p →
      Ended config key h₀ O stored p
  | reopened {n} : config.dryRun = false → n ∉ leftOpen config key O →
      Stage key h₀ (insert n (leftOpen config key O)) (some n) (closes config key) true true p →
      Ended config key h₀ O stored p

theorem Ended.imp {p q : Point ι J botInterface BotWorld Thrown}
    (h : ∀ {O' stored' close row log}, Stage key h₀ O' stored' close row log p →
      Stage key h₀ O' stored' close row log q)
    (hp : Ended config key h₀ O stored p) : Ended config key h₀ O stored q := by
  cases hp with
  | untouched hs => exact .untouched (h hs)
  | closed hs => exact .closed (h hs)
  | undone hlive hn hs => exact .undone hlive hn (h hs)
  | reopened hlive hn hs => exact .reopened hlive hn (h hs)

theorem ended_undisturbed (hH : Truthful H) :
    Undisturbed H i (botBounds true false true) (Ended (ι := ι) (J := J) config key h₀ O stored) where
  local_ hview hp := hp.imp config fun hs => (stage_undisturbed (i := i) hH).local_ hview hs
  choice hc ho hp := hp.imp config fun hs => (stage_undisturbed hH).choice hc ho hs
  call hq hr hp := hp.imp config fun hs => (stage_undisturbed hH).call hq hr hs

/-- Where the open of `n` leaves a rebalance; a dry run opens nothing. -/
def HasOpened (key : Option String) (h₀ : History ι J botInterface BotWorld Thrown)
    (O : Set String) (stored : Option String) (n : String)
    (p : Point ι J botInterface BotWorld Thrown) : Prop :=
  if config.dryRun then
    Stage key h₀ (leftOpen config key O) stored (closes config key) false false p
  else n ∉ leftOpen config key O ∧
    Stage key h₀ (insert n (leftOpen config key O)) stored (closes config key) false false p

theorem outcome_persist (hH : Truthful H) {now : ℤ} {range : PriceRange}
    {current : Option PositionSnapshot} {n : String} {cause : Cause} :
    Outcome H i (HasOpened (ι := ι) (J := J) config key h₀ O stored n)
      (persist (hostRebalancer config) now range current n cause)
      (fun _ => Ended config key h₀ O stored) (Ended config key h₀ O stored) := by
  by_cases hdry : config.dryRun = true
  · apply outcome_ite
    · intro _
      apply outcome_pure
      intro p hp
      rw [HasOpened, if_pos hdry] at hp
      exact .closed hp
    · exact fun h => absurd hdry h
  have hlive : config.dryRun = false := by simpa using hdry
  have hkey : closes config key = key.isSome := by simp [closes, hlive]
  have hback : n ∉ leftOpen config key O → ∀ e stored' row, Outcome H i
      (Stage (ι := ι) (J := J) key h₀ (insert n (leftOpen config key O)) stored'
        (closes config key) row false)
      (do rollback (hostRebalancer config) n; degrade (.persistenceFailed e) none : Process (Staged Unit))
      (fun _ => Stage key h₀ (leftOpen config key O) stored' (closes config key) row false)
      (Stage key h₀ (leftOpen config key O) stored' (closes config key) row false) := by
    intro hn e stored' row
    apply (outcome_rollback config hH hn hkey).bind
    exact fun _ => outcome_steady hH (within_degrade _ _)
  apply outcome_ite
  · exact fun h => absurd h hdry
  · intro _
    have hopen : HasOpened (ι := ι) (J := J) config key h₀ O stored n = fun p =>
        n ∉ leftOpen config key O ∧
          Stage key h₀ (insert n (leftOpen config key O)) stored (closes config key) false false p := by
      funext p
      rw [HasOpened, if_neg hdry]
    rw [hopen]
    apply outcome_of_fact
    intro hn
    have hclosed : ∀ p,
        Stage key h₀ (leftOpen config key O) stored (closes config key) false false p →
        Ended config key h₀ O stored p := fun p hp => .closed hp
    have hundone : ∀ p,
        Stage key h₀ (leftOpen config key O) (some n) (closes config key) true false p →
        Ended config key h₀ O stored p := fun p hp => .undone hlive hn hp
    apply Outcome.tryCatch
    · apply outcome_recordOpened.bind
      intro _
      exact outcome_pure fun p hp => .reopened hlive hn hp
    · intro e
      apply outcome_or
      · exact (hback hn e _ _).mono (fun _ hp => hp) (fun _ => hclosed) hclosed
      · exact (hback hn e _ _).mono (fun _ hp => hp) (fun _ => hundone) hundone

theorem outcome_reopen (hH : Truthful H) {now : ℤ} {current : Option PositionSnapshot}
    {cause : Cause} {closeSig : Option Signature} :
    Outcome H i (Stage (ι := ι) (J := J) key h₀ (leftOpen config key O) stored
        (closes config key) false false)
      (reopen (hostRebalancer config) now mid current cause closeSig)
      (fun _ => Ended config key h₀ O stored) (Ended config key h₀ O stored) := by
  have hclosed : ∀ p, Stage key h₀ (leftOpen config key O) stored (closes config key) false false p →
      Ended config key h₀ O stored p := fun p hp => .closed hp
  have hsteady : ∀ {β : Type} {m : Process β}, Within (botBounds true false true) True m →
      Outcome H i (Stage (ι := ι) (J := J) key h₀ (leftOpen config key O) stored
          (closes config key) false false) m
        (fun _ => Stage key h₀ (leftOpen config key O) stored (closes config key) false false)
        (Ended config key h₀ O stored) := fun hm =>
    (outcome_steady hH hm).mono (fun _ hp => hp) (fun _ _ hp => hp) hclosed
  apply (hsteady (within_refreshPool config)).bind
  intro _
  apply (hsteady (within_sizePosition config mid closeSig)).bind
  intro sized
  cases sized with
  | error r => exact outcome_pure hclosed
  | ok sizing =>
    apply ((outcome_openPosition config hH).mono (fun _ hp => hp) (fun _ _ hp => hp) hclosed).bind
    intro o
    cases o with
    | error r => exact outcome_pure hclosed
    | ok o =>
      apply (outcome_persist config hH).bind
      intro saved
      cases saved with
      | error r => exact outcome_pure fun p hp => hp
      | ok _ => exact outcome_within (ended_undisturbed config hH) (within_announce config _ _ _ _ o)

theorem outcome_executeRebalance (hH : Truthful H) {current : Option PositionSnapshot}
    {cause : Cause} (hkey : current.map PositionSnapshot.nftMint = key) :
    Outcome H i (Stage (ι := ι) (J := J) key h₀ O stored false false false)
      (executeRebalance (hostRebalancer config) mid current cause)
      (fun _ => Ended config key h₀ O stored) (Ended config key h₀ O stored) := by
  have huntouched : ∀ p, Stage key h₀ O stored false false false p →
      Ended config key h₀ O stored p := fun p hp => .untouched hp
  have hsteady : ∀ {β : Type} {m : Process β}, Within (botBounds true false true) True m →
      Outcome H i (Stage (ι := ι) (J := J) key h₀ O stored false false false) m
        (fun _ => Stage key h₀ O stored false false false) (Ended config key h₀ O stored) :=
    fun hm => (outcome_steady hH hm).mono (fun _ hp => hp) (fun _ _ hp => hp) huntouched
  apply (hsteady within_now).bind
  intro now
  apply (hsteady (within_drawdownBreaker config mid current)).bind
  intro tripped
  cases tripped with
  | some r => exact outcome_pure huntouched
  | none =>
    apply (hsteady (within_read _)).bind
    intro today
    apply outcome_ite
    · exact fun _ => outcome_pure huntouched
    · intro _
      apply ((outcome_closePosition config hH current hkey).mono (fun _ hp => hp)
        (fun _ _ hp => hp) huntouched).bind
      intro closed
      cases closed with
      | error r => exact outcome_pure huntouched
      | ok closeSig => exact outcome_reopen config hH

end Rebalance

end TrackedPosition
