import BertMMBot.PlayedBot

/-! # Tracked positions over runs

Whatever fails in it, a tick that starts with at most the tracked position open ends so. One
rebalance can still leave `position_state` naming a position that is closed: the row is
overwritten when a position is opened, and never cleared when one is closed. -/
namespace TrackedRuns

open AsyncProgram AsyncContract AsyncRecords RecordedTriples RecordedOutcomes AsyncWiring
open VaultTypes BotProgram Rebalancer MainLoop MakerBounds LoopWalk TrackedPosition
open PlayedBot
open MeteoraPosition (PositionSnapshot)

variable {ι J : Type} {H : BotHost} {i : ι}

def OfPositions (A : Set String → Option StoredPosition → Prop)
    (p : Point ι J botInterface BotWorld Thrown) : Prop :=
  A (openKeys p.1) p.1.world.db.positionState

theorem positions_undisturbed (hH : Truthful H) (A : Set String → Option StoredPosition → Prop) :
    Undisturbed H i (botBounds true false true) (OfPositions (ι := ι) (J := J) A) where
  local_ := by
    intro s s' h hview ha
    have hchain : s'.world.chain = s.world.chain := congrArg MakerState.chain hview
    have hstate : s'.world.db.positionState = s.world.db.positionState :=
      congrArg MakerState.positionState hview
    simpa [OfPositions, openKeys, hchain, hstate] using ha
  choice _ _ ha := ha
  call := by
    intro q s a s' h hq hr ha
    have hmoving : moving q = false := by simpa using hq.2
    rw [OfPositions, hH.still hmoving hr, (hH.own hr).1]
    exact ha

theorem outcome_looks {α : Type} {A : Set String → Option StoredPosition → Prop} (hH : Truthful H)
    {m : Process α} (hm : Within (botBounds true false true) True m) :
    Outcome H i (OfPositions (ι := ι) (J := J) A) m (fun _ => OfPositions A) (OfPositions A) :=
  outcome_within (positions_undisturbed hH A) hm

def Covers (O : Set String) (row : Option StoredPosition) : Prop :=
  ∀ k ∈ O, row.map StoredPosition.nftMint = some k

theorem covers_of_ended {config : BotConfig} {key : Option String}
    {h₀ : History ι J botInterface BotWorld Thrown} {O : Set String}
    {p : Point ι J botInterface BotWorld Thrown} (hlive : config.dryRun = false)
    (hO : ∀ k ∈ O, key = some k) (hp : Ended config key h₀ O key p) : OfPositions Covers p := by
  have hleft : leftOpen config key O = ∅ := by
    ext k
    simp only [leftOpen, hlive, Bool.false_eq_true, if_false, Set.mem_sdiff, Set.mem_ofPred_eq,
      Set.mem_empty_iff_false, iff_false, not_and, not_not]
    exact hO k
  intro k hk
  cases hp with
  | untouched hs =>
    rw [hs.opened] at hk
    exact hs.stored.trans (hO k hk)
  | closed hs =>
    rw [hs.opened, hleft] at hk
    exact hk.elim
  | undone _ _ hs =>
    rw [hs.opened, hleft] at hk
    exact hk.elim
  | reopened _ _ hs =>
    rw [hs.opened, hleft] at hk
    simp only [insert_empty_eq, Set.mem_singleton_iff] at hk
    subst hk
    exact hs.stored

theorem outcome_rebalance (hH : Truthful H) {config : BotConfig} (hlive : config.dryRun = false)
    {mid : MidPrice} {current : Option PositionSnapshot} {cause : Cause} :
    Outcome H i (OfPositions (ι := ι) (J := J) fun O row =>
        Covers O row ∧ row.map StoredPosition.nftMint = current.map PositionSnapshot.nftMint)
      (executeRebalance (hostRebalancer config) mid current cause)
      (fun _ => OfPositions Covers) (OfPositions Covers) := by
  apply outcome_at
  rintro s h ⟨hcovers, hkey⟩
  have hO : ∀ k ∈ openKeys s, current.map PositionSnapshot.nftMint = some k := by
    intro k hk
    exact hkey.symm.trans (hcovers k hk)
  have hout : Outcome H i (Stage (ι := ι) (J := J) (current.map PositionSnapshot.nftMint) h
      (openKeys s) (current.map PositionSnapshot.nftMint) false false false)
      (executeRebalance (hostRebalancer config) mid current cause)
      (fun _ => Ended config (current.map PositionSnapshot.nftMint) h (openKeys s)
        (current.map PositionSnapshot.nftMint))
      (Ended config (current.map PositionSnapshot.nftMint) h (openKeys s)
        (current.map PositionSnapshot.nftMint)) := outcome_executeRebalance config hH rfl
  apply hout.mono
  · rintro p rfl
    exact ⟨rfl, hkey, [], rfl, rfl, rfl, rfl⟩
  · exact fun _ p hp => covers_of_ended hlive hO hp
  · exact fun p hp => covers_of_ended hlive hO hp

section Tick

variable {library : ConfigFile.Library} {pool : MeteoraPosition.Venue} {cfg : MainConfig}

def trackedAs (row : Option StoredPosition) : Tracked → Prop
  | .rpcFailed => True
  | .position p => ∀ q, p = some q → row.map StoredPosition.nftMint = some q.nftMint

theorem outcome_readTracked (hH : Truthful H) {mid : Option MidPrice} {row : Option StoredPosition} :
    Outcome H i (OfPositions (ι := ι) (J := J) fun O r => Covers O r ∧ r = row)
      (readTracked (hostDeps library pool) mid row)
      (fun t p => trackedAs row t ∧ OfPositions (fun O r => Covers O r ∧ r = row) p)
      (OfPositions Covers) := by
  cases row with
  | none =>
    apply outcome_pure
    intro p hp
    exact ⟨(fun q hq => by cases hq), hp⟩
  | some row =>
    have hask : Outcome H i (OfPositions (ι := ι) (J := J) fun O r => Covers O r ∧ r = some row)
        (hostVenue.getPosition row.nftMint ((mid.map MidPrice.solUsd).getD 0))
        (fun r p => (∀ q, r = some q → q.nftMint = row.nftMint) ∧
          OfPositions (fun O r => Covers O r ∧ r = some row) p)
        (OfPositions fun O r => Covers O r ∧ r = some row) := by
      apply outcome_call
      intro s h s' a hs hr
      have hstill := (positions_undisturbed (i := i) hH _).call (h := h)
        ⟨(fun h => by cases h), (fun h => by cases h)⟩ hr hs
      cases a with
      | error e => exact hstill
      | ok r => exact ⟨(hH.position hr).1, hstill⟩
    apply Outcome.tryCatch
    · apply hask.bind
      intro r
      apply outcome_of_fact
      intro hr
      apply outcome_pure
      intro p hp
      refine ⟨?_, hp⟩
      intro q hq
      rw [hr q hq]
      rfl
    · intro e
      exact outcome_pure fun p hp => ⟨trivial, hp⟩

theorem covers_leads (hH : Truthful H) : Leads H i (botBounds true false true)
    (OfPositions (ι := ι) (J := J) Covers) (OfPositions Covers) := fun _ hm => outcome_looks hH hm

theorem outcome_actOn (hH : Truthful H) (hlive : cfg.maker.dryRun = false)
    {s : Strategy.BotState} {row : Option StoredPosition}
    (hs : trackedAs row (.position s.position)) {decision : Strategy.Decision}
    (hdecision : ∀ reason center, decision = .rebalance reason center → s.position.isSome) :
    Outcome H i (OfPositions (ι := ι) (J := J) fun O r => Covers O r ∧ r = row)
      (actOn (hostDeps library pool) cfg s decision)
      (fun _ => OfPositions Covers) (OfPositions Covers) := by
  have hlooks : Leads H i (botBounds true false true)
      (OfPositions (ι := ι) (J := J) fun O r => Covers O r ∧ r = row) (OfPositions Covers) :=
    fun _ hm =>
      (outcome_looks hH hm).mono (fun _ hp => hp) (fun _ _ hp => hp.1) fun _ hp => hp.1
  apply outcome_actOn_of observant_botBounds hlooks
  intro reason center mid hd _
  obtain ⟨position, hposition⟩ := Option.isSome_iff_exists.mp (hdecision reason center hd)
  refine Outcome.mono (outcome_rebalance hH hlive) ?_ (fun _ _ hp => hp) fun _ hp => hp
  rintro p ⟨hcovers, hrow⟩
  refine ⟨hcovers, ?_⟩
  rw [hrow, hposition]
  exact hs position hposition

theorem outcome_tickWithPosition (hH : Truthful H) (hlive : cfg.maker.dryRun = false)
    {tickStart : ℤ} {killed : Bool} {mid : Option MidPrice} {row : Option StoredPosition}
    {position : Option PositionSnapshot} (hposition : trackedAs row (.position position)) :
    Outcome H i (OfPositions (ι := ι) (J := J) fun O r => Covers O r ∧ r = row)
      (tickWithPosition (hostDeps library pool) cfg tickStart killed mid row position)
      (fun _ => OfPositions Covers) (OfPositions Covers) := by
  apply Outcome.bind (B := fun s p => s.position = position ∧
    OfPositions (fun O r => Covers O r ∧ r = row) p)
  · apply outcome_read
    intro p hp
    exact ⟨rfl, hp⟩
  intro s
  apply outcome_of_fact
  intro hs
  have hheart : Outcome H i (OfPositions (ι := ι) (J := J) Covers) writeHeartbeat
      (fun _ => OfPositions Covers) (OfPositions Covers) := outcome_looks hH within_writeHeartbeat
  cases hinit : initialMid row s with
  | some mid =>
    obtain ⟨hrow, -, -, -⟩ := initialMid_some hinit
    have hopen : Outcome H i (OfPositions (ι := ι) (J := J) fun O r => Covers O r ∧ r = row)
        (openInitial (hostDeps library pool) cfg mid)
        (fun _ => OfPositions Covers) (OfPositions Covers) := by
      apply outcome_openInitial_of observant_botBounds (covers_leads hH)
      refine Outcome.mono (outcome_rebalance hH hlive) ?_ (fun _ _ hp => hp) fun _ hp => hp
      rintro p ⟨hcovers, hr⟩
      refine ⟨hcovers, ?_⟩
      rw [hr, hrow]
      rfl
    exact hopen.bind fun _ => hheart
  | none =>
    have hpost : ∀ killed, Outcome H i (OfPositions (ι := ι) (J := J) Covers)
        (vaultPostRebalance (hostDeps library pool) cfg killed)
        (fun _ => OfPositions Covers) (OfPositions Covers) :=
      fun killed => outcome_looks hH (within_vaultPostRebalance library pool cfg killed)
    have hact : Outcome H i (OfPositions (ι := ι) (J := J) fun O r => Covers O r ∧ r = row)
        (actOn (hostDeps library pool) cfg s (Strategy.decide s (strategyParams cfg.maker)))
        (fun _ => OfPositions Covers) (OfPositions Covers) :=
      outcome_actOn hH hlive (hs ▸ hposition)
        fun reason center hd => (Strategy.decide_rebalance hd).2.2.2.1
    exact hact.bind fun _ => (hpost _).bind fun _ => hheart

theorem outcome_tick (hH : Truthful H) (hlive : cfg.maker.dryRun = false) :
    Outcome H i (OfPositions (ι := ι) (J := J) Covers) (tick (hostDeps library pool) cfg)
      (fun _ => OfPositions Covers) (OfPositions Covers) := by
  have hlooks : ∀ {α : Type} {m : Process α}, Within (botBounds true false true) True m →
      Outcome H i (OfPositions (ι := ι) (J := J) Covers) m
        (fun _ => OfPositions Covers) (OfPositions Covers) := fun hm => outcome_looks hH hm
  have hbody : ∀ tickStart, Outcome H i (OfPositions (ι := ι) (J := J) Covers)
      (tickBody (hostDeps library pool) cfg tickStart)
      (fun _ => OfPositions Covers) (OfPositions Covers) := by
    intro tickStart
    apply (hlooks (within_killSwitchTripped library pool cfg)).bind
    intro killed
    apply (hlooks (within_readOracle cfg tickStart)).bind
    intro mid
    apply (hlooks (within_vaultPreRebalance library pool cfg)).bind
    intro _
    apply Outcome.bind (B := fun row => OfPositions fun O r => Covers O r ∧ r = row)
    · apply outcome_read
      intro p hp
      exact ⟨hp, rfl⟩
    intro row
    apply (outcome_readTracked hH).bind
    intro tracked
    apply outcome_of_fact
    intro htracked
    cases tracked with
    | rpcFailed =>
      exact (outcome_looks hH within_writeHeartbeat).mono (fun _ hp => hp) (fun _ _ hp => hp.1)
        fun _ hp => hp.1
    | position p => exact outcome_tickWithPosition hH hlive htracked
  exact outcome_tick_of observant_botBounds (covers_leads hH) (hlooks within_now) hbody

end Tick

/-- One tick, left alone with its host. -/
def Ticked (H : BotHost) (deps : MainDeps) (cfg : MainConfig) (b b' : BotWorld) : Prop :=
  ∃ x, Ends H (tick deps cfg b) x b'

/-- At the end of every tick at most one position is open, and if one is, it is the tracked
one. -/
theorem ticks_track_single (hH : Truthful H) {library : ConfigFile.Library}
    {pool : MeteoraPosition.Venue} {cfg : MainConfig} (hlive : cfg.maker.dryRun = false)
    {b b' : BotWorld}
    (hb : openKeys b = ∅ ∨ ∃ k, openKeys b = {k} ∧ storedKey b = some k)
    (hrun : Relation.ReflTransGen (Ticked H (hostDeps library pool) cfg) b b') :
    (openKeys b').Subsingleton ∧ ∀ k ∈ openKeys b', storedKey b' = some k := by
  have hcovers : Covers (openKeys b') b'.world.db.positionState := by
    induction hrun with
    | refl =>
      intro k hk
      rcases hb with hnone | ⟨k', hone, hstored⟩
      · rw [hnone] at hk
        exact hk.elim
      · rw [hone] at hk
        cases hk
        exact hstored
    | @tail b₁ b₂ _ htick ih =>
      obtain ⟨x, hends⟩ := htick
      obtain ⟨h, hrecorded⟩ := ends_recorded (J := Unit) (i := ()) hends []
      have hend := (outcome_tick hH hlive).ends ih hrecorded
      cases x with
      | ok _ => exact hend
      | error e => exact hend
  refine ⟨?_, hcovers⟩
  intro j hj k hk
  exact Option.some.inj ((hcovers j hj).symm.trans (hcovers k hk))

def openingScene : BotScene where
  vault := {
    clock := 1000
    samples := [⟨"dexscreener", 1, 100, 100, 0⟩, ⟨"jupiter", 1, 100, 100, 0⟩] }

def openingEnd : BotWorld :=
  (openingScene.script.play (tick (hostDeps blindLibrary flatVenue) playedMain (botWith [] none))).2

/-- A first tick opens a position and tracks it. -/
theorem opening_tick_tracks : openKeys openingEnd = {"new"} ∧ (openKeys openingEnd).Subsingleton ∧
    ∀ k ∈ openKeys openingEnd, storedKey openingEnd = some k := by
  have htick : Ticked openingScene.host (hostDeps blindLibrary flatVenue) playedMain
      (botWith [] none) openingEnd := ⟨_, openingScene.ends _ _⟩
  have hkeys : openingEnd.world.chain.positions.map OnchainPosition.publicKey = ["new"] := by
    decide +kernel
  refine ⟨?_, ticks_track_single (openingScene.truthful (fun _ => rfl) fun _ => rfl) rfl
    (.inl (by simp [openKeys, botWith, VaultProgram.World.initial])) (.single htick)⟩
  ext k
  have hmem : k ∈ openKeys openingEnd ↔
      k ∈ openingEnd.world.chain.positions.map OnchainPosition.publicKey := by
    simp [openKeys]
  rw [hmem, hkeys]
  simp

/-- A reading of the venue that says whether the stored position is open. -/
structure Reads (b : BotWorld) (position : Option PositionSnapshot) : Prop where
  key : ∀ p, position = some p → storedKey b = some p.nftMint
  isOpen : ∀ k, storedKey b = some k → (position.isSome ↔ k ∈ openKeys b)

/-- With nothing else in the way the bot holds its position or may open one, and a restart
does not find a row without a position. -/
def Recovers (b : BotWorld) : Prop := ∀ position, Reads b position →
  (∀ s : Strategy.BotState, s.position = position → s.killSwitchTripped = false →
    s.degraded = false →
    position.isSome ∨ initialMid (DepositorStore.getCurrentPosition b.world.db) s = s.price) ∧
  Strategy.reconcile (DepositorStore.getCurrentPosition b.world.db) position ≠ .mismatch .stateOnly

theorem recovers_of_named {b : BotWorld} (h : Named b) : Recovers b := by
  intro position hreads
  cases hrow : DepositorStore.getCurrentPosition b.world.db with
  | none =>
    refine ⟨?_, ?_⟩
    · intro s hs hkilled hdegraded
      cases position with
      | some p => exact .inl rfl
      | none => simp [initialMid, hs, hkilled, hdegraded]
    · cases position <;> simp [Strategy.reconcile]
  | some row =>
    have hstored : storedKey b = some row.nftMint := by simp [storedKey, hrow]
    have hsome := (hreads.isOpen _ hstored).mpr (h _ hstored)
    refine ⟨fun s _ _ _ => .inl hsome, ?_⟩
    obtain ⟨p, rfl⟩ := Option.isSome_iff_exists.mp hsome
    simp only [Strategy.reconcile]
    split
    · simp
    · split
      · simp
      · split <;> simp

theorem recovers_iff_named {b : BotWorld} : Recovers b ↔ Named b := by
  refine ⟨fun h k hk => ?_, recovers_of_named⟩
  by_contra hclosed
  obtain ⟨row, hrow, hkey⟩ := Option.map_eq_some_iff.mp hk
  have hreads : Reads b none := by
    refine ⟨(fun p hp => by cases hp), fun k' hk' => ?_⟩
    rw [hk] at hk'
    cases hk'
    simp [hclosed]
  apply (h none hreads).2
  rw [hrow]
  rfl

/-- After a rebalance `position_state` names an open position, or is empty, exactly if a close
that landed or a row that was written was followed by the row of the log. -/
theorem executeRebalance_names_open {H : BotHost} (hH : Truthful H) {config : BotConfig}
    {mid : MidPrice} {current : Option PositionSnapshot} {cause : Cause} {b b' : BotWorld}
    {x : Except Thrown RebalanceResult} {h : History Unit Unit botInterface BotWorld Thrown}
    (hstored : storedKey b = current.map PositionSnapshot.nftMint) (hnamed : Named b)
    (hends : Ends (recordedHost H)
      (recorded () (executeRebalance (hostRebalancer config) mid current cause b) []) x (b', h)) :
    (Named b' ∧ Recovers b') ↔
      (h.any (closeLanded (current.map PositionSnapshot.nftMint)) ∨ h.any rowWritten →
        h.any logWritten) := by
  rw [recovers_iff_named, and_self]
  have hended : Ended config (current.map PositionSnapshot.nftMint) [] (openKeys b)
      (current.map PositionSnapshot.nftMint) (b', h) := by
    have hstage : Stage (current.map PositionSnapshot.nftMint) [] (openKeys b)
        (current.map PositionSnapshot.nftMint) false false false
        ((b, []) : Point Unit Unit botInterface BotWorld Thrown) :=
      ⟨rfl, hstored, [], rfl, rfl, rfl, rfl⟩
    have hend := (outcome_executeRebalance config hH rfl).ends hstage hends
    cases x with
    | ok r => exact hend
    | error e => exact hend
  have hmarks : ∀ {O' stored' close row log}, Stage (current.map PositionSnapshot.nftMint) []
      O' stored' close row log ((b', h) : Point Unit Unit botInterface BotWorld Thrown) →
      h.any (closeLanded (current.map PositionSnapshot.nftMint)) = close ∧
        h.any rowWritten = row ∧ h.any logWritten = log := by
    rintro O' stored' close row log ⟨-, -, new, hnew, hclose, hrow, hlog⟩
    simp only [List.append_nil] at hnew
    subst hnew
    exact ⟨hclose, hrow, hlog⟩
  have hown : ∀ k, current.map PositionSnapshot.nftMint = some k → k ∈ openKeys b :=
    fun k hk => hnamed k (hstored.trans hk)
  cases hended with
  | untouched hs =>
    obtain ⟨hclose, hrow, -⟩ := hmarks hs
    have hkept : Named b' := by
      intro k hk
      rw [hs.opened]
      exact hown k (hs.stored.symm.trans hk)
    simp [hclose, hrow, hkept]
  | closed hs =>
    obtain ⟨hclose, hrow, hlog⟩ := hmarks hs
    simp only [hclose, hrow, hlog, Bool.false_eq_true, or_false, imp_false]
    constructor
    · intro hkept hsubmitted
      obtain ⟨hdry, hsome⟩ := by simpa [closes] using hsubmitted
      obtain ⟨p, hp⟩ := Option.isSome_iff_exists.mp hsome
      subst hp
      have hopen := hkept p.nftMint hs.stored
      rw [hs.opened] at hopen
      simp [leftOpen, hdry] at hopen
    · intro hnot k hk
      have hkey := hs.stored.symm.trans hk
      rw [hs.opened]
      have hdry : config.dryRun = true := by
        by_contra hlive
        apply hnot
        simpa [closes, hkey] using hlive
      rw [leftOpen, if_pos hdry]
      exact hown k hkey
  | @undone n hlive hn hs =>
    obtain ⟨-, hrow, hlog⟩ := hmarks hs
    have hstale : ¬Named b' := by
      intro hkept
      have hopen := hkept n hs.stored
      rw [hs.opened] at hopen
      exact hn hopen
    simp [hrow, hlog, hstale]
  | @reopened n hlive hn hs =>
    obtain ⟨-, -, hlog⟩ := hmarks hs
    have hkept : Named b' := by
      intro k hk
      rw [hs.opened]
      have hnk := Option.some.inj (hs.stored.symm.trans hk)
      exact .inl hnk.symm
    simp [hlog, hkept]

/-- The balances cannot be read once the position is closed. -/
def staleScene : BotScene where
  vault := { clock := 1000 }
  down q := match q with
    | .getWalletBalances => true
    | _ => false

def staleEnd : BotWorld := (staleScene.script.play (executeRebalance (hostRebalancer playedConfig)
  playedMid (some (staleScene.snapshot (positionAt "a"))) .initialOpen
  (botWith [positionAt "a"] (some (storedAs "a"))))).2

theorem stale_start : storedKey (botWith [positionAt "a"] (some (storedAs "a"))) = some "a" ∧
    Named (botWith [positionAt "a"] (some (storedAs "a"))) := by
  refine ⟨rfl, ?_⟩
  intro k hk
  cases hk
  exact ⟨positionAt "a", by decide, rfl⟩

theorem stale_names_open : ∃ x h, Ends (recordedHost staleScene.host) (recorded ()
      (executeRebalance (hostRebalancer playedConfig) playedMid
        (some (staleScene.snapshot (positionAt "a"))) .initialOpen
        (botWith [positionAt "a"] (some (storedAs "a")))) []) x (staleEnd, h) ∧
    ((Named staleEnd ∧ Recovers staleEnd) ↔
      ((h : History Unit Unit botInterface BotWorld Thrown).any (closeLanded (some "a")) ∨
        h.any rowWritten → h.any logWritten)) := by
  obtain ⟨h, hrecorded⟩ := ends_recorded (J := Unit) (i := ()) (staleScene.ends
    (executeRebalance (hostRebalancer playedConfig) playedMid
      (some (staleScene.snapshot (positionAt "a"))) .initialOpen)
    (botWith [positionAt "a"] (some (storedAs "a")))) []
  exact ⟨_, h, hrecorded, executeRebalance_names_open
    (staleScene.truthful (fun _ => rfl) fun _ => rfl) stale_start.1 stale_start.2 hrecorded⟩

/-- The close lands, the rebalance fails, and the row of the closed position stays. -/
theorem executeRebalance_leaves_stale_row : Truthful staleScene.host ∧
    storedKey (botWith [positionAt "a"] (some (storedAs "a"))) = some "a" ∧
    Named (botWith [positionAt "a"] (some (storedAs "a"))) ∧
    (∃ x, Ends staleScene.host (executeRebalance (hostRebalancer playedConfig) playedMid
      (some (staleScene.snapshot (positionAt "a"))) .initialOpen
      (botWith [positionAt "a"] (some (storedAs "a")))) x staleEnd) ∧
    ¬Named staleEnd ∧ ¬Recovers staleEnd := by
  have hstale : ¬Named staleEnd := by
    intro hnamed
    obtain ⟨p, hp, -⟩ := hnamed "a" (by decide +kernel)
    have hnone : staleEnd.world.chain.positions = [] := by decide +kernel
    rw [hnone] at hp
    cases hp
  exact ⟨staleScene.truthful (fun _ => rfl) fun _ => rfl, stale_start.1, stale_start.2,
    ⟨_, staleScene.ends _ _⟩, hstale, fun h => hstale (recovers_iff_named.mp h)⟩

end TrackedRuns
