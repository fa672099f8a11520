import BertMMBot.BotRuns
import BertMMBot.CliBounds

/-! # Ticks and commands over one position

The bot and the operator's tool take turns on the same chain and the same row. Commands close,
reopen and forget the position on their own account; no turn leaves a position open that
`position_state` does not name. -/
namespace CliRuns

open AsyncProgram AsyncContract AsyncRecords RecordedTriples RecordedOutcomes AsyncWiring
open WiredOutcomes VaultTypes BotProgram Rebalancer MainLoop MakerBounds TrackedPosition
open TrackedRuns OperatorCli CliBounds PlayedBot
open MeteoraPosition (PositionSnapshot)

variable {H : CliHost} {α : Type}

section Commands

variable (library : ConfigFile.Library) (config : BotConfig)

theorem outcome_recorded (hH : TruthfulTool H) {A : Set String → Option StoredPosition → Prop}
    (command : String) (ending : Ending) :
    Outcome H () (OfTool A) (do recordAction command; return ending : Command Ending)
      (fun _ => OfTool A) (OfTool A) :=
  outcome_steady hH (within_bind (within_recordAction command) fun _ => within_pure _)

theorem outcome_announced (hH : TruthfulTool H) {A : Set String → Option StoredPosition → Prop}
    (command : String) (severity : Severity) (message : String → CliMessage) :
    Outcome H () (OfTool A)
      (do
        recordAction command
        OperatorCli.notify severity (message (← osUser))
        return .returned : Command Ending)
      (fun _ => OfTool A) (OfTool A) := by
  apply (outcome_steady hH (within_recordAction command)).bind
  intro _
  apply (outcome_steady hH within_osUser).bind
  intro user
  exact outcome_steady hH (within_bind (within_notify _ _) fun _ => within_pure _)

theorem outcome_operatorRebalance (hH : TruthfulTool H) {mid : MidPrice} (before after : Command Unit)
    (hbefore : Within toolBounds True before) (hafter : Within toolBounds True after) :
    Outcome H () (OfTool Covers)
      (do
        let storedPos ← shared getCurrentPosition
        let currentPosition ← shared (onChain (hostRebalancer config) mid.solUsd storedPos)
        before
        let result ← shared
          (executeRebalance (hostRebalancer config) mid currentPosition undecided)
        after
        return endingOf result : Command Ending)
      (fun _ => OfTool Covers) (OfTool Covers) := by
  apply outcome_stored.bind
  intro row
  apply (outcome_onChain hH).bind
  intro current
  have hstill : Outcome H () (OfTool fun O row => Covers O row ∧ ReadAs current O row) before
      (fun _ => OfTool fun O row => Covers O row ∧ ReadAs current O row) (OfTool Covers) :=
    (outcome_steady hH hbefore).mono (fun _ hp => hp) (fun _ _ hp => hp) fun _ hp => hp.1
  apply hstill.bind
  intro _
  apply (outcome_rebalance hH).bind
  intro result
  exact outcome_steady hH (within_bind hafter fun _ => within_pure _)

theorem outcome_runCollectFees (hH : TruthfulTool H) :
    Outcome H () (OfTool Covers) (runCollectFees (hostRebalancer config))
      (fun _ => OfTool Covers) (OfTool Covers) := by
  apply (outcome_steady hH within_buildRuntime).bind
  intro _
  apply (outcome_steady hH (within_shared (within_trustedMid _))).bind
  intro mid
  cases mid with
  | none => exact outcome_pure fun p hp => hp
  | some mid =>
    exact outcome_operatorRebalance config hH (pure ()) (recordAction "collect-fees")
      (within_pure ()) (within_recordAction _)

theorem outcome_runForceRebalance (hH : TruthfulTool H) :
    Outcome H () (OfTool Covers) (runForceRebalance (hostRebalancer config))
      (fun _ => OfTool Covers) (OfTool Covers) := by
  apply (outcome_steady hH within_buildRuntime).bind
  intro _
  apply (outcome_steady hH (within_shared (within_trustedMid _))).bind
  intro mid
  cases mid with
  | none => exact outcome_pure fun p hp => hp
  | some mid =>
    exact outcome_operatorRebalance config hH (recordAction "rebalance --force") (pure ())
      (within_recordAction _) (within_pure ())

theorem outcome_forgetPosition {A B : Set String → Option StoredPosition → Prop}
    (hkept : config.dryRun = true → ∀ O row, A O row → B O row)
    (hgone : config.dryRun = false → ∀ O row, A O row → B O none) :
    Outcome H () (OfTool A) (forgetPosition (hostRebalancer config)) (fun _ => OfTool B)
      (OfTool A) := by
  apply outcome_ite
  · exact fun hdry => outcome_pure fun p hp => hkept hdry _ _ hp
  · intro hdry
    have hlive : config.dryRun = false := by simpa [hostRebalancer] using hdry
    apply Outcome.bind (B := fun _ => OfTool A)
    · exact outcome_choose fun b h o ha _ => ha
    · intro r
      cases r with
      | none => exact outcome_modify fun b h ha => hgone hlive _ _ ha
      | some e => exact fun b h ha => ha

theorem closed_covers {k : String} {O : Set String} {row : Option StoredPosition}
    (h : Closed config k Covers O row) : Covers O row := by
  obtain ⟨O₀, hcovers, rfl⟩ := h
  intro j hj
  unfold leftOpen at hj
  split at hj
  · exact hcovers j hj
  · exact hcovers j hj.1

theorem closed_row {k : String} {O : Set String} {row row' : Option StoredPosition}
    (h : Closed config k (fun O r => Covers O r ∧ r = row') O row)
    (hk : row'.map StoredPosition.nftMint = some k) (hlive : config.dryRun = false) : O = ∅ := by
  obtain ⟨O₀, ⟨hcovers, rfl⟩, rfl⟩ := h
  ext j
  simp only [leftOpen, hlive, Bool.false_eq_true, if_false, Set.mem_sdiff, Set.mem_ofPred_eq,
    Set.mem_empty_iff_false, iff_false, not_and, not_not]
  intro hj
  rw [← hk]
  exact hcovers j hj

/-- What an exit leaves: nothing, unless it failed or was a dry run. -/
def Exited (e : Ending) (O : Set String) (row : Option StoredPosition) : Prop :=
  Covers O row ∧ (config.dryRun = false → e = .returned → O = ∅ ∧ row = none)

theorem outcome_exitPosition (hH : TruthfulTool H) (stored : StoredPosition) :
    Outcome H () (OfTool fun O r => Covers O r ∧ r = some stored)
      (exitPosition (hostRebalancer config) stored.nftMint)
      (fun e => OfTool (Exited config e)) (OfTool Covers) := by
  have hsubmit := outcome_submitClosing hH config stored.nftMint
    (A := fun O r => Covers O r ∧ r = some stored)
  apply (outcome_attempted (hsubmit.mono (fun _ hp => hp) (fun _ _ hp => hp) fun _ hp => hp.1)).bind
  intro r
  cases r with
  | error e =>
    have hfailed : Outcome H () (OfTool Covers)
        (do
          OperatorCli.notify .critical (.emergencyExitFailed e)
          return .exited 1 : Command Ending)
        (fun e => OfTool (Exited config e)) (OfTool Covers) := by
      apply (outcome_steady hH (within_notify _ _)).bind
      intro _
      exact outcome_pure fun p hp => ⟨hp, fun _ h => by cases h⟩
    exact hfailed
  | ok closeSig =>
    have hforget : Outcome H ()
        (OfTool (Closed config stored.nftMint fun O r => Covers O r ∧ r = some stored))
        (forgetPosition (hostRebalancer config)) (fun _ => OfTool (Exited config .returned))
        (OfTool (Closed config stored.nftMint fun O r => Covers O r ∧ r = some stored)) := by
      apply outcome_forgetPosition
      · rintro hdry O row ⟨O₀, ⟨hcovers, -⟩, hO⟩
        refine ⟨closed_covers config ⟨O₀, hcovers, hO⟩, ?_⟩
        intro hlive
        rw [hdry] at hlive
        cases hlive
      · intro hlive O row hclosed
        have hempty := closed_row config hclosed rfl hlive
        subst hempty
        exact ⟨(fun k hk => hk.elim), fun _ _ => ⟨rfl, rfl⟩⟩
    have hcovered : Outcome H ()
        (OfTool (Closed config stored.nftMint fun O r => Covers O r ∧ r = some stored))
        (forgetPosition (hostRebalancer config)) (fun _ => OfTool (Exited config .returned))
        (OfTool Covers) := by
      apply hforget.mono (fun _ hp => hp) (fun _ _ hp => hp)
      rintro p ⟨O₀, ⟨hcovers, -⟩, hO⟩
      exact closed_covers config ⟨O₀, hcovers, hO⟩
    apply hcovered.bind
    intro _
    have htold := outcome_announced hH (A := Exited config .returned) "emergency-exit" .critical
      fun user => .emergencyExitExecuted user closeSig
    exact htold.mono (fun _ hp => hp) (fun e _ hp => ⟨hp.1, fun hlive _ => hp.2 hlive rfl⟩)
      fun _ hp => hp.1

theorem outcome_runEmergencyExit (hH : TruthfulTool H) :
    Outcome H () (OfTool Covers) (runEmergencyExit (hostRebalancer config))
      (fun e => OfTool fun O row => Covers O row ∧ (Confirms H → Exited config e O row))
      (OfTool Covers) := by
  apply (outcome_question hH .emergencyExit).bind
  intro answer
  apply outcome_of_fact
  intro hanswer
  apply outcome_ite
  · intro _
    apply (outcome_steady hH within_buildRuntime).bind
    intro _
    apply outcome_stored.bind
    intro row
    cases row with
    | none =>
      have hnothing : ∀ O row, Covers O row ∧ row = none → O = ∅ := by
        rintro O row ⟨hcovers, rfl⟩
        exact Set.eq_empty_of_forall_notMem fun k hk => by cases hcovers k hk
      refine (outcome_recorded hH _ _).mono (fun _ hp => hp) ?_ fun _ hp => hp.1
      rintro e p ⟨hcovers, hrow⟩
      exact ⟨hcovers, fun _ => ⟨hcovers, fun _ _ => ⟨hnothing _ _ ⟨hcovers, hrow⟩, hrow⟩⟩⟩
    | some stored =>
      exact (outcome_exitPosition config hH stored).mono (fun _ hp => hp)
        (fun _ _ hp => ⟨hp.1, fun _ => hp⟩) fun _ hp => hp
  · intro hno
    apply outcome_pure
    exact fun p hp => ⟨hp, fun hconfirms => absurd (hanswer hconfirms) hno⟩

theorem outcome_runCloseOrphan (hH : TruthfulTool H) (nftMint : String) :
    Outcome H () (OfTool Covers) (runCloseOrphan (hostRebalancer config) nftMint)
      (fun _ => OfTool Covers) (OfTool Covers) := by
  apply (outcome_steady hH within_buildRuntime).bind
  intro _
  have hbuild : Outcome H () (OfTool Covers)
      (shared ((hostRebalancer config).venue.buildClosePositionTx nftMint))
      (fun close p => close.tx = [.closePosition nftMint] ∧ OfTool Covers p) (OfTool Covers) := by
    have hask : Outcome H () (OfTool Covers)
        (shared (BotProgram.ask (.buildClosePositionTx nftMint)))
        (fun _ => OfTool Covers) (OfTool Covers) :=
      outcome_steady hH (within_shared (within_call trivial rfl))
    have heq : shared ((hostRebalancer config).venue.buildClosePositionTx nftMint) =
        shared (BotProgram.ask (.buildClosePositionTx nftMint)) >>= fun expected =>
          pure ⟨[.closePosition nftMint], expected⟩ := by
      exact (botWiring.lift_bind _ _).trans (congrArg _ (funext fun _ => botWiring.lift_pure _))
    rw [heq]
    apply hask.bind
    exact fun expected => outcome_pure fun p hp => ⟨rfl, hp⟩
  apply (outcome_attempted (F := OfTool Covers) hbuild).bind
  intro r
  cases r with
  | error e => exact outcome_pure fun p hp => hp
  | ok close =>
    apply outcome_of_fact
    intro htx
    apply (outcome_steady hH (within_question _)).bind
    intro answer
    apply outcome_ite
    · intro _
      have hsubmit : Outcome H () (OfTool Covers)
          (shared (hostSubmitter.submit close.tx (submitOptions (hostRebalancer config))))
          (fun _ => OfTool Covers) (OfTool Covers) := by
        rw [htx]
        exact (outcome_submit hH config nftMint).mono (fun _ hp => hp)
          (fun _ _ hp => closed_covers config hp) fun _ hp => hp
      apply (outcome_attempted (F := OfTool Covers) hsubmit).bind
      intro r
      cases r with
      | error e => exact outcome_steady hH (within_bind (within_notify _ _) fun _ => within_pure _)
      | ok closeSig => exact outcome_announced hH _ _ _
    · exact fun _ => outcome_pure fun p hp => hp

def NamesOpen (O : Set String) (row : Option StoredPosition) : Prop :=
  ∀ k, row.map StoredPosition.nftMint = some k → k ∈ O

theorem namesOpen_of_verdict {current : Option PositionSnapshot} {O : Set String}
    {row : Option StoredPosition} (hread : ReadAs current O row)
    (hverdict : ∀ reason, Strategy.reconcile row current ≠ .mismatch reason) : NamesOpen O row := by
  intro k hk
  cases row with
  | none => cases hk
  | some stored =>
    cases current with
    | none => exact absurd rfl (hverdict .stateOnly)
    | some p => exact (hread.isOpen k hk).mp rfl

theorem namesOpen_overwritten {onchain : Option (PositionSnapshot × ℤ)} {O : Set String}
    {row : Option StoredPosition} (hread : ReadAs (onchain.map Prod.fst) O row) :
    NamesOpen O (onchain.map rowOf) := by
  intro k hk
  cases onchain with
  | none => cases hk
  | some onchain =>
    cases hk
    exact (hread.isOpen _ (hread.key _ rfl)).mp rfl

theorem covers_overwritten {onchain : Option (PositionSnapshot × ℤ)} {O : Set String}
    {row : Option StoredPosition} (hcovers : Covers O row)
    (hread : ReadAs (onchain.map Prod.fst) O row) : Covers O (onchain.map rowOf) := by
  intro k hk
  have hrow := hcovers k hk
  obtain ⟨p, hp⟩ := Option.isSome_iff_exists.mp ((hread.isOpen k hrow).mpr hk)
  have hkey := (hread.key p hp).symm.trans hrow
  cases onchain with
  | none => cases hp
  | some onchain =>
    cases hp
    exact hkey

theorem outcome_overwrite {A B : Set String → Option StoredPosition → Prop}
    {onchain : Option (PositionSnapshot × ℤ)} (hA : ∀ O row, A O row → B O (onchain.map rowOf)) :
    Outcome H () (OfTool A) (overwrite onchain) (fun _ => OfTool B) (OfTool A) := by
  cases onchain with
  | none =>
    apply Outcome.bind (B := fun _ => OfTool A)
    · exact outcome_choose fun b h o ha _ => ha
    · intro r
      cases r with
      | none => exact outcome_modify fun b h ha => hA _ _ ha
      | some e => exact fun b h ha => ha
  | some onchain =>
    apply outcome_shared
    apply outcome_botStatement
    · exact fun b h ha => hA _ _ ha
    · exact fun b h e ha => ha

theorem outcome_readOnchain (hH : TruthfulTool H) {A : Set String → Option StoredPosition → Prop}
    {row : Option StoredPosition} :
    Outcome H () (OfTool fun O r => A O r ∧ r = row)
      (shared (readOnchain (hostRebalancer config) row))
      (fun onchain => OfTool fun O r => A O r ∧ r = row ∧ ReadAs (onchain.map Prod.fst) O r)
      (OfTool A) := by
  have hlift : shared (readOnchain (hostRebalancer config) row) =
      shared (onChain (hostRebalancer config) 0 row) >>= _ := botWiring.lift_bind _ _
  rw [hlift]
  have hread : Outcome H () (OfTool fun O r => A O r ∧ r = row)
      (shared (onChain (hostRebalancer config) 0 row))
      (fun current => OfTool fun O r => A O r ∧ r = row ∧ ReadAs current O r) (OfTool A) :=
    (outcome_onChain hH (A := fun O r => A O r ∧ r = row)).mono (fun _ hp => ⟨hp, hp.2⟩)
      (fun _ _ hp => ⟨hp.1.1, hp.1.2, hp.2⟩) fun _ hp => hp.1
  apply hread.bind
  intro current
  apply outcome_shared
  cases current with
  | none => exact outcome_pure fun p hp => hp
  | some current =>
    apply Outcome.bind (B := fun _ => OfState fun b =>
      A (openKeys b) b.world.db.positionState ∧ b.world.db.positionState = row ∧
        ReadAs (some current) (openKeys b) b.world.db.positionState)
    · exact outcome_choose fun b h o ha _ => ha
    · exact fun ms => outcome_pure fun p hp => hp

theorem outcome_runReconcile (hH : TruthfulTool H) {A : Set String → Option StoredPosition → Prop}
    (hA : ∀ O row (onchain : Option (PositionSnapshot × ℤ)), A O row →
      ReadAs (onchain.map Prod.fst) O row → A O (onchain.map rowOf)) :
    Outcome H () (OfTool A) (runReconcile (hostRebalancer config))
      (fun e => OfTool fun O row => A O row ∧ (Confirms H → e = .returned → NamesOpen O row))
      (OfTool A) := by
  apply (outcome_steady hH within_buildRuntime).bind
  intro _
  apply outcome_stored.bind
  intro row
  apply (outcome_readOnchain config hH).bind
  intro onchain
  cases hverdict : Strategy.reconcile row (onchain.map Prod.fst) with
  | mismatch reason =>
    apply Outcome.mono (A := OfTool fun O r => A O r ∧ ReadAs (onchain.map Prod.fst) O r)
      (E := OfTool A) _ (fun _ hp => ⟨hp.1, hp.2.2⟩) (fun _ _ hp => hp) fun _ hp => hp
    apply ((outcome_question hH .reconcileOverwrite).mono (fun _ hp => hp) (fun _ _ hp => hp)
      fun _ hp => hp.1).bind
    intro answer
    apply outcome_of_fact
    intro hanswer
    apply outcome_ite
    · intro _
      have hover : Outcome H ()
          (OfTool fun O r => A O r ∧ ReadAs (onchain.map Prod.fst) O r) (overwrite onchain)
          (fun _ => OfTool fun O r => A O r ∧ NamesOpen O r)
          (OfTool fun O r => A O r ∧ ReadAs (onchain.map Prod.fst) O r) :=
        outcome_overwrite fun O r hp => ⟨hA O r onchain hp.1 hp.2, namesOpen_overwritten hp.2⟩
      apply (hover.mono (fun _ hp => hp) (fun _ _ hp => hp) fun _ hp => hp.1).bind
      intro _
      exact (outcome_announced hH _ _ _).mono (fun _ hp => hp)
        (fun _ _ hp => ⟨hp.1, fun _ _ => hp.2⟩) fun _ hp => hp.1
    · intro hno
      apply outcome_pure
      exact fun p hp => ⟨hp.1, fun hconfirms => absurd (hanswer hconfirms) hno⟩
  | okEmpty =>
    refine (outcome_recorded hH _ _).mono (fun _ hp => hp) ?_ fun _ hp => hp.1
    rintro e p ⟨ha, hrow, hread⟩
    refine ⟨ha, fun _ _ => namesOpen_of_verdict hread ?_⟩
    rw [hrow]
    intro reason hmismatch
    rw [hverdict] at hmismatch
    cases hmismatch
  | okMatch =>
    refine (outcome_recorded hH _ _).mono (fun _ hp => hp) ?_ fun _ hp => hp.1
    rintro e p ⟨ha, hrow, hread⟩
    refine ⟨ha, fun _ _ => namesOpen_of_verdict hread ?_⟩
    rw [hrow]
    intro reason hmismatch
    rw [hverdict] at hmismatch
    cases hmismatch

end Commands

section Turns

variable (library : ConfigFile.Library)

theorem outcome_program (hH : TruthfulTool H) (config : BotConfig) (c : CliCommand) :
    Outcome H () (OfTool Covers) (c.program library (hostRebalancer config))
      (fun _ => OfTool Covers) (OfTool Covers) := by
  have haction : Outcome H () (OfTool Covers) (c.action library (hostRebalancer config))
      (fun _ => OfTool Covers) (OfTool Covers) := by
    cases c with
    | pause => exact outcome_steady hH (within_runPause library true)
    | resume => exact outcome_steady hH (within_runPause library false)
    | clearDegraded => exact outcome_steady hH within_runClearDegraded
    | collectFees => exact outcome_runCollectFees config hH
    | rebalance => exact outcome_runForceRebalance config hH
    | emergencyExit =>
      exact (outcome_runEmergencyExit config hH).mono (fun _ hp => hp) (fun _ _ hp => hp.1)
        fun _ hp => hp
    | closeOrphan nftMint => exact outcome_runCloseOrphan config hH nftMint
    | reconcile =>
      exact (outcome_runReconcile config hH fun O row onchain => covers_overwritten).mono
        (fun _ hp => hp) (fun _ _ hp => hp.1) fun _ hp => hp
  exact outcome_program_of haction fun p hp => hp

/-- The bot is started anew or makes one tick, or there is one command under whatever configuration
it has read. -/
inductive Turn (H : CliHost) (library : ConfigFile.Library) (pool : MeteoraPosition.Venue)
    (cfg : MainConfig) : BotWorld → BotWorld → Prop where
  | start {b b' x} : Ends (botHost H) (startup (hostDeps library pool) (BotRuns.restart b)) x b' →
      Turn H library pool cfg b b'
  | tick {b b'} : Ticked (botHost H) (hostDeps library pool) cfg b b' → Turn H library pool cfg b b'
  | command {b b' x} (config : BotConfig) (c : CliCommand) :
      Ends H (c.program library (hostRebalancer config) b) x b' → Turn H library pool cfg b b'

variable {library} {pool : MeteoraPosition.Venue} {cfg : MainConfig} {b b' b'' : BotWorld}

def Covered (b : BotWorld) : Prop := Covers (openKeys b) b.world.db.positionState

theorem within_startup : Within (botBounds true false true) True
    (startup (hostDeps library pool)) := by
  apply within_bind (within_look rfl rfl)
  intro samples
  apply within_bind (within_read _)
  intro row
  cases row with
  | none => exact within_pure _
  | some stored =>
    apply within_bind (within_look (q := .getPosition stored.nftMint _) rfl rfl)
    intro onchain
    split
    · exact within_bind (within_notify _ _) fun _ => within_pure _
    · exact within_pure _

theorem turn_covered (hH : TruthfulTool H) (hlive : cfg.maker.dryRun = false) (hb : Covered b)
    (hturn : Turn H library pool cfg b b') : Covered b' := by
  cases hturn with
  | @start x hends =>
    have hquiet : Outcome (botHost H) () (OfPositions (ι := Unit) (J := Unit) Covers)
        (startup (hostDeps library pool)) (fun _ => OfPositions Covers) (OfPositions Covers) :=
      outcome_looks hH.bot within_startup
    exact ends_of_outcome (A := Covered) (E := Covered) hquiet hends hb
  | tick htick =>
    obtain ⟨x, hends⟩ := htick
    obtain ⟨h, hrecorded⟩ := ends_recorded (J := Unit) (i := ()) hends []
    have hend := (outcome_tick hH.bot hlive).ends hb hrecorded
    cases x with
    | ok _ => exact hend
    | error e => exact hend
  | @command x config c hends =>
    exact ends_of_outcome (outcome_program library hH config c) hends hb

/-- Nothing is open, or the stored position only. -/
def Tracked (b : BotWorld) : Prop := openKeys b = ∅ ∨ ∃ k, openKeys b = {k} ∧ storedKey b = some k

theorem covered_of_tracked (hb : Tracked b) : Covered b := by
  intro k hk
  rcases hb with hnone | ⟨k', hone, hstored⟩
  · rw [hnone] at hk
    exact hk.elim
  · rw [hone] at hk
    cases hk
    exact hstored

theorem turns_covered (hH : TruthfulTool H) (hlive : cfg.maker.dryRun = false) (hb : Tracked b)
    (hrun : Relation.ReflTransGen (Turn H library pool cfg) b b') : Covered b' := by
  induction hrun with
  | refl => exact covered_of_tracked hb
  | tail _ hturn ih => exact turn_covered hH hlive ih hturn

/-- However starts, ticks and commands follow on one another, at most one position is open after
each, and if one is, it is the stored one. -/
theorem turns_track_single (hH : TruthfulTool H) (hlive : cfg.maker.dryRun = false)
    (hb : Tracked b) (hrun : Relation.ReflTransGen (Turn H library pool cfg) b b') :
    (openKeys b').Subsingleton ∧ ∀ k ∈ openKeys b', storedKey b' = some k := by
  have hcovers := turns_covered hH hlive hb hrun
  refine ⟨?_, hcovers⟩
  intro j hj k hk
  exact Option.some.inj ((hcovers j hj).symm.trans (hcovers k hk))

/-- The row names what is open, and nothing else. -/
def Exact (b : BotWorld) : Prop :=
  (openKeys b = ∅ ∧ storedKey b = none) ∨ ∃ k, openKeys b = {k} ∧ storedKey b = some k

theorem exact_of_covers (hcovers : Covered b)
    (hnames : NamesOpen (openKeys b) b.world.db.positionState) : Exact b := by
  have hstored : ∀ k, storedKey b = some k → k ∈ openKeys b := hnames
  cases hkey : storedKey b with
  | none =>
    refine .inl ⟨?_, hkey⟩
    exact Set.eq_empty_of_forall_notMem fun k hk => by cases hkey.symm.trans (hcovers k hk)
  | some k =>
    refine .inr ⟨k, ?_, hkey⟩
    ext j
    constructor
    · intro hj
      exact (Option.some.inj (hkey.symm.trans (hcovers j hj))).symm
    · rintro rfl
      exact hstored j hkey

/-- After any turns, a reconciliation that the operator agrees to and that returns has put the
row right, stale or not. -/
theorem reconcile_puts_right (hH : TruthfulTool H) (hlive : cfg.maker.dryRun = false)
    (hb : Tracked b) (hrun : Relation.ReflTransGen (Turn H library pool cfg) b b')
    {H' : CliHost} (hH' : TruthfulTool H') (hconfirms : Confirms H') (config : BotConfig)
    (hends : Ends H' (CliCommand.reconcile.program library (hostRebalancer config) b')
      (.ok .returned) b'') : Exact b'' := by
  have hcovered := turns_covered hH hlive hb hrun
  have haction := outcome_runReconcile config hH' (A := Covers) fun O row onchain =>
    covers_overwritten
  have hout : Outcome H' () (OfTool Covers)
      (CliCommand.reconcile.program library (hostRebalancer config))
      (fun e => OfTool fun O row => Covers O row ∧ (e = .returned → NamesOpen O row))
      (OfTool Covers) := by
    apply outcome_program_of (haction.mono (fun _ hp => hp)
      (fun _ _ hp => ⟨hp.1, hp.2 hconfirms⟩) fun _ hp => hp)
    exact fun p hp => ⟨hp, fun h => by cases h⟩
  have hend := (yields_of_outcome hout hcovered).ends hends
  exact exact_of_covers hend.1 (hend.2 rfl)

/-- After any turns, an exit that the operator agrees to and that returns leaves nothing open
and nothing stored. -/
theorem exit_leaves_nothing (hH : TruthfulTool H) (hlive : cfg.maker.dryRun = false)
    (hb : Tracked b) (hrun : Relation.ReflTransGen (Turn H library pool cfg) b b')
    {H' : CliHost} (hH' : TruthfulTool H') (hconfirms : Confirms H') (config : BotConfig)
    (hconfig : config.dryRun = false)
    (hends : Ends H' (CliCommand.emergencyExit.program library (hostRebalancer config) b')
      (.ok .returned) b'') : openKeys b'' = ∅ ∧ storedKey b'' = none := by
  have hcovered := turns_covered hH hlive hb hrun
  have hout : Outcome H' () (OfTool Covers)
      (CliCommand.emergencyExit.program library (hostRebalancer config))
      (fun e => OfTool fun O row => e = .returned → O = ∅ ∧ row = none) (OfTool Covers) := by
    apply outcome_program_of ((outcome_runEmergencyExit config hH').mono (fun _ hp => hp)
      (fun _ _ hp => (hp.2 hconfirms).2 hconfig) fun _ hp => hp)
    exact fun p _ h => by cases h
  have hend := (yields_of_outcome hout hcovered).ends hends rfl
  refine ⟨hend.1, ?_⟩
  simp [storedKey, DepositorStore.getCurrentPosition, hend.2]

end Turns

/-- The script of the bot, with an operator who agrees to everything. -/
def toolScript (S : Script botInterface BotWorld Thrown) : Script cliInterface BotWorld Thrown where
  choose
    | .bot c, b => S.choose c b
    | .environment _, _ => some "operator"
    | .clearCurrentPosition, _ => none
  respond
    | .bot q, b => S.respond q b
    | .buildRuntime, b => (.ok (), b)
    | .question prompt, b => (.ok prompt.word, b)
    | .post _ _, b => (.ok (), b)

def toolHost (S : Script botInterface BotWorld Thrown) : CliHost where
  choose c b o := o = (toolScript S).choose c b
  respond q b a b' := (a, b') = (toolScript S).respond q b

theorem toolHost_ends (S : Script botInterface BotWorld Thrown) (m : Command Ending) (b : BotWorld) :
    Ends (toolHost S) (m b) ((toolScript S).play (m b)).1 ((toolScript S).play (m b)).2 := by
  have hfollows : (toolScript S).Follows (toolHost S) fun _ _ => true :=
    ⟨fun _ _ _ => rfl, fun _ _ => rfl⟩
  exact play_ends hfollows ((toolScript S).meets_any _)

theorem toolHost_truthful {S : Script botInterface BotWorld Thrown}
    (hbot : Truthful (botHost (toolHost S))) : TruthfulTool (toolHost S) where
  bot := hbot
  still := by
    intro q b a b' hr hq
    have hsame : b' = b := by
      cases q with
      | bot q => exact absurd rfl (hq q)
      | buildRuntime => exact congrArg Prod.snd hr
      | question prompt => exact congrArg Prod.snd hr
      | post severity message => exact congrArg Prod.snd hr
    subst hsame
    exact ⟨rfl, rfl⟩

theorem toolHost_keepsLog (sc : BotScene) : ToolKeepsLog (toolHost sc.script) := by
  intro q b a b' hr
  cases q with
  | bot q => exact (sc.respond_own hr).1
  | buildRuntime => exact congrArg (fun p => BotWorld.rebalanceLog p.2) hr
  | question prompt => exact congrArg (fun p => BotWorld.rebalanceLog p.2) hr
  | post severity message => exact congrArg (fun p => BotWorld.rebalanceLog p.2) hr

theorem toolHost_confirms (S : Script botInterface BotWorld Thrown) : Confirms (toolHost S) := by
  intro prompt b answer b' hr
  have hanswer : answer = prompt.word := Except.ok.inj (congrArg Prod.fst hr)
  subst hanswer
  have hclose : decide (TextInput.trim "CLOSE" = "CLOSE") = true := by decide
  have hyes : decide (TextInput.trim "YES" = "YES") = true := by decide
  cases prompt with
  | emergencyExit => exact hclose
  | closeOrphan expected => exact hclose
  | clearDegraded => exact hyes
  | reconcileOverwrite => exact hyes

def played (c : CliCommand) (b : BotWorld) : Except Thrown Ending × BotWorld :=
  (toolScript openingScene.script).play (c.program blindLibrary (hostRebalancer playedConfig) b)

theorem played_ends (c : CliCommand) (b : BotWorld) : Ends (toolHost openingScene.script)
    (c.program blindLibrary (hostRebalancer playedConfig) b) (played c b).1 (played c b).2 :=
  toolHost_ends _ _ b

theorem opened_covered : Relation.ReflTransGen
    (Turn (toolHost openingScene.script) blindLibrary flatVenue playedMain) (botWith [] none)
    openingEnd := .single (.tick ⟨_, openingScene.ends _ _⟩)

def openedKeys (b : BotWorld) : List String := b.world.chain.positions.map OnchainPosition.publicKey

theorem openingScene_truthful : TruthfulTool (toolHost openingScene.script) :=
  toolHost_truthful (openingScene.truthful (fun _ => rfl) fun _ => rfl)

theorem blank_tracked : Tracked (botWith [] none) := by
  left
  simp [openKeys, botWith, VaultProgram.World.initial]

theorem returns {c : CliCommand} {b : BotWorld} (h : (played c b).1 = .ok .returned) :
    Ends (toolHost openingScene.script) (c.program blindLibrary (hostRebalancer playedConfig) b)
      (.ok .returned) (played c b).2 := h ▸ played_ends c b

/-- After the opening tick a forced rebalance moves the position. -/
theorem rebalanced_tracks : openedKeys (played .rebalance openingEnd).2 = ["new"] ∧
    (openKeys (played .rebalance openingEnd).2).Subsingleton := by
  have hrun := opened_covered.tail (.command playedConfig .rebalance (played_ends _ openingEnd))
  exact ⟨by decide +kernel,
    (turns_track_single openingScene_truthful rfl blank_tracked hrun).1⟩

def orphaned : BotWorld := (played (.closeOrphan "new") openingEnd).2

/-- The tracked position is closed as if it were an orphan, and then the row is put right. -/
theorem orphaned_put_right : (openedKeys orphaned, storedKey orphaned) = ([], some "new") ∧
    Exact (played .reconcile orphaned).2 := by
  have hrun := opened_covered.tail
    (.command playedConfig (.closeOrphan "new") (played_ends _ openingEnd))
  refine ⟨by decide +kernel, ?_⟩
  exact reconcile_puts_right openingScene_truthful rfl blank_tracked hrun openingScene_truthful
    (toolHost_confirms _) playedConfig (returns (by decide +kernel))

theorem exited_empty : openKeys (played .emergencyExit openingEnd).2 = ∅ ∧
    storedKey (played .emergencyExit openingEnd).2 = none :=
  exit_leaves_nothing openingScene_truthful rfl blank_tracked opened_covered openingScene_truthful
    (toolHost_confirms _) playedConfig rfl (returns (by decide +kernel))

end CliRuns
