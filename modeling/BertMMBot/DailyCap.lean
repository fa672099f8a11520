import BertMMBot.CliRuns
import BertMMBot.RebalanceLimits

/-! # The daily cap over ticks and commands

The operator's rebalances count like those of the loop. Each rebalance checks the cap at the time
that its row will carry, so that no day is overfilled, whatever the clock does from one turn to
the next. -/
namespace DailyCap

open AsyncProgram AsyncContract AsyncRecords RecordedTriples RecordedOutcomes AsyncWiring
open WiredOutcomes VaultTypes BotProgram Rebalancer MainLoop MakerBounds LoopWalk
open TrackedRuns OperatorCli CliBounds PlayedBot
open RebalanceLimits (KeepsLog rebalancesOn_append)
open MeteoraPosition (PositionSnapshot)

def Capped (K : ℕ) (day : ℤ) (log : List LoggedRebalance) : Prop := rebalancesOn day log ≤ K

theorem Capped.append {K : ℕ} {day : ℤ} {log : List LoggedRebalance} {row : LoggedRebalance}
    (hlog : Capped K day log) (hroom : rebalancesOn (utcDay row.record.ts) log < K) :
    Capped K day (log ++ [row]) := by
  unfold Capped
  rw [rebalancesOn_append]
  split
  · next h =>
    subst h
    omega
  · exact hlog

/-- What holds of the log, for the bot and for the parts that a command shares with it. -/
abbrev OfLog (P : List LoggedRebalance → Prop) : Point Unit Unit botInterface BotWorld Thrown → Prop :=
  OfState fun b => P b.rebalanceLog

section Rebalance

variable {H : BotHost} {K : ℕ} {day : ℤ} {config : BotConfig} {mid : MidPrice}
  {current : Option PositionSnapshot} {cause : Cause} {now : ℤ}

theorem log_undisturbed (hH : KeepsLog H) (P : List LoggedRebalance → Prop) :
    Undisturbed H () (botBounds true true true) (OfLog P) where
  local_ := by
    intro b b' h hview hp
    have hlog : b'.rebalanceLog = b.rebalanceLog := congrArg MakerState.rebalanceLog hview
    simpa [OfLog, OfState, hlog] using hp
  choice _ _ hp := hp
  call := by
    intro q b a b' h _ hr hp
    simpa [OfLog, OfState, hH q b a b' hr] using hp

/-- There is room for the row that a rebalance of the time `now` will write. -/
def Room (K : ℕ) (day now : ℤ) (log : List LoggedRebalance) : Prop :=
  Capped K day log ∧ rebalancesOn (utcDay now) log < K

theorem outcome_recordOpened {range : PriceRange} {nftMint : String} :
    Outcome H () (OfLog (Room K day now)) (recordOpened now range current nftMint cause)
      (fun _ => OfLog (Capped K day)) (OfLog (Capped K day)) := by
  apply Outcome.bind (B := fun _ => OfLog (Room K day now))
  · apply outcome_botStatement
    · exact fun b h hp => hp
    · exact fun b h e hp => hp.1
  · intro _
    apply outcome_botStatement
    · exact fun b h hp => hp.1.append hp.2
    · exact fun b h e hp => hp.1

variable (hH : KeepsLog H)

include hH

theorem outcome_steadily {α : Type} {P : List LoggedRebalance → Prop} {m : Process α}
    (hm : Within (botBounds true true true) True m) :
    Outcome H () (OfLog P) m (fun _ => OfLog P) (OfLog P) := outcome_within (log_undisturbed hH P) hm

theorem outcome_roomy {α : Type} {m : Process α} (hm : Within (botBounds true true true) True m) :
    Outcome H () (OfLog (Room K day now)) m (fun _ => OfLog (Room K day now)) (OfLog (Capped K day)) :=
  (outcome_steadily hH hm).mono (fun _ hp => hp) (fun _ _ hp => hp) fun _ hp => hp.1

theorem outcome_persist {range : PriceRange} {nftMint : String} :
    Outcome H () (OfLog (Room K day now))
      (persist (hostRebalancer config) now range current nftMint cause)
      (fun _ => OfLog (Capped K day)) (OfLog (Capped K day)) := by
  apply outcome_ite
  · exact fun _ => outcome_pure fun p hp => hp.1
  · intro _
    apply Outcome.tryCatch
    · exact outcome_recordOpened.bind fun _ => outcome_pure fun p hp => hp
    · intro e
      apply (outcome_steadily hH (within_rollback config nftMint)).bind
      intro _
      exact outcome_steadily hH (within_degrade _ _)

theorem outcome_reopen {closeSig : Option Signature} :
    Outcome H () (OfLog (Room K day now))
      (reopen (hostRebalancer config) now mid current cause closeSig)
      (fun _ => OfLog (Capped K day)) (OfLog (Capped K day)) := by
  have hcapped : ∀ p, OfLog (Room K day now) p → OfLog (Capped K day) p := fun _ hp => hp.1
  apply (outcome_roomy hH (within_refreshPool config)).bind
  intro _
  apply (outcome_roomy hH (within_sizePosition config mid closeSig)).bind
  intro sized
  cases sized with
  | error r => exact outcome_pure hcapped
  | ok sizing =>
    have hopen : Within (botBounds true true true) True
        (openPosition (hostRebalancer config) mid (newRange (hostRebalancer config) mid) sizing
          closeSig) :=
      within_tryCatch (within_bind (within_submitOpen config mid _ sizing) fun _ => within_pure _)
        fun _ => within_degrade _ _
    apply (outcome_roomy hH hopen).bind
    intro o
    cases o with
    | error r => exact outcome_pure hcapped
    | ok o =>
      apply (outcome_persist hH).bind
      intro saved
      cases saved with
      | error r => exact outcome_pure fun p hp => hp
      | ok _ => exact outcome_steadily hH (within_announce config _ _ _ _ o)

theorem outcome_executeRebalance (hcap : config.maxRebalancesPerDay ≤ K) :
    Outcome H () (OfLog (Capped K day)) (executeRebalance (hostRebalancer config) mid current cause)
      (fun _ => OfLog (Capped K day)) (OfLog (Capped K day)) := by
  apply (outcome_steadily hH within_now).bind
  intro now
  apply (outcome_steadily hH (within_drawdownBreaker config mid current)).bind
  intro tripped
  cases tripped with
  | some r => exact outcome_pure fun p hp => hp
  | none =>
    apply Outcome.bind (B := fun today => OfLog fun log =>
      Capped K day log ∧ today = rebalancesOn (utcDay now) log)
    · exact outcome_read fun p hp => ⟨hp, rfl⟩
    intro today
    apply outcome_ite
    · exact fun _ => outcome_pure fun p hp => hp.1
    · intro hbelow
      have hroom : ∀ p, OfLog (fun log => Capped K day log ∧ today = rebalancesOn (utcDay now) log) p →
          OfLog (Room K day now) p := by
        rintro p ⟨hp, htoday⟩
        refine ⟨hp, ?_⟩
        rw [← htoday]
        exact (Nat.lt_of_not_le hbelow).trans_le hcap
      apply ((outcome_roomy hH (within_closePosition config current)).mono hroom
        (fun _ _ hp => hp) fun _ hp => hp).bind
      intro closed
      cases closed with
      | error r => exact outcome_pure fun p hp => hp.1
      | ok closeSig => exact outcome_reopen hH

end Rebalance

section Tick

variable {H : BotHost} {K : ℕ} {day : ℤ} {library : ConfigFile.Library} {pool : MeteoraPosition.Venue}
  {cfg : MainConfig}

theorem outcome_tickWithPosition (hH : KeepsLog H) (hcap : cfg.maker.maxRebalancesPerDay ≤ K)
    {t : ℤ} {killed : Bool} {mid : Option MidPrice} {row : Option StoredPosition}
    {position : Option PositionSnapshot} :
    Outcome H () (OfLog (Capped K day))
      (tickWithPosition (hostDeps library pool) cfg t killed mid row position)
      (fun _ => OfLog (Capped K day)) (OfLog (Capped K day)) := by
  have hleads : Leads H () (botBounds true true true) (OfLog (Capped K day)) (OfLog (Capped K day)) :=
    fun _ hm => outcome_steadily hH hm
  have hheart : Outcome H () (OfLog (Capped K day)) writeHeartbeat (fun _ => OfLog (Capped K day))
      (OfLog (Capped K day)) := outcome_steadily hH within_writeHeartbeat
  apply (outcome_steadily hH (within_read _)).bind
  intro s
  cases hinit : initialMid row s with
  | some mid =>
    have hopen : Outcome H () (OfLog (Capped K day)) (openInitial (hostDeps library pool) cfg mid)
        (fun _ => OfLog (Capped K day)) (OfLog (Capped K day)) :=
      outcome_openInitial_of observant_botBounds hleads (outcome_executeRebalance hH hcap)
    exact hopen.bind fun _ => hheart
  | none =>
    have hact : Outcome H () (OfLog (Capped K day))
        (actOn (hostDeps library pool) cfg s (Strategy.decide s (strategyParams cfg.maker)))
        (fun _ => OfLog (Capped K day)) (OfLog (Capped K day)) :=
      outcome_actOn_of observant_botBounds hleads fun _ _ _ _ _ => outcome_executeRebalance hH hcap
    apply hact.bind
    intro _
    exact (outcome_steadily hH (within_vaultPostRebalance library pool cfg _)).bind fun _ => hheart

theorem outcome_tick (hH : KeepsLog H) (hcap : cfg.maker.maxRebalancesPerDay ≤ K) :
    Outcome H () (OfLog (Capped K day)) (tick (hostDeps library pool) cfg)
      (fun _ => OfLog (Capped K day)) (OfLog (Capped K day)) := by
  have hleads : Leads H () (botBounds true true true) (OfLog (Capped K day)) (OfLog (Capped K day)) :=
    fun _ hm => outcome_steadily hH hm
  have hbody : ∀ t, Outcome H () (OfLog (Capped K day)) (tickBody (hostDeps library pool) cfg t)
      (fun _ => OfLog (Capped K day)) (OfLog (Capped K day)) := by
    intro t
    apply (outcome_steadily hH (within_killSwitchTripped library pool cfg)).bind
    intro killed
    apply (outcome_steadily hH (within_readOracle cfg t)).bind
    intro mid
    apply (outcome_steadily hH (within_vaultPreRebalance library pool cfg)).bind
    intro _
    apply (outcome_steadily hH (within_read _)).bind
    intro row
    apply (outcome_steadily hH (within_readTracked library pool mid row)).bind
    intro tracked
    cases tracked with
    | rpcFailed => exact outcome_steadily hH within_writeHeartbeat
    | position p => exact outcome_tickWithPosition hH hcap
  exact outcome_tick_of observant_botBounds hleads (outcome_steadily hH within_now) hbody

end Tick

section Commands

variable {H : CliHost} {K : ℕ} {day : ℤ} {library : ConfigFile.Library} {config : BotConfig} {α : Type}

def logsRebalance : BotChoice → Bool
  | .statement (.recordRebalance _) => true
  | _ => false

def partBounds : Bounds botInterface BotWorld (List LoggedRebalance) where
  choice c := logsRebalance c = false
  call _ := True
  view := BotWorld.rebalanceLog

def unlogged : CliChoice → Prop
  | .bot c => logsRebalance c = false
  | _ => True

def commandBounds : Bounds cliInterface BotWorld (List LoggedRebalance) where
  choice := unlogged
  call _ := True
  view := BotWorld.rebalanceLog

theorem within_part {m : Process α} (hm : Within partBounds True m) :
    Within commandBounds True (shared m) := by
  refine within_lift ?_ ?_ ?_ hm
  · exact fun _ hc => hc
  · exact fun q hq => within_call trivial hq
  · exact fun _ _ hview => hview

theorem within_quiet {m : Command α} (hm : Within toolBounds True m) :
    Within commandBounds True m := by
  apply hm.mono
  · intro c hc
    cases c with
    | bot c =>
      change logsRebalance c = false
      have hwrites : writesMove c = false := hc
      cases c with
      | statement st =>
        cases st with
        | recordRebalance row => cases hwrites
        | _ => rfl
      | _ => rfl
    | environment name => trivial
    | clearCurrentPosition => cases hc
  · exact fun _ _ => trivial
  · exact fun b b' hview => congrArg (fun v => v.2.2) hview

theorem within_submitted (tx : Transaction) (opts : SubmitOptions) :
    Within commandBounds True (shared (hostSubmitter.submit tx opts)) :=
  within_part (within_ite (fun _ => within_pure _) fun _ => within_call trivial trivial)

theorem within_attempted {m : Command α} (hm : Within commandBounds True m) :
    Within commandBounds True (attempted m) :=
  within_tryCatch (within_bind hm fun _ => within_pure _) fun _ => within_pure _

theorem within_cleared : Within commandBounds True clearCurrentPosition := by
  apply within_bind (B := commandBounds)
  · exact within_choose trivial
  · intro r
    cases r with
    | none => exact within_modify fun _ => rfl
    | some e => exact within_throw e

theorem within_told (command : String) (severity : Severity) (message : String → CliMessage) :
    Within commandBounds True
      (do
        recordAction command
        OperatorCli.notify severity (message (← osUser))
        return .returned : Command Ending) := by
  apply within_quiet
  apply within_bind (within_recordAction command)
  intro _
  apply within_bind within_osUser
  intro user
  exact within_bind (within_notify _ _) fun _ => within_pure _

theorem within_refused (message : CliMessage) : Within commandBounds True
    (do
      OperatorCli.notify .critical message
      return .exited 1 : Command Ending) :=
  within_quiet (within_bind (within_notify _ _) fun _ => within_pure _)

theorem within_exitPosition (nftMint : String) :
    Within commandBounds True (exitPosition (hostRebalancer config) nftMint) := by
  have hsubmit : Within partBounds True (submitClosing (hostRebalancer config) nftMint) := by
    have hbuild : Within partBounds True
        ((hostRebalancer config).venue.buildClosePositionTx nftMint) :=
      within_bind (within_call trivial trivial) fun _ => within_pure _
    exact within_bind hbuild fun close => within_ite (fun _ => within_pure _)
      fun _ => within_call trivial trivial
  apply within_bind (within_attempted (within_part hsubmit))
  intro r
  cases r with
  | error e => exact within_refused _
  | ok closeSig =>
    have hforget : Within commandBounds True (forgetPosition (hostRebalancer config)) :=
      within_ite (fun _ => within_pure ()) fun _ => within_cleared
    exact within_bind hforget fun _ => within_told _ _ _

theorem within_runEmergencyExit :
    Within commandBounds True (runEmergencyExit (hostRebalancer config)) := by
  apply within_bind (within_quiet (within_question .emergencyExit))
  intro answer
  apply within_ite
  · intro _
    apply within_bind (within_quiet within_buildRuntime)
    intro _
    apply within_bind (within_part (within_read _))
    intro row
    cases row with
    | none => exact within_quiet (within_bind (within_recordAction _) fun _ => within_pure _)
    | some stored => exact within_exitPosition stored.nftMint
  · exact fun _ => within_pure _

theorem within_submitOrphanClose (nftMint : String) (close : ClosePosition) :
    Within commandBounds True (submitOrphanClose (hostRebalancer config) nftMint close) := by
  apply within_bind (within_attempted (within_submitted _ _))
  intro r
  cases r with
  | error e => exact within_refused _
  | ok closeSig => exact within_told _ _ _

theorem within_runCloseOrphan (nftMint : String) :
    Within commandBounds True (runCloseOrphan (hostRebalancer config) nftMint) := by
  apply within_bind (within_quiet within_buildRuntime)
  intro _
  have hbuild : Within partBounds True
      ((hostRebalancer config).venue.buildClosePositionTx nftMint) :=
    within_bind (within_call trivial trivial) fun _ => within_pure _
  apply within_bind (within_attempted (within_part hbuild))
  intro r
  cases r with
  | error e => exact within_pure _
  | ok close =>
    apply within_bind (within_quiet (within_question _))
    intro answer
    exact within_ite (fun _ => within_submitOrphanClose nftMint close) fun _ => within_pure _

theorem within_confirmOverwrite (onchain : Option (PositionSnapshot × ℤ))
    (reason : Strategy.Mismatch) :
    Within commandBounds True (confirmOverwrite onchain reason) := by
  have hover : Within commandBounds True (overwrite onchain) := by
    cases onchain with
    | none => exact within_cleared
    | some onchain =>
      apply within_part
      apply within_bind (B := partBounds)
      · exact within_choose rfl
      · intro r
        cases r with
        | none => exact within_modify fun _ => rfl
        | some e => exact within_throw e
  apply within_bind (within_quiet (within_question .reconcileOverwrite))
  intro answer
  apply within_ite
  · exact fun _ => within_bind hover fun _ => within_told _ _ _
  · exact fun _ => within_pure _

theorem within_runReconcile : Within commandBounds True (runReconcile (hostRebalancer config)) := by
  apply within_bind (within_quiet within_buildRuntime)
  intro _
  apply within_bind (within_part (within_read _))
  intro row
  have hread : Within partBounds True (readOnchain (hostRebalancer config) row) := by
    have hchain : Within partBounds True (onChain (hostRebalancer config) 0 row) := by
      cases row with
      | none => exact within_pure _
      | some stored => exact within_call trivial trivial
    apply within_bind hchain
    intro current
    cases current with
    | none => exact within_pure _
    | some current =>
      apply within_bind (B := partBounds)
      · exact within_choose rfl
      · exact fun _ => within_pure _
  apply within_bind (within_part hread)
  intro onchain
  have hrecorded : Within commandBounds True
      (do recordAction "reconcile:ok"; return .returned : Command Ending) :=
    within_quiet (within_bind (within_recordAction _) fun _ => within_pure _)
  cases Strategy.reconcile row (onchain.map Prod.fst) with
  | mismatch reason => exact within_confirmOverwrite onchain reason
  | okEmpty => exact hrecorded
  | okMatch => exact hrecorded

abbrev OfToolLog (P : List LoggedRebalance → Prop) :
    Point Unit Unit cliInterface BotWorld Thrown → Prop := OfState fun b => P b.rebalanceLog

theorem outcome_unlogged (hH : ToolKeepsLog H) {P : List LoggedRebalance → Prop} {m : Command α}
    (hm : Within commandBounds True m) :
    Outcome H () (OfToolLog P) m (fun _ => OfToolLog P) (OfToolLog P) := by
  have hkept : Undisturbed H () commandBounds (OfToolLog P) := by
    constructor
    · intro b b' h hview hp
      have hlog : b'.rebalanceLog = b.rebalanceLog := hview
      simpa [OfToolLog, OfState, hlog] using hp
    · exact fun _ _ hp => hp
    · intro q b a b' h _ hr hp
      simpa [OfToolLog, OfState, hH q b a b' hr] using hp
  exact outcome_within hkept hm

theorem outcome_operatorRebalance (hH : ToolKeepsLog H) (hcap : config.maxRebalancesPerDay ≤ K)
    {mid : MidPrice} {current : Option PositionSnapshot} :
    Outcome H () (OfToolLog (Capped K day))
      (shared (executeRebalance (hostRebalancer config) mid current undecided))
      (fun _ => OfToolLog (Capped K day)) (OfToolLog (Capped K day)) := by
  have hbot : KeepsLog (botHost H) := fun q b a b' hr => hH (.bot q) b a b' hr
  exact (simulates H).outcome (outcome_executeRebalance hbot hcap)

theorem within_onChain (solUsd : ℚ) (row : Option StoredPosition) :
    Within commandBounds True (shared (onChain (hostRebalancer config) solUsd row)) := by
  apply within_part
  cases row with
  | none => exact within_pure _
  | some stored => exact within_call trivial trivial

theorem outcome_traded (hH : ToolKeepsLog H) (hcap : config.maxRebalancesPerDay ≤ K)
    (mid : MidPrice) (before after : Command Unit) (hbefore : Within toolBounds True before)
    (hafter : Within toolBounds True after) :
    Outcome H () (OfToolLog (Capped K day))
      (do
        let storedPos ← shared getCurrentPosition
        let currentPosition ← shared (onChain (hostRebalancer config) mid.solUsd storedPos)
        before
        let result ← shared
          (executeRebalance (hostRebalancer config) mid currentPosition undecided)
        after
        return endingOf result : Command Ending)
      (fun _ => OfToolLog (Capped K day)) (OfToolLog (Capped K day)) := by
  apply (outcome_unlogged hH (within_part (within_read _))).bind
  intro row
  apply (outcome_unlogged hH (within_onChain _ row)).bind
  intro current
  apply (outcome_unlogged hH (within_quiet hbefore)).bind
  intro _
  apply (outcome_operatorRebalance hH hcap).bind
  intro result
  exact outcome_unlogged hH (within_quiet (within_bind hafter fun _ => within_pure _))

theorem outcome_priced (hH : ToolKeepsLog H) {k : Option MidPrice → Command Ending}
    (hk : ∀ mid, Outcome H () (OfToolLog (Capped K day)) (k mid) (fun _ => OfToolLog (Capped K day))
      (OfToolLog (Capped K day))) :
    Outcome H () (OfToolLog (Capped K day))
      (buildRuntime >>= fun _ => shared (trustedMid (hostRebalancer config)) >>= k)
      (fun _ => OfToolLog (Capped K day)) (OfToolLog (Capped K day)) := by
  apply (outcome_unlogged hH (within_quiet within_buildRuntime)).bind
  intro _
  exact (outcome_unlogged hH (within_quiet (within_shared (within_trustedMid _)))).bind hk

theorem outcome_runCollectFees (hH : ToolKeepsLog H) (hcap : config.maxRebalancesPerDay ≤ K) :
    Outcome H () (OfToolLog (Capped K day)) (runCollectFees (hostRebalancer config))
      (fun _ => OfToolLog (Capped K day)) (OfToolLog (Capped K day)) := by
  apply outcome_priced hH
  intro mid
  cases mid with
  | none => exact outcome_pure fun p hp => hp
  | some mid =>
    exact outcome_traded hH hcap mid (pure ()) (recordAction "collect-fees") (within_pure ())
      (within_recordAction _)

theorem outcome_runForceRebalance (hH : ToolKeepsLog H) (hcap : config.maxRebalancesPerDay ≤ K) :
    Outcome H () (OfToolLog (Capped K day)) (runForceRebalance (hostRebalancer config))
      (fun _ => OfToolLog (Capped K day)) (OfToolLog (Capped K day)) := by
  apply outcome_priced hH
  intro mid
  cases mid with
  | none => exact outcome_pure fun p hp => hp
  | some mid =>
    exact outcome_traded hH hcap mid (recordAction "rebalance --force") (pure ())
      (within_recordAction _) (within_pure ())

theorem outcome_program (hH : ToolKeepsLog H) (hcap : config.maxRebalancesPerDay ≤ K)
    (c : CliCommand) :
    Outcome H () (OfToolLog (Capped K day)) (c.program library (hostRebalancer config))
      (fun _ => OfToolLog (Capped K day)) (OfToolLog (Capped K day)) := by
  have haction : Outcome H () (OfToolLog (Capped K day)) (c.action library (hostRebalancer config))
      (fun _ => OfToolLog (Capped K day)) (OfToolLog (Capped K day)) := by
    cases c with
    | pause => exact outcome_unlogged hH (within_quiet (within_runPause library true))
    | resume => exact outcome_unlogged hH (within_quiet (within_runPause library false))
    | clearDegraded => exact outcome_unlogged hH (within_quiet within_runClearDegraded)
    | collectFees => exact outcome_runCollectFees hH hcap
    | rebalance => exact outcome_runForceRebalance hH hcap
    | emergencyExit => exact outcome_unlogged hH within_runEmergencyExit
    | closeOrphan nftMint => exact outcome_unlogged hH (within_runCloseOrphan nftMint)
    | reconcile => exact outcome_unlogged hH within_runReconcile
  exact outcome_program_of haction fun p hp => hp

end Commands

section Runs

variable {H : CliHost} {K : ℕ} {day : ℤ} {library : ConfigFile.Library} {pool : MeteoraPosition.Venue}
  {cfg : MainConfig}

/-- A tick or a command, with no higher cap than `K`. -/
inductive CappedTurn (K : ℕ) (H : CliHost) (library : ConfigFile.Library)
    (pool : MeteoraPosition.Venue) (cfg : MainConfig) : BotWorld → BotWorld → Prop where
  | tick {b b'} : cfg.maker.maxRebalancesPerDay ≤ K →
      Ticked (botHost H) (hostDeps library pool) cfg b b' → CappedTurn K H library pool cfg b b'
  | command {b b' x} (config : BotConfig) (c : CliCommand) : config.maxRebalancesPerDay ≤ K →
      Ends H (c.program library (hostRebalancer config) b) x b' → CappedTurn K H library pool cfg b b'

variable {b b' : BotWorld}

theorem turn_within_cap (hH : ToolKeepsLog H) (hb : Capped K day b.rebalanceLog)
    (hturn : CappedTurn K H library pool cfg b b') : Capped K day b'.rebalanceLog := by
  cases hturn with
  | tick hcap htick =>
    obtain ⟨x, hends⟩ := htick
    have hbot : KeepsLog (botHost H) := fun q b a b' hr => hH (.bot q) b a b' hr
    have hend := ends_of_outcome (outcome_tick hbot hcap) hends hb
    exact hend
  | @command x config c hcap hends =>
    have hprogram : Outcome H () (OfToolLog (Capped K day)) (c.program library (hostRebalancer config))
        (fun _ => OfToolLog (Capped K day)) (OfToolLog (Capped K day)) := outcome_program hH hcap c
    have hend := ends_of_outcome hprogram hends hb
    exact hend

/-- A day within the cap never holds more rebalances than the cap, whoever asked for them and
whatever the clock has been set to. -/
theorem turns_within_cap (hH : ToolKeepsLog H) (hb : Capped K day b.rebalanceLog)
    (hrun : Relation.ReflTransGen (CappedTurn K H library pool cfg) b b') :
    Capped K day b'.rebalanceLog := by
  induction hrun with
  | refl => exact hb
  | tail _ hturn ih => exact turn_within_cap hH ih hturn

end Runs

def forced (b : BotWorld) : BotWorld := (CliRuns.played .rebalance b).2

theorem forced_turn (b : BotWorld) : CappedTurn 3 (CliRuns.toolHost openingScene.script)
    blindLibrary flatVenue playedMain b (forced b) :=
  .command playedConfig .rebalance le_rfl (CliRuns.played_ends _ b)

/-- After a first position two forced rebalances are made, and a third one is not. -/
theorem forced_within_cap : (forced (forced (forced openingEnd))).rebalanceLog.length = 3 ∧
    Capped 3 0 (forced (forced (forced openingEnd))).rebalanceLog := by
  have hempty : Capped 3 0 (botWith [] none).rebalanceLog := Nat.zero_le _
  have hopened : CappedTurn 3 (CliRuns.toolHost openingScene.script) blindLibrary flatVenue
      playedMain (botWith [] none) openingEnd := .tick le_rfl ⟨_, openingScene.ends _ _⟩
  have hrun := Relation.ReflTransGen.single hopened |>.tail (forced_turn _) |>.tail (forced_turn _)
    |>.tail (forced_turn _)
  exact ⟨by decide +kernel, turns_within_cap (CliRuns.toolHost_keepsLog _) hempty hrun⟩

end DailyCap
