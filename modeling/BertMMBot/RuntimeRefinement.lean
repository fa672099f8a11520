import BertMMBot.CommandRefinement
import BertMMBot.ExecutorRefinement

/-! # The running bot refines the ledger machine

The closures that wire the process together meet what the handlers, the pipeline and the
executor need. So do their jobs, and every execution of them is a run of the machine. -/
namespace RuntimeRefinement

open AsyncProgram AsyncContract AsyncFibers VaultTypes VaultProgram Encryption DepositorStore
open LedgerMachine
open VaultDiscipline StoreDiscipline PipelineRefinement CommandRefinement ExecutorRefinement
open WithdrawalExecutor DepositPipeline DepositorCommands OperatorCommands AccountSecurity
open MeteoraPosition VaultRuntime

variable {α : Type} {P : Policy} {H : VaultHost} {f : Fiber} {A : World → Prop} {w : World}

theorem getMid_triple (hH : HostOk P H) : Triple P H f A getMid (Consulted P A) A := by
  have hask : Triple P H f A (Async.choose (I := vaultInterface) Choice.consult)
      (fun _ w => (P.ready w.memory ∨ lastMid w.memory = none) ∧ A w) A :=
    triple_choose fun o w ho h => ⟨hH.consult w o ho, h⟩
  refine hask.bind fun _ => triple_read fun w hl h => ?_
  rcases hlast : w.memory.priceHistory.getLast? with _ | p
  · simpa [lastMid, hlast, Consulted] using h.2
  · have hprice := hl.prices p (List.mem_of_getLast? hlast)
    have hready : P.ready w.memory := by
      rcases h.1 with hr | hn
      · exact hr
      · simp [lastMid, hlast] at hn
    simpa [lastMid, hlast, Consulted] using ⟨hprice, hready, h.2⟩

variable {venue : Venue} {cfg : BotConfig}

theorem getPosition_keeps (hA : Steady f A) (nftMint : String) (solUsd : ℚ) :
    Keeps P H f A (getPosition venue nftMint solUsd) :=
  (keeps_call hA).bind fun _ => keeps_pure

theorem getPositionSnapshot_keeps (hA : Steady f A) :
    Keeps P H f A (getPositionSnapshot venue) := by
  refine keeps_read.bind ?_
  rintro (_ | stored)
  · exact keeps_pure
  · exact keeps_read.bind fun last => (getPosition_keeps hA _ _).bind fun _ => keeps_pure

theorem partialClose_keeps (hA : Steady f A) (sol bert : ℤ) :
    Keeps P H f A (partialClose sol bert) := by
  refine keeps_read.bind ?_
  rintro (_ | stored)
  · exact keeps_throw
  · exact keeps_call hA

theorem executorDeps_safe (hH : HostOk P H) (minSolFloorLamports : ℕ) :
    ExecutorSafe P H (executorDeps venue minSolFloorLamports) where
  getMid _ _ := getMid_triple hH
  getWalletBalances _ hA := keeps_call hA
  getPositionSnapshot _ hA := getPositionSnapshot_keeps hA
  partialClose _ hA := partialClose_keeps hA
  executeTransfer _ hA _ _ _ := keeps_call hA

theorem hostDeps_safe (hH : HostOk P H) (reserve : ℕ) : ExecutorSafe P H (hostDeps reserve) where
  getMid A hA := by
    refine triple_call hA (fun mid w w' ha hr => ?_) fun _ h => h
    rcases mid with _ | m
    · exact ha
    · exact ⟨(hH.mid w m w' hr).1, (hH.mid w m w' hr).2, ha⟩
  getWalletBalances _ hA := keeps_call hA
  getPositionSnapshot _ hA := keeps_call hA
  partialClose _ hA _ _ := keeps_call hA
  executeTransfer _ hA _ _ _ := keeps_call hA

theorem pipelineDeps_safe (hH : HostOk P H) : PipelineSafe P H pipelineDeps where
  getMid _ _ := getMid_triple hH
  getNavPerShare _ _ := keeps_read
  getLatestBlockhash _ hA := keeps_call hA
  submitTx _ hA _ := keeps_call hA

theorem watcherDeps_safe (hH : HostOk P H) (bertMint : Address) :
    WatcherSafe P H (watcherDeps bertMint) where
  getSignaturesForAddress _ _ _ := keeps_call (steady_true .main)
  getParsedTransaction _ := keeps_call (steady_true .main)
  onInflow event := onInflow_keeps hH (pipelineDeps_safe hH) event

theorem liveNav_keeps (hA : Steady f A) (minSolFloorLamports : ℕ) (last : Mid) :
    Keeps P H f A (liveNav venue minSolFloorLamports last) := by
  refine (keeps_call hA).bind fun bal => keeps_nonNull.bind fun bal => ?_
  refine keeps_read.bind fun stored => Keeps.bind ?_ fun pos => keeps_read.bind fun _ => keeps_pure
  rcases stored with _ | stored
  · exact keeps_pure
  · exact Keeps.tryCatch ((getPosition_keeps hA _ _).bind fun _ => keeps_pure) fun _ => keeps_pure

theorem getNav_keeps (hA : Steady f A) (minSolFloorLamports : ℕ) :
    Keeps P H f A (getNav venue minSolFloorLamports) := by
  refine Keeps.tryCatch (keeps_read.bind ?_) fun _ => keeps_read
  rintro (_ | last)
  · exact keeps_read
  · exact liveNav_keeps hA minSolFloorLamports last

theorem commandsDeps_safe : CommandsSafe P H (commandsDeps venue cfg) where
  reply _ _ := keeps_call (steady_true .telegram)
  ensureAta _ := keeps_call (steady_true .telegram)
  getNav _ hA := getNav_keeps hA cfg.minSolFloorLamports

theorem operatorDeps_safe (hH : HostOk P H) :
    OperatorSafe P H (commanderDeps venue cfg).operator where
  reply _ _ := keeps_call (steady_true .telegram)
  getMid := getMid_triple hH

theorem botResume_chat (hH : HostOk P H) {ops : OperatorCommandsDeps} (ho : OperatorSafe P H ops)
    (msg : Msg) : Chat P H (botResume ops msg) :=
  (Outside.chat (setFlag_outside _ _) hH).bind fun _ => ho.reply _ _

theorem handler_chat (hH : HostOk P H) {deps : CommanderDeps} (hd : CommandsSafe P H deps.commands)
    (ho : OperatorSafe P H deps.operator) {name : String} {msg : Msg} {kind : Kind}
    {run : Vault Unit} (h : handler deps name msg = some (kind, run)) : Chat P H run := by
  unfold handler at h
  split at h <;> cases h
  · exact handleAccount_chat hH hd msg
  · exact handleAccept_chat hH hd msg
  · exact handleDecline_chat hd msg
  · exact handleMenu_chat hd msg
  · exact handleStats_chat hd msg
  · exact promptGated_chat hd msg (by simp) _ (doDepositReveal_chat hH hd _ _)
  · exact promptGated_chat hd msg (by simp) _ (doBalanceReveal_chat hH hd _ _)
  · exact handleWithdraw_chat hH hd msg
  · exact handleSetWhitelist_chat hH hd msg
  · exact promptGated_chat hd msg (by simp) _ (doCancelWhitelist_chat hH hd _ _)
  · exact handlePause_chat hH ho msg
  · exact handleResume_chat hH ho msg
  · exact handleStatus_chat ho msg
  · exact handleForceProcess_chat hH ho msg
  · exact handleRecreditDeposit_chat hH ho msg
  · exact handleResetTotp_chat hH ho msg
  · exact ho.reply _ _
  · exact botResume_chat hH ho msg
  · exact keeps_read.bind fun _ => ho.reply _ _
  · exact ho.reply _ _

theorem dispatch_chat (hH : HostOk P H) {deps : CommanderDeps}
    (hd : CommandsSafe P H deps.commands) (ho : OperatorSafe P H deps.operator) (msg : Msg) :
    Chat P H (dispatch deps msg) := by
  unfold dispatch
  rcases TextInput.commandName msg.text with _ | name
  · exact keeps_read.bind fun known => keeps_ite (handleMessage_chat hH hd msg) keeps_pure
  dsimp only
  rcases hh : handler deps name msg with _ | ⟨kind, run⟩
  · exact keeps_pure
  · refine Keeps.bind ?_ fun allowed => keeps_ite (handler_chat hH hd ho hh) keeps_pure
    cases kind with
    | operator => exact keeps_pure
    | vault => exact keeps_read
    | public_ => exact keeps_pure
    | enrollment => exact keeps_pure

theorem route_chat (hH : HostOk P H) {deps : CommandsDeps} (hd : CommandsSafe P H deps)
    (msg : Msg) : Chat P H (route deps msg) := by
  unfold route
  split
  · exact handleMenu_chat hd msg
  · exact handleAccount_chat hH hd msg
  · exact hd.reply _ _
  · exact handleAccept_chat hH hd msg
  · exact handleDecline_chat hd msg
  · exact promptGated_chat hd msg (by simp) _ (doDepositReveal_chat hH hd _ _)
  · exact promptGated_chat hd msg (by simp) _ (doBalanceReveal_chat hH hd _ _)
  · exact handleStats_chat hd msg
  · exact handleWithdraw_chat hH hd _
  · exact handleWithdraw_chat hH hd _
  · exact handleWithdraw_chat hH hd _
  · exact handleWithdraw_chat hH hd _
  · exact handleWithdraw_chat hH hd _
  · exact (setPending_chat _ _ (by simp)).bind fun _ => hd.reply _ _
  · exact (setPending_chat _ _ (by simp)).bind fun _ => hd.reply _ _
  · exact promptGated_chat hd msg (by simp) _ (doCancelWhitelist_chat hH hd _ _)
  · exact (clearPending_chat _).bind fun _ => hd.reply _ _
  · exact keeps_pure

theorem dispatchCallback_chat (hH : HostOk P H) {deps : CommandsDeps}
    (hd : CommandsSafe P H deps) (msg : Msg) : Chat P H (dispatchCallback deps msg) :=
  (Keeps.tryCatch (route_chat hH hd msg) fun _ => keeps_pure).bind fun _ => hd.reply _ _

theorem foundVault_triple (p : BootstrapParams) (kp : Keypair) (enc : EncryptedBlob) (ms : ℤ)
    (hpos : 0 < p.initialNavUsd) :
    Triple P H .cli (fun w => w.db.users = []) (foundVault p kp enc ms) (fun _ _ => True)
      fun _ => True := by
  refine triple_transaction (fun _ _ => trivial) fun w _ hempty => ?_
  have hin := Inside.refl w
  refine Body.bind (createUser_body hin _ fun row hrow => ?_)
  refine Body.bind (addShares_body (hin.withDb _) _ _ fun shares hshares => ?_)
  refine Body.bind (body_update (hin.withDb _) ?_)
  refine body_update (hin.withDb _) ⟨?_, trivial⟩
  simp only [World.withDb_db, hempty, List.nil_append] at hshares ⊢
  have hid : row.telegramId = p.operatorTelegramId := hrow
  have hfound := Move.found (P := P) row p.initialNavUsd ⟨nextId (w.db.auditLog.map AuditRow.id),
    ms, some p.operatorTelegramId, .bootstrap p.initialNavUsd⟩ shares hempty hpos rfl
    (congrArg some hid.symm) (by rw [hid]; exact hshares)
  exact .tail (.single hfound) (.frame (frame_navSnapshots _ _))

theorem encryptSecret_triple (plaintext : Bytes) :
    Triple P H f A (encryptSecret plaintext) (fun _ => A) fun _ => True := by
  refine Triple.bind (triple_choose fun _ _ _ h => h) fun key => ?_
  refine triple_ite (fun _ => triple_throw fun _ _ => trivial) fun _ => ?_
  refine Triple.bind (triple_choose fun _ _ _ h => h) fun iv => ?_
  exact Triple.bind (triple_choose fun _ _ _ h => h) fun _ => triple_pure fun _ h => h

theorem vaultBootstrap_keeps (p : BootstrapParams) :
    Keeps P H .cli (fun _ => True) (vaultBootstrap ensureAta p) := by
  refine triple_ite (fun hpos => ?_) fun _ => keeps_throw
  refine keeps_choose.bind fun ms => ?_
  have husers : Triple P H .cli (fun _ => True) (readDb listUsers)
      (fun users w => users = listUsers w.db) fun _ => True := triple_read fun _ _ _ => rfl
  refine Triple.bind husers fun users => triple_ite (fun _ => triple_throw fun _ _ => trivial) ?_
  intro hnone
  have hfound : ∀ kp enc, Triple P H .cli (fun w => users = listUsers w.db)
      (foundVault p kp enc ms) (fun _ _ => True) fun _ => True := by
    intro kp enc
    refine (foundVault_triple p kp enc ms hpos).mono (fun w hu => ?_) (fun _ _ h => h) fun _ h => h
    have hsort := congrArg List.length (hu.symm.trans (not_not.mp hnone))
    simpa [listUsers] using hsort
  refine Triple.bind (triple_choose fun _ _ _ h => h) fun kp => ?_
  refine Triple.bind (encryptSecret_triple _) fun enc => ?_
  exact (hfound kp enc).bind fun _ => keeps_call (steady_true .cli)

theorem swallow_keeps {m : Vault Unit} (h : Keeps P H f A m) : Keeps P H f A (swallow m) :=
  Keeps.tryCatch h fun _ => keeps_pure

theorem readOracle_keeps (hH : HostOk P H) (oracleDivergenceBps : ℚ) (tickStart : ℤ) :
    Keeps P H .main (fun _ => True) (readOracle oracleDivergenceBps tickStart) := by
  refine ⟨fun t w hk _ => ⟨hk, ?_⟩⟩
  rintro (e | samples) w' ⟨hl, -, w₁, hresp⟩
  · exact ⟨Kept.start hl, trivial⟩
  · have hprice := fun q => hH.oracle w₁ samples w' hresp tickStart oracleDivergenceBps q
    exact ⟨⟨observed_legal hprice hl, _, .observed _ hprice, .refl⟩, trivial⟩

theorem activateWhitelists_keeps (hH : HostOk P H) :
    Keeps P H .main (fun _ => True) activateWhitelists := by
  refine keeps_choose.bind fun ms => Keeps.bind ?_ fun activated => keeps_forEach ?_ _
  · refine keeps_read.bind fun due => Keeps.bind (keeps_forEach ?_ _) fun _ => keeps_pure
    intro row
    refine keeps_transaction true_frame ?_
    exact (setWhitelistImmediate_outside _ _ _).frames.bind fun _ =>
      (markWhitelistActivated_outside _).frames
  · exact fun row => keeps_choose.bind fun ts => (writeAudit_outside (by simp)).keeps hH true_frame

theorem runVaultPostRebalance_keeps (hH : HostOk P H) {drain : Vault Unit}
    (hd : Keeps P H .main (fun _ => True) drain) (killed : Bool) :
    Keeps P H .main (fun _ => True) (runVaultPostRebalance drain killed) := by
  refine Keeps.bind ?_ fun _ => swallow_keeps (activateWhitelists_keeps hH)
  refine keeps_read.bind fun paused => keeps_read.bind fun degraded => ?_
  exact keeps_ite keeps_pure (swallow_keeps hd)

theorem tick_keeps (hH : HostOk P H) : Keeps P H .main (fun _ => True) (tick venue cfg) := by
  have hpoll : Keeps P H .main (fun _ => True)
      (runVaultPreRebalance (pollAddress (watcherDeps cfg.bertMint))) := by
    refine keeps_read.bind fun users => keeps_forEach (fun u => swallow_keeps ?_) _
    exact pollAddress_keeps (watcherDeps_safe hH cfg.bertMint) _
  have hdeps : ExecutorSafe P H (executorDeps venue cfg.minSolFloorLamports) :=
    executorDeps_safe hH _
  have hdrain := drain_keeps hH hdeps
  refine keeps_choose.bind fun tickStart => keeps_choose.bind fun killed => ?_
  refine (readOracle_keeps hH _ _).bind fun _ => hpoll.bind fun _ => ?_
  refine (keeps_call (steady_true .main)).bind fun goesOn : Bool => ?_
  exact keeps_ite (runVaultPostRebalance_keeps hH hdrain killed) keeps_pure

/-- What the fibers run: ticks, or drains of an executor of whose dependencies nothing is
known; messages and buttons; the founding of the vault. -/
inductive VaultJob (venue : Venue) (cfg : BotConfig) : Fiber → Vault Unit → Prop where
  | tick : VaultJob venue cfg .main (tick venue cfg)
  | drain : VaultJob venue cfg .main (drain (hostDeps cfg.minSolFloorLamports))
  | message (msg : Msg) : VaultJob venue cfg .telegram (dispatch (commanderDeps venue cfg) msg)
  | button (msg : Msg) :
      VaultJob venue cfg .telegram (dispatchCallback (commandsDeps venue cfg) msg)
  | bootstrap (p : BootstrapParams) : VaultJob venue cfg .cli (vaultBootstrap ensureAta p)

def vault (venue : Venue) (cfg : BotConfig) (H : VaultHost) :
    System Fiber vaultInterface World Thrown :=
  vaultSystem (VaultJob venue cfg) H

theorem vaultJob_safe (hH : HostOk P H) : (discipline hH (VaultJob venue cfg)).JobsSafe := by
  rintro f m hm w hw
  cases hm with
  | tick => exact triple_job hH (tick_keeps hH) hw
  | drain => exact triple_job hH (drain_keeps hH (hostDeps_safe hH _)) hw
  | message msg =>
    exact triple_job hH (dispatch_chat hH commandsDeps_safe (operatorDeps_safe hH) msg) hw
  | button msg => exact triple_job hH (dispatchCallback_chat hH commandsDeps_safe msg) hw
  | bootstrap p => exact triple_job hH (vaultBootstrap_keeps p) hw

/-- One step of the ledger machine with its surroundings. -/
inductive Turn (P : Policy) : World → World → Prop where
  | move {f : Fiber} {w w' : World} : Move P f w w' → Turn P w w'
  | observe {w : World} (mid : Option MidPrice) : (∀ p, mid = some p → P.price p.mid) →
      Turn P w (w.withMemory (observeMid mid w.memory))
  | answer {w w' : World} : Quiet w w' → Turn P w w'
  | stop {w : World} : Turn P w w.restart

def Turns (P : Policy) : World → World → Prop := Relation.ReflTransGen (Turn P)

theorem guar_turns {w' : World} (h : Guar P f w w') : Turns P w w' := by
  obtain ⟨w₀, ho, hm⟩ := h
  have hmoves : Turns P w₀ w' :=
    Relation.ReflTransGen.mono (fun _ _ m => Turn.move m) _ _ hm
  cases ho with
  | here => exact hmoves
  | observed mid hp => exact .head (.observe mid hp) hmoves

theorem execution_turns (hH : HostOk P H) {c c' : Config Fiber vaultInterface World Thrown}
    (hc : (discipline hH (VaultJob venue cfg)).Holds c) (ex : Execution (vault venue cfg H) c c') :
    Turns P c.state c'.state :=
  execution_evolves (vaultJob_safe hH) (fun _ => .refl) (fun _ _ _ h k => h.trans k)
    (fun _ _ _ _ h => guar_turns h)
    (fun q s a t _ hr => .single (.answer (hH.respond q s a t hr))) (fun _ _ => .single .stop) hc ex

theorem turn_preserves_legal {w' : World} (h : Legal P w) (t : Turn P w w') : Legal P w' := by
  cases t with
  | move m => exact move_preserves_legal h m
  | observe mid hp => exact observed_legal hp h
  | answer hq => exact move_preserves_legal h (.frame (f := .main) hq.frame)
  | stop => exact restart_preserves_legal h

theorem turns_preserve_legal {w' : World} (h : Legal P w) (ts : Turns P w w') : Legal P w' := by
  induction ts with
  | refl => exact h
  | tail _ t ih => exact turn_preserves_legal ih t

/-- The states in which an execution from the empty vault can be observed. -/
def Reachable (venue : Venue) (cfg : BotConfig) (H : VaultHost) (w : World) : Prop :=
  ∃ chain c, Execution (vault venue cfg H) (idle (World.initial chain)) c ∧ c.state = w

theorem reachable_turns (hH : HostOk P H) (h : Reachable venue cfg H w) :
    ∃ chain, Turns P (World.initial chain) w := by
  obtain ⟨chain, c, ex, rfl⟩ := h
  exact ⟨chain, execution_turns hH (idle_holds (initial_legal chain)) ex⟩

theorem reachable_legal (hH : HostOk P H) (h : Reachable venue cfg H w) : Legal P w := by
  obtain ⟨chain, ts⟩ := reachable_turns hH h
  exact turns_preserve_legal (initial_legal chain) ts

theorem reachable_invariant (hH : HostOk P H) {I : World → Prop}
    (initial : ∀ chain, I (World.initial chain))
    (turn : ∀ w w', Legal P w → I w → Turn P w w' → I w') (h : Reachable venue cfg H w) : I w := by
  obtain ⟨chain, ts⟩ := reachable_turns hH h
  have key : Legal P w ∧ I w := by
    clear h
    induction ts with
    | refl => exact ⟨initial_legal chain, initial chain⟩
    | tail _ t ih => exact ⟨turn_preserves_legal ih.1 t, turn _ _ ih.1 ih.2 t⟩
  exact key.2

end RuntimeRefinement
