import BertMMBot.PlayedRuns

/-! # The oracle gate

Deposits are swept and credited, and withdrawals paid, only once the oracle was asked; but the
price history that answers outlives a tick. As long as it is not asked after a tick without a
mid, nothing moves before the next mid. -/
namespace OracleGate

open AsyncProgram AsyncContract AsyncFibers VaultTypes VaultProgram LedgerMachine VaultDiscipline
open VaultRuntime RuntimeRefinement PlayedRuns

/-- The latest tick of this process, if there was one, got no mid. -/
def NoMid (w : World) : Prop := w.memory.trustedMid.join = none

instance (w : World) : Decidable (NoMid w) :=
  inferInstanceAs (Decidable (w.memory.trustedMid.join = none))

/-- The calls that move tokens out of a deposit address or out of the wallet. -/
def Spends : TraceEvent → Prop
  | .transfer .. => True
  | .sweep .. => True
  | _ => False

/-- No deposit was credited, and no sweep or payout issued. -/
structure Inert (w w' : World) : Prop where
  deposits : w'.db.deposits = w.db.deposits
  trace : ∃ events, w'.trace = events ++ w.trace ∧ ∀ e ∈ events, ¬Spends e

/-- The oracle may be used in a tick that got a mid. -/
def trustedPolicy : Policy where
  allow _ _ := True
  ready m := m.trustedMid.join ≠ none
  price _ := True
  ready_oracle := fun m m' htrusted _ h => by rwa [htrusted]

variable {f : Fiber} {P : Policy} {w w' w'' : World}

theorem Inert.refl (w : World) : Inert w w := ⟨rfl, [], rfl, by simp⟩

theorem Inert.trans (h : Inert w w') (k : Inert w' w'') : Inert w w'' := by
  obtain ⟨es, htrace, hes⟩ := h.trace
  obtain ⟨es', htrace', hes'⟩ := k.trace
  refine ⟨k.deposits.trans h.deposits, es' ++ es, ?_, ?_⟩
  · rw [htrace', htrace, List.append_assoc]
  · intro e he
    rcases List.mem_append.mp he with hnew | hold
    · exact hes' e hnew
    · exact hes e hold

theorem inert_of_same (hd : w'.db.deposits = w.db.deposits) (ht : w'.trace = w.trace) :
    Inert w w' := ⟨hd, [], ht, by simp⟩

theorem inert_record {e : TraceEvent} (he : ¬Spends e) : Inert w (w.record e) :=
  ⟨rfl, [e], rfl, by simpa using he⟩

theorem move_trustedMid (m : Move P f w w') : w'.memory.trustedMid = w.memory.trustedMid := by
  cases m with
  | frame hf => exact hf.trustedMid
  | _ => rfl

theorem moves_trustedMid (ms : Moves P f w w') :
    w'.memory.trustedMid = w.memory.trustedMid := by
  induction ms with
  | refl => rfl
  | tail _ m ih => exact (move_trustedMid m).trans ih

theorem move_inert (hn : NoMid w) (m : Move trustedPolicy f w w') : Inert w w' := by
  cases m with
  | frame hf => exact inert_of_same hf.deposits hf.trace
  | credit d mid shares hready => exact absurd hn hready
  | transfer row sol bert hun hphase hready => exact absurd hn hready
  | sweep sig sol bert hready => exact absurd hn hready
  | take | transferred | swept => exact inert_record (by simp [Spends])
  | found | enqueue | requeue | process | send | complete | fail => exact inert_of_same rfl rfl

theorem moves_inert (hn : NoMid w) (ms : Moves trustedPolicy f w w') : Inert w w' := by
  induction ms with
  | refl => exact .refl w
  | tail ms m ih =>
    refine ih.trans (move_inert ?_ m)
    rw [NoMid, moves_trustedMid ms]
    exact hn

theorem guar_inert (hn : NoMid w') (hg : Guar trustedPolicy f w w') : Inert w w' := by
  obtain ⟨w₀, ho, hm⟩ := hg
  have hn₀ : NoMid w₀ := by
    rw [NoMid, ← moves_trustedMid hm]
    exact hn
  have hmoves := moves_inert hn₀ hm
  cases ho with
  | here => exact hmoves
  | observed mid => exact ⟨hmoves.deposits, hmoves.trace⟩

variable {venue : MeteoraPosition.Venue} {cfg : BotConfig} {chain : Chain}
  {c : Config Fiber vaultInterface World Thrown}

/-- Wherever a fiber goes on in a run that asks the history only after a tick with a mid, or
while it is empty: up to any point at which the latest tick had no mid, nothing was swept,
credited or paid. -/
theorem inert_without_mid (env : Environment)
    (ex : Execution (vault venue cfg (env.within trustedPolicy)) (idle (World.initial chain)) c)
    (ho : Observes (vault venue cfg (env.within trustedPolicy)) c w) (hn : NoMid w) :
    Inert c.state w := by
  have hH := env.within_ok trustedPolicy
  have hj : (discipline hH (VaultJob venue cfg)).JobsSafe := vaultJob_safe hH
  have hholds := execution_preserves_holds hj (idle_holds (initial_legal chain)) ex
  obtain ⟨f, t, ht, hguar⟩ := observes_guar hj hholds ho
  have hstretch := guar_inert hn hguar
  rcases ht with rfl | ⟨q, a, hr⟩
  · exact hstretch
  · have hq := hH.respond q c.state a t hr
    exact (inert_of_same hq.deposits hq.trace).trans hstretch

def consultsTrusted (c : Choice) (w : World) : Bool :=
  match c with
  | .consult => ¬NoMid w ∨ lastMid w.memory = none
  | _ => true

theorem trusted_lenient : Lenient trustedPolicy consultsTrusted :=
  ⟨fun w h => of_decide_eq_true (p := ¬NoMid w ∨ lastMid w.memory = none) h, fun _ _ => trivial⟩

def quietTick : Scene × Vault Unit := ({ clock := 2150000 }, mainTick)

theorem quietTick_staged : Staged plainVenue plainConfig quietTick := tick_staged (.inr rfl) rfl

/-- After a tick with a mid and a deposit, one without a mid moves nothing. -/
theorem inert_without_mid_quietTick : ∃ c w,
    Observes (vault plainVenue plainConfig (anyEnvironment.within trustedPolicy)) c w ∧
      NoMid w ∧ lastMid w.memory ≠ none ∧ Inert c.state w := by
  have hallowed := fun p (hp : Staged plainVenue plainConfig p) =>
    staged_allowed trusted_lenient hp fun _ _ _ => trivial
  have hrun := played_execution (fun p hp => hallowed p (twoHolders_staged p hp)) oneSol
    (by decide +kernel)
  obtain ⟨c, hc, -, ho⟩ := awaits_observes (hallowed _ quietTick_staged)
    (s := twoHolders.world oneSol) (by decide +kernel) 0 (by decide +kernel)
  have hn : NoMid ((episode quietTick).script.awaits
      ((episode quietTick).job (twoHolders.world oneSol)) 1).state := by decide +kernel
  exact ⟨c, _, ho, hn, by decide +kernel, inert_without_mid anyEnvironment (hrun.trans hc) ho hn⟩

def staleTick : Scene × Vault Unit :=
  ({ clock := 2150000,
     signatures := fun a => if a = "holder" then [⟨"second", false, some 2100⟩] else [],
     transactions := fun s => if s = "second" then
       some ⟨["holder"], [0], [1000000000], [], []⟩ else none }, mainTick)

theorem staleTick_staged : Staged plainVenue plainConfig staleTick := tick_staged (.inr rfl) rfl

/-- A deposit is credited in a tick without a mid, at the mid of an earlier tick. -/
theorem credited_without_mid : ∃ c w,
    Execution (vault plainVenue plainConfig anyEnvironment.host) (idle (World.initial oneSol)) c ∧
      Observes (vault plainVenue plainConfig anyEnvironment.host) c w ∧
      NoMid c.state ∧ NoMid w ∧ ¬Inert c.state w := by
  have hrun := played_execution (fun p hp => staged_allowed_any (twoHolders_staged p hp)) oneSol
    (meetsAll_any _ _)
  obtain ⟨c, hc, hstate, ho⟩ := awaits_observes (staged_allowed_any staleTick_staged)
    (s := twoHolders.world oneSol) (Script.meets_any _ _) 7 (by decide +kernel)
  refine ⟨c, _, hrun.trans hc, ho, ?_, by decide +kernel, fun h => ?_⟩
  · rw [hstate]
    decide +kernel
  · have hdeposits := congrArg List.length h.deposits
    rw [hstate] at hdeposits
    revert hdeposits
    decide +kernel

end OracleGate
