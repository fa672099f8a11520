import BertMMBot.PlayedJournals
import BertMMBot.SnapshotJobs

/-! # The latest snapshot

Deposits are priced by the snapshot with the latest timestamp. Each writer takes its timestamp
before it awaits anything, so a snapshot that is written last need not be the latest. -/
namespace LatestSnapshot

open VaultTypes DepositorStore VaultJournal JournalLaws SnapshotMachine
open PlayedRuns (anyEnvironment plainVenue plainConfig oneSol quotes)
open PlayedJournals
open VaultDiscipline (Environment)
open VaultRuntime (BotConfig)
open MeteoraPosition (Venue)

variable {venue : Venue} {cfg : BotConfig} {env : Environment} {p : JournalPoint}

/-- As long as no snapshot goes in below a later one, the latest counts the shares there are. -/
theorem latest_agrees_of_timely (hj : Journaled venue cfg env.host p) (ht : Timely p.2) :
    Agrees p.1.db :=
  (SnapshotJobs.journaled_sound hj).agrees ht

instance (e : Line) : Decidable (InTime e) := by
  unfold InTime
  split <;> infer_instance

instance (h : Journal) : Decidable (Timely h) := inferInstanceAs (Decidable (∀ e ∈ h, InTime e))

instance (db : Db) : Decidable (Agrees db) := inferInstanceAs
  (Decidable (∀ row ∈ latestNavSnapshot db, row.totalShares = totalShares db))

theorem latest_agrees_withdrawing :
    Agrees (withdrawing.point plainVenue plainConfig oneSol).1.db :=
  latest_agrees_of_timely (played_journaled _ _ _ _) (by decide +kernel)

/-- User 2 asks for a withdrawal, and a second inflow is swept but not credited. -/
def stranded : JournaledRun := holding ++ [
  ticked {
    clock := 2140000, samples := quotes
    faults := fun st _ => match st with
      | .creditDeposit _ => some (.error "disk full")
      | _ => none
    signatures := fun a => if a = "holder" then [⟨"second", false, some 2100⟩] else []
    transactions := fun s => if s = "second" then
      some ⟨["holder"], [0], [1000000000], [], []⟩ else none },
  told 2150000 "/withdraw 60%" 2]

/-- The operator recovers the inflow while the tick waits for the transfer of the withdrawal. -/
def recreditedMeanwhile : InterleavedRun := [
  (ticked { clock := 2200000, samples := quotes }, 7),
  (told 2300000 "/recreditdeposit second" 1, 1),
  (ticked { clock := 2300000, samples := quotes }, 0)]

/-- The withdrawal's snapshot stays below that of the deposit. -/
theorem latest_behind : ∃ p, Journaled plainVenue plainConfig anyEnvironment.host p ∧
    Ticking p.2 ∧ p.1.db.users ≠ [] ∧ ¬ Agrees p.1.db := by
  exact ⟨_, interleaved_journaled plainVenue plainConfig recreditedMeanwhile stranded oneSol,
    by decide +kernel, by decide +kernel, by decide +kernel⟩

end LatestSnapshot
