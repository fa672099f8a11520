import BertMMBot.MakerBounds
import BertMMBot.RebalanceBounds
import BertMMBot.TxSubmission

/-! # What a rebalance stores of its position

The row that a rebalance writes carries the bounds that the position was asked for with, under
the mint that the venue made for these very parameters. -/
namespace StoredBounds

open AsyncProgram AsyncContract AsyncRecords AsyncWiring RecordedTriples RecordedOutcomes
open VaultTypes BotProgram Rebalancer TxSubmission
open MeteoraPosition (PositionSnapshot)
open RebalanceBounds (Staging)
open MakerBounds (BotHistory BotPoint outcome_botStatement staged)

variable {H : BotHost} {jito : Option JitoClient} {config : BotConfig} {mid : MidPrice}
  {nftMint : String}

abbrev Diary := BotHistory Unit Unit
abbrev DiaryPoint := BotPoint Unit Unit

abbrev DiaryEntry := Entry Unit Unit botInterface BotWorld Thrown

def storedRow : DiaryEntry → Option StoredPosition
  | .choice _ (.statement (.setCurrentPosition row)) _ none => some row
  | _ => none

def builtAs : DiaryEntry → Option (OpenPositionParams × String)
  | .answer _ (.buildOpenPositionTx params) (.ok nftMint) _ => some (params, nftMint)
  | _ => none

def Stores (h : Diary) (row : StoredPosition) : Prop := row ∈ h.filterMap storedRow

def Built (h : Diary) (params : OpenPositionParams) (nftMint : String) : Prop :=
  (params, nftMint) ∈ h.filterMap builtAs

instance (h : Diary) (row : StoredPosition) : Decidable (Stores h row) :=
  inferInstanceAs (Decidable (_ ∈ _))

instance (h : Diary) (params : OpenPositionParams) (nftMint : String) :
    Decidable (Built h params nftMint) := inferInstanceAs (Decidable (_ ∈ _))

structure AsksFor (deps : RebalancerDeps) (mid : MidPrice) (params : OpenPositionParams) : Prop where
  lower : params.lowerUsd = (newRange deps mid).lowerUsd
  upper : params.upperUsd = (newRange deps mid).upperUsd
  sol : params.solUsd = mid.solUsd

def Prepared (deps : RebalancerDeps) (mid : MidPrice) (h : Diary) (nftMint : String) : Prop :=
  ∃ params, Built h params nftMint ∧ AsksFor deps mid params

/-- A stored row carries the bounds that its position was opened with. -/
def Paired (deps : RebalancerDeps) (mid : MidPrice) (h : Diary) : Prop :=
  ∀ row, Stores h row → row.lowerUsd = (newRange deps mid).lowerUsd ∧
    row.upperUsd = (newRange deps mid).upperUsd ∧ Prepared deps mid h row.nftMint

abbrev PairedAt (deps : RebalancerDeps) (mid : MidPrice) (p : DiaryPoint) : Prop :=
  Paired deps mid p.2

abbrev PreparedAt (deps : RebalancerDeps) (mid : MidPrice) (nftMint : String) (p : DiaryPoint) :
    Prop :=
  Paired deps mid p.2 ∧ Prepared deps mid p.2 nftMint

def unrecording : Bounds botInterface BotWorld Unit where
  choice c := ∀ row, c ≠ .statement (.setCurrentPosition row)
  call _ := True
  view _ := ()

theorem staging_unrecording (jito : Option JitoClient) (config : BotConfig) :
    Staging unrecording (networkSubmitter jito) config := by
  have hconveys : Conveying unrecording := by
    constructor
    · intro row heq
      cases heq
    · exact fun _ _ => trivial
  constructor
  · intro c hc row heq
    subst heq
    cases hc
  · exact fun _ _ => trivial
  · exact fun _ _ _ _ => rfl
  · exact fun tx opts _ => hconveys.submit tx opts
  · exact fun tx opts _ => hconveys.submitProtected jito tx opts

variable {deps : RebalancerDeps} {h : Diary} {e : DiaryEntry}

theorem Prepared.cons (hp : Prepared deps mid h nftMint) : Prepared deps mid (e :: h) nftMint := by
  obtain ⟨params, hbuilt, hasks⟩ := hp
  refine ⟨params, ?_, hasks⟩
  unfold Built at hbuilt ⊢
  rw [List.filterMap_cons]
  split
  · exact hbuilt
  · exact List.mem_cons_of_mem _ hbuilt

theorem Paired.cons (hp : Paired deps mid h) (he : storedRow e = none) :
    Paired deps mid (e :: h) := by
  intro row hrow
  unfold Stores at hrow
  rw [List.filterMap_cons_none he] at hrow
  obtain ⟨hlower, hupper, hprepared⟩ := hp row hrow
  exact ⟨hlower, hupper, hprepared.cons⟩

theorem Paired.store (hp : Paired deps mid h) (hprepared : Prepared deps mid h nftMint)
    {row : StoredPosition} {b : BotWorld} (hmint : row.nftMint = nftMint)
    (hlower : row.lowerUsd = (newRange deps mid).lowerUsd)
    (hupper : row.upperUsd = (newRange deps mid).upperUsd) :
    Paired deps mid (.choice () (.statement (.setCurrentPosition row)) b none :: h) := by
  intro row' hrow
  rcases List.mem_cons.mp hrow with heq | hrow
  · subst heq hmint
    exact ⟨hlower, hupper, hprepared.cons⟩
  · obtain ⟨hlower', hupper', hprepared'⟩ := hp row' hrow
    exact ⟨hlower', hupper', hprepared'.cons⟩

theorem undisturbed_paired {K : Diary → Prop} (hK : ∀ e h, K h → K (e :: h)) :
    Undisturbed H () unrecording fun p => Paired deps mid p.2 ∧ K p.2 where
  local_ := fun _ hp => hp
  choice := by
    rintro c b o h hc - ⟨hp, hk⟩
    refine ⟨hp.cons ?_, hK _ _ hk⟩
    cases hstored : storedRow (.choice () c b o) with
    | none => rfl
    | some row =>
      unfold storedRow at hstored
      split at hstored
      case h_1 heq =>
        cases heq
        exact absurd rfl (hc _)
      case h_2 => cases hstored
  call := by
    rintro q b a b' h - - ⟨hp, hk⟩
    exact ⟨(hp.cons rfl).cons rfl, hK _ _ (hK _ _ hk)⟩

/-- The market maker around a network. -/
def networkRebalancer (jito : Option JitoClient) (config : BotConfig) : RebalancerDeps :=
  ⟨hostVenue, networkSubmitter jito, config⟩

section Rebalance

variable {current : Option PositionSnapshot} {cause : Cause} {closeSig : Option Signature}
  {now : ℤ} {α : Type}

theorem outcome_idle {m : Process α} (hm : Within unrecording True m) :
    Outcome H () (PairedAt deps mid) m (fun _ => PairedAt deps mid) (PairedAt deps mid) := by
  have hidle : Outcome H () (fun p => Paired deps mid p.2 ∧ True) m
      (fun _ p => Paired deps mid p.2 ∧ True) fun p => Paired deps mid p.2 ∧ True :=
    outcome_within (undisturbed_paired (K := fun _ => True) fun _ _ _ => trivial) hm
  exact hidle.mono (fun _ hp => ⟨hp, trivial⟩) (fun _ _ hp => hp.1) fun _ hp => hp.1

theorem outcome_prepared {m : Process α} {nftMint : String} (hm : Within unrecording True m) :
    Outcome H () (PreparedAt deps mid nftMint) m (fun _ => PreparedAt deps mid nftMint)
      (PairedAt deps mid) := by
  have hkept : Outcome H () (PreparedAt deps mid nftMint) m
      (fun _ => PreparedAt deps mid nftMint) (PreparedAt deps mid nftMint) :=
    outcome_within (undisturbed_paired (K := fun h => Prepared deps mid h nftMint)
      fun _ _ hp => hp.cons) hm
  exact hkept.mono (fun _ hp => hp) (fun _ _ hp => hp) fun _ hp => hp.1

theorem outcome_degrade (config : BotConfig) {B : α → DiaryPoint → Prop} {detail : Detail} :
    Outcome H () (PairedAt deps mid) (degrade detail closeSig) (staged B (PairedAt deps mid))
      (PairedAt deps mid) := by
  have hstage := staging_unrecording none config
  apply (outcome_idle (hstage.setDegraded true)).bind
  intro _
  apply (outcome_idle (hstage.notify rfl)).bind
  exact fun _ => outcome_pure fun _ hp => hp

theorem outcome_openPosition {sizing : Sizing} :
    Outcome H () (PairedAt (networkRebalancer jito config) mid)
      (openPosition (networkRebalancer jito config) mid
        (newRange (networkRebalancer jito config) mid) sizing closeSig)
      (staged (fun opened => PreparedAt (networkRebalancer jito config) mid opened.nftMint)
        (PairedAt (networkRebalancer jito config) mid))
      (PairedAt (networkRebalancer jito config) mid) := by
  have hstage := staging_unrecording jito config
  have hbuilt : ∀ params, AsksFor (networkRebalancer jito config) mid params →
      Outcome H () (PairedAt (networkRebalancer jito config) mid)
        (hostVenue.buildOpenPositionTx params)
        (fun built => PreparedAt (networkRebalancer jito config) mid built.nftMint)
        (PairedAt (networkRebalancer jito config) mid) := by
    intro params hasks
    apply Outcome.bind (B := fun nftMint => PreparedAt (networkRebalancer jito config) mid nftMint)
    · apply outcome_call
      intro b h b' a hp _
      have hpaired : Paired (networkRebalancer jito config) mid
          (.answer () (.buildOpenPositionTx params) a b' ::
            .call () (.buildOpenPositionTx params) b :: h) := (hp.cons rfl).cons rfl
      cases a with
      | error e => exact hpaired
      | ok nftMint => exact ⟨hpaired, params, List.mem_cons_self .., hasks⟩
    · exact fun nftMint => outcome_pure fun p hp => hp
  apply Outcome.tryCatch (D := PairedAt (networkRebalancer jito config) mid)
  · apply Outcome.bind
      (B := fun opened => PreparedAt (networkRebalancer jito config) mid opened.nftMint)
    · apply (hbuilt _ ⟨rfl, rfl, rfl⟩).bind
      intro built
      apply (outcome_prepared (hstage.submitProtected built.tx _ fun h => h)).bind
      exact fun _ => outcome_pure fun p hp => hp
    · exact fun opened => outcome_pure fun p hp => hp
  · exact fun e => outcome_degrade config

theorem outcome_persist {nftMint : String} :
    Outcome H () (PreparedAt (networkRebalancer jito config) mid nftMint)
      (persist (networkRebalancer jito config) now (newRange (networkRebalancer jito config) mid)
        current nftMint cause)
      (fun _ => PairedAt (networkRebalancer jito config) mid)
      (PairedAt (networkRebalancer jito config) mid) := by
  have hstage := staging_unrecording jito config
  apply outcome_ite
  · exact fun _ => outcome_pure fun _ hp => hp.1
  · intro hdry
    apply Outcome.tryCatch (D := PairedAt (networkRebalancer jito config) mid)
    · apply Outcome.bind (B := fun _ => PairedAt (networkRebalancer jito config) mid)
      · apply Outcome.bind (B := fun _ => PairedAt (networkRebalancer jito config) mid)
        · apply outcome_botStatement
          · intro b h hp
            exact hp.1.store hp.2 rfl rfl rfl
          · exact fun b h e hp => hp.1.cons rfl
        · exact fun _ => outcome_idle (hstage.recordRebalance _)
      · exact fun _ => outcome_pure fun _ hp => hp
    · intro e
      apply (outcome_idle (hstage.rollback hdry nftMint)).bind
      intro _
      exact (outcome_idle (hstage.degrade _ none))

theorem outcome_reopen :
    Outcome H () (PairedAt (networkRebalancer jito config) mid)
      (reopen (networkRebalancer jito config) now mid current cause closeSig)
      (fun _ => PairedAt (networkRebalancer jito config) mid)
      (PairedAt (networkRebalancer jito config) mid) := by
  have hstage := staging_unrecording jito config
  apply (outcome_idle hstage.refreshPool).bind
  intro _
  apply (outcome_idle hstage.sizePosition).bind
  intro sized
  cases sized with
  | error r => exact outcome_pure fun _ hp => hp
  | ok sizing =>
    apply outcome_openPosition.bind
    intro opened
    cases opened with
    | error r => exact outcome_pure fun _ hp => hp
    | ok opened =>
      apply outcome_persist.bind
      intro saved
      cases saved with
      | error r => exact outcome_pure fun _ hp => hp
      | ok _ => exact outcome_idle (within_bind (hstage.notify rfl) fun _ => within_pure _)

theorem outcome_executeRebalance :
    Outcome H () (PairedAt (networkRebalancer jito config) mid)
      (executeRebalance (networkRebalancer jito config) mid current cause)
      (fun _ => PairedAt (networkRebalancer jito config) mid)
      (PairedAt (networkRebalancer jito config) mid) := by
  have hstage := staging_unrecording jito config
  apply (outcome_idle hstage.now).bind
  intro now
  apply (outcome_idle hstage.drawdownBreaker).bind
  intro tripped
  cases tripped with
  | some r => exact outcome_pure fun _ hp => hp
  | none =>
    apply (outcome_idle (within_read _)).bind
    intro today
    apply outcome_ite
    · exact fun _ => outcome_pure fun _ hp => hp
    · intro _
      apply (outcome_idle hstage.closePosition).bind
      intro closed
      cases closed with
      | error r => exact outcome_pure fun _ hp => hp
      | ok closeSig => exact outcome_reopen

theorem rebalance_paired {b b' : BotWorld} {diary : Diary} {x : Except Thrown RebalanceResult}
    (hrun : Ends (recordedHost H) (recorded ()
      (executeRebalance (networkRebalancer jito config) mid current cause b) []) x (b', diary)) :
    Paired (networkRebalancer jito config) mid diary := by
  have hstart : Paired (networkRebalancer jito config) mid [] := by
    intro row hrow
    cases hrow
  have hend := outcome_executeRebalance.ends hstart hrun
  cases x with
  | ok r => exact hend
  | error e => exact hend

end Rebalance

end StoredBounds
