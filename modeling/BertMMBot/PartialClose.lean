import BertMMBot.MeteoraClient
import Mathlib.Algebra.Order.Group.Unbundled.Abs

/-! # Which bins a partial close removes

On each side a partial close takes the bins nearest to the active one until they hold the need,
and removes the range they span. The range holds no other bin of the position. -/
namespace PartialClose

open VaultTypes MeteoraPosition MeteoraClient PrefixCover

variable {pool : Pool} {bins chosen : List PositionBin} {token : Token} {need : ℤ}

/-- The bin lies where the position holds the token. -/
def OnSide (pool : Pool) (token : Token) (binId : ℤ) : Prop :=
  if (token = .sol ↔ pool.venue.bertIsX = true) then binId < pool.activeBin.binId
  else pool.activeBin.binId < binId

instance (pool : Pool) (token : Token) (binId : ℤ) : Decidable (OnSide pool token binId) :=
  inferInstanceAs (Decidable (if (token = .sol ↔ pool.venue.bertIsX = true) then
    binId < pool.activeBin.binId else pool.activeBin.binId < binId))

def distance (pool : Pool) (binId : ℤ) : ℤ := |binId - pool.activeBin.binId|

/-- What the position holds of the token outside of the active bin. -/
def sideTotal (pool : Pool) (bins : List PositionBin) (token : Token) : ℤ :=
  total (amountField pool token) (bins.filter fun b => OnSide pool token b.binId)

/-- The bins nearest to the active one, as many as are needed. -/
structure NearestPrefix (pool : Pool) (bins : List PositionBin) (token : Token) (need : ℤ)
    (chosen : List PositionBin) : Prop where
  mem : ∀ b ∈ chosen, b ∈ bins ∧ OnSide pool token b.binId
  ordered : chosen.Pairwise fun a b => distance pool a.binId < distance pool b.binId
  nearest : ∀ b ∈ chosen, ∀ a ∈ bins, OnSide pool token a.binId →
    distance pool a.binId ≤ distance pool b.binId → a ∈ chosen
  enough : min need (sideTotal pool bins token) ≤ total (amountField pool token) chosen
  minimal : ∀ shorter, shorter <+: chosen → shorter ≠ chosen →
    total (amountField pool token) shorter < need

/-- A removal of the chosen bins and of nothing else the position holds. -/
structure Removes (pool : Pool) (bins : List PositionBin) (token : Token)
    (chosen : List PositionBin) (range : Option RemoveLiquidity) : Prop where
  requested : range = none ↔ chosen = []
  exactly : ∀ r ∈ range, ∀ b ∈ bins, r.fromBinId ≤ b.binId ∧ b.binId ≤ r.toBinId ↔ b ∈ chosen
  onSide : ∀ r ∈ range, ∀ binId, r.fromBinId ≤ binId → binId ≤ r.toBinId → OnSide pool token binId
  whole : ∀ r ∈ range, r.bps = fullBps ∧ r.shouldClaimAndClose = false

theorem onSide_sol (binId : ℤ) : OnSide pool .sol binId ↔
    if pool.venue.bertIsX then binId < pool.activeBin.binId else pool.activeBin.binId < binId := by
  cases hx : pool.venue.bertIsX <;> simp [OnSide, hx]

theorem onSide_bert (binId : ℤ) : OnSide pool .bert binId ↔
    if pool.venue.bertIsX then pool.activeBin.binId < binId else binId < pool.activeBin.binId := by
  cases hx : pool.venue.bertIsX <;> simp [OnSide, hx]

/-- The two sides of the active bin, each with its bins nearest first. -/
inductive Oriented (pool : Pool) (bins : List PositionBin) (token : Token) : Prop where
  | below : (∀ binId, OnSide pool token binId ↔ binId < pool.activeBin.binId) →
      binsHolding pool bins token = binsBelow pool bins → Oriented pool bins token
  | above : (∀ binId, OnSide pool token binId ↔ pool.activeBin.binId < binId) →
      binsHolding pool bins token = binsAbove pool bins → Oriented pool bins token

theorem oriented (pool : Pool) (bins : List PositionBin) (token : Token) :
    Oriented pool bins token := by
  cases hx : pool.venue.bertIsX <;> cases token
  · exact .above (fun b => by rw [onSide_sol, hx]; simp) (by simp [binsHolding, hx])
  · exact .below (fun b => by rw [onSide_bert, hx]; simp) (by simp [binsHolding, hx])
  · exact .below (fun b => by rw [onSide_sol, hx]; simp) (by simp [binsHolding, hx])
  · exact .above (fun b => by rw [onSide_bert, hx]; simp) (by simp [binsHolding, hx])

theorem binsHolding_perm (pool : Pool) (bins : List PositionBin) (token : Token) :
    (binsHolding pool bins token).Perm (bins.filter fun b => OnSide pool token b.binId) := by
  cases oriented pool bins token with
  | below hside hbins =>
    rw [hbins, binsBelow]
    simp only [hside]
    exact List.perm_insertionSort _ _
  | above hside hbins =>
    rw [hbins, binsAbove]
    simp only [hside]
    exact List.perm_insertionSort _ _

theorem mem_binsHolding {b : PositionBin} :
    b ∈ binsHolding pool bins token ↔ b ∈ bins ∧ OnSide pool token b.binId := by
  rw [(binsHolding_perm pool bins token).mem_iff, List.mem_filter, decide_eq_true_eq]

theorem total_perm {weight : PositionBin → ℕ} {as bs : List PositionBin} (h : as.Perm bs) :
    total weight as = total weight bs := (h.map _).sum_eq

theorem binsHolding_ordered (hdistinct : (bins.map PositionBin.binId).Nodup) :
    (binsHolding pool bins token).Pairwise
      fun a b => distance pool a.binId < distance pool b.binId := by
  have hids : (binsHolding pool bins token).Pairwise fun a b => a.binId ≠ b.binId := by
    have hfilter := (List.pairwise_map.mp hdistinct).filter fun b => OnSide pool token b.binId
    exact (binsHolding_perm pool bins token).symm.pairwise hfilter fun h => h.symm
  have hmem : ∀ b ∈ binsHolding pool bins token, OnSide pool token b.binId := fun b hb =>
    (mem_binsHolding.mp hb).2
  cases oriented pool bins token with
  | below hside hbins =>
    have hsorted : (binsHolding pool bins token).Pairwise fun a b => b.binId ≤ a.binId := by
      rw [hbins]
      exact List.pairwise_insertionSort _ _
    refine ((hsorted.and hids).imp_of_mem ?_)
    intro a b ha hb hab
    have hbelow := (hside a.binId).mp (hmem a ha)
    have hbelow' := (hside b.binId).mp (hmem b hb)
    unfold distance
    rw [abs_of_neg (by omega), abs_of_neg (by omega)]
    omega
  | above hside hbins =>
    have hsorted : (binsHolding pool bins token).Pairwise fun a b => a.binId ≤ b.binId := by
      rw [hbins]
      exact List.pairwise_insertionSort _ _
    refine ((hsorted.and hids).imp_of_mem ?_)
    intro a b ha hb hab
    have habove := (hside a.binId).mp (hmem a ha)
    have habove' := (hside b.binId).mp (hmem b hb)
    unfold distance
    rw [abs_of_pos (by omega), abs_of_pos (by omega)]
    omega

theorem selectedBins_prefix :
    selectedBins pool bins token need <+: binsHolding pool bins token := by
  unfold selectedBins
  split
  · exact takeUntil_prefix ..
  · exact List.nil_prefix

theorem selectedBins_nearest (hdistinct : (bins.map PositionBin.binId).Nodup) (hneed : 0 < need) :
    NearestPrefix pool bins token need (selectedBins pool bins token need) := by
  have htaken : selectedBins pool bins token need <+: binsHolding pool bins token :=
    selectedBins_prefix
  have hordered : (binsHolding pool bins token).Pairwise
      fun a b => distance pool a.binId < distance pool b.binId := binsHolding_ordered hdistinct
  have hselected : selectedBins pool bins token need =
      takeUntil (amountField pool token) need 0 (binsHolding pool bins token) := if_pos hneed
  constructor
  · intro b hb
    exact mem_binsHolding.mp (htaken.subset hb)
  · exact hordered.sublist htaken.sublist
  · intro b hb a ha hside hle
    exact mem_of_prefix hordered htaken hb (mem_binsHolding.mpr ⟨ha, hside⟩) (not_lt.mpr hle)
  · have hreaches := takeUntil_reaches (amountField pool token) need 0 (binsHolding pool bins token)
    rw [Int.zero_add, Int.zero_add, total_perm (binsHolding_perm pool bins token),
      ← hselected] at hreaches
    exact hreaches
  · intro shorter hshorter hne
    rw [hselected] at hshorter hne
    have hlt := takeUntil_minimal hshorter hne
    rwa [Int.zero_add] at hlt

theorem between_onSide {lo hi binId : ℤ} (hlo : OnSide pool token lo) (hhi : OnSide pool token hi)
    (h : lo ≤ binId) (h' : binId ≤ hi) : OnSide pool token binId := by
  unfold OnSide at *
  split at hlo
  · next hbelow =>
    rw [if_pos hbelow] at hhi ⊢
    omega
  · next habove =>
    rw [if_neg habove] at ⊢
    omega

theorem between_distance {lo hi binId : ℤ} (hlo : OnSide pool token lo)
    (hhi : OnSide pool token hi) (h : lo ≤ binId) (h' : binId ≤ hi) :
    distance pool binId ≤ distance pool lo ∨ distance pool binId ≤ distance pool hi := by
  have hside := between_onSide hlo hhi h h'
  unfold OnSide at hlo hhi hside
  unfold distance
  split at hlo
  · next hbelow =>
    rw [if_pos hbelow] at hside
    left
    rw [abs_of_neg (by omega), abs_of_neg (by omega)]
    omega
  · next habove =>
    rw [if_neg habove] at hside hhi
    right
    rw [abs_of_pos (by omega), abs_of_pos (by omega)]
    omega

theorem sideRange_removes (position : String) (hdistinct : (bins.map PositionBin.binId).Nodup)
    (h : chosen <+: binsHolding pool bins token) :
    Removes pool bins token chosen (sideRange position (chosen.map PositionBin.binId)) := by
  have hordered : (binsHolding pool bins token).Pairwise
      fun a b => distance pool a.binId < distance pool b.binId := binsHolding_ordered hdistinct
  have hside : ∀ b ∈ chosen, OnSide pool token b.binId := fun b hb =>
    (mem_binsHolding.mp (h.subset hb)).2
  have hspan : ∀ r ∈ sideRange position (chosen.map PositionBin.binId),
      (∃ a ∈ chosen, a.binId = r.fromBinId) ∧ (∃ a ∈ chosen, a.binId = r.toBinId) ∧
      (∀ b ∈ chosen, r.fromBinId ≤ b.binId ∧ b.binId ≤ r.toBinId) ∧
      r.bps = fullBps ∧ r.shouldClaimAndClose = false := by
    intro r hr
    simp only [sideRange, Option.bind_eq_bind, Option.mem_def, Option.bind_eq_some_iff,
      Option.pure_def, Option.some.injEq, List.min?_eq_some_iff, List.max?_eq_some_iff] at hr
    obtain ⟨lo, ⟨hlo, hmin⟩, hi, ⟨hhi, hmax⟩, rfl⟩ := hr
    refine ⟨List.mem_map.mp hlo, List.mem_map.mp hhi, fun b hb => ?_, rfl, rfl⟩
    exact ⟨hmin _ (List.mem_map_of_mem hb), hmax _ (List.mem_map_of_mem hb)⟩
  constructor
  · cases chosen with
    | nil => simp [sideRange]
    | cons b chosen => simp [sideRange]
  · intro r hr b hb
    obtain ⟨⟨lo, hlo, hfrom⟩, ⟨hi, hhi, hto⟩, hwithin, -⟩ := hspan r hr
    constructor
    · rintro ⟨hge, hle⟩
      rw [← hfrom] at hge
      rw [← hto] at hle
      have hmem : b ∈ binsHolding pool bins token :=
        mem_binsHolding.mpr ⟨hb, between_onSide (hside lo hlo) (hside hi hhi) hge hle⟩
      rcases between_distance (hside lo hlo) (hside hi hhi) hge hle with hd | hd
      · exact mem_of_prefix hordered h hlo hmem (not_lt.mpr hd)
      · exact mem_of_prefix hordered h hhi hmem (not_lt.mpr hd)
    · exact hwithin b
  · intro r hr binId hge hle
    obtain ⟨⟨lo, hlo, hfrom⟩, ⟨hi, hhi, hto⟩, -⟩ := hspan r hr
    rw [← hfrom] at hge
    rw [← hto] at hle
    exact between_onSide (hside lo hlo) (hside hi hhi) hge hle
  · intro r hr
    exact (hspan r hr).2.2.2

/-- On each side the nearest bins that are needed are removed, and nothing else; without any
such bin on either side there is no transaction. -/
theorem partial_close_nearest (pool : Pool) (pos : PoolPosition) (positionId : String)
    (needSolLamports needBertRaw : ℤ) (hfound : findUserPosition pool positionId = some pos)
    (hdistinct : (pos.positionBinData.map PositionBin.binId).Nodup) :
    let sol := selectedBins pool pos.positionBinData .sol needSolLamports
    let bert := selectedBins pool pos.positionBinData .bert needBertRaw
    (0 < needSolLamports → NearestPrefix pool pos.positionBinData .sol needSolLamports sol) ∧
    (0 < needBertRaw → NearestPrefix pool pos.positionBinData .bert needBertRaw bert) ∧
    (needSolLamports ≤ 0 → sol = []) ∧ (needBertRaw ≤ 0 → bert = []) ∧
    ((∃ e, buildPartialCloseTx pool positionId needSolLamports needBertRaw = .error e) ↔
      sol = [] ∧ bert = []) ∧
    ∀ removals, buildPartialCloseTx pool positionId needSolLamports needBertRaw = .ok removals →
      ∃ solRange bertRange, removals = solRange.toList ++ bertRange.toList ∧
        Removes pool pos.positionBinData .sol sol solRange ∧
        Removes pool pos.positionBinData .bert bert bertRange := by
  intro sol bert
  have hbuild : buildPartialCloseTx pool positionId needSolLamports needBertRaw =
      if sol.map PositionBin.binId = [] ∧ bert.map PositionBin.binId = [] then
        .error (.error ("buildPartialCloseTx: no bins selected " ++
          "(need amounts may be 0 or position has no eligible bins)"))
      else .ok ((sideRange pos.publicKey (sol.map PositionBin.binId)).toList ++
        (sideRange pos.publicKey (bert.map PositionBin.binId)).toList) := by
    unfold buildPartialCloseTx requirePosition
    rw [hfound]
    rfl
  refine ⟨selectedBins_nearest hdistinct, selectedBins_nearest hdistinct, ?_, ?_, ?_, ?_⟩
  · intro hneed
    exact if_neg (not_lt.mpr hneed)
  · intro hneed
    exact if_neg (not_lt.mpr hneed)
  · rw [hbuild]
    simp only [List.map_eq_nil_iff]
    by_cases hnone : sol = [] ∧ bert = []
    · simp [hnone]
    · simp [hnone]
  · intro removals hremovals
    rw [hbuild] at hremovals
    split at hremovals
    · cases hremovals
    · cases hremovals
      exact ⟨_, _, rfl, sideRange_removes _ hdistinct selectedBins_prefix,
        sideRange_removes _ hdistinct selectedBins_prefix⟩

def spreadPosition : PoolPosition where
  publicKey := "a"
  totalXAmount := 17
  totalYAmount := 13
  feeX := 0
  feeY := 0
  lowerBinId := 8
  upperBinId := 12
  positionBinData := [⟨8, 0, 5⟩, ⟨12, 7, 0⟩, ⟨9, 0, 5⟩, ⟨10, 3, 3⟩, ⟨11, 7, 0⟩]

def spreadPool : Pool := ⟨⟨true, 1, fun _ _ => 1⟩, ⟨10, 1⟩, [spreadPosition], fun _ _ => 0⟩

theorem partial_close_nearest_spread :
    NearestPrefix spreadPool spreadPosition.positionBinData .sol 6 [⟨9, 0, 5⟩, ⟨8, 0, 5⟩] ∧
      NearestPrefix spreadPool spreadPosition.positionBinData .bert 1 [⟨11, 7, 0⟩] ∧
      buildPartialCloseTx spreadPool "a" 6 1 =
        .ok [⟨"a", 8, 9, fullBps, false⟩, ⟨"a", 11, 11, fullBps, false⟩] := by
  have h := partial_close_nearest spreadPool spreadPosition "a" 6 1 rfl (by decide)
  exact ⟨h.1 (by decide), h.2.1 (by decide), by decide +kernel⟩

end PartialClose
