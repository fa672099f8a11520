import Mathlib.Algebra.Order.Field.Basic

/-! # Geometric price grids

The grid points are the integer powers of a base above one. A price is rounded down to the last
point that it reaches, or up to the first that it does not exceed. -/
namespace PriceGrid

variable {K : Type*} [Field K] [LinearOrder K] [IsStrictOrderedRing K] {base price : K} {i k : ℤ}

def FloorPoint (base price : K) (i : ℤ) : Prop := base ^ i ≤ price ∧ price < base ^ (i + 1)

def CeilPoint (base price : K) (i : ℤ) : Prop := base ^ (i - 1) < price ∧ price ≤ base ^ i

def OnGrid (base price : K) : Prop := ∃ k : ℤ, base ^ k = price

theorem FloorPoint.le_iff (hbase : 1 < base) (h : FloorPoint base price i) :
    k ≤ i ↔ base ^ k ≤ price := by
  constructor
  · intro hle
    exact ((zpow_le_zpow_iff_right₀ hbase).mpr hle).trans h.1
  · intro hle
    have hlt := (zpow_lt_zpow_iff_right₀ hbase).mp (hle.trans_lt h.2)
    omega

theorem CeilPoint.le_iff (hbase : 1 < base) (h : CeilPoint base price i) :
    i ≤ k ↔ price ≤ base ^ k := by
  constructor
  · intro hle
    exact h.2.trans ((zpow_le_zpow_iff_right₀ hbase).mpr hle)
  · intro hle
    have hlt := (zpow_lt_zpow_iff_right₀ hbase).mp (h.1.trans_le hle)
    omega

/-- Rounding down is exact on grid points only. -/
theorem FloorPoint.ceilPoint_iff (hbase : 1 < base) (h : FloorPoint base price i) :
    CeilPoint base price i ↔ OnGrid base price := by
  constructor
  · intro hceil
    exact ⟨i, le_antisymm h.1 hceil.2⟩
  · rintro ⟨k, rfl⟩
    have hki : i = k := by
      have hle := (h.le_iff hbase).mpr le_rfl
      have hle' := (zpow_le_zpow_iff_right₀ hbase).mp h.1
      omega
    subst hki
    exact ⟨(zpow_lt_zpow_iff_right₀ hbase).mpr (by omega), le_rfl⟩

theorem CeilPoint.floorPoint_iff (hbase : 1 < base) (h : CeilPoint base price i) :
    FloorPoint base price i ↔ OnGrid base price := by
  constructor
  · intro hfloor
    exact ⟨i, le_antisymm hfloor.1 h.2⟩
  · rintro ⟨k, rfl⟩
    have hki : i = k := by
      have hle := (h.le_iff hbase).mpr le_rfl
      have hle' := (zpow_le_zpow_iff_right₀ hbase).mp h.2
      omega
    subst hki
    exact ⟨le_rfl, (zpow_lt_zpow_iff_right₀ hbase).mpr (by omega)⟩

/-- Between two prices lies a grid point exactly when the lower one rounded up does not exceed
the higher one rounded down. -/
theorem exists_between_iff {low high : K} (hbase : 1 < base) (hhigh : FloorPoint base high i)
    (hlow : CeilPoint base low k) : k ≤ i ↔ ∃ j : ℤ, low ≤ base ^ j ∧ base ^ j ≤ high := by
  constructor
  · intro hle
    exact ⟨k, hlow.2, (hhigh.le_iff hbase).mp hle⟩
  · rintro ⟨j, hlowj, hhighj⟩
    exact ((hlow.le_iff hbase).mpr hlowj).trans ((hhigh.le_iff hbase).mpr hhighj)

/-- The price lies strictly between the two neighbours of the grid point. -/
def Near (base price : K) (i : ℤ) : Prop := base ^ (i - 1) < price ∧ price < base ^ (i + 1)

theorem FloorPoint.near (hbase : 1 < base) (h : FloorPoint base price i) : Near base price i := by
  have hbelow : base ^ (i - 1) < base ^ i := (zpow_lt_zpow_iff_right₀ hbase).mpr (by omega)
  constructor
  · exact hbelow.trans_le h.1
  · exact h.2

theorem CeilPoint.near (hbase : 1 < base) (h : CeilPoint base price i) : Near base price i := by
  have habove : base ^ i < base ^ (i + 1) := (zpow_lt_zpow_iff_right₀ hbase).mpr (by omega)
  constructor
  · exact h.1
  · exact h.2.trans_lt habove

/-- Rounded outwards, two prices keep their order. -/
theorem near_outward {low high : K} (hbase : 1 < base) (hlow : FloorPoint base low i)
    (hhigh : CeilPoint base high k) (hle : low ≤ high) :
    i ≤ k ∧ Near base low i ∧ Near base high k := by
  have hik : i ≤ k :=
    (zpow_le_zpow_iff_right₀ hbase).mp (hlow.1.trans (hle.trans hhigh.2))
  exact ⟨hik, hlow.near hbase, hhigh.near hbase⟩

/-- Rounded inwards they may pass each other, but then they are neighbours. -/
theorem near_inward {low high : K} (hbase : 1 < base) (hlow : CeilPoint base low i)
    (hhigh : FloorPoint base high k) (hle : low ≤ high) :
    Near base low (min i k) ∧ Near base high (max i k) := by
  by_cases hik : i ≤ k
  · rw [min_eq_left hik, max_eq_right hik]
    exact ⟨hlow.near hbase, hhigh.near hbase⟩
  · have hnext : i = k + 1 := by
      have hlt : base ^ (i - 1) < base ^ (k + 1) := hlow.1.trans_le (hle.trans hhigh.2.le)
      have := (zpow_lt_zpow_iff_right₀ hbase).mp hlt
      omega
    have hmin : min i k = k := min_eq_right (by omega)
    have hmax : max i k = i := max_eq_left (by omega)
    have hbelow : base ^ (k - 1) < base ^ (i - 1) :=
      (zpow_lt_zpow_iff_right₀ hbase).mpr (by omega)
    have habove : base ^ (k + 1) < base ^ (i + 1) :=
      (zpow_lt_zpow_iff_right₀ hbase).mpr (by omega)
    rw [hmin, hmax]
    constructor
    · exact ⟨hbelow.trans hlow.1, hle.trans_lt hhigh.2⟩
    · exact ⟨hlow.1.trans_le hle, hhigh.2.trans habove⟩

end PriceGrid
