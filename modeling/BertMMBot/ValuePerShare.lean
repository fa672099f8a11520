import Mathlib.Algebra.Order.Field.Basic
import Mathlib.Tactic.FieldSimp
import Mathlib.Tactic.Linarith
import Mathlib.Tactic.Ring

/-! # Value per share of a pool

A pool of value `N` with `S` shares over an ordered field. Withdrawals that take out at most
the value of the net shares they burn never lower the value per share; a deposit keeps it
exactly when its shares are minted at that value. -/
namespace ValuePerShare

variable {K : Type*} [Field K] [LinearOrder K] [IsStrictOrderedRing K] {N S burned fee paid d p : K}

omit [IsStrictOrderedRing K] in
theorem gap_after_withdrawal (hS : 0 < S) :
    (N - (burned - fee) * (N / S)) * S - N * (S - burned) = N * fee := by
  field_simp
  ring

theorem le_after_withdrawal (hburned : 0 ≤ burned) (hS : burned < S) (hN : 0 ≤ N)
    (hfee : 0 ≤ fee) (hpaid : paid ≤ (burned - fee) * (N / S)) :
    N / S ≤ (N - paid) / (S - burned) := by
  have hSpos : 0 < S := lt_of_le_of_lt hburned hS
  have hgap : (N - (burned - fee) * (N / S)) * S - N * (S - burned) = N * fee :=
    gap_after_withdrawal hSpos
  rw [div_le_div_iff₀ hSpos (sub_pos.mpr hS)]
  have hkeep : (N - (burned - fee) * (N / S)) * S ≤ (N - paid) * S :=
    mul_le_mul_of_nonneg_right (sub_le_sub_left hpaid N) hSpos.le
  have hnonneg : 0 ≤ N * fee := mul_nonneg hN hfee
  linarith

theorem lt_after_withdrawal (hburned : 0 ≤ burned) (hS : burned < S) (hN : 0 < N)
    (hfee : 0 < fee) (hpaid : paid ≤ (burned - fee) * (N / S)) :
    N / S < (N - paid) / (S - burned) := by
  have hSpos : 0 < S := lt_of_le_of_lt hburned hS
  have hgap : (N - (burned - fee) * (N / S)) * S - N * (S - burned) = N * fee :=
    gap_after_withdrawal hSpos
  rw [div_lt_div_iff₀ hSpos (sub_pos.mpr hS)]
  have hkeep : (N - (burned - fee) * (N / S)) * S ≤ (N - paid) * S :=
    mul_le_mul_of_nonneg_right (sub_le_sub_left hpaid N) hSpos.le
  have hpos : 0 < N * fee := mul_pos hN hfee
  linarith

end ValuePerShare
