import Mathlib.Data.List.Sort
import Mathlib.Tactic.Ring

/-! # Covering a need with a prefix

Items are taken from the front of a list until their weight reaches a need. What is taken
weighs as much as the need or the whole list, and no shorter prefix reaches the need. -/
namespace PrefixCover

variable {α : Type*} {weight : α → ℕ} {need collected : ℤ} {as taken shorter : List α}

def total (weight : α → ℕ) (as : List α) : ℤ := (as.map fun a => (weight a : ℤ)).sum

@[simp] theorem total_nil : total weight [] = 0 := rfl

@[simp] theorem total_cons (a : α) : total weight (a :: as) = weight a + total weight as := by
  simp [total]

def takeUntil (weight : α → ℕ) (need : ℤ) : ℤ → List α → List α
  | _, [] => []
  | collected, a :: as =>
    if need ≤ collected then [] else a :: takeUntil weight need (collected + weight a) as

theorem takeUntil_prefix (weight : α → ℕ) (need collected : ℤ) (as : List α) :
    takeUntil weight need collected as <+: as := by
  induction as generalizing collected with
  | nil => exact List.prefix_refl _
  | cons a as ih =>
    rw [takeUntil]
    split
    · exact List.nil_prefix
    · exact (List.prefix_cons_inj a).mpr (ih _)

theorem takeUntil_reaches (weight : α → ℕ) (need collected : ℤ) (as : List α) :
    min need (collected + total weight as) ≤
      collected + total weight (takeUntil weight need collected as) := by
  induction as generalizing collected with
  | nil => exact min_le_right ..
  | cons a as ih =>
    rw [takeUntil]
    split
    · next hneed =>
      rw [total_nil, Int.add_zero]
      exact (min_le_left ..).trans hneed
    · have hrest := ih (collected + weight a)
      rw [total_cons, total_cons, ← Int.add_assoc, ← Int.add_assoc]
      exact hrest

theorem takeUntil_minimal (h : shorter <+: takeUntil weight need collected as)
    (hne : shorter ≠ takeUntil weight need collected as) :
    collected + total weight shorter < need := by
  induction as generalizing collected shorter with
  | nil => exact absurd (List.prefix_nil.mp h) hne
  | cons a as ih =>
    rw [takeUntil] at h hne
    split at h
    · next hneed =>
      rw [if_pos hneed] at hne
      exact absurd (List.prefix_nil.mp h) hne
    · next hneed =>
      rw [if_neg hneed] at hne
      cases shorter with
      | nil =>
        rw [total_nil, Int.add_zero]
        exact not_le.mp hneed
      | cons b shorter =>
        obtain ⟨rfl, hrest⟩ := List.cons_prefix_cons.mp h
        have hlt := ih hrest fun heq => hne (by rw [heq])
        rw [total_cons, ← Int.add_assoc]
        exact hlt

theorem takeUntil_map {β : Type*} (f : β → α) (bs : List β) :
    takeUntil weight need collected (bs.map f) =
      (takeUntil (fun b => weight (f b)) need collected bs).map f := by
  induction bs generalizing collected with
  | nil => rfl
  | cons b bs ih =>
    simp only [List.map_cons, takeUntil]
    split
    · rfl
    · rw [List.map_cons, ih]

theorem mem_of_prefix {r : α → α → Prop} {a b : α} (hsorted : as.Pairwise r)
    (h : taken <+: as) (ha : a ∈ taken) (hb : b ∈ as) (hr : ¬r a b) : b ∈ taken := by
  obtain ⟨rest, rfl⟩ := h
  rcases List.mem_append.mp hb with hb | hb
  · exact hb
  · exact absurd ((List.pairwise_append.mp hsorted).2.2 a ha b hb) hr

end PrefixCover
