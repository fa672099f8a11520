import BertMMBot.VaultRuntime
import Mathlib.Data.List.GetD

/-! # How far a trusted mid is from its sources

The BERT quotes are checked against each other before they are averaged, the SOL quotes are
averaged as they are. The first mean is near every quote it is made of as long as the middle
quote is not negative; the second one is so if the gaps between the quotes are small for the
number of quotes on either side of them. -/
namespace OracleCorroboration

open VaultTypes VaultRuntime

variable {samples : List PriceSample} {xs : List ℚ} {x bound bps solUsd : ℚ} {now : ℤ}
  {m : MidPrice}

abbrev sorted (xs : List ℚ) : List ℚ := xs.insertionSort (· ≤ ·)

/-- The middle element, the upper one of two. -/
def median (xs : List ℚ) : ℚ := (sorted xs).getD (xs.length / 2) 0

def lowest (xs : List ℚ) : ℚ := (sorted xs).getD 0 0
def highest (xs : List ℚ) : ℚ := (sorted xs).getD (xs.length - 1) 0

def bertQuotes (samples : List PriceSample) : List ℚ := samples.map PriceSample.bertUsd

/-- The sources that quote SOL at all. -/
def solQuotes (samples : List PriceSample) : List ℚ :=
  (samples.filter fun s => 0 < s.solUsd).map PriceSample.solUsd

def tolerance (bps : ℚ) (xs : List ℚ) : ℚ := bps / 10000 * median xs

structure Corroborated (samples : List PriceSample) (bps : ℚ) (m : MidPrice) : Prop where
  sources : 2 ≤ samples.length
  bert : ∀ s ∈ samples, |m.bertUsd - s.bertUsd| ≤ tolerance bps (bertQuotes samples)
  sol : ∀ s ∈ samples, 0 < s.solUsd → |m.solUsd - s.solUsd| ≤ tolerance bps (solQuotes samples)

/-- The quotes of BERT are too few or too far apart. -/
def BertRejected (samples : List PriceSample) (bps : ℚ) : Prop :=
  samples.length < 2 ∨
    diverges (highest (bertQuotes samples) - lowest (bertQuotes samples))
      (median (bertQuotes samples)) bps = true

/-- The gaps between neighbours, each as often as there are quotes above it. -/
def gapsAbove : List ℚ → ℚ
  | low :: high :: rest => (rest.length + 1) * (high - low) + gapsAbove (high :: rest)
  | _ => 0

/-- The gaps between neighbours, each as often as there are quotes below it. -/
def gapsBelow (below : ℕ) : List ℚ → ℚ
  | low :: high :: rest => below * (high - low) + gapsBelow (below + 1) (high :: rest)
  | _ => 0

/-- Counted either way, the gaps come to no more than the tolerance for each quote. -/
def Balanced (bps : ℚ) (xs : List ℚ) : Prop :=
  gapsAbove (sorted xs) ≤ xs.length * tolerance bps xs ∧
    gapsBelow 1 (sorted xs) ≤ xs.length * tolerance bps xs

theorem mem_sorted : x ∈ sorted xs ↔ x ∈ xs := List.mem_insertionSort _

theorem sorted_pairwise (xs : List ℚ) : (sorted xs).Pairwise (· ≤ ·) :=
  List.pairwise_insertionSort _ _

theorem sorted_length (xs : List ℚ) : (sorted xs).length = xs.length :=
  List.length_insertionSort _ _

theorem sorted_sum (xs : List ℚ) : (sorted xs).sum = xs.sum := (List.perm_insertionSort _ _).sum_eq

theorem getD_mem {i : ℕ} (hi : i < xs.length) : (sorted xs).getD i 0 ∈ xs := by
  have hlen : i < (sorted xs).length := by rwa [sorted_length]
  rw [List.getD_eq_getElem _ _ hlen, ← mem_sorted]
  exact List.getElem_mem hlen

theorem lowest_le (hx : x ∈ xs) : lowest xs ≤ x := by
  have hsorted := sorted_pairwise xs
  have hmem := mem_sorted.mpr hx
  unfold lowest
  rcases hs : sorted xs with _ | ⟨first, rest⟩
  · rw [hs] at hmem
    cases hmem
  · rw [hs] at hmem hsorted
    rcases List.mem_cons.mp hmem with rfl | hrest
    · exact le_rfl
    · exact (List.pairwise_cons.mp hsorted).1 x hrest

theorem le_highest (hx : x ∈ xs) : x ≤ highest xs := by
  have hpos : 0 < xs.length := List.length_pos_of_mem hx
  have hlen : xs.length - 1 < (sorted xs).length := by
    rw [sorted_length]
    omega
  obtain ⟨i, hi, hget⟩ := List.getElem_of_mem (mem_sorted.mpr hx)
  rw [highest, List.getD_eq_getElem _ _ hlen, ← hget]
  by_cases hlt : i < xs.length - 1
  · exact List.pairwise_iff_getElem.mp (sorted_pairwise xs) i (xs.length - 1) hi hlen hlt
  · have hidx : i = xs.length - 1 := by
      rw [sorted_length] at hi
      omega
    subst hidx
    exact le_rfl

theorem lowest_mem (h : xs ≠ []) : lowest xs ∈ xs := getD_mem (List.length_pos_iff.mpr h)

theorem highest_mem (h : xs ≠ []) : highest xs ∈ xs := by
  have hpos := List.length_pos_iff.mpr h
  exact getD_mem (by omega)

theorem length_cast_pos (h : xs ≠ []) : (0 : ℚ) < xs.length := by
  exact_mod_cast List.length_pos_iff.mpr h

theorem gapsAbove_cons (x : ℚ) (xs : List ℚ) :
    gapsAbove (x :: xs) = (x :: xs).sum - (xs.length + 1) * x := by
  induction xs generalizing x with
  | nil => simp [gapsAbove]
  | cons y ys ih =>
    simp only [gapsAbove, ih, List.sum_cons, List.length_cons]
    push_cast
    ring

theorem gapsBelow_cons (below : ℕ) (x : ℚ) (xs : List ℚ) :
    gapsBelow below (x :: xs) =
      (below + xs.length) * (x :: xs).getD xs.length 0 - (below - 1) * x - (x :: xs).sum := by
  induction xs generalizing below x with
  | nil =>
    simp [gapsBelow]
    ring
  | cons y ys ih =>
    simp only [gapsBelow, ih, List.sum_cons, List.length_cons, List.getD_cons_succ]
    push_cast
    ring

theorem gapsAbove_sorted (h : xs ≠ []) :
    gapsAbove (sorted xs) = xs.sum - xs.length * lowest xs := by
  have hlen := sorted_length xs
  have hsum := sorted_sum xs
  unfold lowest
  rcases hs : sorted xs with _ | ⟨first, rest⟩
  · rw [hs] at hlen
    exact absurd (List.eq_nil_of_length_eq_zero hlen.symm) h
  · rw [hs] at hlen hsum
    rw [gapsAbove_cons, hsum, ← hlen, List.length_cons, List.getD_cons_zero]
    push_cast
    ring

theorem gapsBelow_sorted (h : xs ≠ []) :
    gapsBelow 1 (sorted xs) = xs.length * highest xs - xs.sum := by
  have hlen := sorted_length xs
  have hsum := sorted_sum xs
  unfold highest
  rcases hs : sorted xs with _ | ⟨first, rest⟩
  · rw [hs] at hlen
    exact absurd (List.eq_nil_of_length_eq_zero hlen.symm) h
  · rw [hs] at hlen hsum
    rw [gapsBelow_cons, hsum, ← hlen, List.length_cons, Nat.add_sub_cancel]
    push_cast
    ring

theorem mean_sub (h : xs ≠ []) : xs.length * (mean xs - x) = xs.sum - xs.length * x := by
  have hpos := length_cast_pos h
  unfold mean
  field_simp

theorem balanced_iff : Balanced bps xs ↔ ∀ x ∈ xs, |mean xs - x| ≤ tolerance bps xs := by
  by_cases hnil : xs = []
  · subst hnil
    simp [Balanced, gapsAbove, gapsBelow, sorted]
  · have hpos := length_cast_pos hnil
    have habove : gapsAbove (sorted xs) = xs.length * (mean xs - lowest xs) := by
      rw [mean_sub hnil, gapsAbove_sorted hnil]
    have hbelow : gapsBelow 1 (sorted xs) = xs.length * (highest xs - mean xs) := by
      have hsub := mean_sub (x := highest xs) hnil
      rw [gapsBelow_sorted hnil]
      linarith
    rw [Balanced, habove, hbelow, mul_le_mul_iff_right₀ hpos, mul_le_mul_iff_right₀ hpos]
    constructor
    · rintro ⟨hlow, hhigh⟩ x hx
      have hfirst := lowest_le hx
      have hlast := le_highest hx
      rw [abs_le]
      constructor <;> linarith
    · intro hall
      have hlow := abs_le.mp (hall _ (lowest_mem hnil))
      have hhigh := abs_le.mp (hall _ (highest_mem hnil))
      constructor <;> linarith

theorem balanced_pair {y : ℚ} (hle : x ≤ y) :
    Balanced bps [x, y] ↔ y - x ≤ 2 * tolerance bps [x, y] := by
  have hsorted : sorted [x, y] = [x, y] := by simp [sorted, hle]
  simp [Balanced, hsorted, gapsAbove, gapsBelow]

theorem balanced_of_spread (h : highest xs - lowest xs ≤ tolerance bps xs) : Balanced bps xs := by
  rw [balanced_iff]
  intro x hx
  have hnil : xs ≠ [] := List.ne_nil_of_mem hx
  have hpos := length_cast_pos hnil
  have hbounds : lowest xs ≤ mean xs ∧ mean xs ≤ highest xs := by
    unfold mean
    rw [le_div_iff₀ hpos, div_le_iff₀ hpos]
    constructor
    · have hsum := List.card_nsmul_le_sum xs (lowest xs) fun y hy => lowest_le hy
      rwa [nsmul_eq_mul, mul_comm] at hsum
    · have hsum := List.sum_le_card_nsmul xs (highest xs) fun y hy => le_highest hy
      rwa [nsmul_eq_mul, mul_comm] at hsum
  have hfirst := lowest_le hx
  have hlast := le_highest hx
  rw [abs_le]
  constructor <;> linarith [hbounds.1, hbounds.2]

theorem balanced_of_checked (hmedian : 0 ≤ median xs)
    (hcheck : diverges (highest xs - lowest xs) (median xs) bps = false) : Balanced bps xs := by
  apply balanced_of_spread
  unfold diverges at hcheck
  by_cases hzero : median xs = 0
  · rw [if_pos hzero, decide_eq_false_iff_not, not_lt] at hcheck
    rw [tolerance, hzero, mul_zero]
    exact hcheck
  · have hpos : 0 < median xs := lt_of_le_of_ne hmedian (Ne.symm hzero)
    rw [if_neg hzero, decide_eq_false_iff_not, not_lt, div_mul_eq_mul_div,
      div_le_iff₀ hpos] at hcheck
    rw [tolerance]
    linarith

theorem computeTrustedMid_cases (samples : List PriceSample) (solUsd bps : ℚ) (now : ℤ) :
    (BertRejected samples bps ∧ computeTrustedMid samples solUsd now bps = none) ∨
      (2 ≤ samples.length ∧ ¬BertRejected samples bps ∧
        ∃ m, computeTrustedMid samples solUsd now bps = some m ∧
          m.bertUsd = mean (bertQuotes samples) ∧
          (solQuotes samples ≠ [] → m.solUsd = mean (solQuotes samples))) := by
  have hcount : (bertQuotes samples).length = samples.length := List.length_map _
  by_cases hfew : samples.length < 2
  · refine .inl ⟨.inl hfew, ?_⟩
    unfold computeTrustedMid
    rw [if_pos hfew]
  · by_cases hrejected : BertRejected samples bps
    · refine .inl ⟨hrejected, ?_⟩
      unfold computeTrustedMid
      rw [if_neg hfew]
      simp only [List.length_insertionSort]
      exact if_pos (hrejected.resolve_left hfew)
    · refine .inr ⟨not_lt.mp hfew, hrejected, ?_⟩
      unfold computeTrustedMid
      rw [if_neg hfew]
      simp only [List.length_insertionSort]
      refine ⟨_, if_neg fun hfar => hrejected (.inr hfar), ?_, fun hquoted => if_neg hquoted⟩
      exact congrArg₂ (· / ·) (sorted_sum _) (by rw [sorted_length, bertQuotes])

/-- The mid is near all quotes exactly when there is none, or the quotes of SOL are balanced and
those of BERT have no negative middle or are balanced too. -/
theorem corroborated_iff (samples : List PriceSample) (solUsd bps : ℚ) (now : ℤ) :
    (∀ m, computeTrustedMid samples solUsd now bps = some m → Corroborated samples bps m) ↔
      BertRejected samples bps ∨
        ((0 ≤ median (bertQuotes samples) ∨ Balanced bps (bertQuotes samples)) ∧
          Balanced bps (solQuotes samples)) := by
  rcases computeTrustedMid_cases samples solUsd bps now with
    ⟨hrejected, hnone⟩ | ⟨hlen, haccepted, m, hm, hbert, hsol⟩
  · constructor
    · intro _
      exact .inl hrejected
    · intro _ m hm
      rw [hnone] at hm
      cases hm
  · constructor
    · intro hall
      obtain ⟨-, hberts, hsols⟩ := hall m hm
      refine .inr ⟨.inr (balanced_iff.mpr ?_), balanced_iff.mpr ?_⟩
      · intro x hx
        obtain ⟨s, hs, rfl⟩ := List.mem_map.mp hx
        rw [← hbert]
        exact hberts s hs
      · intro x hx
        rw [← hsol (List.ne_nil_of_mem hx)]
        obtain ⟨s, hs, rfl⟩ := List.mem_map.mp hx
        have hquoted := List.mem_filter.mp hs
        exact hsols s hquoted.1 (by simpa using hquoted.2)
    · rintro (hrejected | ⟨hberts, hsols⟩) m' hm'
      · exact absurd hrejected haccepted
      · rw [hm] at hm'
        cases hm'
        have hchecked : diverges (highest (bertQuotes samples) - lowest (bertQuotes samples))
            (median (bertQuotes samples)) bps = false := by
          simpa using fun hfar => haccepted (.inr hfar)
        have hbalanced : Balanced bps (bertQuotes samples) :=
          hberts.elim (fun hmedian => balanced_of_checked hmedian hchecked) id
        constructor
        · exact hlen
        · intro s hs
          rw [hbert]
          exact balanced_iff.mp hbalanced _ (List.mem_map_of_mem hs)
        · intro s hs hpositive
          have hx : s.solUsd ∈ solQuotes samples :=
            List.mem_map_of_mem (List.mem_filter.mpr ⟨hs, by simpa using hpositive⟩)
          rw [hsol (List.ne_nil_of_mem hx)]
          exact balanced_iff.mp hsols _ hx

/-- They agree on BERT, and one quotes SOL at twice the price of the other. -/
def twoQuotes : List PriceSample :=
  [⟨"dexscreener", 1 / 100, 100, 10000, 0⟩, ⟨"jupiter", 1 / 100, 200, 20000, 0⟩]

theorem sol_uncorroborated : ∃ m, computeTrustedMid twoQuotes 100 0 150 = some m ∧
    m.solUsd = 150 ∧ ¬Corroborated twoQuotes 150 m := by
  refine ⟨⟨15000, 1 / 100, 150, 0, ["dexscreener", "jupiter"]⟩, ?_, rfl, ?_⟩
  · decide +kernel
  · intro hclose
    have hfar := hclose.sol ⟨"dexscreener", 1 / 100, 100, 10000, 0⟩ (List.mem_cons_self ..)
      (by decide +kernel)
    revert hfar
    decide +kernel

end OracleCorroboration
