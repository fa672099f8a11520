import Mathlib.Algebra.BigOperators.Group.List.Basic
import Mathlib.Algebra.Group.Basic
import Mathlib.Data.List.Nodup
import Mathlib.Tactic.Abel

/-! # Tables with a key column

Rows are kept in insertion order and found by the first match of their key. Amending the
row of one key is the only way a row changes; sums over a column follow it. -/
namespace KeyedTable

variable {κ ρ G : Type} [DecidableEq κ] (key : ρ → κ)

def lookup (k : κ) (rows : List ρ) : Option ρ := rows.find? fun r => key r = k

def amend (k : κ) (f : ρ → ρ) (rows : List ρ) : List ρ :=
  rows.map fun r => if key r = k then f r else r

def Keyed (rows : List ρ) : Prop := (rows.map key).Nodup

variable {key} {k k' : κ} {r : ρ} {rows : List ρ} {f : ρ → ρ}

theorem lookup_some (h : lookup key k rows = some r) : r ∈ rows ∧ key r = k :=
  ⟨List.mem_of_find?_eq_some h, by simpa using List.find?_some h⟩

theorem lookup_none : lookup key k rows = none ↔ ∀ r ∈ rows, key r ≠ k := by
  simp [lookup]

omit [DecidableEq κ] in
theorem keyed_cons {a : ρ} :
    Keyed key (a :: rows) ↔ (∀ r ∈ rows, key r ≠ key a) ∧ Keyed key rows := by
  simp [Keyed, eq_comm]

theorem lookup_of_mem (hk : Keyed key rows) (hr : r ∈ rows) :
    lookup key (key r) rows = some r := by
  induction rows with
  | nil => cases hr
  | cons a rows ih =>
    obtain ⟨hfresh, htail⟩ := keyed_cons.mp hk
    rcases List.mem_cons.mp hr with rfl | hmem
    · simp [lookup]
    · have hne : key a ≠ key r := fun h => hfresh r hmem h.symm
      simpa [lookup, hne] using ih htail hmem

theorem keyed_unique (hk : Keyed key rows) {a b : ρ} (ha : a ∈ rows) (hb : b ∈ rows)
    (h : key a = key b) : a = b := by
  have hla := lookup_of_mem hk ha
  rw [h, lookup_of_mem hk hb] at hla
  exact (Option.some.inj hla).symm

/-- A key and a test that its row passes select that row alone. -/
theorem filter_keyed (hk : Keyed key rows) (hr : lookup key k rows = some r) {p : ρ → Prop}
    [DecidablePred p] (hp : p r) : rows.filter (fun a => key a = k ∧ p a) = [r] := by
  induction rows with
  | nil => cases hr
  | cons a rows ih =>
    obtain ⟨hfresh, htail⟩ := keyed_cons.mp hk
    by_cases ha : key a = k
    · obtain rfl : a = r := by simpa [lookup, ha] using hr
      have hnone : rows.filter (fun b => key b = k ∧ p b) = [] := by
        refine List.filter_eq_nil_iff.mpr fun b hb => ?_
        have hne : key b ≠ k := ha ▸ hfresh b hb
        simp [hne]
      rw [List.filter_cons_of_pos (by simpa using ⟨ha, hp⟩), hnone]
    · have hr' : lookup key k rows = some r := by simpa [lookup, ha] using hr
      rw [List.filter_cons_of_neg (by simp [ha])]
      exact ih htail hr'

theorem amend_keys (hf : ∀ r, key (f r) = key r) :
    (amend key k f rows).map key = rows.map key := by
  simp only [amend, List.map_map]
  apply List.map_congr_left
  intro r _
  by_cases h : key r = k <;> simp [h, hf]

theorem keyed_amend (hf : ∀ r, key (f r) = key r) (hk : Keyed key rows) :
    Keyed key (amend key k f rows) := by
  rw [Keyed, amend_keys hf]
  exact hk

theorem lookup_amend_self (hf : ∀ r, key (f r) = key r) :
    lookup key k (amend key k f rows) = (lookup key k rows).map f := by
  induction rows with
  | nil => rfl
  | cons a rows ih =>
    by_cases h : key a = k
    · simp [lookup, amend, h, hf]
    · simpa [lookup, amend, h] using ih

theorem lookup_amend_of_ne (hf : ∀ r, key (f r) = key r) (h : k' ≠ k) :
    lookup key k' (amend key k f rows) = lookup key k' rows := by
  induction rows with
  | nil => rfl
  | cons a rows ih =>
    by_cases ha : key a = k
    · have hne : key a ≠ k' := fun he => h (he.symm.trans ha)
      simpa [lookup, amend, ha, hf, Ne.symm h] using ih
    · by_cases ha' : key a = k'
      · simp [lookup, amend, ha', h]
      · simpa [lookup, amend, ha, ha'] using ih

theorem amend_of_absent (h : lookup key k rows = none) : amend key k f rows = rows := by
  rw [lookup_none] at h
  simp only [amend]
  conv_rhs => rw [← List.map_id rows]
  apply List.map_congr_left
  intro r hr
  simp [h r hr]

theorem mem_amend {a : ρ} : a ∈ amend key k f rows ↔
    (a ∈ rows ∧ key a ≠ k) ∨ ∃ r ∈ rows, key r = k ∧ f r = a := by
  simp only [amend, List.mem_map]
  constructor
  · rintro ⟨r, hr, rfl⟩
    by_cases h : key r = k
    · exact .inr ⟨r, hr, h, by simp [h]⟩
    · exact .inl ⟨by simpa [h] using hr, by simp [h]⟩
  · rintro (⟨ha, hne⟩ | ⟨r, hr, hk, rfl⟩)
    · exact ⟨a, ha, by simp [hne]⟩
    · exact ⟨r, hr, by simp [hk]⟩

theorem mem_amend_keyed (hk : Keyed key rows) (hr : lookup key k rows = some r) {a : ρ}
    (ha : a ∈ amend key k f rows) : (a ∈ rows ∧ key a ≠ k) ∨ a = f r := by
  rcases mem_amend.mp ha with h | ⟨b, hb, hbk, rfl⟩
  · exact .inl h
  · obtain ⟨hmem, hkey⟩ := lookup_some hr
    rw [keyed_unique hk hb hmem (hbk.trans hkey.symm)]
    exact .inr rfl

theorem lookup_append_fresh {a : ρ} (h : lookup key (key a) rows = none) :
    lookup key (key a) (rows ++ [a]) = some a := by
  have h' : List.find? (fun r => decide (key r = key a)) rows = none := h
  simp [lookup, List.find?_append, h']

theorem lookup_append_of_ne {a : ρ} (h : k ≠ key a) :
    lookup key k (rows ++ [a]) = lookup key k rows := by
  simp [lookup, List.find?_append, Ne.symm h]

theorem keyed_append {a : ρ} (hk : Keyed key rows) (h : lookup key (key a) rows = none) :
    Keyed key (rows ++ [a]) := by
  rw [lookup_none] at h
  rw [Keyed, List.map_append]
  apply List.Nodup.append hk (by simp)
  simpa [List.disjoint_singleton, eq_comm] using h

theorem lookup_append_some {a : ρ} (h : lookup key k rows = some r) :
    lookup key k (rows ++ [a]) = some r := by
  have h' : List.find? (fun r => decide (key r = k)) rows = some r := h
  simp [lookup, List.find?_append, h']

/-- Amending one row moves a column's sum by the change of that row. -/
theorem sum_amend [AddCommGroup G] (w : ρ → G) (hk : Keyed key rows)
    (hr : lookup key k rows = some r) :
    ((amend key k f rows).map w).sum = (rows.map w).sum + (w (f r) - w r) := by
  induction rows with
  | nil => cases hr
  | cons a rows ih =>
    obtain ⟨hfresh, htail⟩ := keyed_cons.mp hk
    by_cases h : key a = k
    · obtain rfl : a = r := by simpa [lookup, h] using hr
      have habsent : lookup key k rows = none :=
        lookup_none.mpr fun b hb => by rw [← h]; exact hfresh b hb
      have hrest : amend key k f rows = rows := amend_of_absent habsent
      simp only [amend, List.map_cons, h, if_true, List.sum_cons] at hrest ⊢
      rw [hrest]
      abel
    · have hr' : lookup key k rows = some r := by simpa [lookup, h] using hr
      have hsum := ih htail hr'
      simp only [amend, List.map_cons, h, if_false, List.sum_cons] at hsum ⊢
      rw [hsum]
      abel

omit [DecidableEq κ] in
theorem sum_filter [AddCommMonoid G] (p : ρ → Bool) (w : ρ → G) :
    ((rows.filter p).map w).sum = (rows.map fun r => if p r then w r else 0).sum := by
  induction rows with
  | nil => rfl
  | cons a rows ih =>
    by_cases h : p a
    · simp [h, ih]
    · simp [h, ih]

/-- A column that the amended row keeps has the same sum. -/
theorem sum_amend_of_eq [AddCommMonoid G] (w : ρ → G)
    (h : ∀ r ∈ rows, key r = k → w (f r) = w r) :
    ((amend key k f rows).map w).sum = (rows.map w).sum := by
  simp only [amend, List.map_map]
  congr 1
  apply List.map_congr_left
  intro r hr
  by_cases hk : key r = k
  · simpa [hk] using h r hr hk
  · simp [hk]

theorem sum_indicator [AddCommMonoid G] {ids : List κ} (hids : ids.Nodup) (c : G) :
    (ids.map fun i => if i = k then c else 0).sum = if k ∈ ids then c else 0 := by
  induction ids with
  | nil => rfl
  | cons i ids ih =>
    obtain ⟨hfresh, htail⟩ := List.nodup_cons.mp hids
    rw [List.map_cons, List.sum_cons, ih htail]
    by_cases h : i = k
    · subst h
      simp [hfresh]
    · simp [h, Ne.symm h]

/-- Summing the lookups of all keys sums the rows. -/
theorem sum_lookup [AddCommMonoid G] (w : ρ → G) {ids : List κ} (hk : Keyed key rows)
    (hids : ids.Nodup) (hsub : ∀ r ∈ rows, key r ∈ ids) :
    (ids.map fun k => ((lookup key k rows).map w).getD 0).sum = (rows.map w).sum := by
  induction rows with
  | nil => simp [lookup]
  | cons a rows ih =>
    obtain ⟨hfresh, htail⟩ := keyed_cons.mp hk
    have hrest := ih htail fun r hr => hsub r (List.mem_cons_of_mem a hr)
    have habsent : lookup key (key a) rows = none := lookup_none.mpr hfresh
    have hmem : key a ∈ ids := hsub a (List.mem_cons_self ..)
    have hsplit : (ids.map fun k => ((lookup key k (a :: rows)).map w).getD 0) =
        ids.map fun k => (if k = key a then w a else 0) +
          ((lookup key k rows).map w).getD 0 := by
      apply List.map_congr_left
      intro k _
      by_cases h : k = key a
      · subst h
        simp [habsent]
        simp [lookup]
      · simp [lookup, h, Ne.symm h]
    rw [hsplit, List.sum_map_add, hrest, List.map_cons, List.sum_cons]
    congr 1
    rw [sum_indicator hids, if_pos hmem]

section Matching

variable {δ : Type} {column : δ → κ} {d : δ} {matching : δ → ρ → Bool} {D : List δ}

/-- The rows that are left when each `d` has taken the first row matching it. -/
def unmatched (matching : δ → ρ → Bool) (D : List δ) (rows : List ρ) : List ρ :=
  D.foldl (fun left d => left.eraseP (matching d)) rows

theorem sum_eraseP [AddCommMonoid G] {w : ρ → G} {c : G} {f : ρ → Bool}
    (hex : ∃ r ∈ rows, f r = true) (hw : ∀ r ∈ rows, f r = true → w r = c) :
    (rows.map w).sum = c + ((rows.eraseP f).map w).sum := by
  induction rows with
  | nil =>
    obtain ⟨r, hr, -⟩ := hex
    cases hr
  | cons a rows ih =>
    by_cases ha : f a = true
    · rw [List.eraseP_cons_of_pos ha, List.map_cons, List.sum_cons, hw a (List.mem_cons_self ..) ha]
    · obtain ⟨r, hr, hf⟩ := hex
      have htail : r ∈ rows := by
        rcases List.mem_cons.mp hr with rfl | hmem
        · exact absurd hf ha
        · exact hmem
      rw [List.eraseP_cons_of_neg ha, List.map_cons, List.sum_cons, List.map_cons, List.sum_cons,
        ih ⟨r, htail, hf⟩ fun r hr => hw r (List.mem_cons_of_mem a hr)]
      exact add_left_comm ..

omit [DecidableEq κ] in
/-- Where every `d` has a row of its own, a column's sum is what the `d` stand for and what
the other rows add. -/
theorem sum_unmatched [AddCommMonoid G] {w : ρ → G} {v : δ → G}
    (hkey : ∀ d r, matching d r = true → key r = column d)
    (hw : ∀ d, ∀ r ∈ rows, matching d r = true → w r = v d) (hD : (D.map column).Nodup)
    (hex : ∀ d ∈ D, ∃ r ∈ rows, matching d r = true) :
    (rows.map w).sum = (D.map v).sum + ((unmatched matching D rows).map w).sum := by
  induction D generalizing rows with
  | nil => simp [unmatched]
  | cons d D ih =>
    obtain ⟨hfresh, htail⟩ := List.nodup_cons.mp hD
    have hhead := sum_eraseP (hex d (List.mem_cons_self ..)) fun r => hw d r
    have hleft : ∀ d' ∈ D, ∃ r ∈ rows.eraseP (matching d), matching d' r = true := by
      intro d' hd'
      obtain ⟨r, hr, hm⟩ := hex d' (List.mem_cons_of_mem d hd')
      refine ⟨r, (List.mem_eraseP_of_neg ?_).mpr hr, hm⟩
      intro hd
      have hsame : column d = column d' := (hkey d r hd).symm.trans (hkey d' r hm)
      exact hfresh (hsame ▸ List.mem_map_of_mem hd')
    have hrest : ∀ d', ∀ r ∈ rows.eraseP (matching d), matching d' r = true → w r = v d' := by
      intro d' r hr
      exact hw d' r (List.mem_of_mem_eraseP hr)
    rw [hhead, ih hrest htail hleft, List.map_cons, List.sum_cons, add_assoc]
    rfl

end Matching

end KeyedTable
