import Mathlib.Algebra.GroupWithZero.Nat
import Mathlib.Data.Rat.Defs
import Mathlib.Data.List.Basic
import Mathlib.Data.List.Nodup
import Mathlib.Algebra.Order.Ring.Rat
import Mathlib.Tactic.MkIffOfInductiveProp

/-! # Schemas of documents

A document is an object of values and objects. A schema names the keys it knows in their order,
with a default or with checks; what it does not know is left out of the parsed document. The
parsed document fits the schema, and parsing leaves a document that fits as it is. -/
namespace ObjectSchema

inductive Value where
  | null
  | bool (b : Bool)
  | number (q : ℚ)
  | string (s : String)
  | list (items : List Value)
  | map (entries : List (String × Value))

abbrev Entries := List (String × Value)

inductive Check where
  | int
  | min (bound : ℚ)
  | max (bound : ℚ)
  | positive
  | nonnegative
  | minLength (bound : ℕ)
  | url
  deriving DecidableEq, Repr

inductive FieldType where
  | boolean
  | number
  | string
  | oneOf (values : List String)
  deriving DecidableEq, Repr

inductive Problem where
  | required
  | expected (type : FieldType)
  | expectedObject
  | failed (check : Check)
  | custom (message : String)
  deriving DecidableEq, Repr

/-- Every issue names the field it is about. -/
structure Issue where
  path : List String
  problem : Problem
  deriving DecidableEq, Repr

structure Field where
  key : String
  type : FieldType
  checks : List Check := []
  default : Option Value := none

/-- The keys of an object. An object below it may be absent; with a message it must not be empty. -/
inductive Schema where
  | done
  | field (f : Field) (rest : Schema)
  | object (key : String) (inner : Schema) (message : Option String) (rest : Schema)

/-- A run of fields. -/
def Schema.fields (fs : List Field) (rest : Schema) : Schema := fs.foldr Schema.field rest

/-- A string is as long as it has 16-bit units. -/
def utf16Length (s : String) : ℕ := (s.toList.map fun c => if c.toNat < 65536 then 1 else 2).sum

variable (isUrl : String → Bool)

def hasType : FieldType → Value → Bool
  | .boolean, .bool _ => true
  | .number, .number _ => true
  | .string, .string _ => true
  | .oneOf values, .string s => s ∈ values
  | _, _ => false

def passes : Check → Value → Bool
  | .int, .number q => q.den = 1
  | .min bound, .number q => bound ≤ q
  | .max bound, .number q => q ≤ bound
  | .positive, .number q => 0 < q
  | .nonnegative, .number q => 0 ≤ q
  | .minLength bound, .string s => bound ≤ utf16Length s
  | .url, .string s => isUrl s
  | _, _ => true

def Field.issues (path : List String) (f : Field) : Option Value → List Issue
  | none => if f.default.isSome then [] else [⟨path ++ [f.key], .required⟩]
  | some v =>
    if hasType f.type v then
      (f.checks.filter fun c => !passes isUrl c v).map fun c => ⟨path ++ [f.key], .failed c⟩
    else [⟨path ++ [f.key], .expected f.type⟩]

/-- A value of the wrong kind, or none, leaves nothing to look at further. -/
def Problem.aborts : Problem → Bool
  | .failed _ => false
  | .custom _ => false
  | _ => true

/-- A condition on the whole object is looked at last, if there is a whole object. -/
def refined (path : List String) (issues : List Issue) (message : Option String) : List Issue :=
  if issues.any fun i => i.problem.aborts then issues
  else issues ++ message.toList.map fun m => ⟨path, .custom m⟩

namespace Schema

/-- Known keys with their values or defaults. -/
def parsed : Schema → Entries → Entries
  | done, _ => []
  | field f rest, entries =>
    (((entries.lookup f.key).or f.default).map fun v => (f.key, v)).toList ++ rest.parsed entries
  | object key inner _ rest, entries =>
    match entries.lookup key with
    | some (.map below) => (key, .map (inner.parsed below)) :: rest.parsed entries
    | _ => rest.parsed entries

def issues (path : List String) : Schema → Entries → List Issue
  | done, _ => []
  | field f rest, entries => f.issues isUrl path (entries.lookup f.key) ++ rest.issues path entries
  | object key inner message rest, entries =>
    let here := match entries.lookup key with
      | none => []
      | some (.map below) =>
        refined (path ++ [key]) (inner.issues (path ++ [key]) below)
          (message.filter fun _ => (inner.parsed below).isEmpty)
      | some _ => [⟨path ++ [key], .expectedObject⟩]
    here ++ rest.issues path entries

def keys : Schema → List String
  | done => []
  | field f rest => f.key :: rest.keys
  | object key _ _ rest => key :: rest.keys

/-- The fields of the object itself. -/
def own : Schema → List Field
  | done => []
  | field f rest => f :: rest.own
  | object _ _ _ rest => rest.own

/-- No key occurs twice in an object. -/
def distinct : Schema → Bool
  | done => true
  | field f rest => f.key ∉ rest.keys && rest.distinct
  | object key inner _ rest => key ∉ rest.keys && inner.distinct && rest.distinct

end Schema

variable {isUrl} {f : Field} {s inner rest : Schema} {entries below before : Entries}
  {path : List String} {key other : String} {message : Option String} {v w old : Value}

/-- A value of the type of the field that passes its checks. -/
@[mk_iff] structure Conforms (isUrl : String → Bool) (f : Field) (v : Value) : Prop where
  type : hasType f.type v = true
  checks : ∀ c ∈ f.checks, passes isUrl c v = true

/-- What a field takes. -/
def Accepts (isUrl : String → Bool) (f : Field) : Option Value → Prop
  | none => f.default.isSome = true
  | some v => Conforms isUrl f v

/-- Every default stands the checks of its field. -/
def Schema.DefaultsConform (isUrl : String → Bool) : Schema → Prop
  | done => True
  | field f rest => (∀ v ∈ f.default, Conforms isUrl f v) ∧ rest.DefaultsConform isUrl
  | object _ inner _ rest => inner.DefaultsConform isUrl ∧ rest.DefaultsConform isUrl

/-- One entry for every field, and for the objects that are there, in the order of the schema. -/
inductive Fits (isUrl : String → Bool) : Schema → Entries → Prop where
  | done : Fits isUrl .done []
  | field {f : Field} {rest : Schema} {v : Value} {entries : Entries} : Conforms isUrl f v →
      Fits isUrl rest entries → Fits isUrl (.field f rest) ((f.key, v) :: entries)
  | absent {key : String} {inner rest : Schema} {message : Option String} {entries : Entries} :
      Fits isUrl rest entries → Fits isUrl (.object key inner message rest) entries
  | present {key : String} {inner rest : Schema} {message : Option String}
      {entries below : Entries} : Fits isUrl inner below → (message.isSome = true → below ≠ []) →
      Fits isUrl rest entries →
      Fits isUrl (.object key inner message rest) ((key, .map below) :: entries)

theorem defaultsConform_fields {fs : List Field}
    (hfs : ∀ f ∈ fs, ∀ v ∈ f.default, Conforms isUrl f v) (hrest : rest.DefaultsConform isUrl) :
    (Schema.fields fs rest).DefaultsConform isUrl := by
  induction fs with
  | nil => exact hrest
  | cons f fs ih =>
    exact ⟨hfs f List.mem_cons_self, ih fun g hg => hfs g (List.mem_cons_of_mem _ hg)⟩

theorem field_issues_nil_iff {v : Option Value} :
    f.issues isUrl path v = [] ↔ Accepts isUrl f v := by
  cases v with
  | none => cases hdefault : f.default <;> simp [Field.issues, Accepts, hdefault]
  | some v =>
    by_cases htype : hasType f.type v = true
    · have hchecks : f.issues isUrl path (some v) = [] ↔
          ∀ c ∈ f.checks, passes isUrl c v = true := by
        simp [Field.issues, htype]
      exact hchecks.trans ⟨fun h => ⟨htype, h⟩, Conforms.checks⟩
    · have hexpected : f.issues isUrl path (some v) ≠ [] := by simp [Field.issues, htype]
      exact ⟨fun h => absurd h hexpected, fun h => absurd h.type htype⟩

theorem refined_nil_iff {found : List Issue} :
    refined path found message = [] ↔ found = [] ∧ message = none := by
  unfold refined
  by_cases habort : (found.any fun i => i.problem.aborts) = true
  · have hne : found ≠ [] := by
      rintro rfl
      cases habort
    simp [habort, hne]
  · rw [if_neg habort, List.append_eq_nil_iff]
    cases message <;> simp

theorem object_issues_nil (h : (Schema.object key inner message rest).issues isUrl path entries = [])
    (hv : entries.lookup key = some v) : ∃ below, v = .map below ∧
      inner.issues isUrl (path ++ [key]) below = [] ∧
      (message.isSome = true → inner.parsed below ≠ []) := by
  simp only [Schema.issues, hv, List.append_eq_nil_iff] at h
  cases v with
  | map below =>
    obtain ⟨hinner, hmessage⟩ := refined_nil_iff.mp h.1
    refine ⟨below, rfl, hinner, ?_⟩
    intro hsome hnil
    obtain ⟨m, rfl⟩ := Option.isSome_iff_exists.mp hsome
    simp [hnil] at hmessage
  | _ => cases h.1

theorem own_accepts (h : s.issues isUrl path entries = []) (hf : f ∈ s.own) :
    Accepts isUrl f (entries.lookup f.key) := by
  induction s with
  | done => cases hf
  | field g rest ih =>
    obtain ⟨hg, hrest⟩ := List.append_eq_nil_iff.mp h
    rcases List.mem_cons.mp hf with rfl | hf
    · exact field_issues_nil_iff.mp hg
    · exact ih hrest hf
  | object key inner message rest _ ih =>
    obtain ⟨-, hrest⟩ := List.append_eq_nil_iff.mp h
    exact ih hrest hf

/-- What is parsed without an issue fits. -/
theorem fits_parsed (h : s.issues isUrl path entries = []) (hdefaults : s.DefaultsConform isUrl) :
    Fits isUrl s (s.parsed entries) := by
  induction s generalizing path entries with
  | done => exact .done
  | field f rest ih =>
    obtain ⟨hf, hrest⟩ := List.append_eq_nil_iff.mp h
    have haccepts := field_issues_nil_iff.mp hf
    have hvalue : ∃ v, (entries.lookup f.key).or f.default = some v ∧ Conforms isUrl f v := by
      cases hv : entries.lookup f.key with
      | some v => exact ⟨v, rfl, by simpa [hv, Accepts] using haccepts⟩
      | none =>
        obtain ⟨v, hv⟩ := Option.isSome_iff_exists.mp (by simpa [hv, Accepts] using haccepts)
        exact ⟨v, by simp [hv], hdefaults.1 v hv⟩
    obtain ⟨v, hv, hconforms⟩ := hvalue
    simp only [Schema.parsed, hv, Option.map_some, Option.toList_some, List.singleton_append]
    exact .field hconforms (ih hrest hdefaults.2)
  | object key inner message rest ihInner ih =>
    have hrest := ih (List.append_eq_nil_iff.mp h).2 hdefaults.2
    cases hv : entries.lookup key with
    | none =>
      simp only [Schema.parsed, hv]
      exact .absent hrest
    | some v =>
      obtain ⟨below, rfl, hinner, hmessage⟩ := object_issues_nil h hv
      simp only [Schema.parsed, hv]
      exact .present (ihInner hinner hdefaults.1) hmessage hrest

theorem lookup_none_of_keys (h : key ∉ entries.map Prod.fst) : entries.lookup key = none := by
  rw [List.lookup_eq_none_iff]
  intro e he
  have hne : key ≠ e.1 := by
    rintro rfl
    exact h (List.mem_map_of_mem he)
  simpa using hne

theorem Fits.keys (h : Fits isUrl s entries) : entries.map Prod.fst ⊆ s.keys := by
  induction h with
  | done => exact List.Subset.refl _
  | field _ _ ih => exact List.cons_subset_cons _ ih
  | absent _ ih => exact List.subset_cons_of_subset _ ih
  | present _ _ _ _ ih => exact List.cons_subset_cons _ ih

theorem Fits.lookup_none (h : Fits isUrl s entries) (hkey : key ∉ s.keys) :
    entries.lookup key = none :=
  lookup_none_of_keys fun hmem => hkey (h.keys hmem)

theorem lookup_snoc (hbefore : before.lookup other = none) (hne : other ≠ key) :
    (before ++ [(key, v)]).lookup other = none := by
  have hbeq : (other == key) = false := by simpa using hne
  simp [List.lookup_append, hbefore, List.lookup_cons, hbeq]

/-- What fits is read as it is, whatever stands before it under other keys. -/
theorem Fits.reread (path : List String) (before : Entries) (h : Fits isUrl s entries)
    (hdistinct : s.distinct = true)
    (hbefore : ∀ key ∈ s.keys, before.lookup key = none) :
    s.parsed (before ++ entries) = entries ∧ s.issues isUrl path (before ++ entries) = [] := by
  induction h generalizing before path with
  | done => exact ⟨rfl, rfl⟩
  | @field f rest v entries hconforms _ ih =>
    simp only [Schema.distinct, Bool.and_eq_true, decide_eq_true_eq] at hdistinct
    have hhead : (before ++ (f.key, v) :: entries).lookup f.key = some v := by
      simp [List.lookup_append, hbefore f.key List.mem_cons_self]
    -- the entry that was found joins what stands before the rest
    have hassoc : before ++ (f.key, v) :: entries = (before ++ [(f.key, v)]) ++ entries := by simp
    have hrest := ih path (before ++ [(f.key, v)]) hdistinct.2 (by
      intro key hkey
      apply lookup_snoc (hbefore key (List.mem_cons_of_mem _ hkey))
      rintro rfl
      exact hdistinct.1 hkey)
    rw [← hassoc] at hrest
    constructor
    · simp only [Schema.parsed, hhead, Option.some_or, Option.map_some, Option.toList_some, hrest.1,
        List.singleton_append]
    · have hissues : f.issues isUrl path (some v) = [] := field_issues_nil_iff.mpr hconforms
      simp only [Schema.issues, hhead, hissues, hrest.2, List.append_nil]
  | @absent key inner rest message entries hfits ih =>
    simp only [Schema.distinct, Bool.and_eq_true, decide_eq_true_eq] at hdistinct
    have hnone : (before ++ entries).lookup key = none := by
      simp [List.lookup_append, hbefore key List.mem_cons_self, hfits.lookup_none hdistinct.1.1]
    have hrest := ih path before hdistinct.2 fun other hother =>
      hbefore other (List.mem_cons_of_mem _ hother)
    constructor
    · simp only [Schema.parsed, hnone, hrest.1]
    · simp only [Schema.issues, hnone, hrest.2, List.append_nil]
  | @present key inner rest message entries below _ hmessage _ ihInner ih =>
    simp only [Schema.distinct, Bool.and_eq_true, decide_eq_true_eq] at hdistinct
    have hhead : (before ++ (key, .map below) :: entries).lookup key = some (.map below) := by
      simp [List.lookup_append, hbefore key List.mem_cons_self]
    have hassoc : before ++ (key, .map below) :: entries =
        (before ++ [(key, .map below)]) ++ entries := by simp
    have hrest := ih path (before ++ [(key, .map below)]) hdistinct.2 (by
      intro other hother
      apply lookup_snoc (hbefore other (List.mem_cons_of_mem _ hother))
      rintro rfl
      exact hdistinct.1.1 hother)
    rw [← hassoc] at hrest
    have hinner := ihInner (path ++ [key]) [] hdistinct.1.2 fun _ _ => rfl
    rw [List.nil_append] at hinner
    constructor
    · simp only [Schema.parsed, hhead, hinner.1, hrest.1]
    · have hfilled : (message.filter fun _ => below.isEmpty) = none := by
        cases message with
        | none => rfl
        | some m => simp [Option.filter, hmessage rfl]
      have hhere : refined (path ++ [key]) [] none = [] := refined_nil_iff.mpr ⟨rfl, rfl⟩
      simp only [Schema.issues, hhead, hinner.1, hinner.2, hfilled, hhere, hrest.2, List.append_nil]

theorem parsed_keys : (s.parsed entries).map Prod.fst ⊆ s.keys := by
  induction s with
  | done => exact List.Subset.refl _
  | field f rest ih =>
    cases hv : (entries.lookup f.key).or f.default with
    | none => simpa [Schema.parsed, Schema.keys, hv] using List.subset_cons_of_subset f.key ih
    | some v => simpa [Schema.parsed, Schema.keys, hv] using List.subset_cons_of_subset f.key ih
  | object key inner message rest _ ih =>
    simp only [Schema.parsed, Schema.keys]
    split
    · exact List.cons_subset_cons key ih
    · exact List.subset_cons_of_subset key ih

theorem mem_keys_own (hf : f ∈ s.own) : f.key ∈ s.keys := by
  induction s with
  | done => cases hf
  | field g rest ih =>
    rcases List.mem_cons.mp hf with rfl | hf
    · exact List.mem_cons_self
    · exact List.mem_cons_of_mem _ (ih hf)
  | object key inner message rest _ ih => exact List.mem_cons_of_mem _ (ih hf)

theorem lookup_cons_of_ne (hne : other ≠ key) :
    ((key, v) :: entries).lookup other = entries.lookup other := by
  have hbeq : (other == key) = false := by simpa using hne
  simp [List.lookup_cons, hbeq]

/-- A field is parsed to its value, or to its default. -/
theorem lookup_parsed (entries : Entries) (hdistinct : s.distinct = true) (hf : f ∈ s.own) :
    (s.parsed entries).lookup f.key = (entries.lookup f.key).or f.default := by
  induction s with
  | done => cases hf
  | field g rest ih =>
    simp only [Schema.distinct, Bool.and_eq_true, decide_eq_true_eq] at hdistinct
    rcases List.mem_cons.mp hf with rfl | hf
    · have habsent : (rest.parsed entries).lookup f.key = none :=
        lookup_none_of_keys fun hmem => hdistinct.1 (parsed_keys hmem)
      cases hv : (entries.lookup f.key).or f.default <;> simp [Schema.parsed, hv, habsent]
    · have hne : f.key ≠ g.key := by
        intro heq
        exact hdistinct.1 (heq ▸ mem_keys_own hf)
      rw [← ih hdistinct.2 hf]
      cases hv : (entries.lookup g.key).or g.default with
      | none => simp [Schema.parsed, hv]
      | some v => simp [Schema.parsed, hv, lookup_cons_of_ne hne]
  | object key inner message rest _ ih =>
    simp only [Schema.distinct, Bool.and_eq_true, decide_eq_true_eq] at hdistinct
    have hne : f.key ≠ key := by
      intro heq
      exact hdistinct.1.1 (heq ▸ mem_keys_own hf)
    rw [← ih hdistinct.2 hf]
    simp only [Schema.parsed]
    split
    · exact lookup_cons_of_ne hne
    · rfl

/-- An assigned key keeps its place, a new one comes last. -/
def assign (key : String) (v : Value) : Entries → Entries
  | [] => [(key, v)]
  | (k, old) :: rest => if k = key then (k, v) :: rest else (k, old) :: assign key v rest

theorem lookup_assign : (assign key v entries).lookup key = some v := by
  induction entries with
  | nil => simp [assign]
  | cons e rest ih =>
    obtain ⟨k, old⟩ := e
    by_cases hk : k = key
    · simp [assign, hk]
    · simp [assign, hk, lookup_cons_of_ne (Ne.symm hk), ih]

theorem lookup_assign_of_ne (h : other ≠ key) :
    (assign key v entries).lookup other = entries.lookup other := by
  induction entries with
  | nil => simp [assign, lookup_cons_of_ne h]
  | cons e rest ih =>
    obtain ⟨k, old⟩ := e
    by_cases hk : k = key
    · subst k
      simp [assign, lookup_cons_of_ne h]
    · simp only [assign, if_neg hk, List.lookup_cons]
      cases other == k <;> simp [ih]

theorem assign_assign : assign key v (assign key w entries) = assign key v entries := by
  induction entries with
  | nil => simp [assign]
  | cons e rest ih =>
    obtain ⟨k, old⟩ := e
    by_cases hk : k = key
    · simp [assign, hk]
    · simp [assign, hk, ih]

theorem assign_self (h : entries.lookup key = some v) : assign key v entries = entries := by
  induction entries with
  | nil => cases h
  | cons e rest ih =>
    obtain ⟨k, old⟩ := e
    by_cases hk : k = key
    · subst k
      simp only [List.lookup_cons_self, Option.some.injEq] at h
      simp [assign, h]
    · rw [lookup_cons_of_ne (Ne.symm hk)] at h
      simp [assign, hk, ih h]

theorem parsed_assign_of_notMem (h : key ∉ s.keys) :
    s.parsed (assign key v entries) = s.parsed entries := by
  induction s with
  | done => rfl
  | field f rest ih =>
    rw [Schema.keys, List.mem_cons, not_or] at h
    simp only [Schema.parsed, lookup_assign_of_ne (Ne.symm h.1), ih h.2]
  | object k inner message rest _ ih =>
    rw [Schema.keys, List.mem_cons, not_or] at h
    simp only [Schema.parsed, lookup_assign_of_ne (Ne.symm h.1), ih h.2]

/-- A field that is assigned keeps its place among those that are known. -/
theorem parsed_assign (hdistinct : s.distinct = true) (hf : f ∈ s.own)
    (hgiven : entries.lookup f.key = some old) :
    s.parsed (assign f.key v entries) = assign f.key v (s.parsed entries) := by
  induction s with
  | done => cases hf
  | field g rest ih =>
    simp only [Schema.distinct, Bool.and_eq_true, decide_eq_true_eq] at hdistinct
    rcases List.mem_cons.mp hf with rfl | hf
    · simp [Schema.parsed, lookup_assign, hgiven, parsed_assign_of_notMem hdistinct.1, assign]
    · have hne : g.key ≠ f.key := by
        intro heq
        exact hdistinct.1 (heq ▸ mem_keys_own hf)
      simp only [Schema.parsed, lookup_assign_of_ne hne, ih hdistinct.2 hf]
      cases (entries.lookup g.key).or g.default <;> simp [assign, hne]
  | object key inner message rest _ ih =>
    simp only [Schema.distinct, Bool.and_eq_true, decide_eq_true_eq] at hdistinct
    have hne : key ≠ f.key := by
      rintro rfl
      exact hdistinct.1.1 (mem_keys_own hf)
    simp only [Schema.parsed, lookup_assign_of_ne hne, ih hdistinct.2 hf]
    split
    · simp [assign, hne]
    · rfl

/-- The issues only change with what is assigned. -/
theorem issues_assign (hdistinct : s.distinct = true) (hf : f ∈ s.own)
    (hgiven : entries.lookup f.key = some old)
    (hsame : ∀ path, f.issues isUrl path (some v) = f.issues isUrl path (some old)) :
    s.issues isUrl path (assign f.key v entries) = s.issues isUrl path entries := by
  have hother : ∀ {rest : Schema}, f.key ∉ rest.keys →
      rest.issues isUrl path (assign f.key v entries) = rest.issues isUrl path entries := by
    intro rest
    induction rest with
    | done => exact fun _ => rfl
    | field g rest ih =>
      intro h
      rw [Schema.keys, List.mem_cons, not_or] at h
      simp only [Schema.issues, lookup_assign_of_ne (Ne.symm h.1), ih h.2]
    | object k inner message rest _ ih =>
      intro h
      rw [Schema.keys, List.mem_cons, not_or] at h
      simp only [Schema.issues, lookup_assign_of_ne (Ne.symm h.1), ih h.2]
  induction s with
  | done => cases hf
  | field g rest ih =>
    simp only [Schema.distinct, Bool.and_eq_true, decide_eq_true_eq] at hdistinct
    rcases List.mem_cons.mp hf with rfl | hf
    · simp only [Schema.issues, lookup_assign, hgiven, hsame, hother hdistinct.1]
    · have hne : g.key ≠ f.key := by
        intro heq
        exact hdistinct.1 (heq ▸ mem_keys_own hf)
      simp only [Schema.issues, lookup_assign_of_ne hne, ih hdistinct.2 hf]
  | object key inner message rest _ ih =>
    simp only [Schema.distinct, Bool.and_eq_true, decide_eq_true_eq] at hdistinct
    have hne : key ≠ f.key := by
      rintro rfl
      exact hdistinct.1.1 (mem_keys_own hf)
    simp only [Schema.issues, lookup_assign_of_ne hne, ih hdistinct.2 hf]

end ObjectSchema
