import BertMMBot.DepositPipeline

/-! # Dust SOL in an inflow

A sweep leaves the rent reserve behind. An inflow whose SOL does not exceed the reserve is
refused as a whole, whatever BERT came with it. -/
namespace DustSweeps

open VaultTypes DepositPipeline

variable {sol bert reserve : ℕ} {ixs : List SweepInstruction}

def solTransfers (ixs : List SweepInstruction) : List ℕ :=
  ixs.filterMap fun ix => if let .transfer lamports := ix then some lamports else none

def bertTransfers (ixs : List SweepInstruction) : List ℕ :=
  ixs.filterMap fun ix => if let .transferChecked bertRaw := ix then some bertRaw else none

/-- All BERT of an inflow is swept and all SOL above the reserve; only an inflow that has neither
is refused. -/
structure SweepsWhole (sol bert reserve : ℕ) : Prop where
  whole : 0 < bert → ∃ ixs, buildSweepInstructions sol bert reserve = .ok ixs ∧
    bertTransfers ixs = [bert] ∧
    solTransfers ixs = if 0 < sol - reserve then [sol - reserve] else []
  refused : ∀ e, buildSweepInstructions sol bert reserve = .error e → bert = 0 ∧ sol ≤ reserve

def Dust (sol reserve : ℕ) : Prop := 0 < sol ∧ sol ≤ reserve

theorem buildSweepInstructions_dust (h : Dust sol reserve) :
    ∃ e, buildSweepInstructions sol bert reserve = .error e := by
  obtain ⟨hpos, hle⟩ := h
  unfold buildSweepInstructions
  simp only [if_neg (not_lt.mpr hle)]
  exact ⟨_, if_pos ⟨hpos, trivial⟩⟩

theorem buildSweepInstructions_built (h : ¬Dust sol reserve) :
    buildSweepInstructions sol bert reserve =
      .ok ((if 0 < sol - reserve then [.transfer (sol - reserve)] else []) ++
        if 0 < bert then [.transferChecked bert] else []) := by
  unfold Dust at h
  have hsend : (if reserve < sol then sol - reserve else 0) = sol - reserve := by
    split <;> omega
  unfold buildSweepInstructions
  simp only [hsend]
  exact if_neg (by omega)

/-- The SOL of an inflow stands in the way of its BERT exactly when it is dust. -/
theorem sweeps_whole_iff (sol bert reserve : ℕ) :
    SweepsWhole sol bert reserve ↔ bert = 0 ∨ sol = 0 ∨ reserve < sol := by
  by_cases hdust : Dust sol reserve
  · obtain ⟨e, he⟩ := @buildSweepInstructions_dust sol bert reserve hdust
    constructor
    · intro h
      exact .inl (h.refused e he).1
    · unfold Dust at hdust
      intro hcond
      have hzero : bert = 0 := by omega
      refine ⟨fun hpos => absurd hzero hpos.ne', ?_⟩
      intro _ _
      exact ⟨hzero, hdust.2⟩
  · have hbuilt := @buildSweepInstructions_built sol bert reserve hdust
    constructor
    · intro _
      unfold Dust at hdust
      omega
    · intro _
      refine ⟨fun hpos => ⟨_, hbuilt, ?_, ?_⟩, ?_⟩
      · rw [if_pos hpos]
        split <;> rfl
      · rw [if_pos hpos]
        split <;> rfl
      · intro e he
        rw [hbuilt] at he
        cases he

/-- Half a rent reserve keeps a whole BERT from being swept. -/
theorem dust_blocks_bert : (∃ e, buildSweepInstructions 1000000 1000000 2039280 = .error e) ∧
    ¬SweepsWhole 1000000 1000000 2039280 := by
  refine ⟨buildSweepInstructions_dust ⟨by decide, by decide⟩, ?_⟩
  rw [sweeps_whole_iff]
  decide

end DustSweeps
