import MavenResolution.Proofs.Requirement.Selection

/-! What the root of a chain decides. A version or a dynamic requirement at the root stands, whatever is
required farther away; range sets are all in force where there is nothing else, and void where there is. -/
namespace MavenResolution.Chain

open Text
open Version (ofText)

variable {chain : Chain} {nearest : Requirement} {version : String} {kind : Dynamic}

theorem isRange_iff : chain.isRange = true ↔ ∀ requirement ∈ chain, requirement.isRanges = true :=
  List.all_eq_true

theorem isRange_of_root (root : chain.root? = some nearest) (other : nearest.isRanges = false) :
    chain.isRange = false := by
  rw [Bool.eq_false_iff, Ne, isRange_iff]
  intro ranges
  rw [ranges nearest (List.mem_of_getLast? root)] at other
  cases other

/-! A version at the root. -/

theorem mode_of_exact (root : chain.root? = some (.exact version)) : chain.mode = .exact := by
  simp [mode, isRange_of_root root rfl, root]

theorem nearestVersion_of_exact (root : chain.root? = some (.exact version)) :
    chain.nearestVersion = some version := by
  simp [nearestVersion, mode_of_exact root, root]

theorem select_of_exact (root : chain.root? = some (.exact version)) (available : List String) :
    chain.select available = .ok (some version) := by
  simp [select, isRange_of_root root rfl, root, nearestVersion_of_exact root]

/-! A dynamic requirement at the root. -/

theorem mode_of_dynamic (root : chain.root? = some (.dynamic kind)) : chain.mode = .dynamic := by
  simp [mode, isRange_of_root root rfl, root]

/-- What is required farther away makes no difference to the selection. -/
theorem select_of_dynamic (root : chain.root? = some (.dynamic kind)) (available : List String) :
    chain.select available = Chain.select [.dynamic kind] available := by
  have alone : Chain.root? [.dynamic kind] = some (.dynamic kind) := rfl
  simp only [select, isRange_of_root root rfl, root, isRange_of_root alone rfl, alone, Bool.false_eq_true,
    if_false]

/-! Range sets only. -/

theorem mode_of_isRange (isRange : chain.isRange = true) : chain.mode = .range := by
  simp [mode, isRange]

theorem needsAvailable_of_isRange (isRange : chain.isRange = true) : chain.needsAvailable = true := by
  rw [needsAvailable, mode_of_isRange isRange]
  rfl

/-- What is selected lies within every range set. -/
theorem select_within (isRange : chain.isRange = true) {available : List String} {best : String}
    (selected : chain.select available = .ok (some best)) : best ∈ available ∧
      ∃ version, ofText best = .ok version ∧ ∀ set, .ranges set ∈ chain → set.contains version = .ok true := by
  obtain ⟨_, version, _, _, _, member, permitted⟩ := select_some (needsAvailable_of_isRange isRange) selected
  obtain ⟨version, read, allowed⟩ := allows_iff.mpr ⟨version, permitted⟩
  rw [if_pos isRange] at allowed
  exact ⟨member, version, read, allowed⟩

/-! A range set at the root, and something else farther away. -/

theorem mode_of_mixed (root : chain.root? = some nearest) (ranges : nearest.isRanges = true)
    (isRange : chain.isRange = false) : chain.mode = .exact := by
  cases nearest with
  | ranges set => simp [mode, isRange, root]
  | exact | dynamic => cases ranges

theorem select_of_mixed (root : chain.root? = some nearest) (ranges : nearest.isRanges = true)
    (isRange : chain.isRange = false) (available : List String) : chain.select available = .ok none := by
  have mode := mode_of_mixed root ranges isRange
  cases nearest with
  | ranges set => simp [select, isRange, root, nearestVersion, mode]
  | exact | dynamic => cases ranges

/-! The mode. -/

theorem needsAvailable_iff : chain.needsAvailable = true ↔ chain.mode ≠ .exact := by
  simp [needsAvailable]

/-- Where the mode is exact, nothing that is available matters. -/
theorem select_of_mode_exact (mode : chain.mode = .exact) (available other : List String) :
    chain.select available = chain.select other := by
  have isRange : chain.isRange = false := by
    cases isRange : chain.isRange with
    | false => rfl
    | true => simp [mode_of_isRange isRange] at mode
  cases root : chain.root? with
  | none => simp [select, isRange, root]
  | some nearest =>
    cases nearest with
    | exact version => rw [select_of_exact root, select_of_exact root]
    | dynamic kind => simp [mode_of_dynamic root] at mode
    | ranges set => rw [select_of_mixed root rfl isRange, select_of_mixed root rfl isRange]

end MavenResolution.Chain
