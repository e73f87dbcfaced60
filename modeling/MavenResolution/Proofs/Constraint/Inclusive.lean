import MavenResolution.Proofs.Constraint.Ranges
import MavenResolution.Proofs.Constraint.Upgrade

/-! Hyphen ranges with both bounds given in full. What such a range allows is decided by the first three numbers of a
candidate, while comparisons go on to the fourth number, and between equal numbers to the text. So the range allows
candidates that compare as if they stood outside its bounds; they are those which have the numbers of a bound. -/
namespace MavenResolution

open Text Constraint Version

/-! Cores, and the first three numbers of them that an interval looks at. -/

namespace Core

variable {core bound first second : Core}

theorem extra_ofList {numbers : List Nat} (short : numbers.length ≤ 3) : (Core.ofList numbers).extra = 0 := by
  have missing : numbers[3]? = none := List.getElem?_eq_none short
  rw [Core.ofList, missing]
  rfl

theorem lex_lt_iff : first.lex < second.lex ↔
    (Triple.ofCore first).lex < (Triple.ofCore second).lex ∨
      Triple.ofCore first = Triple.ofCore second ∧ first.extra < second.extra := by
  simp only [Core.lex, Triple.lex, Triple.ofCore, Triple.mk.injEq, Prod.Lex.toLex_lt_toLex]
  omega

theorem eq_iff_ofCore :
    first = second ↔ Triple.ofCore first = Triple.ofCore second ∧ first.extra = second.extra := by
  obtain ⟨_, _, _, _⟩ := first
  obtain ⟨_, _, _, _⟩ := second
  simp only [Triple.ofCore, Core.mk.injEq, Triple.mk.injEq, and_assoc]

/-- A core in the interval is not below the lower bound, and equal to it only as a whole. -/
theorem above_lower_iff (zero : bound.extra = 0)
    (inside : (Triple.ofCore bound).lex ≤ (Triple.ofCore core).lex) (standing : Ordering) :
    (if bound = core then standing.swap else bound.compare core) = .gt ↔ core = bound ∧ standing = .lt := by
  split
  · rename_i tie
    rw [Ordering.swap_eq_gt, and_iff_right tie.symm]
  · rename_i apart
    rw [compare_eq_gt_iff, lex_lt_iff, zero]
    refine iff_of_false ?_ fun both => apart both.1.symm
    rintro (below | ⟨-, below⟩)
    · exact below.not_ge inside
    · exact Nat.not_lt_zero _ below

/-- A core in the interval exceeds the upper bound by its fourth number, if at all. -/
theorem above_upper_iff (zero : bound.extra = 0)
    (inside : (Triple.ofCore core).lex ≤ (Triple.ofCore bound).lex) (standing : Ordering) :
    (if core = bound then standing else core.compare bound) = .gt ↔
      Triple.ofCore core = Triple.ofCore bound ∧ (core.extra ≠ 0 ∨ standing = .gt) := by
  split
  · rename_i tie
    rw [tie, zero]
    simp
  · rename_i apart
    rw [eq_iff_ofCore, zero] at apart
    rw [compare_eq_gt_iff, lex_lt_iff, zero]
    constructor
    · rintro (above | ⟨same, above⟩)
      · exact absurd inside above.not_ge
      · exact ⟨same.symm, .inl above.ne'⟩
    · rintro ⟨same, -⟩
      exact .inr ⟨same.symm, Nat.pos_of_ne_zero fun none => apart ⟨same, none⟩⟩

end Core

namespace Comparator

variable {comparator : Comparator} {current : Option String} {candidate best text : String}
  {candidates rest : List String} {lower upper : List (List Char)} {release : Release}

/-! What the search returns. -/

theorem mem_of_greatest (search : comparator.greatest best rest = .ok candidate) : candidate ∈ best :: rest := by
  induction rest generalizing best with
  | nil =>
    cases search
    exact List.mem_singleton_self _
  | cons next rest ih =>
    obtain ⟨order, -, search⟩ := bind_eq_ok_iff.mp search
    rcases List.mem_cons.mp (ih search) with same | behind
    · rw [same]
      split <;> simp
    · exact List.mem_cons_of_mem _ (List.mem_cons_of_mem _ behind)

theorem allows_of_mem_allowed {valid : List String} (allowed : comparator.allowed current candidates = .ok valid) :
    ∀ candidate ∈ valid, candidate ∈ candidates ∧ comparator.allows current candidate = .ok true := by
  induction candidates generalizing valid with
  | nil =>
    cases allowed
    exact nofun
  | cons first rest ih =>
    obtain ⟨answer, here, further⟩ := bind_eq_ok_iff.mp allowed
    obtain ⟨others, there, same⟩ := bind_eq_ok_iff.mp further
    have behind : ∀ candidate ∈ others, candidate ∈ first :: rest ∧ comparator.allows current candidate = .ok true :=
      fun candidate member => ⟨List.mem_cons_of_mem _ (ih there candidate member).1, (ih there candidate member).2⟩
    cases answer with
    | true =>
      cases same
      exact List.forall_mem_cons.mpr ⟨⟨List.mem_cons_self, here⟩, behind⟩
    | false =>
      cases same
      exact behind

theorem allows_of_upgrade (found : comparator.upgrade current candidates = .ok (some best)) :
    best ∈ candidates ∧ comparator.allows current best = .ok true := by
  obtain ⟨valid, allowed, choice⟩ := bind_eq_ok_iff.mp found
  cases valid with
  | nil => cases choice
  | cons first rest =>
    obtain ⟨greatest, search, choice⟩ := bind_eq_ok_iff.mp choice
    have returned : greatest = best := by
      cases current with
      | none =>
        cases choice
        rfl
      | some now =>
        obtain ⟨order, -, choice⟩ := bind_eq_ok_iff.mp choice
        have choice := Except.ok.inj choice
        split at choice
        · cases choice
        · cases choice
          rfl
    rw [← returned]
    exact allows_of_mem_allowed allowed _ (mem_of_greatest search)

/-! Releases against numbers alone. -/

/-- Against numbers alone a release is compared by its core, and where this is equal by what else its text holds. -/
theorem Ranged.compare_numbers (ranged : comparator.Ranged) {runs : List (List Char)} (nonempty : runs ≠ [])
    (length_le : runs.length ≤ 4) (readable : ∀ run ∈ runs, IsRun run ∧ run.length ≤ numeralLimit)
    (same : release.text = candidate.toList) (read : Parts.ofVersion candidate = .ok (some ⟨release.core, ""⟩)) :
    let bound := Core.ofList (runs.map (digitsValue 0))
    comparator.compare candidate (String.ofList (joined runs)) =
        .ok (if release.core = bound then release.standing else release.core.compare bound) ∧
      comparator.compare (String.ofList (joined runs)) candidate =
        .ok (if bound = release.core then release.standing.swap else bound.compare release.core) := by
  intro bound
  have readBound := Release.ofVersion_joined nonempty length_le readable
  have sameBound : (Release.ofRuns nonempty length_le readable).text = (String.ofList (joined runs)).toList := by
    simp [Release.ofRuns, Release.text]
  have bare : (Release.ofRuns nonempty length_le readable).Bare := ⟨rfl, .inl rfl⟩
  rw [ranged.compare_eq read readBound, ranged.compare_eq readBound read]
  constructor
  · split
    · rename_i tie
      exact (Release.compareTexts_standing same sameBound rfl bare tie).1
    · rfl
  · split
    · rename_i tie
      exact (Release.compareTexts_standing same sameBound rfl bare tie.symm).2
    · rfl

/-! Hyphen ranges. -/

theorem boundUpTo_of_length {numbers : List Nat} (full : numbers.length = 3) :
    boundUpTo numbers = .atMost (Triple.ofList numbers) := by
  match numbers, full with
  | [_, _, _], _ => rfl

theorem areSegments_of_denotes {constraint : List Char} (spelled : Denotes constraint (.hyphen lower upper)) :
    AreSegments lower ∧ AreSegments upper := by
  cases spelled with
  | hyphen first _ _ second => exact ⟨first, second⟩

/-- A hyphen range with full bounds holds the versions between them. -/
theorem hyphen_holds_iff {npm : NpmSpec} (documented : npm.Documented) (first : AreSegments lower)
    (second : AreSegments upper) (full : upper.length = 3) {holds : Triple → Bool}
    (read : (RangeForm.hyphen lower upper).holds npm = .ok holds) (triple : Triple) :
    holds triple = true ↔ (Triple.ofList (lower.map (digitsValue 0))).lex ≤ triple.lex ∧
      triple.lex ≤ (Triple.ofList (upper.map (digitsValue 0))).lex := by
  obtain ⟨blocks, written, -⟩ := bind_eq_ok_iff.mp read
  obtain ⟨-, rfl⟩ := (blocks_hyphen_eq_ok_iff first second).mp written
  rw [holds_iff documented written read triple, boundsBetween, boundUpTo_of_length (by simpa using full),
    forall_mem_bounds]
  rfl

/-- Of what a hyphen range with full bounds allows, a candidate compares as below the lower bound exactly if it has
the numbers of that bound and stands below them, and as above the upper bound exactly if its first three numbers are
those of the bound and a fourth one follows, or it stands above them. What the search returns is allowed. -/
theorem hyphen_exceeds_iff {tools : Tools} (documented : tools.npm.Documented)
    (accepted : validate text none tools = .ok (.valid comparator))
    (spelled : Denotes (trim text.toList) (.hyphen lower upper)) (full : lower.length = 3 ∧ upper.length = 3) :
    (∀ current candidate, comparator.allows current candidate = .ok true →
      ∃ (release : Release) (low high : Ordering), release.text = candidate.toList ∧
        Parts.ofVersion candidate = .ok (some ⟨release.core, ""⟩) ∧
        comparator.compare (String.ofList (joined lower)) candidate = .ok low ∧
        comparator.compare candidate (String.ofList (joined upper)) = .ok high ∧
        (low = .gt ↔ release.core = Core.ofList (lower.map (digitsValue 0)) ∧ release.standing = .lt) ∧
        (high = .gt ↔ Triple.ofCore release.core = Triple.ofList (upper.map (digitsValue 0)) ∧
          (release.core.extra ≠ 0 ∨ release.standing = .gt))) ∧
      ∀ current candidates best, comparator.upgrade current candidates = .ok (some best) →
        best ∈ candidates ∧ comparator.allows current best = .ok true := by
  refine ⟨fun current candidate allowed => ?_, fun current candidates best => allows_of_upgrade⟩
  obtain ⟨first, second⟩ := areSegments_of_denotes spelled
  rw [validate_of_denotes spelled rfl] at accepted
  obtain ⟨holds, read, same⟩ := map_eq_ok_iff.mp accepted
  obtain ⟨short, -⟩ := (exists_holds_iff documented spelled).mp ⟨holds, read⟩
  cases same
  obtain ⟨shortLower, shortUpper⟩ := List.forall_mem_append.mp short
  have ranged : Ranged ⟨.hyphen, strip text, .within holds, none⟩ := ⟨by simp, rfl⟩
  obtain ⟨core, readCore, inside⟩ := ranged.exists_core_of_allows allowed
  obtain ⟨release, sameText, rfl, -⟩ := Release.exists_of_ofVersion readCore
  have threeRuns {runs : List (List Char)} (length : runs.length = 3) :
      runs ≠ [] ∧ runs.length ≤ 4 ∧ (Core.ofList (runs.map (digitsValue 0))).extra = 0 :=
    ⟨List.ne_nil_of_length_pos (by omega), by omega, Core.extra_ofList (by simp [length])⟩
  obtain ⟨nonemptyLower, lengthLower, zeroLower⟩ := threeRuns full.1
  obtain ⟨nonemptyUpper, lengthUpper, zeroUpper⟩ := threeRuns full.2
  have within := (hyphen_holds_iff documented first second full.2 read _).mp (inside _ rfl)
  have atLower := ranged.compare_numbers nonemptyLower lengthLower
    (fun run member => ⟨first.isRun run member, shortLower run member⟩) sameText readCore
  have atUpper := ranged.compare_numbers nonemptyUpper lengthUpper
    (fun run member => ⟨second.isRun run member, shortUpper run member⟩) sameText readCore
  exact ⟨release, _, _, sameText, readCore, atLower.2, atUpper.1, Core.above_lower_iff zeroLower within.1 _,
    Core.above_upper_iff zeroUpper within.2 _⟩

theorem denotes_fromOneToTwo :
    Denotes "1.0.0 - 2.0.0".toList (.hyphen [['1'], ['0'], ['0']] [['2'], ['0'], ['0']]) := by
  have digit {c : Char} (decimal : isDecimal c = true) : IsRun [c] :=
    ⟨List.cons_ne_nil _ _, List.forall_mem_singleton.mpr decimal⟩
  have segments {c : Char} (decimal : isDecimal c = true) : AreSegments [[c], ['0'], ['0']] := by
    refine ⟨List.cons_ne_nil _ _, Nat.le_refl _, ?_⟩
    simp only [List.forall_mem_cons]
    exact ⟨digit decimal, digit rfl, digit rfl, nofun⟩
  have blank : ∀ c ∈ [' '], isBlank c = true := List.forall_mem_singleton.mpr rfl
  exact .hyphen (segments rfl) blank blank (segments rfl)

/-- A fourth number makes a candidate stand above the upper bound, whose numbers it has. -/
theorem hyphen_exceeds_iff_fourth :
    let range (triple : Triple) : Bool :=
      [NpmSpec.holds .atLeast [1, 0, 0], NpmSpec.holds .atMost [2, 0, 0]].all (· triple)
    let comparator : Comparator := ⟨.hyphen, "1.0.0 - 2.0.0", .within range, none⟩
    validate "1.0.0 - 2.0.0" none = .ok (.valid comparator) ∧ comparator.allows none "2.0.0.5" = .ok true ∧
      ∃ release : Release, release.core = ⟨2, 0, 0, 5⟩ ∧ release.text = "2.0.0.5".toList ∧
        ∃ low high, comparator.compare "1.0.0" "2.0.0.5" = .ok low ∧ comparator.compare "2.0.0.5" "2.0.0" = .ok high ∧
          low ≠ .gt ∧ high = .gt := by
  intro range comparator
  have accepted : validate "1.0.0 - 2.0.0" none = .ok (.valid comparator) := rfl
  have allowed : comparator.allows none "2.0.0.5" = .ok true := rfl
  obtain ⟨release, low, high, same, read, atLower, atUpper, below, above⟩ :=
    (hyphen_exceeds_iff NpmSpec.documented_read accepted denotes_fromOneToTwo ⟨rfl, rfl⟩).1 none "2.0.0.5" allowed
  have core : release.core = ⟨2, 0, 0, 5⟩ := by
    have here : Parts.ofVersion "2.0.0.5" = .ok (some ⟨⟨2, 0, 0, 5⟩, ""⟩) := rfl
    have same := Option.some.inj (Except.ok.inj (read.symm.trans here))
    exact congrArg Parts.core same
  rw [core] at below above
  exact ⟨accepted, allowed, release, core, same, low, high, atLower, atUpper,
    fun exceeded => absurd (below.mp exceeded).1 (by decide), above.mpr ⟨rfl, .inl (by decide)⟩⟩

/-- The upper bound of a range is no bound for what it allows, nor for what the search returns. -/
theorem exists_upgrade_above_upper :
    let range (triple : Triple) : Bool :=
      [NpmSpec.holds .atLeast [1, 0, 0], NpmSpec.holds .atMost [2, 0, 0]].all (· triple)
    let comparator : Comparator := ⟨.hyphen, "1.0.0 - 2.0.0", .within range, none⟩
    validate "1.0.0 - 2.0.0" none = .ok (.valid comparator) ∧
      Denotes "1.0.0 - 2.0.0".toList (.hyphen [['1'], ['0'], ['0']] [['2'], ['0'], ['0']]) ∧
      comparator.allows none "2.0.0.5" = .ok true ∧ comparator.compare "2.0.0.5" "2.0.0" = .ok .gt ∧
      comparator.upgrade none ["2.0.0.5"] = .ok (some "2.0.0.5") :=
  ⟨rfl, denotes_fromOneToTwo, rfl, rfl, rfl⟩

end Comparator
end MavenResolution
