import MavenResolution.Constraint.Validation
import MavenResolution.Proofs.Constraint.Candidate
import MavenResolution.Proofs.Constraint.NpmReader

/-! Ranges and their intervals. A range of plainly written numbers is accepted, whatever the pattern, and allows
exactly the candidates whose first three numbers lie in its interval and whose remainder qualifies. -/
namespace MavenResolution.Constraint

open Text

namespace Given

/-- No version above these numbers, or none from the next value of their last segment on. -/
def Bounds (triple : Triple) : Given → Prop
  | major M => triple.lex < Triple.lex ⟨M + 1, 0, 0⟩
  | minor M m => triple.lex < Triple.lex ⟨M, m + 1, 0⟩
  | patch M m p => triple.lex ≤ Triple.lex ⟨M, m, p⟩

/-- The comparator of an upper bound. -/
def bound : Given → Bound
  | major M => .below ⟨M + 1, 0, 0⟩
  | minor M m => .below ⟨M, m + 1, 0⟩
  | patch M m p => .atMost ⟨M, m, p⟩

theorem holds_bound_iff (given : Given) (triple : Triple) : given.bound.Holds triple ↔ given.Bounds triple := by
  cases given <;> rfl

end Given

/-- A range with the numbers that it gives. -/
inductive NumberedRange where
  | tilde (given : Given)
  | caret (given : Given)
  /-- All minor versions of a major one. -/
  | anyMinor (major : Nat)
  /-- All patches of a minor version. -/
  | anyPatch (major minor : Nat)
  | hyphen (lower upper : Given)

namespace NumberedRange

def numbers : NumberedRange → List Nat
  | tilde given | caret given => given.numbers
  | anyMinor M => [M]
  | anyPatch M m => [M, m]
  | hyphen lower upper => lower.numbers ++ upper.numbers

/-- The range with its numbers as they are written. -/
def form : NumberedRange → RangeForm
  | tilde given => .tilde given.runs
  | caret given => .caret given.runs
  | anyMinor M => .wild [written M]
  | anyPatch M m => .wild [written M, written m]
  | hyphen lower upper => .hyphen lower.runs upper.runs

/-- The versions in a range. -/
def Contains (triple : Triple) : NumberedRange → Prop
  | tilde given => given.padded.lex ≤ triple.lex ∧ triple.lex < given.nextMinor.lex
  | caret given => given.padded.lex ≤ triple.lex ∧ triple.lex < given.nextLeading.lex
  | anyMinor M => Triple.lex ⟨M, 0, 0⟩ ≤ triple.lex ∧ triple.lex < Triple.lex ⟨M + 1, 0, 0⟩
  | anyPatch M m => Triple.lex ⟨M, m, 0⟩ ≤ triple.lex ∧ triple.lex < Triple.lex ⟨M, m + 1, 0⟩
  | hyphen lower upper => lower.padded.lex ≤ triple.lex ∧ upper.Bounds triple

/-- The comparators that a range comes to. -/
def bounds : NumberedRange → List Bound
  | tilde given => [.atLeast given.padded, .below given.nextMinor]
  | caret given => [.atLeast given.padded, .below given.nextLeading]
  | anyMinor M => [.atLeast ⟨M, 0, 0⟩, .below ⟨M + 1, 0, 0⟩]
  | anyPatch M m => [.atLeast ⟨M, m, 0⟩, .below ⟨M, m + 1, 0⟩]
  | hyphen lower upper => [.atLeast lower.padded, upper.bound]

/-- The ranges of all minor versions of a major one. -/
def ofMajor (M : Nat) : List NumberedRange :=
  [tilde (.major M), anyMinor M, hyphen (.major M) (.major M), caret (.major M)]

/-- The ranges of all patches of a minor version. -/
def ofMinor (M m : Nat) : List NumberedRange :=
  [tilde (.minor M m), anyPatch M m, hyphen (.minor M m) (.minor M m)]

end NumberedRange

variable {range : NumberedRange}

/-- A range contains the versions for which its comparators hold. -/
theorem contains_iff (range : NumberedRange) (triple : Triple) :
    range.Contains triple ↔ ∀ bound ∈ range.bounds, bound.Holds triple := by
  cases range with
  | tilde | caret | anyMinor | anyPatch => simp [NumberedRange.Contains, NumberedRange.bounds, Bound.Holds]
  | hyphen lower upper =>
    rw [NumberedRange.bounds, forall_mem_bounds, upper.holds_bound_iff]
    rfl

/-! Such ranges can be read. -/

section

variable {given : Given} (short : Short given.numbers)

include short

theorem Given.hasSuccessor_runs : HasSuccessor given.runs := by
  have successor (n : Nat) (member : n ∈ given.numbers) : Writable (digitsValue 0 (written n) + 1) := by
    rw [digitsValue_written]
    exact (writable_of_short (short n member)).2
  cases given with
  | major M =>
    rintro _ ⟨⟩
    exact successor M (by simp [numbers])
  | minor M m =>
    rintro _ ⟨⟩
    exact successor m (by simp [numbers])
  | patch M m p =>
    rintro _ ⟨⟩
    exact successor p (by simp [numbers])

theorem Given.length_le_of_mem_runs : ∀ run ∈ given.runs, run.length ≤ numeralLimit :=
  fun run member => (short.isNumber_of_mem_runs run member).2

theorem Given.writable_bound : given.bound.version.Writable := by
  have writable (n : Nat) (member : n ∈ given.numbers) := writable_of_short (short n member)
  cases given with
  | major M => exact ⟨(writable M (by simp [numbers])).2, writable_zero, writable_zero⟩
  | minor M m => exact ⟨(writable M (by simp [numbers])).1, (writable m (by simp [numbers])).2, writable_zero⟩
  | patch M m p =>
    exact ⟨(writable M (by simp [numbers])).1, (writable m (by simp [numbers])).1, (writable p (by simp [numbers])).1⟩

end

theorem NumberedRange.writable_of_mem_bounds (short : Short range.numbers) :
    ∀ bound ∈ range.bounds, bound.version.Writable := by
  cases range with
  | tilde given => exact forall_mem_bounds.mpr ⟨given.writable_padded short, given.writable_nextMinor short⟩
  | caret given => exact forall_mem_bounds.mpr ⟨given.writable_padded short, given.writable_nextLeading short⟩
  | anyMinor M =>
    exact forall_mem_bounds.mpr ⟨@Given.writable_padded (.major M) short, @Given.writable_bound (.major M) short⟩
  | anyPatch M m =>
    exact forall_mem_bounds.mpr
      ⟨@Given.writable_padded (.minor M m) short, @Given.writable_bound (.minor M m) short⟩
  | hyphen lower upper =>
    obtain ⟨first, second⟩ := List.forall_mem_append.mp short
    exact forall_mem_bounds.mpr ⟨lower.writable_padded first, upper.writable_bound second⟩

theorem boundsBetween_numbers (lower upper : Given) :
    boundsBetween (lower.runs.map (digitsValue 0)) (upper.runs.map (digitsValue 0)) =
      [.atLeast lower.padded, upper.bound] := by
  rw [lower.map_digitsValue_runs, upper.map_digitsValue_runs, boundsBetween, ofList_numbers]
  cases upper <;> rfl

/-- The wildcards and the hyphen are written in comparators. -/
theorem NumberedRange.blocks_eq (short : Short range.numbers)
    (unsigned : range.form.dialect = .xRange ∨ range.form.dialect = .hyphen) :
    range.form.blocks = .ok (range.bounds.map Bound.block) := by
  cases range with
  | tilde | caret => simp [form, RangeForm.dialect] at unsigned
  | anyMinor M =>
    have value : [written M].map (digitsValue 0) = [M] := (Given.major M).map_digitsValue_runs
    refine (blocks_wild_eq_ok_iff (Given.major M).areSegments_runs.isRun (by decide : 1 ≤ 2)).mpr ⟨?_, ?_⟩
    · exact ⟨@Given.length_le_of_mem_runs (.major M) short, @Given.hasSuccessor_runs (.major M) short⟩
    · exact congrArg (fun numbers => (boundsStartingWith numbers).map Bound.block) value.symm
  | anyPatch M m =>
    have value : [written M, written m].map (digitsValue 0) = [M, m] := (Given.minor M m).map_digitsValue_runs
    refine (blocks_wild_eq_ok_iff (Given.minor M m).areSegments_runs.isRun (by decide : 2 ≤ 2)).mpr ⟨?_, ?_⟩
    · exact ⟨@Given.length_le_of_mem_runs (.minor M m) short, @Given.hasSuccessor_runs (.minor M m) short⟩
    · exact congrArg (fun numbers => (boundsStartingWith numbers).map Bound.block) value.symm
  | hyphen lower upper =>
    obtain ⟨first, second⟩ := List.forall_mem_append.mp short
    refine (blocks_hyphen_eq_ok_iff lower.areSegments_runs upper.areSegments_runs).mpr ⟨⟨?_, ?_⟩, ?_⟩
    · exact List.forall_mem_append.mpr ⟨lower.length_le_of_mem_runs first, upper.length_le_of_mem_runs second⟩
    · exact fun _ => upper.hasSuccessor_runs second
    · rw [boundsBetween_numbers]
      rfl

section

variable {npm : NpmSpec} (documented : npm.Documented)

include documented

/-- Every range is read as its comparators are. -/
theorem NumberedRange.holds_eq (short : Short range.numbers) :
    range.form.holds npm = (npm (boundsText range.bounds)).mapError .range := by
  have written (unsigned : range.form.dialect = .xRange ∨ range.form.dialect = .hyphen) :
      range.form.holds npm = (npm (boundsText range.bounds)).mapError .range := by
    rw [RangeForm.holds, range.blocks_eq short unsigned]
    rfl
  cases range with
  | tilde given => exact congrArg (Except.mapError Fault.range) (documented.tilde given short)
  | caret given => exact congrArg (Except.mapError Fault.range) (documented.caret given short)
  | anyMinor | anyPatch => exact written (.inl rfl)
  | hyphen => exact written (.inr rfl)

theorem NumberedRange.exists_holds (short : Short range.numbers) :
    ∃ holds, range.form.holds npm = .ok holds ∧ ∀ triple, holds triple = true ↔ range.Contains triple := by
  have nonempty : range.bounds ≠ [] := by cases range <;> exact List.cons_ne_nil _ _
  obtain ⟨holds, read, means⟩ := documented.exists_holds nonempty (range.writable_of_mem_bounds short)
  refine ⟨holds, ?_, fun triple => (means triple).trans (contains_iff range triple).symm⟩
  rw [range.holds_eq documented short, read]
  rfl

end

/-! What such ranges allow. -/

theorem NumberedRange.bounds_of_mem_ofMajor {M : Nat} (member : range ∈ ofMajor M) :
    range.bounds = [.atLeast ⟨M, 0, 0⟩, .below ⟨M + 1, 0, 0⟩] := by
  simp only [ofMajor, List.mem_cons, List.not_mem_nil, or_false] at member
  rcases member with rfl | rfl | rfl | rfl <;> rfl

theorem NumberedRange.bounds_of_mem_ofMinor {M m : Nat} (member : range ∈ ofMinor M m) :
    range.bounds = [.atLeast ⟨M, m, 0⟩, .below ⟨M, m + 1, 0⟩] := by
  simp only [ofMinor, List.mem_cons, List.not_mem_nil, or_false] at member
  rcases member with rfl | rfl | rfl <;> rfl

theorem allows_within_iff {comparator : Comparator} {holds : Triple → Bool}
    (rule : comparator.rule = .within holds) (current : Option String) {candidate : String}
    (short : Parts.ShortRuns candidate.toList) :
    ∃ answer, comparator.allows current candidate = .ok answer ∧
      (answer = true ↔ ∃ parts, Parts.ofVersion candidate = .ok (some parts) ∧
        comparator.qualifies parts = true ∧ holds (Triple.ofCore parts.core) = true) := by
  obtain ⟨parts?, read⟩ := Parts.exists_ofVersion short
  rw [Comparator.allows, rule]
  dsimp only
  rw [read]
  cases parts? with
  | none => exact ⟨false, rfl, nofun, by rintro ⟨_, ⟨⟩, -⟩⟩
  | some parts =>
    refine ⟨_, rfl, ?_⟩
    rw [Bool.and_eq_true]
    constructor
    · rintro ⟨fits, inside⟩
      exact ⟨parts, rfl, fits, inside⟩
    · rintro ⟨_, ⟨⟩, fits, inside⟩
      exact ⟨fits, inside⟩

/-- Both are ranges of all minor versions of one major version, or of all patches of one minor version. -/
def NumberedRange.SameLine (range other : NumberedRange) : Prop :=
  (∃ M, range ∈ ofMajor M ∧ other ∈ ofMajor M) ∨ ∃ M m, range ∈ ofMinor M m ∧ other ∈ ofMinor M m

theorem NumberedRange.SameLine.bounds_eq {other : NumberedRange} (sameLine : range.SameLine other) :
    range.bounds = other.bounds := by
  rcases sameLine with ⟨M, here, there⟩ | ⟨M, m, here, there⟩
  · rw [bounds_of_mem_ofMajor here, bounds_of_mem_ofMajor there]
  · rw [bounds_of_mem_ofMinor here, bounds_of_mem_ofMinor there]

variable {tools : Tools} {pattern : Option String} {compiled : Option Pattern} {text : String}

theorem validate_of_holds {form : RangeForm} {holds : Triple → Bool}
    (compiles : tools.compilePattern pattern = .ok compiled) (read : form.holds tools.npm = .ok holds)
    (spelled : Denotes (trim text.toList) form) :
    validate text pattern tools = .ok (.valid ⟨form.dialect, strip text, .within holds, compiled⟩) := by
  rw [validate_of_denotes spelled compiles, read]
  rfl

/-- A range of plainly written numbers allows exactly the candidates that have a numeric core in its interval and a
remainder that qualifies. Ranges of the same line allow the same candidates. It is so with every pattern that
`re.compile` takes, and with every `NpmSpec` that does what is documented. -/
theorem allows_iff_contains (documented : tools.npm.Documented)
    (compiles : tools.compilePattern pattern = .ok compiled) (short : Short range.numbers)
    (spelled : Denotes (trim text.toList) range.form) :
    ∃ comparator, validate text pattern tools = .ok (.valid comparator) ∧ comparator.pattern = compiled ∧
      (∀ current candidate, Parts.ShortRuns candidate.toList →
        ∃ answer, comparator.allows current candidate = .ok answer ∧
          (answer = true ↔ ∃ parts, Parts.ofVersion candidate = .ok (some parts) ∧
            comparator.qualifies parts = true ∧ range.Contains (Triple.ofCore parts.core))) ∧
      ∀ (other : NumberedRange) (text' : String), range.SameLine other → Short other.numbers →
        Denotes (trim text'.toList) other.form →
          ∃ comparator', validate text' pattern tools = .ok (.valid comparator') ∧
            ∀ current candidate, comparator'.allows current candidate = comparator.allows current candidate := by
  obtain ⟨holds, read, means⟩ := range.exists_holds documented short
  refine ⟨_, validate_of_holds compiles read spelled, rfl, ?_, ?_⟩
  · intro current candidate shortRuns
    simp only [← means]
    exact allows_within_iff rfl current shortRuns
  · intro other text' sameLine short' spelled'
    have read' : other.form.holds tools.npm = .ok holds := by
      rw [other.holds_eq documented short', ← sameLine.bounds_eq, ← range.holds_eq documented short, read]
    exact ⟨_, validate_of_holds compiles read' spelled', fun _ _ => rfl⟩

/-- All versions `1.x` are allowed by the range from `1` to `1`. -/
theorem allows_iff_contains_hyphen : ∃ comparator, validate "1 - 1" none = .ok (.valid comparator) ∧
    ∀ current candidate, Parts.ShortRuns candidate.toList →
      ∃ answer, comparator.allows current candidate = .ok answer ∧
        (answer = true ↔ ∃ parts, Parts.ofVersion candidate = .ok (some parts) ∧
          comparator.qualifies parts = true ∧ Triple.lex ⟨1, 0, 0⟩ ≤ (Triple.ofCore parts.core).lex ∧
            (Triple.ofCore parts.core).lex < Triple.lex ⟨2, 0, 0⟩) := by
  have short : ∀ n ∈ [1, 1], (written n).length < numeralLimit := by decide
  have one : AreSegments [written 1] := ⟨by decide, by decide, List.forall_mem_singleton.mpr (isRun_written 1)⟩
  have blank : ∀ c ∈ [' '], isBlank c = true := List.forall_mem_singleton.mpr rfl
  have spelled : Denotes "1 - 1".toList (NumberedRange.hyphen (.major 1) (.major 1)).form :=
    @Denotes.hyphen [' '] [' '] _ _ one blank blank one
  obtain ⟨comparator, accepted, -, allows, -⟩ :=
    @allows_iff_contains (.hyphen (.major 1) (.major 1)) {} none none "1 - 1" NpmSpec.documented_read rfl short spelled
  exact ⟨comparator, accepted, allows⟩

end MavenResolution.Constraint
