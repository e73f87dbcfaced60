import Mathlib.Data.Prod.Lex
import MavenResolution.Proofs.Constraint.Grammar
import MavenResolution.Proofs.Outcome
import MavenResolution.Proofs.Text.Written

/-! What npm documents of its ranges, as far as constraints are written as such. All that is proved of
ranges holds of every reader for which this is true; the reader of the ranges that are written is one. -/
namespace MavenResolution.Constraint

open Text

/-! Versions in the order of their segments. -/

def Triple.lex (triple : Triple) : ℕ ×ₗ ℕ ×ₗ ℕ := toLex (triple.major, toLex (triple.minor, triple.patch))

theorem Triple.compare_eq_lt_iff {left right : Triple} : left.compare right = .lt ↔ left.lex < right.lex := by
  simp only [Triple.compare, Triple.lex, Ordering.then_eq_lt, Ordering.then_eq_eq, Prod.Lex.toLex_lt_toLex,
    Nat.compare_eq_lt, Nat.compare_eq_eq]
  omega

theorem Triple.compare_ne_gt_iff {left right : Triple} : left.compare right ≠ .gt ↔ left.lex ≤ right.lex := by
  simp only [Triple.compare, Triple.lex, ne_eq, Ordering.then_eq_gt, Ordering.then_eq_eq, Prod.Lex.toLex_le_toLex,
    Nat.compare_eq_gt, Nat.compare_eq_eq]
  omega

/-! Ranges of plainly written numbers. -/

/-- The numbers of a range: one, two or three segments of a version. -/
inductive Given where
  | major (major : Nat)
  | minor (major minor : Nat)
  | patch (major minor patch : Nat)

namespace Given

def numbers : Given → List Nat
  | major M => [M]
  | minor M m => [M, m]
  | patch M m p => [M, m, p]

/-- Missing segments are zero. -/
def padded : Given → Triple
  | major M => ⟨M, 0, 0⟩
  | minor M m => ⟨M, m, 0⟩
  | patch M m p => ⟨M, m, p⟩

/-- The next minor version, or the next major one if no minor version is given. -/
def nextMinor : Given → Triple
  | major M => ⟨M + 1, 0, 0⟩
  | minor M m | patch M m _ => ⟨M, m + 1, 0⟩

/-- The next value of the first segment that is not zero, or of the last one given. -/
def nextLeading : Given → Triple
  | major M => ⟨M + 1, 0, 0⟩
  | minor M m => if 0 < M then ⟨M + 1, 0, 0⟩ else ⟨0, m + 1, 0⟩
  | patch M m p => if 0 < M then ⟨M + 1, 0, 0⟩ else if 0 < m then ⟨0, m + 1, 0⟩ else ⟨0, 0, p + 1⟩

def runs (given : Given) : List (List Char) := given.numbers.map written

end Given

/-- The numbers have fewer digits than numerals may have. -/
def Short (numbers : List Nat) : Prop := ∀ n ∈ numbers, (written n).length < numeralLimit

/-- A comparator of npm: a comparison with a full version. -/
inductive Bound where
  | atLeast (version : Triple)
  | below (version : Triple)
  | atMost (version : Triple)

namespace Bound

def version : Bound → Triple
  | atLeast version | below version | atMost version => version

def operator : Bound → Operator
  | atLeast _ => .atLeast
  | below _ => .below
  | atMost _ => .atMost

/-- The comparator as it is written. -/
def block (bound : Bound) : Block :=
  ⟨bound.operator, [written bound.version.major, written bound.version.minor, written bound.version.patch]⟩

def Holds (triple : Triple) : Bound → Prop
  | atLeast version => version.lex ≤ triple.lex
  | below version => triple.lex < version.lex
  | atMost version => triple.lex ≤ version.lex

end Bound

/-- Most ranges come to two comparators. -/
theorem forall_mem_bounds {p : Bound → Prop} {lower upper : Bound} :
    (∀ bound ∈ [lower, upper], p bound) ↔ p lower ∧ p upper := by
  rw [List.forall_mem_cons, List.forall_mem_singleton]

/-- Comparators as they are written one after another. -/
def boundsText (bounds : List Bound) : String := rangeText (bounds.map Bound.block)

/-- The number is written plainly, with no more digits than `int` reads. -/
def IsNumber (run : List Char) : Prop := isPlain run = true ∧ run.length ≤ numeralLimit

/-- The documentation of npm ranges, for the ranges that constraints are written as. -/
structure NpmSpec.Documented (npm : NpmSpec) : Prop where
  /-- The grammar: blocks follow one another, each a comparator, `~` or `^` with up to three numbers, and a
  number is `'0' | ['1'-'9'] ['0'-'9'] *`. -/
  accepts : ∀ blocks : List Block, blocks ≠ [] → (∀ block ∈ blocks, AreSegments block.segments) →
    ((∃ holds, npm (rangeText blocks) = .ok holds) ↔ ∀ block ∈ blocks, ∀ run ∈ block.segments, IsNumber run)
  /-- Of comparators that follow one another all have to hold. -/
  comparators : ∀ bounds holds, npm (boundsText bounds) = .ok holds →
    ∀ triple, holds triple = true ↔ ∀ bound ∈ bounds, bound.Holds triple
  /-- `~1.2.3 := >=1.2.3 <1.3.0`, `~1.2 := >=1.2.0 <1.3.0`, `~1 := >=1.0.0 <2.0.0`. -/
  tilde : ∀ given : Given, Short given.numbers →
    npm (rangeText [⟨.tilde, given.runs⟩]) = npm (boundsText [.atLeast given.padded, .below given.nextMinor])
  /-- `^1.2.3 := >=1.2.3 <2.0.0`, `^0.2.3 := >=0.2.3 <0.3.0`, `^0.0.3 := >=0.0.3 <0.0.4`,
  `^0.0 := >=0.0.0 <0.1.0`, `^0 := >=0.0.0 <1.0.0`. -/
  caret : ∀ given : Given, Short given.numbers →
    npm (rangeText [⟨.caret, given.runs⟩]) = npm (boundsText [.atLeast given.padded, .below given.nextLeading])

/-! Numbers that are read. -/

theorem readNumeral_of_isRun {run : List Char} (isRun : IsRun run) :
    readNumeral run =
      if numeralLimit < run.length then .error (.tooLong run.length) else .ok (digitsValue 0 run) := by
  have whole : run.takeWhile isDecimal = run := List.takeWhile_eq_self_iff.mpr isRun.digits
  have nonempty : run.isEmpty = false := by simpa using isRun.nonempty
  simp [readNumeral, whole, nonempty]

theorem readNumeral_eq_ok_iff {run : List Char} {value : Nat} (isRun : IsRun run) :
    readNumeral run = .ok value ↔ run.length ≤ numeralLimit ∧ value = digitsValue 0 run := by
  rw [readNumeral_of_isRun isRun]
  split
  · rename_i long
    exact ⟨nofun, fun readable => absurd readable.1 (Nat.not_le_of_lt long)⟩
  · rename_i short
    rw [Except.ok.injEq]
    exact ⟨fun same => ⟨Nat.le_of_not_lt short, same.symm⟩, fun readable => readable.2.symm⟩

theorem mapM_readNumeral_eq_ok_iff {runs : List (List Char)} {values : List Nat}
    (isRun : ∀ run ∈ runs, IsRun run) : runs.mapM readNumeral = .ok values ↔
      (∀ run ∈ runs, run.length ≤ numeralLimit) ∧ values = runs.map (digitsValue 0) :=
  mapM_eq_ok_iff fun run member _ => readNumeral_eq_ok_iff (isRun run member)

/-! Numbers that are written. -/

theorem isRun_written (n : Nat) : IsRun (written n) :=
  ⟨written_ne_nil n, fun _ member => isDecimal_of_isDigit (isDigit_of_mem_written member)⟩

theorem isPlain_written (n : Nat) : isPlain (written n) = true := by
  rcases Nat.eq_zero_or_pos n with rfl | positive
  · rfl
  · obtain ⟨c, rest, same, above, below⟩ := exists_written_eq_cons positive
    have digits : rest.all Char.isDigit = true := List.all_eq_true.mpr fun d member =>
      isDigit_of_mem_written (n := n) (same ▸ List.mem_cons_of_mem c member)
    rw [same]
    unfold isPlain
    split
    · contradiction
    · rfl
    · rename_i equal
      cases equal
      simp [above, below, digits]

/-- The number has no more digits than `str` writes. -/
def Writable (n : Nat) : Prop := n < Nat.pow 10 numeralLimit

theorem length_written_le_iff {n : Nat} : (written n).length ≤ numeralLimit ↔ Writable n := by
  have positive : 0 < numeralLimit := by decide
  unfold Writable
  generalize numeralLimit = limit at positive ⊢
  rw [written_eq_toDigits]
  exact Nat.length_toDigits_le_iff (by decide) positive

theorem isNumber_written_iff {n : Nat} : IsNumber (written n) ↔ Writable n :=
  (and_iff_right (isPlain_written n)).trans length_written_le_iff

theorem areSegments_written {numbers : List Nat} (nonempty : numbers ≠ []) (length_le : numbers.length ≤ 3) :
    AreSegments (numbers.map written) where
  nonempty := by simpa using nonempty
  length_le := by simpa using length_le
  isRun run member := by
    obtain ⟨n, -, rfl⟩ := List.mem_map.mp member
    exact isRun_written n

theorem Given.areSegments_runs (given : Given) : AreSegments given.runs := by
  cases given <;> exact areSegments_written (List.cons_ne_nil _ _) (by simp [numbers])

theorem Bound.areSegments_block (bound : Bound) : AreSegments bound.block.segments :=
  @areSegments_written [bound.version.major, bound.version.minor, bound.version.patch]
    (List.cons_ne_nil _ _) (Nat.le_refl 3)

theorem writeNumeral_eq_ok_iff {n : Nat} {text : String} :
    writeNumeral n = .ok text ↔ Writable n ∧ text = toString n := by
  unfold writeNumeral
  dsimp only
  rw [← length_written_le_iff, written, String.length_toList]
  split
  · rename_i short
    rw [Except.ok.injEq, and_iff_right short, eq_comm]
  · rename_i long
    refine ⟨fun same => ?_, fun written => absurd written.1 long⟩
    cases same

/-- A block is written unless one of its numbers is too large. -/
theorem block_eq_ok_iff {operator : Operator} {numbers : List Nat} {written : Block} :
    block operator numbers = .ok written ↔
      (∀ n ∈ numbers, Writable n) ∧ written = ⟨operator, numbers.map Text.written⟩ := by
  have writes : ∀ texts, numbers.mapM writeNumeral = .ok texts ↔
      (∀ n ∈ numbers, Writable n) ∧ texts = numbers.map toString :=
    fun texts => mapM_eq_ok_iff fun n _ text => writeNumeral_eq_ok_iff
  rw [block, mapError_eq_ok_iff, Block.write, bind_eq_ok_iff]
  simp only [writes]
  constructor
  · rintro ⟨_, ⟨small, rfl⟩, ⟨⟩⟩
    rw [List.map_map]
    exact ⟨small, rfl⟩
  · rintro ⟨small, rfl⟩
    refine ⟨_, ⟨small, rfl⟩, ?_⟩
    rw [List.map_map]
    rfl

/-- The segments of a version can be written. -/
structure Triple.Writable (triple : Triple) : Prop where
  major : Constraint.Writable triple.major
  minor : Constraint.Writable triple.minor
  patch : Constraint.Writable triple.patch

theorem Bound.isNumber_of_mem_block {bound : Bound} (writable : bound.version.Writable) :
    ∀ run ∈ bound.block.segments, IsNumber run := by
  simp only [block, List.forall_mem_cons, isNumber_written_iff]
  exact ⟨writable.major, writable.minor, writable.patch, nofun⟩

theorem writable_zero : Writable 0 := by
  unfold Writable
  generalize numeralLimit = limit
  exact Nat.pow_pos (by decide)

theorem writable_of_short {n : Nat} (short : (written n).length < numeralLimit) :
    Writable n ∧ Writable (n + 1) := by
  have below := lt_pow_length_written n
  unfold Writable
  generalize numeralLimit = limit at short ⊢
  have further : 10 ^ (written n).length < Nat.pow 10 limit := Nat.pow_lt_pow_right (by decide) short
  exact ⟨below.trans further, Nat.lt_of_le_of_lt below further⟩

theorem Short.isNumber_of_mem_runs {given : Given} (short : Short given.numbers) :
    ∀ run ∈ given.runs, IsNumber run := by
  intro run member
  obtain ⟨n, among, rfl⟩ := List.mem_map.mp member
  exact ⟨isPlain_written n, (short n among).le⟩

namespace Given

variable {given : Given} (short : Short given.numbers)

include short

theorem writable_padded : given.padded.Writable := by
  have writable (n : Nat) (member : n ∈ given.numbers) := (writable_of_short (short n member)).1
  cases given with
  | major M => exact ⟨writable M (by simp [numbers]), writable_zero, writable_zero⟩
  | minor M m => exact ⟨writable M (by simp [numbers]), writable m (by simp [numbers]), writable_zero⟩
  | patch M m p =>
    exact ⟨writable M (by simp [numbers]), writable m (by simp [numbers]), writable p (by simp [numbers])⟩

theorem writable_nextMinor : given.nextMinor.Writable := by
  have writable (n : Nat) (member : n ∈ given.numbers) := writable_of_short (short n member)
  cases given with
  | major M => exact ⟨(writable M (by simp [numbers])).2, writable_zero, writable_zero⟩
  | minor M m | patch M m _ =>
    exact ⟨(writable M (by simp [numbers])).1, (writable m (by simp [numbers])).2, writable_zero⟩

theorem writable_nextLeading : given.nextLeading.Writable := by
  have writable (n : Nat) (member : n ∈ given.numbers) := writable_of_short (short n member)
  cases given with
  | major M => exact ⟨(writable M (by simp [numbers])).2, writable_zero, writable_zero⟩
  | minor M m =>
    rcases Nat.eq_zero_or_pos M with rfl | positive
    · exact ⟨writable_zero, (writable m (by simp [numbers])).2, writable_zero⟩
    · rw [nextLeading, if_pos positive]
      exact ⟨(writable M (by simp [numbers])).2, writable_zero, writable_zero⟩
  | patch M m p =>
    rcases Nat.eq_zero_or_pos M with rfl | positive
    · rcases Nat.eq_zero_or_pos m with rfl | positive
      · exact ⟨writable_zero, writable_zero, (writable p (by simp [numbers])).2⟩
      · rw [nextLeading, if_neg (Nat.lt_irrefl 0), if_pos positive]
        exact ⟨writable_zero, (writable m (by simp [numbers])).2, writable_zero⟩
    · rw [nextLeading, if_pos positive]
      exact ⟨(writable M (by simp [numbers])).2, writable_zero, writable_zero⟩

end Given

namespace NpmSpec.Documented

variable {npm : NpmSpec} (documented : npm.Documented) {bounds : List Bound}

include documented

/-- Comparators are read if their numbers are not too large, and mean what they say. -/
theorem exists_holds (nonempty : bounds ≠ []) (writable : ∀ bound ∈ bounds, bound.version.Writable) :
    ∃ holds, npm (boundsText bounds) = .ok holds ∧
      ∀ triple, holds triple = true ↔ ∀ bound ∈ bounds, bound.Holds triple := by
  have accepted : ∃ holds, npm (rangeText (bounds.map Bound.block)) = .ok holds := by
    refine (documented.accepts _ (by simpa using nonempty) ?_).mpr ?_
    · exact List.forall_mem_map.mpr fun bound _ => bound.areSegments_block
    · exact List.forall_mem_map.mpr fun bound member => Bound.isNumber_of_mem_block (writable bound member)
  obtain ⟨holds, read⟩ := accepted
  exact ⟨holds, read, documented.comparators bounds holds read⟩

end NpmSpec.Documented
end MavenResolution.Constraint
