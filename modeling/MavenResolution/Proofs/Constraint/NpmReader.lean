import MavenResolution.Proofs.Constraint.Npm

/-! The reader of npm ranges reads those that constraints are written as, and does what is documented of
them. -/
namespace MavenResolution.Constraint

open Text

variable {blocks : List Block} {block : Block} {operator : Operator} {runs pieces : List (List Char)}

/-! Ranges taken to pieces. -/

theorem mem_intercalate {mark c : Char} (member : c ∈ [mark].intercalate pieces) :
    c = mark ∨ ∃ piece ∈ pieces, c ∈ piece := by
  induction pieces with
  | nil => cases member
  | cons piece others ih =>
    cases others with
    | nil =>
      rw [List.intercalate_singleton] at member
      exact .inr ⟨piece, List.mem_cons_self, member⟩
    | cons next others =>
      rw [List.intercalate_cons_cons, List.mem_append, List.mem_append, List.mem_singleton] at member
      rcases member with (here | same) | there
      · exact .inr ⟨piece, List.mem_cons_self, here⟩
      · exact .inl same
      · rcases ih there with same | ⟨other, among, member⟩
        · exact .inl same
        · exact .inr ⟨other, List.mem_cons_of_mem _ among, member⟩

theorem IsRun.not_mem {run : List Char} {c : Char} (isRun : IsRun run) (foreign : isDecimal c = false) :
    c ∉ run := fun member => Bool.false_ne_true (foreign.symm.trans (isRun.digits c member))

theorem Block.blank_not_mem_text (segments : AreSegments block.segments) : ' ' ∉ block.text := by
  intro member
  rcases List.mem_append.mp member with sign | inner
  · have none : ' ' ∉ block.operator.text := by cases block.operator <;> decide
    exact none sign
  · rcases mem_intercalate inner with dot | ⟨run, among, member⟩
    · cases dot
    · exact (segments.isRun run among).not_mem (by decide) member

/-- Blanks divide a range into its blocks. -/
theorem splitOn_rangeText (nonempty : blocks ≠ []) (segments : ∀ block ∈ blocks, AreSegments block.segments) :
    (rangeText blocks).toList.splitOn ' ' = blocks.map Block.text := by
  rw [rangeText, String.toList_ofList]
  refine List.splitOn_intercalate ' ' ?_ (by simpa using nonempty)
  exact List.forall_mem_map.mpr fun block member => block.blank_not_mem_text (segments block member)

/-- Dots divide the numbers of a block. -/
theorem splitOn_segments (segments : AreSegments runs) : (['.'].intercalate runs).splitOn '.' = runs :=
  List.splitOn_intercalate '.' (fun run member => (segments.isRun run member).not_mem (by decide))
    segments.nonempty

theorem exists_intercalate_eq_cons (segments : AreSegments runs) :
    ∃ c rest, ['.'].intercalate runs = c :: rest ∧ isDecimal c = true := by
  obtain ⟨run, others, rfl⟩ := List.exists_cons_of_ne_nil segments.nonempty
  obtain ⟨c, rest, rfl, digit⟩ := (segments.isRun run List.mem_cons_self).exists_cons
  cases others with
  | nil => exact ⟨c, rest, List.intercalate_singleton, digit⟩
  | cons next others => exact ⟨c, _, List.intercalate_cons_cons, digit⟩

/-- The versions that a block stands for. -/
def Block.holds (block : Block) : Triple → Bool :=
  NpmSpec.holds block.operator (block.segments.map (digitsValue 0))

namespace NpmSpec

theorem takeOperator_text {c : Char} {rest : List Char} (digit : isDecimal c = true) :
    takeOperator (operator.text ++ c :: rest) = some (operator, c :: rest) := by
  cases operator with
  | below =>
    have other : c ≠ '=' := by
      rintro rfl
      exact absurd digit (by decide)
    simp [takeOperator, Operator.text, other]
  | atLeast | atMost | tilde | caret => rfl

/-- A block is found in its text if its numbers are written plainly. -/
theorem block?_text (segments : AreSegments block.segments) :
    block? block.text = if block.segments.all isPlain then some block else none := by
  obtain ⟨c, rest, same, digit⟩ := exists_intercalate_eq_cons segments
  have taken : takeOperator block.text = some (block.operator, ['.'].intercalate block.segments) := by
    rw [Block.text, same]
    exact takeOperator_text digit
  have short : decide (block.segments.length ≤ 3) = true := decide_eq_true segments.length_le
  unfold block?
  rw [taken]
  dsimp only [bind, Option.bind]
  rw [splitOn_segments segments, short, Bool.true_and]
  cases block.segments.all isPlain <;> rfl

theorem readBlock_eq_ok_iff {range : String} {matches? : Triple → Bool}
    (segments : AreSegments block.segments) : readBlock range block.text = .ok matches? ↔
      (∀ run ∈ block.segments, IsNumber run) ∧ matches? = block.holds := by
  unfold readBlock
  rw [block?_text segments]
  by_cases plain : block.segments.all isPlain = true
  · rw [if_pos plain]
    rw [List.all_eq_true] at plain
    have numbers : (∀ run ∈ block.segments, IsNumber run) ↔
        ∀ run ∈ block.segments, run.length ≤ numeralLimit :=
      forall₂_congr fun run member => and_iff_right (plain run member)
    dsimp only
    rw [bind_eq_ok_iff, numbers]
    simp only [mapError_eq_ok_iff, mapM_readNumeral_eq_ok_iff segments.isRun]
    constructor
    · rintro ⟨_, ⟨short, rfl⟩, ⟨⟩⟩
      exact ⟨short, rfl⟩
    · rintro ⟨short, rfl⟩
      exact ⟨_, ⟨short, rfl⟩, rfl⟩
  · rw [if_neg plain]
    refine ⟨nofun, fun read => absurd ?_ plain⟩
    exact List.all_eq_true.mpr fun run member => (read.1 run member).1

/-- Ranges are read if all their numbers are, and all their blocks have to hold. -/
theorem read_rangeText_eq_ok_iff (nonempty : blocks ≠ [])
    (segments : ∀ block ∈ blocks, AreSegments block.segments) {matches? : Triple → Bool} :
    read (rangeText blocks) = .ok matches? ↔
      (∀ block ∈ blocks, ∀ run ∈ block.segments, IsNumber run) ∧
        matches? = fun triple => blocks.all (·.holds triple) := by
  have reads : ∀ parts, (blocks.map Block.text).mapM (readBlock (rangeText blocks)) = .ok parts ↔
      (∀ block ∈ blocks, ∀ run ∈ block.segments, IsNumber run) ∧ parts = blocks.map Block.holds := by
    intro parts
    rw [List.mapM_map]
    exact mapM_eq_ok_iff fun block member _ => readBlock_eq_ok_iff (segments block member)
  unfold read
  rw [bind_eq_ok_iff, splitOn_rangeText nonempty segments]
  simp only [reads]
  constructor
  · rintro ⟨_, ⟨numbers, rfl⟩, ⟨⟩⟩
    simp only [List.all_map]
    exact ⟨numbers, rfl⟩
  · rintro ⟨numbers, rfl⟩
    refine ⟨_, ⟨numbers, rfl⟩, ?_⟩
    simp only [List.all_map]
    rfl

end NpmSpec

/-! Blocks and what they stand for. -/

theorem Interval.contains_below_iff {lower bound triple : Triple} :
    (Interval.mk lower (.below bound)).contains triple = true ↔
      lower.lex ≤ triple.lex ∧ triple.lex < bound.lex := by
  rw [Interval.contains, Bool.and_eq_true, bne_iff_ne, Triple.compare_ne_gt_iff, Upper.allows, beq_iff_eq,
    Triple.compare_eq_lt_iff]

theorem Bound.holds_block_iff (bound : Bound) (triple : Triple) :
    bound.block.holds triple = true ↔ bound.Holds triple := by
  have numbers : (bound.block.segments.map (digitsValue 0)) =
      [bound.version.major, bound.version.minor, bound.version.patch] := by
    simp [block, digitsValue_written]
  rw [Block.holds, numbers]
  cases bound with
  | atLeast version =>
    exact bne_iff_ne.trans Triple.compare_ne_gt_iff
  | below version =>
    exact beq_iff_eq.trans Triple.compare_eq_lt_iff
  | atMost version =>
    exact bne_iff_ne.trans Triple.compare_ne_gt_iff

theorem Given.map_digitsValue_runs (given : Given) : given.runs.map (digitsValue 0) = given.numbers := by
  rw [Given.runs, List.map_map]
  exact (List.map_congr_left fun n _ => digitsValue_written n).trans (List.map_id _)

theorem ofList_numbers (given : Given) : Triple.ofList given.numbers = given.padded := by
  cases given <;> rfl

theorem tilde_numbers (given : Given) :
    Interval.tilde given.numbers = ⟨given.padded, .below given.nextMinor⟩ := by
  cases given <;> rfl

theorem caret_numbers (given : Given) :
    Interval.caret given.numbers = ⟨given.padded, .below given.nextLeading⟩ := by
  rw [Interval.caret, ofList_numbers]
  cases given with
  | major M => simp [Given.padded, Given.nextLeading, Given.numbers]
  | minor M m =>
    rcases Nat.eq_zero_or_pos M with rfl | positive
    · simp [Given.padded, Given.nextLeading, Given.numbers]
    · simp [Given.padded, Given.nextLeading, positive, positive.ne']
  | patch M m p =>
    rcases Nat.eq_zero_or_pos M with rfl | positive
    · rcases Nat.eq_zero_or_pos m with rfl | positive
      · simp [Given.padded, Given.nextLeading, Given.numbers]
      · simp [Given.padded, Given.nextLeading, positive, positive.ne']
    · simp [Given.padded, Given.nextLeading, positive, positive.ne']

namespace NpmSpec

theorem read_boundsText_eq_ok_iff {bounds : List Bound} (nonempty : bounds ≠ [])
    {matches? : Triple → Bool} : read (boundsText bounds) = .ok matches? ↔
      (∀ bound ∈ bounds, ∀ run ∈ bound.block.segments, IsNumber run) ∧
        matches? = fun triple => bounds.all (·.block.holds triple) := by
  have segments : ∀ block ∈ bounds.map Bound.block, AreSegments block.segments :=
    List.forall_mem_map.mpr fun bound _ => bound.areSegments_block
  rw [boundsText, read_rangeText_eq_ok_iff (by simpa using nonempty) segments, List.forall_mem_map]
  simp only [List.all_map, Function.comp_def]

/-- A block stands for an interval: it is read as its bounds are. -/
theorem read_given {given : Given} {upper : Triple} (short : Short given.numbers) (writable : upper.Writable)
    (means : holds operator given.numbers = (Interval.mk given.padded (.below upper)).contains) :
    read (rangeText [⟨operator, given.runs⟩]) = read (boundsText [.atLeast given.padded, .below upper]) := by
  have block := (@read_rangeText_eq_ok_iff [⟨operator, given.runs⟩] (List.cons_ne_nil _ _)
    (List.forall_mem_singleton.mpr given.areSegments_runs) _).mpr
      ⟨List.forall_mem_singleton.mpr short.isNumber_of_mem_runs, rfl⟩
  have numbers : ∀ bound ∈ [Bound.atLeast given.padded, .below upper],
      ∀ run ∈ bound.block.segments, IsNumber run :=
    forall_mem_bounds.mpr
      ⟨@Bound.isNumber_of_mem_block (.atLeast given.padded) (given.writable_padded short),
        @Bound.isNumber_of_mem_block (.below upper) writable⟩
  rw [block, (read_boundsText_eq_ok_iff (List.cons_ne_nil _ _)).mpr ⟨numbers, rfl⟩]
  refine congrArg Except.ok (funext fun triple => ?_)
  rw [Bool.eq_iff_iff, List.all_eq_true, List.all_eq_true, List.forall_mem_singleton,
    Block.holds, given.map_digitsValue_runs, means, Interval.contains_below_iff]
  simp [Bound.holds_block_iff, Bound.Holds]

/-- The reader of npm ranges does what is documented. -/
theorem documented_read : read.Documented where
  accepts blocks nonempty segments := by
    simp only [read_rangeText_eq_ok_iff nonempty segments, exists_and_left, exists_eq, and_true]
  comparators bounds holds read triple := by
    cases bounds with
    | nil => cases read
    | cons bound others =>
      obtain ⟨-, rfl⟩ := (read_boundsText_eq_ok_iff (List.cons_ne_nil _ _)).mp read
      rw [List.all_eq_true]
      exact forall₂_congr fun bound _ => bound.holds_block_iff triple
  tilde given short := by
    refine read_given short (given.writable_nextMinor short) ?_
    rw [← tilde_numbers]
    rfl
  caret given short := by
    refine read_given short (given.writable_nextLeading short) ?_
    rw [← caret_numbers]
    rfl

end NpmSpec
end MavenResolution.Constraint
