import MavenResolution.Constraint.Dialect
import MavenResolution.Proofs.Text.Blank

/-! The grammar of range constraints. A dialect reads a text if and only if the text is one of its ranges, and
finds the runs of digits that the range is made of. No text is a range of two dialects. -/
namespace MavenResolution.Constraint

open Text

/-- A run of decimal digits, whatever script they belong to. -/
structure IsRun (run : List Char) : Prop where
  nonempty : run ≠ []
  digits : ∀ c ∈ run, isDecimal c = true

/-- One to three runs of digits. -/
structure AreSegments (runs : List (List Char)) : Prop where
  nonempty : runs ≠ []
  length_le : runs.length ≤ 3
  isRun : ∀ run ∈ runs, IsRun run

/-- Pieces with dots between them. -/
def joined : List (List Char) → List Char
  | [] => []
  | piece :: pieces => piece ++ pieces.flatMap ('.' :: ·)

/-- The runs of digits that a range is made of. -/
inductive RangeForm where
  | tilde (runs : List (List Char))
  | caret (runs : List (List Char))
  | wild (fixed : List (List Char))
  | hyphen (lower upper : List (List Char))

def RangeForm.dialect : RangeForm → Dialect
  | .tilde _ => .tilde
  | .caret _ => .caret
  | .wild _ => .xRange
  | .hyphen _ _ => .hyphen

/-- A range is a sign and segments, or segments of which the last ones are wildcards, or segments on both
sides of a hyphen. White space may stand behind the sign and around the hyphen. -/
inductive Denotes : List Char → RangeForm → Prop
  | tilde {blanks : List Char} {runs : List (List Char)} (blank : ∀ c ∈ blanks, isBlank c = true)
      (segments : AreSegments runs) : Denotes ('~' :: (blanks ++ joined runs)) (.tilde runs)
  | caret {blanks : List Char} {runs : List (List Char)} (blank : ∀ c ∈ blanks, isBlank c = true)
      (segments : AreSegments runs) : Denotes ('^' :: (blanks ++ joined runs)) (.caret runs)
  | wild {fixed : List (List Char)} {marks : List Char} (isRun : ∀ run ∈ fixed, IsRun run)
      (wildcard : ∀ mark ∈ marks, isWildcard mark = true) (nonempty : marks ≠ [])
      (length_le : fixed.length + marks.length ≤ 3) :
      Denotes (joined (fixed ++ marks.map ([·]))) (.wild fixed)
  | hyphen {before after : List Char} {lower upper : List (List Char)} (first : AreSegments lower)
      (blankBefore : ∀ c ∈ before, isBlank c = true) (blankAfter : ∀ c ∈ after, isBlank c = true)
      (second : AreSegments upper) :
      Denotes (joined lower ++ (before ++ '-' :: (after ++ joined upper))) (.hyphen lower upper)

variable {text rest run blanks : List Char} {runs pieces : List (List Char)} {c : Char} {most : Nat}

/-! Runs of digits. -/

theorem not_isDecimal_of_isWildcard (wildcard : isWildcard c = true) : isDecimal c = false := by
  simp only [isWildcard, Bool.or_eq_true, beq_iff_eq] at wildcard
  rcases wildcard with (rfl | rfl) | rfl <;> decide

theorem IsRun.exists_cons (isRun : IsRun run) : ∃ c rest, run = c :: rest ∧ isDecimal c = true := by
  obtain ⟨c, rest, rfl⟩ := List.exists_cons_of_ne_nil isRun.nonempty
  exact ⟨c, rest, rfl, isRun.digits c List.mem_cons_self⟩

theorem takeRun_append (isRun : IsRun run) (ends : ∀ c ∈ rest.head?, isDecimal c = false) :
    takeRun (run ++ rest) = some (run, rest) := by
  have taken : rest.takeWhile isDecimal = [] := by
    cases rest with
    | nil => rfl
    | cons c others => exact List.takeWhile_cons_of_neg (by simp [ends c rfl])
  have left : rest.dropWhile isDecimal = rest := by
    cases rest with
    | nil => rfl
    | cons c others => exact List.dropWhile_cons_of_neg (by simp [ends c rfl])
  rw [takeRun, List.takeWhile_append_of_pos isRun.digits, List.dropWhile_append_of_pos isRun.digits,
    taken, left, List.append_nil]
  obtain ⟨c, others, rfl, -⟩ := isRun.exists_cons
  rfl

theorem takeRun_sound (taken : takeRun text = some (run, rest)) : text = run ++ rest ∧ IsRun run := by
  have whole := List.takeWhile_append_dropWhile (p := isDecimal) (l := text)
  unfold takeRun at taken
  split at taken
  · cases taken
  · rename_i c others digits
    cases taken
    rw [digits] at whole
    refine ⟨whole.symm, List.cons_ne_nil _ _, fun d member => ?_⟩
    rw [← digits] at member
    exact List.mem_takeWhile_imp member

/-! Segments between dots. -/

/-- What follows can neither extend the last segment nor begin another one. -/
def Breaks (rest : List Char) : Prop := ∀ c ∈ rest.head?, isDecimal c = false ∧ c ≠ '.'

theorem breaks_nil : Breaks [] := nofun

theorem not_isDecimal_of_breaks (breaks : Breaks rest) (pieces : List (List Char)) :
    ∀ c ∈ (pieces.flatMap ('.' :: ·) ++ rest).head?, isDecimal c = false := by
  cases pieces with
  | nil => exact fun c first => (breaks c first).1
  | cons piece others =>
    rintro c ⟨⟩
    decide

theorem takeSegments_complete (isRun : ∀ run ∈ runs, IsRun run) (length_le : runs.length ≤ most)
    (breaks : Breaks rest) : takeSegments most (runs.flatMap ('.' :: ·) ++ rest) = (runs, rest) := by
  induction runs generalizing most with
  | nil =>
    rw [List.flatMap_nil, List.nil_append]
    unfold takeSegments
    split
    · exact absurd rfl (breaks '.' rfl).2
    · rfl
  | cons run others ih =>
    obtain ⟨here, there⟩ := List.forall_mem_cons.mp isRun
    cases most with
    | zero => cases length_le
    | succ most =>
      have taken := takeRun_append here (not_isDecimal_of_breaks breaks others)
      rw [List.flatMap_cons, List.append_assoc, List.cons_append, takeSegments, taken]
      dsimp only
      rw [ih there (Nat.le_of_succ_le_succ length_le)]

theorem takeSegments_sound (taken : takeSegments most text = (runs, rest)) :
    text = runs.flatMap ('.' :: ·) ++ rest ∧ runs.length ≤ most ∧ ∀ run ∈ runs, IsRun run := by
  fun_induction takeSegments most text generalizing runs rest with
  | case1 most text run behind first others remaining further ih =>
    cases taken
    obtain ⟨rfl, isRun⟩ := takeRun_sound first
    obtain ⟨rfl, length_le, isRuns⟩ := ih further
    refine ⟨?_, Nat.succ_le_succ length_le, List.forall_mem_cons.mpr ⟨isRun, isRuns⟩⟩
    rw [List.flatMap_cons, List.append_assoc, List.cons_append]
  | case2 most text none =>
    cases taken
    exact ⟨rfl, Nat.zero_le _, nofun⟩
  | case3 most text =>
    cases taken
    exact ⟨rfl, Nat.zero_le _, nofun⟩

theorem takeVersion_complete (segments : AreSegments runs) (breaks : Breaks rest) :
    takeVersion (joined runs ++ rest) = some (runs, rest) := by
  obtain ⟨run, others, rfl⟩ := List.exists_cons_of_ne_nil segments.nonempty
  obtain ⟨here, there⟩ := List.forall_mem_cons.mp segments.isRun
  have taken := takeRun_append here (not_isDecimal_of_breaks breaks others)
  have further := takeSegments_complete there (Nat.le_of_succ_le_succ segments.length_le) breaks
  rw [takeVersion, joined, List.append_assoc, taken, Option.map_some]
  dsimp only
  rw [further]

theorem takeVersion_sound (taken : takeVersion text = some (runs, rest)) :
    text = joined runs ++ rest ∧ AreSegments runs := by
  unfold takeVersion at taken
  obtain ⟨⟨run, behind⟩, first, same⟩ := Option.map_eq_some_iff.mp taken
  obtain ⟨rfl, isRun⟩ := takeRun_sound first
  dsimp only at same
  cases further : takeSegments 2 behind with
  | mk others remaining =>
    rw [further] at same
    cases same
    obtain ⟨rfl, length_le, others⟩ := takeSegments_sound further
    exact ⟨(List.append_assoc _ _ _).symm, List.cons_ne_nil _ _, Nat.succ_le_succ length_le,
      List.forall_mem_cons.mpr ⟨isRun, others⟩⟩

theorem AreSegments.head_isDecimal (segments : AreSegments runs) :
    ∃ c rest, joined runs = c :: rest ∧ isDecimal c = true := by
  obtain ⟨run, others, rfl⟩ := List.exists_cons_of_ne_nil segments.nonempty
  obtain ⟨c, rest, rfl, digit⟩ := (segments.isRun run List.mem_cons_self).exists_cons
  exact ⟨c, _, rfl, digit⟩

theorem dropBlanks_joined (blank : ∀ c ∈ blanks, isBlank c = true) (segments : AreSegments runs)
    (rest : List Char) : dropBlanks (blanks ++ (joined runs ++ rest)) = joined runs ++ rest := by
  obtain ⟨c, others, same, digit⟩ := segments.head_isDecimal
  rw [dropBlanks_append blank, same]
  refine List.dropWhile_cons_of_neg fun blank => ?_
  rw [isDecimal_of_isBlank blank] at digit
  cases digit

theorem exists_blanks (text : List Char) :
    ∃ blanks, (∀ c ∈ blanks, isBlank c = true) ∧ text = blanks ++ dropBlanks text :=
  ⟨text.takeWhile isBlank, fun _ member => List.mem_takeWhile_imp member,
    (List.takeWhile_append_dropWhile (p := isBlank) (l := text)).symm⟩

/-! Ranges. -/

/-- The text does not end with a line feed. -/
def Unbroken (text : List Char) : Prop := ∀ c ∈ text.getLast?, c ≠ '\n'

theorem eq_nil_of_isEnd (unbroken : Unbroken text) (suffix : rest <:+ text) (ended : isEnd rest = true) :
    rest = [] := by
  rw [isEnd, Bool.or_eq_true, beq_iff_eq, beq_iff_eq] at ended
  rcases ended with rfl | rfl
  · rfl
  · obtain ⟨front, rfl⟩ := suffix
    exact absurd rfl (unbroken '\n' (by simp))

theorem signed?_complete (sign : Char) (blank : ∀ c ∈ blanks, isBlank c = true) (segments : AreSegments runs) :
    signed? sign (sign :: (blanks ++ joined runs)) = some runs := by
  have dropped := dropBlanks_joined blank segments []
  have taken := takeVersion_complete segments breaks_nil
  rw [List.append_nil] at dropped taken
  rw [signed?, beq_self_eq_true, if_pos rfl, dropped, taken]
  rfl

theorem signed?_sound {sign : Char} (unbroken : Unbroken text) (read : signed? sign text = some runs) :
    AreSegments runs ∧
      ∃ blanks, (∀ c ∈ blanks, isBlank c = true) ∧ text = sign :: (blanks ++ joined runs) := by
  unfold signed? at read
  split at read
  · rename_i c rest
    split at read
    · rename_i same
      split at read
      · rename_i found behind taken
        split at read
        · rename_i ended
          cases read
          obtain ⟨whole, segments⟩ := takeVersion_sound taken
          obtain ⟨blanks, blank, front⟩ := exists_blanks rest
          rw [whole] at front
          have suffix : behind <:+ c :: rest :=
            ⟨c :: (blanks ++ joined runs), by rw [front, List.cons_append, List.append_assoc]⟩
          obtain rfl := eq_nil_of_isEnd unbroken suffix ended
          rw [List.append_nil] at front
          exact ⟨segments, blanks, blank, by rw [front, eq_of_beq same]⟩
        · cases read
      · cases read
    · cases read
  · cases read

theorem breaks_blanks_hyphen (blank : ∀ c ∈ blanks, isBlank c = true) (rest : List Char) :
    Breaks (blanks ++ '-' :: rest) := by
  intro c first
  cases blanks with
  | nil =>
    obtain rfl := Option.some.inj first
    decide
  | cons d others =>
    obtain rfl := Option.some.inj first
    have blank := blank d List.mem_cons_self
    refine ⟨isDecimal_of_isBlank blank, ?_⟩
    rintro rfl
    exact absurd blank (by decide)

theorem dropBlanks_hyphen (blank : ∀ c ∈ blanks, isBlank c = true) (rest : List Char) :
    dropBlanks (blanks ++ '-' :: rest) = '-' :: rest := by
  rw [dropBlanks_append blank]
  exact List.dropWhile_cons_of_neg (by decide)

theorem hyphenated?_complete {before after : List Char} {lower upper : List (List Char)}
    (first : AreSegments lower) (blankBefore : ∀ c ∈ before, isBlank c = true)
    (blankAfter : ∀ c ∈ after, isBlank c = true) (second : AreSegments upper) :
    hyphenated? (joined lower ++ (before ++ '-' :: (after ++ joined upper))) = some (lower, upper) := by
  have dropped := dropBlanks_joined blankAfter second []
  have taken := takeVersion_complete second breaks_nil
  rw [List.append_nil] at dropped taken
  rw [hyphenated?, takeVersion_complete first (breaks_blanks_hyphen blankBefore _)]
  dsimp only
  simp only [dropBlanks_hyphen blankBefore, dropped, taken]
  rfl

theorem hyphenated?_sound {lower upper : List (List Char)} (unbroken : Unbroken text)
    (read : hyphenated? text = some (lower, upper)) : Denotes text (.hyphen lower upper) := by
  unfold hyphenated? at read
  split at read
  · cases read
  · rename_i low behind takenLower
    split at read
    · rename_i rest hyphen
      split at read
      · rename_i high remaining takenUpper
        split at read
        · rename_i ended
          cases read
          obtain ⟨rfl, first⟩ := takeVersion_sound takenLower
          obtain ⟨whole, second⟩ := takeVersion_sound takenUpper
          obtain ⟨before, blankBefore, front⟩ := exists_blanks behind
          obtain ⟨after, blankAfter, back⟩ := exists_blanks rest
          rw [hyphen] at front
          rw [whole] at back
          rw [front, back] at unbroken ⊢
          have suffix : remaining <:+
              joined lower ++ (before ++ '-' :: (after ++ (joined upper ++ remaining))) :=
            ⟨joined lower ++ (before ++ '-' :: (after ++ joined upper)), by simp⟩
          obtain rfl := eq_nil_of_isEnd unbroken suffix ended
          rw [List.append_nil]
          exact .hyphen first blankBefore blankAfter second
        · cases read
      · cases read
    · cases read

/-! Segments with wildcards. -/

/-- A segment as it is written: a run of digits or a wildcard. -/
def IsPiece (piece : List Char) : Prop := IsRun piece ∨ isWildcardSegment piece = true

/-- What a segment stands for. -/
def segmentOf (piece : List Char) : Segment := if isWildcardSegment piece then none else some piece

theorem isWildcardSegment_iff {piece : List Char} :
    isWildcardSegment piece = true ↔ ∃ mark, isWildcard mark = true ∧ piece = [mark] := by
  unfold isWildcardSegment
  split
  · rename_i c
    exact ⟨fun wildcard => ⟨c, wildcard, rfl⟩, by rintro ⟨mark, wildcard, ⟨⟩⟩; exact wildcard⟩
  · rename_i other
    refine ⟨nofun, ?_⟩
    rintro ⟨mark, -, rfl⟩
    exact absurd rfl (other mark)

theorem IsRun.not_isWildcardSegment (isRun : IsRun run) : isWildcardSegment run = false := by
  rw [Bool.eq_false_iff, ne_eq, isWildcardSegment_iff]
  rintro ⟨mark, wildcard, rfl⟩
  have digit := isRun.digits mark List.mem_cons_self
  rw [not_isDecimal_of_isWildcard wildcard] at digit
  cases digit

theorem segmentOf_of_isRun (isRun : IsRun run) : segmentOf run = some run := by
  rw [segmentOf, isRun.not_isWildcardSegment]
  rfl

theorem takeSegment_complete {piece : List Char} (isPiece : IsPiece piece)
    (ends : ∀ c ∈ rest.head?, isDecimal c = false) :
    takeSegment (piece ++ rest) = some (segmentOf piece, rest) := by
  rcases isPiece with isRun | wildcard
  · have fixed := isRun.not_isWildcardSegment
    have taken := takeRun_append isRun ends
    obtain ⟨c, others, rfl, digit⟩ := isRun.exists_cons
    have plain : isWildcard c = false := by
      rw [Bool.eq_false_iff]
      intro wildcard
      rw [not_isDecimal_of_isWildcard wildcard] at digit
      cases digit
    rw [List.cons_append] at taken ⊢
    rw [takeSegment, plain, if_neg Bool.false_ne_true, taken, segmentOf, fixed]
    rfl
  · obtain ⟨mark, isMark, rfl⟩ := isWildcardSegment_iff.mp wildcard
    rw [segmentOf, wildcard, List.cons_append, takeSegment, isMark]
    rfl

theorem takeSegment_sound {segment : Segment} (taken : takeSegment text = some (segment, rest)) :
    ∃ piece, text = piece ++ rest ∧ IsPiece piece ∧ segmentOf piece = segment := by
  unfold takeSegment at taken
  split at taken
  · rename_i c others
    split at taken
    · rename_i wildcard
      cases taken
      have isMark : isWildcardSegment [c] = true := wildcard
      exact ⟨[c], rfl, .inr isMark, by rw [segmentOf, isMark]; rfl⟩
    · obtain ⟨⟨run, behind⟩, first, same⟩ := Option.map_eq_some_iff.mp taken
      cases same
      obtain ⟨whole, isRun⟩ := takeRun_sound first
      exact ⟨run, whole, .inl isRun, segmentOf_of_isRun isRun⟩
  · cases taken

theorem not_isDecimal_flatMap (pieces : List (List Char)) :
    ∀ c ∈ (pieces.flatMap ('.' :: ·)).head?, isDecimal c = false := by
  have ends := not_isDecimal_of_breaks breaks_nil pieces
  rwa [List.append_nil] at ends

theorem furtherSegments_complete (isPiece : ∀ piece ∈ pieces, IsPiece piece)
    (length_le : pieces.length ≤ most) :
    furtherSegments most (pieces.flatMap ('.' :: ·)) = some (pieces.map segmentOf) := by
  induction pieces generalizing most with
  | nil =>
    unfold furtherSegments
    split
    · contradiction
    · rfl
  | cons piece others ih =>
    obtain ⟨here, there⟩ := List.forall_mem_cons.mp isPiece
    cases most with
    | zero => cases length_le
    | succ most =>
      rw [List.flatMap_cons, List.cons_append, furtherSegments,
        takeSegment_complete here (not_isDecimal_flatMap others)]
      dsimp only
      rw [ih there (Nat.le_of_succ_le_succ length_le)]
      rfl

theorem furtherSegments_sound {whole : List Char} {segments : List Segment} (unbroken : Unbroken whole)
    (suffix : text <:+ whole) (read : furtherSegments most text = some segments) :
    ∃ pieces : List (List Char), text = pieces.flatMap ('.' :: ·) ∧ (∀ piece ∈ pieces, IsPiece piece) ∧
      pieces.length ≤ most ∧ pieces.map segmentOf = segments := by
  fun_induction furtherSegments most text generalizing segments with
  | case1 most text segment behind taken ih =>
    obtain ⟨piece, rfl, isPiece, rfl⟩ := takeSegment_sound taken
    obtain ⟨others, further, rfl⟩ := Option.map_eq_some_iff.mp read
    have shorter : behind <:+ '.' :: (piece ++ behind) := ⟨'.' :: piece, rfl⟩
    obtain ⟨pieces, rfl, isPieces, length_le, rfl⟩ := ih (shorter.trans suffix) further
    exact ⟨piece :: pieces, rfl, List.forall_mem_cons.mpr ⟨isPiece, isPieces⟩, Nat.succ_le_succ length_le, rfl⟩
  | case2 most text none => cases read
  | case3 most text ended =>
    obtain rfl := eq_nil_of_isEnd unbroken suffix ended
    cases read
    exact ⟨[], rfl, nofun, Nat.zero_le _, rfl⟩
  | case4 => cases read

theorem wildcarded?_complete (nonempty : pieces ≠ []) (length_le : pieces.length ≤ 3)
    (isPiece : ∀ piece ∈ pieces, IsPiece piece) :
    wildcarded? (joined pieces) = some (pieces.map segmentOf) := by
  obtain ⟨piece, others, rfl⟩ := List.exists_cons_of_ne_nil nonempty
  obtain ⟨here, there⟩ := List.forall_mem_cons.mp isPiece
  rw [joined, wildcarded?, takeSegment_complete here (not_isDecimal_flatMap others)]
  dsimp only
  rw [furtherSegments_complete there (Nat.le_of_succ_le_succ length_le)]
  rfl

theorem wildcarded?_sound {segments : List Segment} (unbroken : Unbroken text)
    (read : wildcarded? text = some segments) :
    ∃ pieces : List (List Char), text = joined pieces ∧ (∀ piece ∈ pieces, IsPiece piece) ∧
      pieces.length ≤ 3 ∧ pieces.map segmentOf = segments := by
  unfold wildcarded? at read
  split at read
  · rename_i segment behind taken
    obtain ⟨piece, rfl, isPiece, rfl⟩ := takeSegment_sound taken
    obtain ⟨others, further, rfl⟩ := Option.map_eq_some_iff.mp read
    obtain ⟨pieces, rfl, isPieces, length_le, rfl⟩ :=
      furtherSegments_sound unbroken (List.suffix_append piece behind) further
    exact ⟨piece :: pieces, rfl, List.forall_mem_cons.mpr ⟨isPiece, isPieces⟩, Nat.succ_le_succ length_le, rfl⟩
  · cases read

theorem isPiece_of_mem {fixed : List (List Char)} {marks : List Char} (isRun : ∀ run ∈ fixed, IsRun run)
    (wildcard : ∀ mark ∈ marks, isWildcard mark = true) :
    ∀ piece ∈ fixed ++ marks.map ([·]), IsPiece piece := by
  intro piece member
  rcases List.mem_append.mp member with member | member
  · exact .inl (isRun piece member)
  · obtain ⟨mark, isMark, rfl⟩ := List.mem_map.mp member
    exact .inr (wildcard mark isMark)

/-- Runs of digits in front of wildcards stand for themselves. -/
theorem map_segmentOf {fixed : List (List Char)} {marks : List Char} (isRun : ∀ run ∈ fixed, IsRun run)
    (wildcard : ∀ mark ∈ marks, isWildcard mark = true) :
    (fixed ++ marks.map ([·])).map segmentOf = fixed.map some ++ marks.map fun _ => none := by
  rw [List.map_append, List.map_map]
  congr 1
  · exact List.map_congr_left fun run member => segmentOf_of_isRun (isRun run member)
  · refine List.map_congr_left fun mark member => ?_
    have isMark : isWildcardSegment [mark] = true := wildcard mark member
    rw [Function.comp_apply, segmentOf, isMark]
    rfl

/-- Pieces of which no run follows a wildcard are runs in front of wildcards. -/
theorem exists_fixed_marks (isPiece : ∀ piece ∈ pieces, IsPiece piece)
    (wildcards : ∀ segment ∈ (pieces.map segmentOf).dropWhile Option.isSome, segment = none) :
    ∃ (fixed : List (List Char)) (marks : List Char), pieces = fixed ++ marks.map ([·]) ∧
      (∀ run ∈ fixed, IsRun run) ∧ ∀ mark ∈ marks, isWildcard mark = true := by
  induction pieces with
  | nil => exact ⟨[], [], rfl, nofun, nofun⟩
  | cons piece others ih =>
    obtain ⟨here, there⟩ := List.forall_mem_cons.mp isPiece
    rcases here with isRun | isMark
    · rw [List.map_cons, segmentOf_of_isRun isRun, List.dropWhile_cons_of_pos rfl] at wildcards
      obtain ⟨fixed, marks, rfl, isRuns, wildcard⟩ := ih there wildcards
      exact ⟨piece :: fixed, marks, rfl, List.forall_mem_cons.mpr ⟨isRun, isRuns⟩, wildcard⟩
    · have noSegment : segmentOf piece = none := by
        rw [segmentOf, isMark]
        rfl
      rw [List.map_cons, noSegment, List.dropWhile_cons_of_neg Bool.false_ne_true] at wildcards
      have wildcards := (List.forall_mem_cons.mp wildcards).2
      obtain ⟨fixed, marks, rfl, isRuns, wildcard⟩ := ih there fun segment member =>
        wildcards segment ((List.dropWhile_suffix _).mem member)
      obtain ⟨mark, isMark, rfl⟩ := isWildcardSegment_iff.mp isMark
      cases fixed with
      | nil => exact ⟨[], mark :: marks, rfl, nofun, List.forall_mem_cons.mpr ⟨isMark, wildcard⟩⟩
      | cons run others =>
        have none := wildcards (segmentOf run) List.mem_cons_self
        rw [segmentOf_of_isRun (isRuns run List.mem_cons_self)] at none
        cases none

end MavenResolution.Constraint
