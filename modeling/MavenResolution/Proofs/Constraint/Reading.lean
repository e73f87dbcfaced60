import MavenResolution.Constraint.Validation
import MavenResolution.Proofs.Constraint.Grammar

/-! What validation makes of a text. A text that is a range is read by the dialect of that range and refused by
all others; a text that is none is refused by all dialects of ranges. -/
namespace MavenResolution.Constraint

open Text

variable {text piece : List Char} {form other : RangeForm} {pieces : List (List Char)}

/-! The characters of a range show its dialect. -/

theorem IsPiece.chars (isPiece : IsPiece piece) : ∀ c ∈ piece, isDecimal c = true ∨ isWildcard c = true := by
  intro c member
  rcases isPiece with isRun | isMark
  · exact .inl (isRun.digits c member)
  · obtain ⟨mark, wildcard, rfl⟩ := isWildcardSegment_iff.mp isMark
    obtain rfl := List.mem_singleton.mp member
    exact .inr wildcard

theorem mem_joined {c : Char} (member : c ∈ joined pieces) : c = '.' ∨ ∃ piece ∈ pieces, c ∈ piece := by
  cases pieces with
  | nil => cases member
  | cons piece others =>
    rcases List.mem_append.mp member with here | there
    · exact .inr ⟨piece, List.mem_cons_self, here⟩
    · obtain ⟨other, member, there⟩ := List.mem_flatMap.mp there
      rcases List.mem_cons.mp there with dot | there
      · exact .inl dot
      · exact .inr ⟨other, List.mem_cons_of_mem _ member, there⟩

/-- A character that is neither digit nor wildcard nor dot is not in segments. -/
theorem not_mem_joined {c : Char} (isPiece : ∀ piece ∈ pieces, IsPiece piece)
    (foreign : (isDecimal c || isWildcard c || c == '.') = false) : c ∉ joined pieces := by
  intro member
  simp only [Bool.or_eq_false_iff, beq_eq_false_iff_ne] at foreign
  rcases mem_joined member with dot | ⟨piece, among, member⟩
  · exact foreign.2 dot
  · rcases (isPiece piece among).chars c member with digit | wildcard
    · rw [foreign.1.1] at digit
      cases digit
    · rw [foreign.1.2] at wildcard
      cases wildcard

theorem head?_ne_of_not_mem {c : Char} (absent : c ∉ text) : text.head? ≠ some c :=
  fun first => absent (List.mem_of_mem_head? first)

/-- The dialect that a text has if it is a range. -/
def dialectOf (text : List Char) : Dialect :=
  if text.head? = some '~' then .tilde
  else if text.head? = some '^' then .caret
  else if '-' ∈ text then .hyphen
  else .xRange

theorem Denotes.dialectOf_eq (denotes : Denotes text form) : dialectOf text = form.dialect := by
  cases denotes with
  | tilde => rfl
  | caret => rfl
  | wild isRun wildcard =>
    have isPiece := isPiece_of_mem isRun wildcard
    rw [dialectOf, if_neg (head?_ne_of_not_mem (not_mem_joined isPiece (by decide))),
      if_neg (head?_ne_of_not_mem (not_mem_joined isPiece (by decide))),
      if_neg (not_mem_joined isPiece (by decide))]
    rfl
  | @hyphen before after lower upper first blankBefore blankAfter second =>
    obtain ⟨c, rest, same, digit⟩ := first.head_isDecimal
    have noSign (sign : Char) (foreign : isDecimal sign = false) (behind : List Char) :
        (joined lower ++ behind).head? ≠ some sign := by
      rw [same]
      rintro ⟨⟩
      rw [foreign] at digit
      cases digit
    rw [dialectOf, if_neg (noSign '~' (by decide) _), if_neg (noSign '^' (by decide) _), if_pos (by simp)]
    rfl

theorem Denotes.dialect_unique (denotes : Denotes text form) (denotes' : Denotes text other) :
    form.dialect = other.dialect := by
  rw [← denotes.dialectOf_eq, denotes'.dialectOf_eq]

/-! What the dialects of ranges make of a text. -/

/-- The npm range that a range is written as, if its numbers can be read and its bounds written. -/
def RangeForm.blocks : RangeForm → Except Fault (List Block)
  | .tilde runs => .ok [⟨.tilde, runs⟩]
  | .caret runs => .ok [⟨.caret, runs⟩]
  | .wild fixed => do startingWith (← numbers fixed)
  | .hyphen lower upper => do between (← numbers lower) (← numbers upper)

/-- The versions in a range, as it is read by `NpmSpec`. -/
def RangeForm.holds (npm : NpmSpec) (form : RangeForm) : Except Fault (Triple → Bool) := do
  (npm (rangeText (← form.blocks))).mapError .range

theorem takeWhile_isSome (fixed : List (List Char)) (marks : List Char) :
    (fixed.map some ++ marks.map fun _ => (none : Segment)).takeWhile Option.isSome = fixed.map some := by
  rw [List.takeWhile_append_of_pos (by simp)]
  cases marks <;> simp

theorem dropWhile_isSome (fixed : List (List Char)) (marks : List Char) :
    (fixed.map some ++ marks.map fun _ => (none : Segment)).dropWhile Option.isSome =
      marks.map fun _ => none := by
  rw [List.dropWhile_append_of_pos (by simp)]
  cases marks <;> simp

variable {tools : Tools} {pattern : Option String} {compiled : Option Pattern}

theorem allow_of_compiles (compiles : tools.compilePattern pattern = .ok compiled) (range : List Block) :
    tools.allow pattern range =
      (fun holds => (.ok (.within holds), compiled)) <$> (tools.npm (rangeText range)).mapError .range := by
  rw [Tools.allow, compiles]
  cases tools.npm (rangeText range) <;> rfl

theorem readRange_of_denotes (denotes : Denotes text form)
    (compiles : tools.compilePattern pattern = .ok compiled) :
    readRange tools form.dialect text pattern =
      (fun holds => (.ok (.within holds), compiled)) <$> form.holds tools.npm := by
  cases denotes with
  | tilde blank segments =>
    simp only [RangeForm.dialect, readRange, signed?_complete '~' blank segments]
    exact allow_of_compiles compiles _
  | caret blank segments =>
    simp only [RangeForm.dialect, readRange, signed?_complete '^' blank segments]
    exact allow_of_compiles compiles _
  | @wild fixed marks isRun wildcard nonempty length_le =>
    have isPiece := isPiece_of_mem isRun wildcard
    have read := wildcarded?_complete (by simp [nonempty]) (by simpa using length_le) isPiece
    rw [map_segmentOf isRun wildcard] at read
    have fixedRuns : (fixed.map some).filterMap id = fixed := by
      rw [List.filterMap_map, Function.id_comp]
      exact List.filterMap_some
    have someMark : (marks.map fun _ => (none : Segment)).isEmpty = false := by simpa using nonempty
    have noRun : (marks.map fun _ => (none : Segment)).any Option.isSome = false := by simp
    simp only [RangeForm.dialect, readRange, read, takeWhile_isSome, dropWhile_isSome, RangeForm.holds,
      RangeForm.blocks, fixedRuns, someMark, noRun]
    cases numbers fixed with
    | error fault => rfl
    | ok fixed =>
      change (startingWith fixed >>= tools.allow pattern) = _ <$> (startingWith fixed >>= _)
      cases startingWith fixed with
      | error fault => rfl
      | ok blocks => exact allow_of_compiles compiles blocks
  | hyphen first blankBefore blankAfter second =>
    simp only [RangeForm.dialect, readRange, hyphenated?_complete first blankBefore blankAfter second,
      RangeForm.holds, RangeForm.blocks]
    cases numbers _ with
    | error fault => rfl
    | ok lower =>
      cases numbers _ with
      | error fault => rfl
      | ok upper =>
        change (between lower upper >>= tools.allow pattern) = _ <$> (between lower upper >>= _)
        cases between lower upper with
        | error fault => rfl
        | ok blocks => exact allow_of_compiles compiles blocks

theorem readRange_refuses (tools : Tools) (dialect : Dialect) (pattern : Option String) (unbroken : Unbroken text)
    (others : ∀ form, Denotes text form → form.dialect ≠ dialect) :
    ∃ reason, readRange tools dialect text pattern = .ok (.error reason, none) := by
  cases dialect with
  | tilde =>
    cases read : signed? '~' text with
    | none => exact ⟨_, by simp only [readRange, read]; rfl⟩
    | some runs =>
      obtain ⟨segments, blanks, blank, rfl⟩ := signed?_sound unbroken read
      exact absurd rfl (others _ (.tilde blank segments))
  | caret =>
    cases read : signed? '^' text with
    | none => exact ⟨_, by simp only [readRange, read]; rfl⟩
    | some runs =>
      obtain ⟨segments, blanks, blank, rfl⟩ := signed?_sound unbroken read
      exact absurd rfl (others _ (.caret blank segments))
  | xRange =>
    cases read : wildcarded? text with
    | none => exact ⟨_, by simp only [readRange, read]; rfl⟩
    | some segments =>
      obtain ⟨pieces, rfl, isPiece, length_le, rfl⟩ := wildcarded?_sound unbroken read
      by_cases empty : ((pieces.map segmentOf).dropWhile Option.isSome).isEmpty = true
      · exact ⟨_, by simp only [readRange, read, empty]; rfl⟩
      by_cases run : ((pieces.map segmentOf).dropWhile Option.isSome).any Option.isSome = true
      · exact ⟨_, by simp only [readRange, read, empty, run]; rfl⟩
      obtain ⟨fixed, marks, rfl, isRun, wildcard⟩ := exists_fixed_marks isPiece fun segment member => by
        simpa using (List.any_eq_false.mp (Bool.eq_false_iff.mpr run)) segment member
      rw [map_segmentOf isRun wildcard, dropWhile_isSome] at empty
      exact absurd rfl (others _ (.wild isRun wildcard (by simpa using empty) (by simpa using length_le)))
  | hyphen =>
    cases read : hyphenated? text with
    | none => exact ⟨_, by simp only [readRange, read]; rfl⟩
    | some bounds => exact absurd rfl (others _ (hyphenated?_sound unbroken read))
  | exact | latestPatch | latestRelease => exact ⟨_, rfl⟩

/-! No range is an exact version. -/

theorem dotted_append (plain : '.' ∉ piece) (rest : List Char) :
    dotted (piece ++ '.' :: rest) = piece :: dotted rest := by
  induction piece with
  | nil => rfl
  | cons c others ih =>
    rw [List.mem_cons, not_or] at plain
    have other : (c == '.') = false := by simpa using Ne.symm plain.1
    rw [List.cons_append, dotted, other, ih plain.2]
    rfl

theorem dotted_of_not_mem (plain : '.' ∉ piece) : dotted piece = [piece] := by
  induction piece with
  | nil => rfl
  | cons c others ih =>
    rw [List.mem_cons, not_or] at plain
    have other : (c == '.') = false := by simpa using Ne.symm plain.1
    rw [dotted, other, ih plain.2]
    rfl

theorem dotted_joined (nonempty : pieces ≠ []) (plain : ∀ piece ∈ pieces, '.' ∉ piece) :
    dotted (joined pieces) = pieces := by
  induction pieces with
  | nil => exact absurd rfl nonempty
  | cons piece others ih =>
    obtain ⟨here, there⟩ := List.forall_mem_cons.mp plain
    cases others with
    | nil => rw [joined, List.flatMap_nil, List.append_nil, dotted_of_not_mem here]
    | cons next others =>
      have further := ih (List.cons_ne_nil _ _) there
      rw [joined] at further
      rw [joined, List.flatMap_cons, List.cons_append, dotted_append here, further]

theorem IsPiece.dot_not_mem (isPiece : IsPiece piece) : '.' ∉ piece := fun member =>
  absurd (isPiece.chars '.' member) (by decide)

theorem readExact_of_denotes (denotes : Denotes text form) (hasPattern : Bool) :
    ∃ reason, readExact text hasPattern = .error reason := by
  unfold readExact
  by_cases exact : isExact text = true
  swap
  · exact ⟨_, if_pos (by simp [exact])⟩
  rw [if_neg (by simp [exact])]
  cases denotes with
  | tilde => cases exact
  | caret => cases exact
  | @wild fixed marks isRun wildcard nonempty =>
    have isPiece := isPiece_of_mem isRun wildcard
    obtain ⟨mark, others, rfl⟩ := List.exists_cons_of_ne_nil nonempty
    have marked : (dotted (joined (fixed ++ (mark :: others).map ([·])))).any isWildcardSegment = true := by
      rw [dotted_joined (by simp) fun piece member => (isPiece piece member).dot_not_mem, List.any_eq_true]
      exact ⟨[mark], by simp, wildcard mark List.mem_cons_self⟩
    exact ⟨_, if_pos marked⟩
  | hyphen first blankBefore blankAfter second =>
    rw [hyphenated?_complete first blankBefore blankAfter second]
    split
    · exact ⟨_, rfl⟩
    · exact ⟨_, rfl⟩

/-! What all dialects together make of a text. -/

variable {dialect : Dialect} {dialects : List Dialect} {rejections : List Rejection} {constraint : String}
  {reason : Reason} {rule : Rule} {verdict : Validated}

/-- Each of the dialects refuses a text for a reason, and these are the rejections that say so. -/
def Refusals (tools : Tools) (constraint : String) (pattern : Option String) : List Dialect → List Rejection → Prop :=
  List.Forall₂ fun dialect rejection => ∃ reason, rejection = Rejection.ofReason reason constraint ∧
    ∃ unused, read tools dialect constraint pattern = .ok (.error reason, unused)

theorem tryDialects_of_accepts (accepts : read tools dialect constraint pattern = .ok (.ok rule, compiled)) :
    tryDialects tools constraint pattern rejections (dialect :: dialects) =
      .ok (.valid ⟨dialect, constraint, rule, compiled⟩) := by
  rw [tryDialects, Dialect.build, accepts]
  rfl

theorem tryDialects_of_refuses (refuses : read tools dialect constraint pattern = .ok (.error reason, compiled)) :
    tryDialects tools constraint pattern rejections (dialect :: dialects) =
      tryDialects tools constraint pattern (rejections ++ [.ofReason reason constraint]) dialects := by
  rw [tryDialects, Dialect.build, refuses]
  rfl

theorem tryDialects_append {front : List Dialect}
    (refuse : ∀ dialect ∈ front, ∃ reason unused, read tools dialect constraint pattern = .ok (.error reason, unused))
    (rejections : List Rejection) (dialects : List Dialect) :
    ∃ more, Refusals tools constraint pattern front more ∧
      tryDialects tools constraint pattern rejections (front ++ dialects) =
        tryDialects tools constraint pattern (rejections ++ more) dialects := by
  induction front generalizing rejections with
  | nil => exact ⟨[], .nil, by rw [List.nil_append, List.append_nil]⟩
  | cons dialect front ih =>
    obtain ⟨⟨reason, unused, here⟩, there⟩ := List.forall_mem_cons.mp refuse
    obtain ⟨more, refusals, same⟩ := ih there (rejections ++ [.ofReason reason constraint])
    refine ⟨.ofReason reason constraint :: more, .cons ⟨reason, rfl, unused, here⟩ refusals, ?_⟩
    rw [List.cons_append, tryDialects_of_refuses here, same, List.append_assoc]
    rfl

theorem unbroken_trim (text : List Char) : Unbroken (trim text) := by
  intro c last
  rintro rfl
  exact absurd (not_isBlank_getLast?_trim text '\n' last) (by decide)

theorem toList_strip (text : String) : (strip text).toList = trim text.toList := String.toList_ofList

theorem validate_of_compiles (text : String) (compiles : tools.compilePattern pattern = .ok compiled) :
    validate text pattern tools = tryDialects tools (strip text) pattern [] Dialect.all := by
  cases pattern with
  | none => rfl
  | some patternText =>
    rw [validate]
    cases compile : tools.compile patternText with
    | ok pattern => rfl
    | error fault =>
      rw [Tools.compilePattern, compile] at compiles
      cases compiles

theorem refuses_of_denotes (tools : Tools) (unbroken : Unbroken constraint.toList)
    (denotes : Denotes constraint.toList form) (pattern : Option String) (different : dialect ≠ form.dialect)
    (noWord : dialect ≠ .latestPatch ∧ dialect ≠ .latestRelease) :
    ∃ reason unused, read tools dialect constraint pattern = .ok (.error reason, unused) := by
  have others : ∀ other, Denotes constraint.toList other → other.dialect ≠ dialect := by
    rintro other denotes' rfl
    exact different (denotes'.dialect_unique denotes)
  obtain ⟨reason, refused⟩ := readRange_refuses tools dialect pattern unbroken others
  cases dialect with
  | exact =>
    obtain ⟨reason, refused⟩ := readExact_of_denotes denotes pattern.isSome
    exact ⟨reason, none, by rw [read, refused]⟩
  | tilde | caret | xRange | hyphen => exact ⟨reason, none, refused⟩
  | latestPatch => exact absurd rfl noWord.1
  | latestRelease => exact absurd rfl noWord.2

/-- Dialects of ranges are tried before those of a single word. -/
theorem RangeForm.exists_front (form : RangeForm) : ∃ front dialects,
    Dialect.all = front ++ form.dialect :: dialects ∧
      ∀ dialect ∈ front, dialect ≠ form.dialect ∧ dialect ≠ .latestPatch ∧ dialect ≠ .latestRelease := by
  cases form with
  | tilde => exact ⟨[.exact], _, rfl, by simp [RangeForm.dialect]⟩
  | caret => exact ⟨[.exact, .tilde], _, rfl, by simp [RangeForm.dialect]⟩
  | wild => exact ⟨[.exact, .tilde, .caret], _, rfl, by simp [RangeForm.dialect]⟩
  | hyphen => exact ⟨[.exact, .tilde, .caret, .xRange], _, rfl, by simp [RangeForm.dialect]⟩

theorem read_of_form (tools : Tools) (form : RangeForm) (constraint : String) (pattern : Option String) :
    read tools form.dialect constraint pattern = readRange tools form.dialect constraint.toList pattern := by
  cases form <;> rfl

/-- Validation of a text that is a range comes down to its numbers. -/
theorem validate_of_denotes {text : String} (denotes : Denotes (trim text.toList) form)
    (compiles : tools.compilePattern pattern = .ok compiled) :
    validate text pattern tools =
      (fun holds => .valid ⟨form.dialect, strip text, .within holds, compiled⟩) <$> form.holds tools.npm := by
  rw [← toList_strip] at denotes
  have unbroken : Unbroken (strip text).toList := by
    rw [toList_strip]
    exact unbroken_trim text.toList
  obtain ⟨front, dialects, all, before⟩ := form.exists_front
  obtain ⟨more, -, skipped⟩ := tryDialects_append (fun dialect member =>
    refuses_of_denotes tools unbroken denotes pattern (before dialect member).1 (before dialect member).2) [] _
  have here := read_of_form tools form (strip text) pattern
  rw [readRange_of_denotes denotes compiles] at here
  rw [validate_of_compiles text compiles, all, skipped]
  cases read : form.holds tools.npm with
  | error fault =>
    rw [read] at here
    rw [tryDialects, Dialect.build, here]
    rfl
  | ok holds =>
    rw [read] at here
    exact tryDialects_of_accepts here

end MavenResolution.Constraint
