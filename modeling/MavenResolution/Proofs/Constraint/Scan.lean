import Mathlib.Data.List.Forall2
import MavenResolution.Proofs.Constraint.Candidate

/-! The parts of a version, read from left to right. The search for them goes back where no remainder can follow;
it finds what a scan finds that takes each run of digits once and never gives one back. -/
namespace MavenResolution.Parts

open Text Constraint

/-- A segment ends with the text, or in front of a separator. -/
def endsSegment : List Char → Bool
  | [] => true
  | c :: _ => c == '.' || c == '-' || c == '+'

/-- The run of digits at the front of a text, as far as it goes, if a segment ends behind it. -/
def takeClosed (text : List Char) : Option (List Char × List Char) :=
  match takeRun text with
  | some (run, rest) => if endsSegment rest then some (run, rest) else none
  | none => none

/-- Up to `most` segments, each behind a dot, and the text behind them. -/
def scanFurther : (most : Nat) → List Char → List (List Char) × List Char
  | most + 1, '.' :: rest =>
    match takeClosed rest with
    | some (run, behind) =>
      let (runs, left) := scanFurther most behind
      (run :: runs, left)
    | none => ([], '.' :: rest)
  | _, text => ([], text)

/-- One to four segments separated by dots, and the text behind them. -/
def scan (text : List Char) : Option (List (List Char) × List Char) :=
  (takeClosed text).map fun (run, behind) =>
    let (runs, left) := scanFurther 3 behind
    (run :: runs, left)

/-- A dot or a hyphen and a word that stands for a plain release, in any case. -/
def MarksRelease (text : List Char) : Prop :=
  ∃ separator word, text = separator :: word ∧ (separator = '.' ∨ separator = '-') ∧
    ∃ name ∈ ["release", "final", "ga"], List.Forall₂ (sameCaseless · ·) name.toList word

variable {text rest left run : List Char} {runs taken : List (List Char)} {most : Nat} {c : Char} {α : Type}
  {next : (run rest : List Char) → Option α}

/-! The scan. -/

theorem takeClosed_eq_some (found : takeClosed text = some (run, rest)) :
    takeRun text = some (run, rest) ∧ endsSegment rest = true := by
  unfold takeClosed at found
  split at found
  · split at found
    · cases found
      exact ⟨by assumption, by assumption⟩
    · cases found
  · cases found

theorem scanFurther_sound (scanned : scanFurther most text = (runs, left)) :
    text = runs.flatMap ('.' :: ·) ++ left ∧ runs.length ≤ most ∧ ∀ run ∈ runs, IsRun run := by
  induction most generalizing text runs left with
  | zero =>
    cases scanned
    exact ⟨rfl, Nat.le_refl _, nofun⟩
  | succ most ih =>
    unfold scanFurther at scanned
    split at scanned
    · rename_i fewer rest equal
      obtain rfl := Nat.succ.inj equal
      split at scanned
      · rename_i run behind closed
        cases scanned
        obtain ⟨same, isRun⟩ := takeRun_sound (takeClosed_eq_some closed).1
        obtain ⟨whole, length_le, isRuns⟩ := ih rfl
        refine ⟨?_, Nat.succ_le_succ length_le, List.forall_mem_cons.mpr ⟨isRun, isRuns⟩⟩
        rw [List.flatMap_cons, List.append_assoc, ← whole, same]
        rfl
      · cases scanned
        exact ⟨rfl, Nat.zero_le _, nofun⟩
    · cases scanned
      exact ⟨rfl, Nat.zero_le _, nofun⟩

/-- A scan takes a text apart into its segments, with dots between them, and the rest. -/
theorem scan_sound (scanned : scan text = some (runs, left)) :
    text = joined runs ++ left ∧ runs ≠ [] ∧ runs.length ≤ 4 ∧ ∀ run ∈ runs, IsRun run := by
  obtain ⟨⟨run, behind⟩, closed, same⟩ := Option.map_eq_some_iff.mp scanned
  cases same
  obtain ⟨rfl, isRun⟩ := takeRun_sound (takeClosed_eq_some closed).1
  have further : scanFurther 3 behind = _ := rfl
  obtain ⟨whole, length_le, isRuns⟩ := scanFurther_sound further
  refine ⟨?_, List.cons_ne_nil _ _, Nat.succ_le_succ length_le, List.forall_mem_cons.mpr ⟨isRun, isRuns⟩⟩
  rw [joined, List.append_assoc, ← whole]

theorem takeClosed_append (isRun : IsRun run) (runs : List (List Char)) :
    takeClosed (run ++ runs.flatMap ('.' :: ·)) = some (run, runs.flatMap ('.' :: ·)) := by
  have ends : endsSegment (runs.flatMap ('.' :: ·)) = true := by cases runs <;> rfl
  rw [takeClosed, takeRun_append isRun (not_isDecimal_flatMap runs)]
  exact if_pos ends

theorem scanFurther_complete (isRuns : ∀ run ∈ runs, IsRun run) (length_le : runs.length ≤ most) :
    scanFurther most (runs.flatMap ('.' :: ·)) = (runs, []) := by
  induction runs generalizing most with
  | nil => cases most <;> rfl
  | cons run runs ih =>
    obtain ⟨isRun, others⟩ := List.forall_mem_cons.mp isRuns
    cases most with
    | zero => cases length_le
    | succ most =>
      rw [List.flatMap_cons, List.cons_append, scanFurther, takeClosed_append isRun runs]
      dsimp only
      rw [ih others (Nat.le_of_succ_le_succ length_le)]

/-- Of numbers alone a scan leaves nothing. -/
theorem scan_joined (nonempty : runs ≠ []) (length_le : runs.length ≤ 4) (isRuns : ∀ run ∈ runs, IsRun run) :
    scan (joined runs) = some (runs, []) := by
  obtain ⟨run, others, rfl⟩ := List.exists_cons_of_ne_nil nonempty
  obtain ⟨isRun, isRuns⟩ := List.forall_mem_cons.mp isRuns
  rw [scan, joined, takeClosed_append isRun others, Option.map_some]
  dsimp only
  rw [scanFurther_complete isRuns (Nat.le_of_succ_le_succ length_le)]

/-! The search. -/

/-- Where nothing can follow that begins with a digit, only the whole run of digits is taken. -/
theorem tryRuns_eq (stuck : ∀ run c rest, isDecimal c = true → next run (c :: rest) = none)
    (before text : List Char) :
    tryRuns next before text =
      let whole := before.reverse ++ text.takeWhile isDecimal
      if whole.isEmpty then none else next whole (text.dropWhile isDecimal) := by
  induction text generalizing before with
  | nil => simp [tryRuns]
  | cons c rest ih =>
    unfold tryRuns
    cases digit : isDecimal c with
    | true =>
      have back : (if before.isEmpty then none else next before.reverse (c :: rest)) = none := by
        split
        · rfl
        · exact stuck _ c rest digit
      simp only [if_true, back, ih, List.takeWhile_cons, List.dropWhile_cons, digit, List.reverse_cons,
        List.append_assoc, List.singleton_append, Option.orElse_eq_or, Option.or_none]
    | false => simp [digit]

theorem tryRuns_nil (stuck : ∀ run c rest, isDecimal c = true → next run (c :: rest) = none)
    (text : List Char) : tryRuns next [] text = (takeRun text).bind fun taken => next taken.1 taken.2 := by
  rw [tryRuns_eq stuck, takeRun]
  cases text.takeWhile isDecimal with
  | nil => rfl
  | cons c run => rfl

theorem isRemainder_of_not_endsSegment (open' : endsSegment text = false) : isRemainder text = false := by
  cases text with
  | nil => cases open'
  | cons c rest =>
    simp only [endsSegment, Bool.or_eq_false_iff] at open'
    simp [isRemainder, open']

theorem isRemainder_of_endsSegment (ends : endsSegment text = true) :
    isRemainder text = !text.contains '\n' := by
  cases text with
  | nil => rfl
  | cons c rest =>
    have line : ('\n' == c) = false := by
      simp only [endsSegment, Bool.or_eq_true, beq_iff_eq] at ends
      rcases ends with (rfl | rfl) | rfl <;> decide
    simp only [endsSegment, Bool.or_eq_true, beq_iff_eq] at ends
    rw [isRemainder, List.contains_cons, line, Bool.false_or]
    simp only [Bool.and_eq_right_iff_imp, Bool.or_eq_true, beq_iff_eq]
    intro _
    tauto

/-- No further segments and no remainder begin here. -/
theorem segments_eq_none (open' : endsSegment text = false) : segments most taken text = none := by
  unfold segments
  split
  · cases open'
  · rw [isRemainder_of_not_endsSegment open']
    rfl

theorem endsSegment_of_isDecimal (digit : isDecimal c = true) (rest : List Char) :
    endsSegment (c :: rest) = false := by
  have apart (d : Char) (other : isDecimal d = false) : (c == d) = false := by
    rw [beq_eq_false_iff_ne]
    rintro rfl
    rw [digit] at other
    cases other
  simp [endsSegment, apart '.' (by decide), apart '-' (by decide), apart '+' (by decide)]

theorem remainder_eq (taken : List (List Char)) (ends : endsSegment text = true) :
    (if isRemainder text then some (taken, text) else none) =
      if text.contains '\n' then none else some (taken ++ [], text) := by
  rw [isRemainder_of_endsSegment ends, List.append_nil]
  cases text.contains '\n' <;> rfl

theorem segments_dot (most : Nat) (taken : List (List Char)) (rest : List Char) :
    segments (most + 1) taken ('.' :: rest) =
      ((takeClosed rest).bind fun found => segments most (taken ++ [found.1]) found.2).or
        (if ('.' :: rest).contains '\n' then none else some (taken ++ [], '.' :: rest)) := by
  have stuck : ∀ run c rest, isDecimal c = true → segments most (taken ++ [run]) (c :: rest) = none :=
    fun run c rest digit => segments_eq_none (endsSegment_of_isDecimal digit rest)
  rw [segments, tryRuns_nil stuck, remainder_eq taken rfl, Option.orElse_eq_or, takeClosed]
  cases takeRun rest with
  | none => rfl
  | some found =>
    cases ends : endsSegment found.2 with
    | true => simp [ends]
    | false => simp [ends, segments_eq_none ends]

/-- Behind a segment the search finds what the scan finds. A line feed in what the scan leaves is in all that the
search could leave instead, so that going back does not help. -/
theorem segments_eq (most : Nat) (taken : List (List Char)) (ends : endsSegment text = true) :
    segments most taken text =
      let found := scanFurther most text
      if found.2.contains '\n' then none else some (taken ++ found.1, found.2) := by
  fun_induction scanFurther most text generalizing taken with
  | case1 most rest run behind closed runs left further ih =>
    obtain ⟨begun, endsThere⟩ := takeClosed_eq_some closed
    obtain ⟨whole, -, -⟩ := scanFurther_sound further
    obtain ⟨front, -⟩ := takeRun_sound begun
    rw [segments_dot, closed, Option.bind_some, ih _ endsThere, further]
    dsimp only
    cases broken : left.contains '\n' with
    | true =>
      have inside : ('.' :: rest).contains '\n' = true := by
        rw [List.contains_iff_mem] at broken ⊢
        rw [front, whole]
        simp [broken]
      rw [inside]
      rfl
    | false => simp
  | case2 most rest open' => rw [segments_dot, open']; simp
  | case3 most text other =>
    rw [← remainder_eq taken ends]
    unfold segments
    split
    · exact absurd rfl (other _ _ rfl)
    · rfl

/-- The search finds what the scan finds, unless this leaves a line feed. -/
theorem split?_eq (text : List Char) : split? text = (scan text).filter fun found => !found.2.contains '\n' := by
  have stuck : ∀ run c rest, isDecimal c = true → segments 3 [run] (c :: rest) = none :=
    fun run c rest digit => segments_eq_none (endsSegment_of_isDecimal digit rest)
  rw [split?, tryRuns_nil stuck, scan, takeClosed]
  cases takeRun text with
  | none => rfl
  | some found =>
    cases ends : endsSegment found.2 with
    | true =>
      simp [ends, segments_eq 3 [found.1] ends, Option.filter_some]
    | false => simp [ends, segments_eq_none ends]

/-! Release markers. -/

theorem isWordCaseless_iff {word : String} :
    isWordCaseless word text = true ↔ List.Forall₂ (sameCaseless · ·) word.toList text := by
  simp only [isWordCaseless, Bool.and_eq_true, beq_iff_eq, List.all_eq_true, List.forall₂_iff_zip,
    String.length_toList]
  constructor
  · rintro ⟨length, alike⟩
    exact ⟨length.symm, fun {c d} member => alike (c, d) member⟩
  · rintro ⟨length, alike⟩
    exact ⟨length.symm, fun pair member => alike member⟩

theorem isReleaseMarker_iff : isReleaseMarker text = true ↔ MarksRelease text := by
  unfold MarksRelease
  cases text with
  | nil => simp [isReleaseMarker]
  | cons c rest =>
    simp only [isReleaseMarker, Bool.and_eq_true, Bool.or_eq_true, beq_iff_eq, List.any_eq_true, isWordCaseless_iff]
    constructor
    · rintro ⟨separator, name, known, alike⟩
      exact ⟨c, rest, rfl, separator, name, known, alike⟩
    · rintro ⟨_, _, same, separator, name, known, alike⟩
      cases same
      exact ⟨separator, name, known, alike⟩

/-! Versions. -/

/-- The numbers of a core are those that it is made of, filled up with zeros. -/
theorem toList_ofList {numbers : List Nat} (length_le : numbers.length ≤ 4) :
    (Core.ofList numbers).toList = numbers.rightpad 4 0 := by
  match numbers with
  | [] | [_] | [_, _] | [_, _, _] | [_, _, _, _] => rfl
  | _ :: _ :: _ :: _ :: _ :: rest =>
    simp only [List.length_cons] at length_le
    omega

/-- A version whose numbers can be read has the parts that a scan of its text finds. -/
theorem ofVersion_eq_ok {version : String} (short : ShortRuns version.toList) :
    ofVersion version = .ok ((split? (trim version.toList)).map fun found =>
      ⟨Core.ofList (found.1.map (digitsValue 0)),
        String.ofList (if isReleaseMarker found.2 then [] else found.2)⟩) := by
  unfold ofVersion
  cases split : split? (trim version.toList) with
  | none => rfl
  | some found =>
    have areRuns := split?_eq_some split
    have read := (mapM_readNumeral_eq_ok_iff fun run member => (areRuns run member).1).mpr
      ⟨fun run member => short run ((areRuns run member).2.trans (isInfix_trim _)) (areRuns run member).1.digits, rfl⟩
    dsimp only
    rw [read]
    rfl

/-- The parts of a version are what a scan from left to right finds in its text, blanks at the ends apart: it has
none if the text is empty, or does not begin with a segment, or what the scan leaves has a line feed. Otherwise its
core is made of the values of the segments, and its remainder is what the scan leaves, or nothing if this marks a
release. -/
theorem ofVersion_scans {version : String} (short : ShortRuns version.toList) :
    let text := trim version.toList
    (ofVersion version = .ok none ↔
      text = [] ∨ takeClosed text = none ∨ ∃ runs left, scan text = some (runs, left) ∧ '\n' ∈ left) ∧
    ∀ runs left, scan text = some (runs, left) →
      text = joined runs ++ left ∧ (∀ run ∈ runs, IsRun run) ∧
      ('\n' ∉ left → ∃ parts, ofVersion version = .ok (some parts) ∧
        parts.core.toList = (runs.map (digitsValue 0)).rightpad 4 0 ∧
        (MarksRelease left → parts.remainder = "") ∧
        (¬MarksRelease left → parts.remainder = String.ofList left)) := by
  intro text
  rw [ofVersion_eq_ok short, split?_eq]
  constructor
  · rw [Except.ok.injEq, Option.map_eq_none_iff]
    cases closed : takeClosed text with
    | none => simp [text, scan, closed]
    | some first =>
      have nonempty : text ≠ [] := by
        intro empty
        rw [empty] at closed
        cases closed
      cases scanned : scan text with
      | none => simp [scan, closed] at scanned
      | some found => simp [nonempty, Option.filter_some, Prod.ext_iff]
  · intro runs left scanned
    obtain ⟨whole, -, length_le, isRuns⟩ := scan_sound scanned
    refine ⟨whole, isRuns, fun unbroken => ?_⟩
    refine ⟨⟨Core.ofList (runs.map (digitsValue 0)), String.ofList (if isReleaseMarker left then [] else left)⟩,
      ?_, ?_, ?_, ?_⟩
    · simp [text, scanned, unbroken]
    · exact toList_ofList (by simpa using length_le)
    · intro marks
      rw [if_pos (isReleaseMarker_iff.mpr marks), String.ofList_nil]
    · intro other
      rw [if_neg fun marks => other (isReleaseMarker_iff.mp marks)]

/-- The third number is given back together with its dot. -/
theorem ofVersion_scans_given_back :
    ShortRuns " 1.2.3a-GA".toList ∧ scan (trim " 1.2.3a-GA".toList) = some ([['1'], ['2']], ".3a-GA".toList) ∧
      ∃ parts, ofVersion " 1.2.3a-GA" = .ok (some parts) ∧ parts.core.toList = [1, 2, 0, 0] ∧
        parts.remainder = ".3a-GA" := by
  have short : ShortRuns " 1.2.3a-GA".toList :=
    fun run inside _ => inside.length_le.trans (by decide)
  have scanned : scan (trim " 1.2.3a-GA".toList) = some ([['1'], ['2']], ".3a-GA".toList) := by decide
  have unmarked : ¬MarksRelease ".3a-GA".toList := by
    rw [← isReleaseMarker_iff]
    decide
  obtain ⟨-, -, read⟩ := (ofVersion_scans short).2 _ _ scanned
  obtain ⟨parts, found, core, -, remainder⟩ := read (by decide)
  exact ⟨short, scanned, parts, found, core, remainder unmarked⟩

end MavenResolution.Parts
