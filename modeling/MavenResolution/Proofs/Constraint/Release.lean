import MavenResolution.Proofs.Constraint.Scan
import MavenResolution.Proofs.Text.SmallLetters
import MavenResolution.Proofs.Version.Segments
import MavenResolution.Proofs.Version.SilentSuffix

/-! Releases: versions that have a numeric core and no remainder. Their texts are numbers, perhaps with a marker
behind them, and white space at the ends. What a comparison makes of such a text is more than its core: the marker
is read without regard to case by one function and in small letters by the other, and white space is stripped by
one and kept by the other. -/
namespace MavenResolution

open Text Constraint Version

/-! Words of releases. -/

/-- The words that stand for a release. -/
def releaseWords : List (List Char) := ["release".toList, "final".toList, "ga".toList]

/-- The small letters of the words that are read for them without regard to case. -/
def releaseSpellings : List (List Char) := releaseWords.flatMap spellings

/-- A word of letters is one of those that stand for a release, or a qualifier that is not known. -/
theorem releaseSpellings_forall : ∀ spelling ∈ releaseSpellings, spelling ≠ [] ∧ spelling.all isLetter = true ∧
    (spelling ∈ releaseWords ∨
      rank (canonicalName (String.ofList spelling)) = knownQualifiers.length) := by
  decide +kernel

theorem canonicalName_of_mem_releaseWords : ∀ word ∈ releaseWords, canonicalName (String.ofList word) = "" := by
  decide

/-- Of the spellings in ASCII each is a word that stands for a release. -/
theorem mem_releaseWords_of_ascii : ∀ spelling ∈ releaseSpellings, spelling.all (·.toNat < 128) = true →
    spelling ∈ releaseWords := by
  decide +kernel

theorem isLetter_of_isBlank {c : Char} (blank : isBlank c = true) : isLetter c = true := by
  have separator (d : Char) (other : isBlank d = false) : (c == d) = false := by
    rw [beq_eq_false_iff_ne]
    rintro rfl
    rw [blank] at other
    cases other
  have digit : isDigit c = false := by
    rw [isDigit, isDecimal_of_isBlank blank, Bool.false_or, Bool.and_eq_false_imp]
    intro wide
    rw [decide_eq_true_eq] at wide
    have apart : ∀ blanks ∈ wideBlanks, ∀ digits ∈ otherDigits, blanks.2 < digits.1 ∨ digits.2 < blanks.1 := by
      decide
    rw [isBlank, if_neg (by omega), inRanges, List.any_eq_true] at blank
    obtain ⟨blanks, listed, inside⟩ := blank
    rw [Bool.and_eq_true, decide_eq_true_eq, decide_eq_true_eq] at inside
    rw [inRanges, List.any_eq_false]
    intro digits member
    rw [Bool.and_eq_true, decide_eq_true_eq, decide_eq_true_eq]
    have := apart blanks listed digits member
    omega
  rw [isLetter, separator '.' (by decide), separator '-' (by decide), digit]
  rfl

/-- A word with white space in it is no name that is known, and stands for none. -/
theorem unknown_of_isBlank {word : List Char} {c : Char} (blank : isBlank c = true) (member : c ∈ word) :
    qualifierOf word true = String.ofList word ∧ canonicalName (String.ofList word) = String.ofList word ∧
      rank (String.ofList word) = knownQualifiers.length := by
  have differs (name : String) (letters : name.toList.any isBlank = false) : String.ofList word ≠ name := by
    rintro rfl
    rw [String.toList_ofList, List.any_eq_false] at letters
    exact letters c member blank
  have unabbreviated : abbreviated (String.ofList word) = String.ofList word := by
    rw [abbreviated, if_neg (differs "a" (by decide)), if_neg (differs "b" (by decide)),
      if_neg (differs "m" (by decide))]
  have canonical : canonicalName (String.ofList word) = String.ofList word := by
    rw [canonicalName, if_neg (by simp only [differs "ga" (by decide), differs "final" (by decide),
      differs "release" (by decide), or_self, not_false_eq_true]), if_neg (differs "cr" (by decide))]
  refine ⟨?_, canonical, List.idxOf_eq_length fun known => ?_⟩
  · rw [qualifierOf, if_pos rfl, unabbreviated, canonical]
  · have letters : ∀ name ∈ knownQualifiers, name.toList.any isBlank = false := by decide
    exact differs _ (letters _ known) rfl

/-- A qualifier that is not known stands above a release. -/
theorem compareQualifiers_of_unknown {name : String} (unknown : rank name = knownQualifiers.length) :
    compareQualifiers name "" = .gt := by
  have above : Ord.compare knownQualifiers.length (rank "") = .gt := rfl
  rw [compareQualifiers, unknown, above]
  rfl

/-! Cores. -/

theorem comparePadded_eq_iff {ms ns : List Nat} :
    comparePadded ms ns = .eq ↔ ∀ place : Nat, ms[place]?.getD 0 = ns[place]?.getD 0 := by
  induction ms generalizing ns with
  | nil =>
    induction ns with
    | nil => simp [comparePadded]
    | cons n ns ih =>
      rw [comparePadded, Ordering.then_eq_eq, Nat.compare_eq_eq, ih]
      exact Nat.and_forall_add_one (p := fun place => [][place]?.getD 0 = (n :: ns)[place]?.getD 0)
  | cons m ms ih =>
    cases ns with
    | nil =>
      rw [comparePadded, Ordering.then_eq_eq, Nat.compare_eq_eq, ih]
      exact Nat.and_forall_add_one (p := fun place => (m :: ms)[place]?.getD 0 = [][place]?.getD 0)
    | cons n ns =>
      rw [comparePadded, Ordering.then_eq_eq, Nat.compare_eq_eq, ih]
      exact Nat.and_forall_add_one (p := fun place => (m :: ms)[place]?.getD 0 = (n :: ns)[place]?.getD 0)

/-- Up to four numbers are equal, but for zeros at the end, if they make the same core. -/
theorem Core.ofList_eq_iff {ms ns : List Nat} (first : ms.length ≤ 4) (second : ns.length ≤ 4) :
    Core.ofList ms = Core.ofList ns ↔ comparePadded ms ns = .eq := by
  rw [comparePadded_eq_iff, Core.ofList, Core.ofList, Core.mk.injEq]
  constructor
  · rintro ⟨major, minor, patch, extra⟩ place
    match place with
    | 0 => exact major
    | 1 => exact minor
    | 2 => exact patch
    | 3 => exact extra
    | place + 4 => rw [List.getElem?_eq_none (by omega), List.getElem?_eq_none (by omega)]
  · intro same
    exact ⟨same 0, same 1, same 2, same 3⟩

/-! Texts of releases. -/

theorem exists_blanks_trim (text : List Char) : ∃ front back, (∀ c ∈ front, isBlank c = true) ∧
    (∀ c ∈ back, isBlank c = true) ∧ text = front ++ (trim text ++ back) := by
  obtain ⟨front, blank, same⟩ := exists_blanks text
  refine ⟨front, (dropBlanks text).rtakeWhile isBlank, blank, fun c => List.mem_rtakeWhile_imp, ?_⟩
  have split : trim text ++ (dropBlanks text).rtakeWhile isBlank = dropBlanks text :=
    List.rdropWhile_append_rtakeWhile
  rw [split, ← same]

theorem trim_of_solid {text : List Char} (solid : ∀ c ∈ text, isBlank c = false) : trim text = text := by
  have front : dropBlanks text = text :=
    List.dropWhile_eq_self_iff.mpr fun inside => by simp [solid _ (List.getElem_mem inside)]
  have back : text.rdropWhile isBlank = text :=
    List.rdropWhile_eq_self_iff.mpr fun nonempty => by simp [solid _ (List.getLast_mem nonempty)]
  rw [trim, front]
  exact back

/-- The text of a release, taken apart. -/
structure Release where
  front : List Char
  runs : List (List Char)
  marker : List Char
  back : List Char
  blankFront : ∀ c ∈ front, isBlank c = true
  blankBack : ∀ c ∈ back, isBlank c = true
  nonempty : runs ≠ []
  length_le : runs.length ≤ 4
  readable : ∀ run ∈ runs, IsRun run ∧ run.length ≤ numeralLimit
  marked : marker = [] ∨ Parts.MarksRelease marker

namespace Release

variable (release : Release)

def text : List Char := release.front ++ (joined release.runs ++ (release.marker ++ release.back))

def numbers : List Nat := release.runs.map (digitsValue 0)

def core : Core := Core.ofList release.numbers

/-- What the small letters of the text end with, behind the numbers. -/
def ending : Ending :=
  match release.marker with
  | [] => if release.back = [] then .none else .word release.back
  | separator :: word =>
    let run := lowercase word ++ release.back
    if separator = '.' then .dotted run else .hyphened run

/-- Nothing stands behind the numbers, or a word which also in small letters stands for a release. -/
def Bare : Prop := release.back = [] ∧ (release.marker = [] ∨ lowercase release.marker.tail ∈ releaseWords)

theorem length_numbers_le : release.numbers.length ≤ 4 := by
  rw [numbers, List.length_map]
  exact release.length_le

/-- The word of a marker, of which the small letters are few. -/
theorem exists_word {marker : List Char} (marked : Parts.MarksRelease marker) :
    ∃ separator word, marker = separator :: word ∧ (separator = '.' ∨ separator = '-') ∧ 'Σ' ∉ word ∧
      lowercase word ∈ releaseSpellings := by
  obtain ⟨separator, word, rfl, separates, name, known, alike⟩ := marked
  have listed : name.toList ∈ releaseWords := List.mem_map_of_mem (f := String.toList) known
  have foreign : ∀ word ∈ releaseWords, word.any (sameCaseless · 'Σ') = false := by decide +kernel
  have noSigma := not_mem_of_alike alike (by simpa using foreign _ listed)
  exact ⟨separator, word, rfl, separates, noSigma,
    List.mem_flatMap.mpr ⟨_, listed, lowercase_mem_spellings alike noSigma⟩⟩

/-- A version without a remainder has such a text. -/
theorem exists_of_ofVersion {version : String} {core : Core} (read : Parts.ofVersion version = .ok (some ⟨core, ""⟩)) :
    ∃ release : Release, release.text = version.toList ∧ release.core = core ∧
      trim version.toList = joined release.runs ++ release.marker := by
  rw [Parts.ofVersion, Parts.split?_eq] at read
  cases scanned : Parts.scan (trim version.toList) with
  | none =>
    rw [scanned] at read
    cases read
  | some found =>
    obtain ⟨runs, left⟩ := found
    obtain ⟨whole, nonempty, length_le, isRuns⟩ := Parts.scan_sound scanned
    rw [scanned, Option.filter_some] at read
    split at read
    · cases read
    · rename_i taken
      split at taken
      · cases taken
        obtain ⟨values, numbers, same⟩ := bind_eq_ok_iff.mp read
        obtain ⟨short, rfl⟩ := (mapM_readNumeral_eq_ok_iff isRuns).mp numbers
        obtain ⟨rfl, empty⟩ := Parts.mk.inj (Option.some.inj (Except.ok.inj same))
        have marked : left = [] ∨ Parts.MarksRelease left := by
          by_cases marks : Parts.isReleaseMarker left = true
          · exact .inr (Parts.isReleaseMarker_iff.mp marks)
          · rw [if_neg marks, String.ofList_eq_empty_iff] at empty
            exact .inl empty
        obtain ⟨front, back, blankFront, blankBack, same⟩ := exists_blanks_trim version.toList
        refine ⟨⟨front, runs, left, back, blankFront, blankBack, nonempty, length_le,
          fun run member => ⟨isRuns run member, short run member⟩, marked⟩, ?_, rfl, whole⟩
        rw [text, same, whole, List.append_assoc]
      · cases taken

/-- Numbers alone, with dots between them. -/
def ofRuns {runs : List (List Char)} (nonempty : runs ≠ []) (length_le : runs.length ≤ 4)
    (readable : ∀ run ∈ runs, IsRun run ∧ run.length ≤ numeralLimit) : Release :=
  ⟨[], runs, [], [], nofun, nofun, nonempty, length_le, readable, .inl rfl⟩

theorem ofVersion_joined {runs : List (List Char)} (nonempty : runs ≠ []) (length_le : runs.length ≤ 4)
    (readable : ∀ run ∈ runs, IsRun run ∧ run.length ≤ numeralLimit) :
    Parts.ofVersion (String.ofList (joined runs)) = .ok (some ⟨Core.ofList (runs.map (digitsValue 0)), ""⟩) := by
  have isRuns : ∀ run ∈ runs, IsRun run := fun run member => (readable run member).1
  have solid : ∀ c ∈ joined runs, isBlank c = false := by
    intro c member
    rcases mem_joined member with rfl | ⟨run, listed, inside⟩
    · decide
    · rw [Bool.eq_false_iff]
      intro blank
      have digit := (isRuns run listed).digits c inside
      rw [isDecimal_of_isBlank blank] at digit
      cases digit
  have read := (mapM_readNumeral_eq_ok_iff isRuns).mpr ⟨fun run member => (readable run member).2, rfl⟩
  rw [Parts.ofVersion, String.toList_ofList, trim_of_solid solid, Parts.split?_eq,
    Parts.scan_joined nonempty length_le isRuns]
  change (runs.mapM readNumeral >>= _) = _
  rw [read]
  rfl

/-! The item tree. -/

theorem smallForm_marker : release.marker.flatMap smallForm ++ release.back = release.ending.text := by
  unfold ending
  rcases release.marked with none | marks
  · rw [none]
    dsimp only
    split
    · rename_i empty
      rw [empty]
      rfl
    · rfl
  · obtain ⟨separator, word, marker, separates, noSigma, -⟩ := exists_word marks
    rw [marker, List.flatMap_cons, ← lowercase_eq_flatMap noSigma, List.append_assoc]
    rcases separates with rfl | rfl <;> rfl

theorem lowercase_text : lowercase release.text = release.front ++ (joined release.runs ++ release.ending.text) := by
  have front : ∀ c ∈ release.front, IsSmall c := fun c member => isSmall_of_isBlank (release.blankFront c member)
  have back : ∀ c ∈ release.back, IsSmall c := fun c member => isSmall_of_isBlank (release.blankBack c member)
  have dot : IsSmall '.' := ⟨by decide +kernel, by decide⟩
  have runs : ∀ c ∈ joined release.runs, IsSmall c := by
    intro c member
    rcases mem_joined member with rfl | ⟨run, listed, inside⟩
    · exact dot
    · exact isSmall_of_isDecimal ((release.readable run listed).1.digits c inside)
  have marker : 'Σ' ∉ release.marker := by
    rcases release.marked with none | marks
    · rw [none]
      exact List.not_mem_nil
    · obtain ⟨separator, word, marker, separates, noSigma, -⟩ := exists_word marks
      rw [marker, List.mem_cons, not_or]
      refine ⟨?_, noSigma⟩
      rcases separates with rfl | rfl <;> decide
  have noSigma : 'Σ' ∉ release.text := by
    simp only [text, List.mem_append, not_or]
    exact ⟨sigma_not_mem front, sigma_not_mem runs, marker, sigma_not_mem back⟩
  rw [lowercase_eq_flatMap noSigma, text, List.flatMap_append, List.flatMap_append, List.flatMap_append,
    flatMap_smallForm front, flatMap_smallForm runs, flatMap_smallForm back, smallForm_marker]

/-- The word behind the numbers, if there is one, with its name. -/
theorem ending_spec : release.ending.Proper ∧
    (release.Bare ∧ release.ending.name = "" ∨
      ¬release.Bare ∧ rank release.ending.name = knownQualifiers.length) := by
  have letters : ∀ c ∈ release.back, isLetter c = true :=
    fun c member => isLetter_of_isBlank (release.blankBack c member)
  -- White space makes an unknown word of whatever stands in front of it.
  have spaced (word : List Char) (nonempty : release.back ≠ []) :
      rank (canonicalName (String.ofList (word ++ release.back))) = knownQualifiers.length := by
    obtain ⟨c, member⟩ := List.exists_mem_of_ne_nil _ nonempty
    obtain ⟨-, canonical, unknown⟩ :=
      unknown_of_isBlank (release.blankBack c member) (List.mem_append_right word member)
    rw [canonical, unknown]
  rcases release.marked with none | marks
  · by_cases empty : release.back = []
    · have ending : release.ending = .none := by rw [ending, none]; exact if_pos empty
      rw [ending]
      exact ⟨trivial, .inl ⟨⟨empty, .inl none⟩, rfl⟩⟩
    · have ending : release.ending = .word release.back := by rw [ending, none]; exact if_neg empty
      rw [ending]
      exact ⟨⟨empty, letters⟩, .inr ⟨fun bare => empty bare.1, spaced [] empty⟩⟩
  · obtain ⟨separator, word, marker, separates, -, spelled⟩ := exists_word marks
    obtain ⟨nonempty, lettersWord, known⟩ := releaseSpellings_forall _ spelled
    rw [List.all_eq_true] at lettersWord
    have proper : lowercase word ++ release.back ≠ [] ∧ ∀ c ∈ lowercase word ++ release.back, isLetter c = true :=
      ⟨List.append_ne_nil_of_left_ne_nil nonempty _, List.forall_mem_append.mpr ⟨lettersWord, letters⟩⟩
    have name : release.Bare ∧ canonicalName (String.ofList (lowercase word ++ release.back)) = "" ∨
        ¬release.Bare ∧
          rank (canonicalName (String.ofList (lowercase word ++ release.back))) = knownQualifiers.length := by
      by_cases empty : release.back = []
      · have bare : release.Bare ↔ lowercase word ∈ releaseWords := by
          rw [Bare, marker]
          simp [empty]
        rw [bare, empty, List.append_nil]
        by_cases plain : lowercase word ∈ releaseWords
        · exact .inl ⟨plain, canonicalName_of_mem_releaseWords _ plain⟩
        · exact .inr ⟨plain, known.resolve_left plain⟩
      · exact .inr ⟨fun bare => empty bare.1, spaced _ empty⟩
    rw [ending, marker]
    rcases separates with rfl | rfl
    · exact ⟨proper, name⟩
    · exact ⟨proper, name⟩

variable {release} {version : String}

theorem parse_of_no_front (same : release.text = version.toList) (noFront : release.front = []) :
    parse version = .ok (prependNumbers release.numbers release.ending.items) := by
  refine parse_segments release.nonempty release.readable release.ending_spec.1 ?_
  rw [← same, lowercase_text, noFront, List.nil_append]

/-- White space in front of the numbers is an unknown qualifier. -/
theorem parse_of_front (same : release.text = version.toList) (front : release.front ≠ []) :
    ∃ name, rank name = knownQualifiers.length ∧
      parse version = .ok (.qualifier name :: enclose (prependNumbers release.numbers release.ending.items)) := by
  have letters : ∀ c ∈ release.front, isLetter c = true :=
    fun c member => isLetter_of_isBlank (release.blankFront c member)
  obtain ⟨c, member⟩ := List.exists_mem_of_ne_nil _ front
  obtain ⟨qualifier, -, unknown⟩ := unknown_of_isBlank (release.blankFront c member) member
  refine ⟨_, unknown, ?_⟩
  rw [parse_word_segments front letters release.nonempty release.readable release.ending_spec.1
    (by rw [← same, lowercase_text]), qualifier, prepend, Item.isNull, unknown]
  rfl

/-- A release that is no more than its numbers. -/
theorem parse_of_bare (same : release.text = version.toList) (noFront : release.front = []) (bare : release.Bare) :
    parse version = .ok (prependNumbers release.numbers []) := by
  have silent : release.ending.name = "" := by
    rcases release.ending_spec.2 with ⟨-, silent⟩ | ⟨other, -⟩
    · exact silent
    · exact absurd bare other
  rw [parse_of_no_front same noFront, Ending.items_of_silent silent]

/-! Comparisons of releases that have the same core. -/

instance (release : Release) : Decidable release.Bare := inferInstanceAs (Decidable (_ ∧ _))

/-- How a release stands to the version of its numbers alone. -/
def standing (release : Release) : Ordering :=
  if release.front = [] then if release.Bare then .eq else .gt
  else if release.core = ⟨0, 0, 0, 0⟩ then .gt else .lt

theorem core_eq_zero_iff : release.core = ⟨0, 0, 0, 0⟩ ↔ ∀ number ∈ release.numbers, number = 0 := by
  rw [← comparePadded_nil_eq_iff, ← Core.ofList_eq_iff (Nat.zero_le _) release.length_numbers_le]
  exact eq_comm

theorem compareItems_standing {items : List Item} {bound : Release} (same : release.text = version.toList)
    (cores : release.core = bound.core) (read : parse version = .ok items) :
    compareItems items (prependNumbers bound.numbers []) = release.standing := by
  have equal : comparePadded release.numbers bound.numbers = .eq :=
    (Core.ofList_eq_iff release.length_numbers_le bound.length_numbers_le).mp cores
  unfold standing
  split
  · rename_i noFront
    cases (parse_of_no_front same noFront).symm.trans read
    rw [compare_ending equal]
    rcases release.ending_spec.2 with ⟨bare, silent⟩ | ⟨other, unknown⟩
    · rw [if_pos bare, silent, compareQualifiers_eq.mpr rfl]
    · rw [if_neg other, compareQualifiers_of_unknown unknown]
  · rename_i front
    obtain ⟨name, unknown, read'⟩ := parse_of_front same front
    cases read'.symm.trans read
    rw [compare_qualifier_numbers, compareQualifiers_of_unknown unknown]
    simp only [cores, core_eq_zero_iff]
    rfl

/-- Against one that is no more than its numbers, with the same ones, a release is compared as against these. -/
theorem compareTexts_standing {bound : Release} {limit : String} (same : release.text = version.toList)
    (sameBound : bound.text = limit.toList) (noFront : bound.front = []) (bare : bound.Bare)
    (cores : release.core = bound.core) :
    compareTexts version limit = .ok release.standing ∧ compareTexts limit version = .ok release.standing.swap := by
  have readBound := parse_of_bare sameBound noFront bare
  have reads : ∃ items, parse version = .ok items := by
    by_cases front : release.front = []
    · exact ⟨_, parse_of_no_front same front⟩
    · obtain ⟨name, -, read⟩ := parse_of_front same front
      exact ⟨_, read⟩
  obtain ⟨items, read⟩ := reads
  have order := compareItems_standing same cores read
  constructor
  · rw [compareTexts_eq_parse, read, readBound, ← order]
    rfl
  · rw [compareTexts_eq_parse, read, readBound, ← order, ← compareItems_swap]
    rfl

end Release
end MavenResolution
