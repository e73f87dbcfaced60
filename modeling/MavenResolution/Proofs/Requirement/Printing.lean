import MavenResolution.Proofs.Requirement.Grammar

/-! Range sets written down as texts. A range set whose bounds are versions reads back as it was written,
and what is read from a text is such a range set, however much of the text is kept. -/
namespace MavenResolution

open Requirement Text

/-- Some characters that a version may have, and no others. -/
def IsBound (text : String) : Prop := text ≠ "" ∧ ∀ c ∈ text.toList, isVersionChar c = true

/-- The range is bounded on one side at least, and its bounds are versions. -/
structure Range.Writable (range : Range) : Prop where
  bounded : range.lower.isSome = true ∨ range.upper.isSome = true
  lower : ∀ text ∈ range.lower, IsBound text
  upper : ∀ text ∈ range.upper, IsBound text

namespace Requirement

variable {c : Char} {symbol : Symbol} {symbols : List Symbol} {range : Range} {ranges : List Range}

/-! Symbols of a text, from the front. -/

theorem not_isBlank_of_punctuation (punctuation : punctuation? c = some symbol) :
    isBlank c = false := by
  have oneOf : c = '[' ∨ c = '(' ∨ c = ']' ∨ c = ')' ∨ c = ',' := by
    unfold punctuation? at punctuation
    grind
  rcases oneOf with rfl | rfl | rfl | rfl | rfl <;> decide

theorem symbolsOf_punctuation (punctuation : punctuation? c = some symbol) (text : List Char) :
    symbolsOf (c :: text) = symbol :: symbolsOf text := by
  have visible := not_isBlank_of_punctuation punctuation
  simp only [symbolsOf, tokens, tokensFrom, visible, Bool.false_eq_true, if_false, punctuation]
  exact congrArg (symbol :: ·) (map_symbol_tokensFrom _ _ [] text)

/-- A version is read to the end of its characters, in front of which others of it may have been read. -/
theorem tokensFrom_version (column : Nat) (run : List Char) {text rest : List Char}
    (version : ∀ c ∈ text, isVersionChar c = true) (breaks : ∀ c ∈ rest.head?, isVersionChar c = false) :
    tokensFrom column run (text ++ rest) =
      versionToken (column + text.length) (text.reverse ++ run) ++
        tokensFrom (column + text.length) [] rest := by
  -- The characters are gathered in reverse, so that the run in front is any.
  induction text generalizing column run with
  | nil => exact tokensFrom_of_break column run breaks
  | cons c text ih =>
    obtain ⟨here, there⟩ := List.forall_mem_cons.mp version
    simp only [isVersionChar, Bool.and_eq_true, Bool.not_eq_true', Option.isNone_iff_eq_none] at here
    simp only [List.cons_append, tokensFrom, here.1, here.2, Bool.false_eq_true, if_false]
    rw [ih _ _ there, List.reverse_cons, List.append_assoc, List.length_cons, Nat.add_right_comm]
    rfl

theorem map_symbol_tokensFrom_version (column : Nat) (run : List Char) {text rest : List Char}
    (version : ∀ c ∈ text, isVersionChar c = true) (breaks : ∀ c ∈ rest.head?, isVersionChar c = false) :
    (tokensFrom column run (text ++ rest)).map Token.symbol =
      (versionToken 0 (text.reverse ++ run)).map Token.symbol ++ symbolsOf rest := by
  rw [tokensFrom_version column run version breaks, List.map_append, map_symbol_versionToken _ 0,
    map_symbol_tokensFrom _ 0]
  rfl

/-- A bound stands for itself, and one that is missing for nothing. -/
theorem symbolsOf_bound {bound : Option String} (written : ∀ text ∈ bound, IsBound text)
    {rest : List Char} (breaks : ∀ c ∈ rest.head?, isVersionChar c = false) :
    symbolsOf ((bound.getD "").toList ++ rest) = bound.toList.map .version ++ symbolsOf rest := by
  cases bound with
  | none => rfl
  | some text =>
    obtain ⟨nonempty, version⟩ := written text rfl
    have read : text.toList ≠ [] := by simpa [String.toList_eq_nil_iff] using nonempty
    rw [symbolsOf, tokens, Option.getD_some, map_symbol_tokensFrom_version 0 [] version breaks]
    simp [versionToken, read]

/-! Ranges and range sets. -/

/-- What a range is written with. -/
def rangeWords (range : Range) : List Symbol :=
  .opening range.lowerClosed :: ((range.lower.toList.map .version ++
    .comma :: range.upper.toList.map .version) ++ [.closing range.upperClosed])

theorem symbolsOf_text (writable : range.Writable) (rest : List Char) :
    symbolsOf (range.text.toList ++ rest) = rangeWords range ++ symbolsOf rest := by
  obtain ⟨lower, lowerClosed, upper, upperClosed⟩ := range
  have opener : punctuation? (if lowerClosed then '[' else '(') = some (.opening lowerClosed) := by
    cases lowerClosed <;> rfl
  have closer : punctuation? (if upperClosed then ']' else ')') = some (.closing upperClosed) := by
    cases upperClosed <;> rfl
  have ends : ∀ c ∈ ((if upperClosed then ']' else ')') :: rest).head?, isVersionChar c = false := by
    cases upperClosed <;> simp <;> decide
  have split : (Range.text ⟨lower, lowerClosed, upper, upperClosed⟩).toList ++ rest =
      (if lowerClosed then '[' else '(') :: ((lower.getD "").toList ++
        ',' :: ((upper.getD "").toList ++ (if upperClosed then ']' else ')') :: rest)) := by
    cases lowerClosed <;> cases upperClosed <;> simp [Range.text]
  rw [split, symbolsOf_punctuation opener, symbolsOf_bound writable.lower (by simp; decide),
    symbolsOf_punctuation (show punctuation? ',' = some .comma from rfl),
    symbolsOf_bound writable.upper ends, symbolsOf_punctuation closer]
  simp [rangeWords]

theorem denotesRange_rangeWords (writable : range.Writable) : DenotesRange (rangeWords range) range := by
  obtain ⟨lower, lowerClosed, upper, upperClosed⟩ := range
  refine .enclosed lowerClosed upperClosed ?_
  cases lower with
  | none =>
    cases upper with
    | none => simpa using writable.bounded
    | some upper => exact .below upper
  | some lower =>
    cases upper with
    | none => exact .above lower
    | some upper => exact .between lower upper

theorem denotesRanges_text (writable : ∀ range ∈ ranges, range.Writable) (nonempty : ranges ≠ []) :
    DenotesRanges (symbolsOf (RangeSet.text ⟨ranges⟩).toList) ranges := by
  induction ranges with
  | nil => contradiction
  | cons range rest ih =>
    obtain ⟨here, there⟩ := List.forall_mem_cons.mp writable
    have denoted := denotesRange_rangeWords here
    cases rest with
    | nil =>
      have alone : (RangeSet.text ⟨[range]⟩).toList = range.text.toList ++ [] := by
        simp [RangeSet.text, String.intercalate_singleton]
      rw [alone, symbolsOf_text here]
      rw [← List.append_nil (rangeWords range)] at denoted
      exact .last denoted
    | cons next others =>
      have split : (RangeSet.text ⟨range :: next :: others⟩).toList =
          range.text.toList ++ ',' :: (RangeSet.text ⟨next :: others⟩).toList := by
        simp [RangeSet.text, String.intercalate_cons_cons]
      rw [split, symbolsOf_text here, symbolsOf_punctuation (show punctuation? ',' = some .comma from rfl)]
      exact .before denoted (ih there (List.cons_ne_nil next others))

/-- Nothing has to be closed behind a range. -/
theorem closed_text (nonempty : ranges ≠ []) :
    closed (RangeSet.text ⟨ranges⟩).toList = (RangeSet.text ⟨ranges⟩).toList := by
  have closer : ']' ∈ (RangeSet.text ⟨ranges⟩).toList ∨ ')' ∈ (RangeSet.text ⟨ranges⟩).toList := by
    obtain ⟨range, rest, rfl⟩ := List.exists_cons_of_ne_nil nonempty
    cases rest <;> cases closed : range.upperClosed <;>
      simp [RangeSet.text, Range.text, closed, String.intercalate_cons_cons]
  unfold Requirement.closed
  rw [if_pos (by simpa using closer)]

theorem parseRangeSet_of_writable (writable : ∀ range ∈ ranges, range.Writable) (nonempty : ranges ≠ []) :
    parseRangeSet (RangeSet.text ⟨ranges⟩) = (⟨ranges⟩, none) := by
  refine parseRangeSet_of_denotes ?_
  rw [rangeSymbols, closed_text nonempty]
  exact denotesRanges_text writable nonempty

/-- A range set without ranges is written as nothing, which is read as no range. -/
theorem parseRangeSet_of_empty : (parseRangeSet (RangeSet.text ⟨[]⟩)).1 = ⟨[]⟩ := by
  rfl

theorem parseRangeSet_text {set : RangeSet} (writable : ∀ range ∈ set.ranges, range.Writable) :
    (parseRangeSet set.text).1 = set := by
  obtain ⟨ranges⟩ := set
  cases ranges with
  | nil => exact parseRangeSet_of_empty
  | cons range rest => rw [parseRangeSet_of_writable writable (List.cons_ne_nil range rest)]

/-! What is read. -/

theorem isBound_of_mem_versionToken {column : Nat} {run : List Char} {name : String}
    (version : ∀ c ∈ run, isVersionChar c = true)
    (member : .version name ∈ (versionToken column run).map Token.symbol) : IsBound name := by
  cases run with
  | nil => cases member
  | cons c run =>
    obtain rfl : name = String.ofList (c :: run).reverse := by simpa [versionToken] using member
    exact ⟨by simp, by simpa [or_comm] using version⟩

/-- Versions that stand in a text are bounds, whatever was read of them before. -/
theorem isBound_of_mem_tokensFrom {column : Nat} {run text : List Char} {name : String}
    (version : ∀ c ∈ run, isVersionChar c = true)
    (member : .version name ∈ (tokensFrom column run text).map Token.symbol) : IsBound name := by
  induction text generalizing column run with
  | nil => exact isBound_of_mem_versionToken version member
  | cons c rest ih =>
    rw [tokensFrom] at member
    split at member
    · rw [List.map_append, List.mem_append] at member
      exact member.elim (isBound_of_mem_versionToken version) (ih (by simp))
    · rename_i visible
      split at member
      · rename_i symbol punctuation
        rw [List.map_append, List.mem_append, List.map_cons, List.mem_cons] at member
        obtain before | rfl | behind := member
        · exact isBound_of_mem_versionToken version before
        · unfold punctuation? at punctuation
          grind
        · exact ih (by simp) behind
      · rename_i plain
        refine ih (List.forall_mem_cons.mpr ⟨?_, version⟩) member
        simp [isVersionChar, visible, plain]

theorem DenotesRange.writable (denoted : DenotesRange symbols range)
    (bounds : ∀ name, .version name ∈ symbols → IsBound name) : range.Writable := by
  cases denoted with
  | enclosed lowerClosed upperClosed denoted =>
    cases denoted with
    | between lower upper =>
      exact ⟨.inl rfl, by simpa using bounds lower (by simp), by simpa using bounds upper (by simp)⟩
    | above lower => exact ⟨.inl rfl, by simpa using bounds lower (by simp), by simp⟩
    | below upper => exact ⟨.inr rfl, by simp, by simpa using bounds upper (by simp)⟩
    | exact version =>
      exact ⟨.inl rfl, by simpa using bounds version (by simp), by simpa using bounds version (by simp)⟩

theorem DenotesRanges.writable (denoted : DenotesRanges symbols ranges)
    (bounds : ∀ name, .version name ∈ symbols → IsBound name) : ∀ range ∈ ranges, range.Writable := by
  induction denoted with
  | last denoted => exact List.forall_mem_singleton.mpr (denoted.writable bounds)
  | before denoted others ih =>
    refine List.forall_mem_cons.mpr ⟨denoted.writable fun name member => bounds name ?_,
      ih fun name member => bounds name ?_⟩
    · exact List.mem_append_left _ member
    · exact List.mem_append_right _ (List.mem_cons_of_mem _ member)

/-- Whatever is wrong with a text, the ranges that are read from it are denoted by its front. -/
theorem exists_prefix_denotes (text : String) : (parseRangeSet text).1.ranges = [] ∨
    ∃ front, front <+: rangeSymbols text ∧ DenotesRanges front (parseRangeSet text).1.ranges := by
  by_cases denotes : ∃ ranges, DenotesRanges (rangeSymbols text) ranges
  · obtain ⟨ranges, denoted⟩ := denotes
    rw [parseRangeSet_of_denotes denoted]
    exact .inr ⟨_, List.prefix_rfl, denoted⟩
  · rw [not_exists] at denotes
    obtain ⟨_, _, ⟨front, begins, denoted, _⟩ | ⟨unread, _⟩⟩ := parseRangeSet_of_undenoted denotes
    · exact .inr ⟨front, begins, denoted⟩
    · exact .inl unread

theorem writable_of_mem_parseRangeSet {text : String}
    (member : range ∈ (parseRangeSet text).1.ranges) : range.Writable := by
  obtain unread | ⟨front, begins, denoted⟩ := exists_prefix_denotes text
  · rw [unread] at member
    cases member
  · exact denoted.writable (fun name inFront =>
      isBound_of_mem_tokensFrom (by simp) (begins.subset inFront)) range member

/-- Reading undoes writing for range sets whose ranges have bounds that are versions, and these are the range
sets that reading gives: what was read from any text, written down, is read as the same again. -/
theorem parseRangeSet_inverts_text :
    (∀ set : RangeSet, (∀ range ∈ set.ranges, range.Writable) → (parseRangeSet set.text).1 = set) ∧
      ∀ text, (parseRangeSet (parseRangeSet text).1.text).1 = (parseRangeSet text).1 :=
  ⟨fun _ => parseRangeSet_text, fun _ => parseRangeSet_text fun _ => writable_of_mem_parseRangeSet⟩

/-- Ranges of all shapes, and a text of which the second range is dropped. -/
theorem parseRangeSet_inverts_text_mixed :
    let set : RangeSet :=
      ⟨[⟨some "1", true, some "2-rc", false⟩, ⟨none, false, some "5", true⟩, ⟨some "7", true, none, true⟩]⟩
    set.text = "[1,2-rc),(,5],[7,]" ∧ (∀ range ∈ set.ranges, range.Writable) ∧
      (parseRangeSet set.text).1 = set ∧
      (parseRangeSet "[1.8 ),[2").1.text = "[1.8,1.8)" ∧
      (parseRangeSet "[1.8,1.8)").1 = (parseRangeSet "[1.8 ),[2").1 := by
  intro set
  have writable : ∀ range ∈ set.ranges, range.Writable := by
    simp only [set, List.forall_mem_cons, List.not_mem_nil, false_implies, implies_true, and_true]
    exact ⟨⟨by decide, by simp [IsBound]; decide, by simp [IsBound]; decide⟩,
      ⟨by decide, by simp, by simp [IsBound]; decide⟩, ⟨by decide, by simp [IsBound]; decide, by simp⟩⟩
  have broken : (parseRangeSet "[1.8 ),[2").1.text = "[1.8,1.8)" := by decide +kernel
  refine ⟨by decide +kernel, writable, parseRangeSet_inverts_text.1 set writable, broken, ?_⟩
  rw [← broken]
  exact parseRangeSet_inverts_text.2 "[1.8 ),[2"

end Requirement
end MavenResolution
