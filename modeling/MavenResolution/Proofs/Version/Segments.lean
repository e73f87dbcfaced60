import MavenResolution.Proofs.Constraint.Readable
import MavenResolution.Proofs.Version.Exchange
import MavenResolution.Proofs.Version.Padding
import MavenResolution.Proofs.Version.Runs

/-! Versions that are numbers between dots, in the digits of any script, with a word behind them or in front. Behind
the numbers a word counts as a qualifier does; in front of them it puts the version below all that begin with a
number, unless these are all zero. -/
namespace MavenResolution.Version

open Text Constraint

/-- What stands behind the numbers of a version. -/
inductive Ending where
  | none
  /-- A word right behind the numbers. -/
  | word (run : List Char)
  | dotted (run : List Char)
  | hyphened (run : List Char)

namespace Ending

def text : Ending → List Char
  | none => []
  | word run => run
  | dotted run => '.' :: run
  | hyphened run => '-' :: run

def lexemes : Ending → List Lexeme
  | none => []
  | word run => [.word run]
  | dotted run => [.dot, .word run]
  | hyphened run => [.hyphen, .word run]

/-- The qualifier that the word stands for. -/
def name : Ending → String
  | none => ""
  | word run | dotted run | hyphened run => canonicalName (String.ofList run)

/-- Only a dot leaves the word in the list of the numbers. -/
def items (ending : Ending) : List Item :=
  let qualifier := prepend (.qualifier ending.name) []
  match ending with
  | dotted _ => qualifier
  | none | word _ | hyphened _ => enclose qualifier

/-- There are characters of words where a word stands, and no others. -/
def Proper : Ending → Prop
  | none => True
  | word run | dotted run | hyphened run => run ≠ [] ∧ ∀ c ∈ run, isLetter c = true

end Ending

variable {run : List Char} {runs others : List (List Char)} {ending : Ending} {numbers ms ns : List Nat}
  {items : List Item}

/-! Lexemes. -/

theorem isDigit_of_isDecimal {c : Char} (digit : isDecimal c = true) : isDigit c = true := by
  rw [isDigit, digit, Bool.true_or]

theorem Ending.lexemes_text (proper : ending.Proper) : Version.lexemes ending.text = ending.lexemes := by
  cases ending with
  | none => rfl
  | word run => exact lexemes_word proper.2 proper.1
  | dotted run => exact congrArg (Lexeme.dot :: ·) (lexemes_word proper.2 proper.1)
  | hyphened run => exact congrArg (Lexeme.hyphen :: ·) (lexemes_word proper.2 proper.1)

/-- Runs behind others, each behind a dot. -/
def furtherLexemes (runs : List (List Char)) : List Lexeme := runs.flatMap fun run => [.dot, .digits run]

theorem startsDigits_behind (others : List (List Char)) (ending : Ending) :
    Lexeme.startsDigits (furtherLexemes others ++ ending.lexemes) = false := by
  cases others with
  | nil => cases ending <;> rfl
  | cons run rest => rfl

theorem lexemes_segments (isRuns : ∀ piece ∈ run :: others, IsRun piece) (proper : ending.Proper) :
    lexemes (joined (run :: others) ++ ending.text) =
      .digits run :: (furtherLexemes others ++ ending.lexemes) := by
  induction others generalizing run with
  | nil =>
    have isRun := isRuns run List.mem_cons_self
    have behind := ending.lexemes_text proper
    have ends : Lexeme.startsDigits (lexemes ending.text) = false := by
      rw [behind]
      exact startsDigits_behind [] ending
    rw [joined, List.flatMap_nil, List.append_nil,
      lexemes_digits_append (fun c member => isDigit_of_isDecimal (isRun.digits c member)) isRun.nonempty ends, behind]
    rfl
  | cons next rest ih =>
    obtain ⟨isRun, isRuns⟩ := List.forall_mem_cons.mp isRuns
    have same : joined (run :: next :: rest) ++ ending.text =
        run ++ '.' :: (joined (next :: rest) ++ ending.text) := by
      simp [joined]
    rw [same, lexemes_digits_append (fun c member => isDigit_of_isDecimal (isRun.digits c member)) isRun.nonempty rfl,
      lexemes_dot, ih isRuns]
    rfl

/-! Items. -/

theorem Ending.itemsBehind_lexemes (ending : Ending) : itemsBehind ending.lexemes = .ok ending.items := by
  cases ending <;> rfl

theorem itemsOf_segments (readable : ∀ piece ∈ run :: others, IsRun piece ∧ piece.length ≤ numeralLimit)
    (ending : Ending) :
    itemsOf (.digits run :: (furtherLexemes others ++ ending.lexemes)) =
      .ok (prependNumbers ((run :: others).map (digitsValue 0)) ending.items) := by
  induction others generalizing run with
  | nil =>
    obtain ⟨isRun, short⟩ := readable run List.mem_cons_self
    rw [itemsOf_digits, (readNumeral_eq_ok_iff isRun).mpr ⟨short, rfl⟩]
    simp only [furtherLexemes, List.flatMap_nil, List.nil_append, ending.itemsBehind_lexemes]
    rfl
  | cons next rest ih =>
    obtain ⟨⟨isRun, short⟩, others⟩ := List.forall_mem_cons.mp readable
    have behind : itemsBehind (furtherLexemes (next :: rest) ++ ending.lexemes) =
        .ok (prependNumbers ((next :: rest).map (digitsValue 0)) ending.items) := ih others
    rw [itemsOf_digits, (readNumeral_eq_ok_iff isRun).mpr ⟨short, rfl⟩, behind]
    rfl

/-- Numbers and what stands behind them. -/
theorem parse_segments {text : String} (nonempty : runs ≠ [])
    (readable : ∀ run ∈ runs, IsRun run ∧ run.length ≤ numeralLimit) (proper : ending.Proper)
    (small : lowercase text.toList = joined runs ++ ending.text) :
    parse text = .ok (prependNumbers (runs.map (digitsValue 0)) ending.items) := by
  obtain ⟨run, others, rfl⟩ := List.exists_cons_of_ne_nil nonempty
  rw [parse, small, lexemes_segments (fun run member => (readable run member).1) proper, itemsOf_segments readable]

/-- Numbers behind a word. -/
theorem parse_word_segments {text : String} {front : List Char} (word : front ≠ [])
    (letters : ∀ c ∈ front, isLetter c = true) (nonempty : runs ≠ [])
    (readable : ∀ run ∈ runs, IsRun run ∧ run.length ≤ numeralLimit) (proper : ending.Proper)
    (small : lowercase text.toList = front ++ (joined runs ++ ending.text)) :
    parse text = .ok (prepend (.qualifier (qualifierOf front true))
      (enclose (prependNumbers (runs.map (digitsValue 0)) ending.items))) := by
  obtain ⟨run, others, rfl⟩ := List.exists_cons_of_ne_nil nonempty
  have behind := lexemes_segments (fun run member => (readable run member).1) proper
  have ends : Lexeme.startsWord (lexemes (joined (run :: others) ++ ending.text)) = false := by
    rw [behind]
    rfl
  rw [parse, small, lexemes_word_append letters word ends, behind, itemsOf_word, itemsBehind,
    itemsOf_segments readable]
  rfl

/-! Comparisons. -/

theorem prependNumbers_of_bare (bare : startsNested items = false) (numbers : List Nat) :
    prependNumbers numbers items = numbers.map .number ++ items := by
  induction numbers with
  | nil => rfl
  | cons number rest ih =>
    have kept : startsNested (rest.map Item.number ++ items) = false := by
      cases rest with
      | nil => exact bare
      | cons => rfl
    have step : prependNumbers (number :: rest) items = prepend (.number number) (prependNumbers rest items) := rfl
    rw [step, ih, prepend, kept, Bool.and_false]
    rfl

/-- Numbers alone say nothing exactly if they are zeros, and begin with a number otherwise. -/
theorem prependNumbers_nil (numbers : List Nat) :
    (∀ number ∈ numbers, number = 0) ∧ prependNumbers numbers [] = [] ∨
      (∃ number ∈ numbers, number ≠ 0) ∧ ∃ value rest, prependNumbers numbers [] = .number value :: rest := by
  induction numbers with
  | nil => exact .inl ⟨nofun, rfl⟩
  | cons number others ih =>
    have step : prependNumbers (number :: others) [] = prepend (.number number) (prependNumbers others []) := rfl
    rw [step]
    rcases ih with ⟨zeros, empty⟩ | ⟨⟨other, member, positive⟩, value, rest, same⟩
    · rw [empty]
      by_cases zero : number = 0
      · refine .inl ⟨List.forall_mem_cons.mpr ⟨zero, zeros⟩, ?_⟩
        rw [zero]
        rfl
      · refine .inr ⟨⟨number, List.mem_cons_self, zero⟩, number, [], ?_⟩
        simp [prepend, Item.isNull, zero]
    · refine .inr ⟨⟨other, List.mem_cons_of_mem _ member, positive⟩, number, .number value :: rest, ?_⟩
      rw [same, prepend]
      simp [startsNested, Item.isNested]

theorem comparePadded_nil_eq_iff : comparePadded [] numbers = .eq ↔ ∀ number ∈ numbers, number = 0 := by
  induction numbers with
  | nil => simp [comparePadded]
  | cons number rest ih =>
    rw [comparePadded, Ordering.then_eq_eq, Nat.compare_eq_eq, ih, List.forall_mem_cons, eq_comm]

theorem compare_numbers_qualifier (equal : comparePadded ms ns = .eq) (name : String) :
    compareItems (ms.map .number ++ [.qualifier name]) (prependNumbers ns []) = compareQualifiers name "" := by
  have last : compareItems [.qualifier name] [] = compareQualifiers name "" := by
    rw [compareItems_nil_right, compareMissings, compareMissing_qualifier, compareMissings, Ordering.then_eq]
  induction ms generalizing ns with
  | nil =>
    have zeros := comparePadded_nil_eq_iff.mp equal
    rcases prependNumbers_nil ns with ⟨-, empty⟩ | ⟨⟨number, member, positive⟩, -⟩
    · rw [empty]
      exact last
    · exact absurd (zeros number member) positive
  | cons m ms ih =>
    cases ns with
    | nil =>
      rw [comparePadded, Ordering.then_eq_eq, Nat.compare_eq_eq] at equal
      obtain ⟨rfl, equal⟩ := equal
      have rest := ih equal
      rw [prependNumbers, List.foldr_nil, compareItems_nil_right] at rest ⊢
      exact rest
    | cons n ns =>
      rw [comparePadded, Ordering.then_eq_eq, Nat.compare_eq_eq] at equal
      obtain ⟨rfl, equal⟩ := equal
      have rest := ih equal
      have step : prependNumbers (m :: ns) [] = prepend (.number m) (prependNumbers ns []) := rfl
      rw [step]
      unfold prepend
      split
      · -- The number is left out, and with it all that follow.
        rename_i dropped
        rw [Bool.and_eq_true, Item.isNull, beq_iff_eq] at dropped
        obtain ⟨rfl, nested⟩ := dropped
        rcases prependNumbers_nil ns with ⟨-, empty⟩ | ⟨-, value, others, same⟩
        · rw [empty, compareItems_nil_right] at rest ⊢
          exact rest
        · rw [same] at nested
          cases nested
      · rw [List.map_cons, List.cons_append, compareItems_cons_self]
        exact rest

/-- A release says no more than the numbers in front of it. -/
theorem Ending.items_of_silent (silent : ending.name = "") : ending.items = [] := by
  cases ending with
  | none => rfl
  | word run | dotted run | hyphened run =>
    rw [Ending.items, silent]
    rfl

/-- Among equal numbers the word behind them decides, as if it stood alone. -/
theorem compare_ending (equal : comparePadded ms ns = .eq) (ending : Ending) :
    compareItems (prependNumbers ms ending.items) (prependNumbers ns []) = compareQualifiers ending.name "" := by
  have nestedCase (nested : startsNested ending.items = true)
      (last : compareMissings ending.items = compareQualifiers ending.name "") :
      compareItems (prependNumbers ms ending.items) (prependNumbers ns []) = compareQualifiers ending.name "" := by
    rw [compare_prependNumbers nested rfl, equal, compareItems_nil_right]
    exact last
  by_cases silent : ending.name = ""
  · have empty := ending.items_of_silent silent
    rw [empty, silent] at nestedCase
    rw [empty, silent]
    exact nestedCase rfl (compareQualifiers_eq.mpr rfl).symm
  · have significant : prepend (.qualifier ending.name) [] = [.qualifier ending.name] := by
      simp [prepend, Item.isNull, rank_eq_releaseRank_iff, silent]
    have lone : compareMissings [.nested [.qualifier ending.name]] = compareQualifiers ending.name "" := by
      rw [compareMissings, compareMissing_nested, compareMissing_qualifier, compareMissings, Ordering.then_eq]
    cases ending with
    | none => exact absurd rfl silent
    | word run | hyphened run =>
      rw [Ending.items, significant] at nestedCase
      rw [Ending.items, significant]
      exact nestedCase rfl lone
    | dotted run =>
      rw [Ending.items, significant, prependNumbers_of_bare rfl]
      exact compare_numbers_qualifier equal _

/-- A qualifier stands below every number, and beside zeros it stands as it does beside nothing. -/
theorem compare_qualifier_numbers (name : String) (rest : List Item) (numbers : List Nat) :
    compareItems (.qualifier name :: rest) (prependNumbers numbers []) =
      if ∀ number ∈ numbers, number = 0 then (compareQualifiers name "").then (compareMissings rest) else .lt := by
  rcases prependNumbers_nil numbers with ⟨zeros, empty⟩ | ⟨⟨number, member, positive⟩, value, others, same⟩
  · rw [empty, if_pos zeros, compareItems_nil_right, compareMissings, compareMissing_qualifier]
  · rw [same, if_neg fun zeros => positive (zeros number member)]
    rfl

end MavenResolution.Version
