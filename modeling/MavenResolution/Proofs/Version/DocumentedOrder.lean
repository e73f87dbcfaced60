import MavenResolution.Proofs.Text.Ascii
import MavenResolution.Proofs.Version.Padding
import MavenResolution.Proofs.Version.Reading
import MavenResolution.Proofs.Version.Transitivity

/-! Documented versions are read as their numbers and their suffix, and ordered as documented. -/
namespace MavenResolution.Version

open Text

namespace Numeral

theorem ascii (numeral : Numeral) : ∀ c ∈ numeral.run, c.toNat < 128 := by
  intro c member
  have bounds := isDigit_iff_toNat.mp (numeral.digits c member)
  omega

theorem isDigit_of_mem (numeral : Numeral) : ∀ c ∈ numeral.run, isDigit c = true := by
  intro c member
  rw [isDigit_of_ascii (numeral.ascii c member)]
  exact numeral.digits c member

theorem map_toLower (numeral : Numeral) : numeral.run.map Char.toLower = numeral.run := by
  rw [List.map_congr_left fun c member => toLower_of_isDigit (numeral.digits c member),
    List.map_id']

theorem digitsValue_eq_foldl {run : List Char} (digits : ∀ c ∈ run, c.isDigit = true)
    (value : Nat) : digitsValue value run =
      run.foldl (fun value c => 10 * value + (c.toNat - '0'.toNat)) value := by
  induction run generalizing value with
  | nil => rfl
  | cons c rest ih =>
    obtain ⟨digit, others⟩ := List.forall_mem_cons.mp digits
    have bounds := isDigit_iff_toNat.mp digit
    have place : digitValue? c = some (c.toNat - '0'.toNat) := by
      rw [digitValue?_of_ascii (by omega), if_pos digit]
      rfl
    rw [digitsValue, List.foldl_cons, place, Option.getD_some, ih others]

theorem readNumeral_run (numeral : Numeral) : readNumeral numeral.run = .ok numeral.value := by
  rw [readNumeral_of_ascii numeral.digits numeral.nonempty numeral.short,
    digitsValue_eq_foldl numeral.digits]
  rfl

end Numeral

namespace Word

def small (word : Word) : List Char := word.run.map Char.toLower

theorem ascii (word : Word) : ∀ c ∈ word.run, c.toNat < 128 := by
  intro c member
  have bounds := isAlpha_iff_toNat.mp (word.letters c member)
  omega

theorem isLetter_of_mem (word : Word) : ∀ c ∈ word.small, isLetter c = true := by
  intro c member
  obtain ⟨letter, ofRun, rfl⟩ := List.mem_map.mp member
  have bounds := toNat_toLower_of_isAlpha (word.letters letter ofRun)
  exact isLetter_of_isAlpha (isAlpha_iff_toNat.mpr (.inr bounds))

theorem small_ne_nil (word : Word) : word.small ≠ [] := by
  simpa [small] using word.nonempty

theorem name_ne_empty (word : Word) : word.name ≠ "" := by
  intro empty
  exact word.small_ne_nil (by simpa [name, small] using congrArg String.toList empty)

end Word

/-! Lexemes. -/

namespace Suffix

def lexemes : Suffix → List Lexeme
  | .none => []
  | .plain word => [.hyphen, .word word.small]
  | .numbered word true numeral _ =>
    [.hyphen, .word word.small, .hyphen, .digits numeral.run]
  | .numbered word false numeral _ => [.hyphen, .word word.small, .digits numeral.run]

theorem ascii (suffix : Suffix) : ∀ c ∈ suffix.text, c.toNat < 128 := by
  match suffix with
  | .none => simp [text]
  | .plain word =>
    simp only [text, List.forall_mem_cons]
    exact ⟨by decide, word.ascii⟩
  | .numbered word true numeral _ =>
    simp only [text, List.cons_append, List.forall_mem_cons, List.forall_mem_append]
    exact ⟨by decide, word.ascii, by decide, numeral.ascii⟩
  | .numbered word false numeral _ =>
    simp only [text, List.cons_append, List.forall_mem_cons, List.forall_mem_append]
    exact ⟨by decide, word.ascii, numeral.ascii⟩

theorem lexemes_map_toLower (suffix : Suffix) :
    Version.lexemes (suffix.text.map Char.toLower) = suffix.lexemes := by
  have hyphen : '-'.toLower = '-' := rfl
  match suffix with
  | .none => rfl
  | .plain word =>
    rw [text, List.map_cons, hyphen, lexemes_hyphen]
    exact congrArg _ (lexemes_word word.isLetter_of_mem word.small_ne_nil)
  | .numbered word true numeral _ =>
    have behind := lexemes_digits numeral.isDigit_of_mem numeral.nonempty
    have read : Version.lexemes (word.small ++ '-' :: numeral.run) =
        .word word.small :: Version.lexemes ('-' :: numeral.run) :=
      lexemes_word_append word.isLetter_of_mem word.small_ne_nil rfl
    rw [lexemes_hyphen, behind] at read
    rw [text, List.map_append, List.map_cons, List.map_cons, numeral.map_toLower, hyphen,
      List.cons_append, lexemes_hyphen]
    exact congrArg _ read
  | .numbered word false numeral _ =>
    have behind := lexemes_digits numeral.isDigit_of_mem numeral.nonempty
    have read : Version.lexemes (word.small ++ numeral.run) =
        .word word.small :: Version.lexemes numeral.run :=
      lexemes_word_append word.isLetter_of_mem word.small_ne_nil (by rw [behind]; rfl)
    rw [behind] at read
    rw [text, List.map_append, List.map_cons, numeral.map_toLower, hyphen, List.cons_append,
      lexemes_hyphen]
    exact congrArg _ read

theorem startsDigits_lexemes (suffix : Suffix) :
    Lexeme.startsDigits suffix.lexemes = false := by
  match suffix with
  | .none | .plain _ | .numbered _ true _ _ | .numbered _ false _ _ => rfl

end Suffix

/-- Numerals that follow others, each behind a dot. -/
def dotted (numerals : List Numeral) : List Lexeme :=
  numerals.flatMap fun numeral => [.dot, .digits numeral.run]

theorem lexemes_numerals (first : Numeral) (others : List Numeral) {rest : List Char}
    (ending : Lexeme.startsDigits (lexemes rest) = false) :
    lexemes (first.run ++ others.flatMap (fun numeral => '.' :: numeral.run) ++ rest) =
      .digits first.run :: dotted others ++ lexemes rest := by
  induction others generalizing first with
  | nil =>
    rw [List.flatMap_nil, List.append_nil]
    exact lexemes_digits_append first.isDigit_of_mem first.nonempty ending
  | cons next others ih =>
    have behind := ih next
    rw [List.append_assoc] at behind ⊢
    rw [List.flatMap_cons, List.append_assoc, List.cons_append]
    rw [lexemes_digits_append first.isDigit_of_mem first.nonempty (by rw [lexemes_dot]; rfl),
      lexemes_dot, behind]
    rfl

theorem Documented.lexemes_text (version : Documented) :
    lexemes (lowercase version.text.toList) =
      .digits version.first.run :: dotted version.others ++ version.suffix.lexemes := by
  have ascii : ∀ c ∈ version.text.toList, c.toNat < 128 := by
    simp only [text, String.toList_ofList, List.forall_mem_append, List.forall_mem_flatMap,
      List.forall_mem_cons]
    exact ⟨⟨version.first.ascii, fun numeral _ => ⟨by decide, numeral.ascii⟩⟩, version.suffix.ascii⟩
  have dots : (version.others.flatMap fun numeral => '.' :: numeral.run).map Char.toLower =
      version.others.flatMap fun numeral => '.' :: numeral.run := by
    rw [List.map_flatMap]
    congr 1
    funext numeral
    rw [List.map_cons, numeral.map_toLower]
    rfl
  rw [lowercase_of_ascii ascii, text, String.toList_ofList, List.map_append, List.map_append, dots,
    version.first.map_toLower, lexemes_numerals, version.suffix.lexemes_map_toLower]
  rw [version.suffix.lexemes_map_toLower]
  exact version.suffix.startsDigits_lexemes

/-! Items. -/

theorem Suffix.itemsOf_lexemes (suffix : Suffix) (numeral : Numeral) :
    itemsOf (.digits numeral.run :: suffix.lexemes) =
      .ok (prepend (.number numeral.value) (suffixItems suffix.name suffix.number)) := by
  match suffix with
  | .none | .plain _ =>
    simp only [lexemes, itemsOf, numeral.readNumeral_run]
    rfl
  | .numbered word true number _ =>
    simp only [lexemes, itemsOf, numeral.readNumeral_run, number.readNumeral_run]
    rfl
  | .numbered word false number _ =>
    simp only [lexemes, itemsOf, numeral.readNumeral_run, number.readNumeral_run, name,
      unabbreviated_eq]
    rfl

theorem itemsOf_dotted (suffix : Suffix) (first : Numeral) (others : List Numeral) :
    itemsOf (.digits first.run :: dotted others ++ suffix.lexemes) =
      .ok (prependNumbers (first.value :: others.map Numeral.value)
        (suffixItems suffix.name suffix.number)) := by
  induction others generalizing first with
  | nil => exact suffix.itemsOf_lexemes first
  | cons next others ih =>
    have read : dotted (next :: others) = [.dot, .digits next.run] ++ dotted others := rfl
    simp only [read, List.cons_append, List.nil_append, itemsOf, first.readNumeral_run] at ih ⊢
    rw [ih next]
    rfl

theorem Documented.ofText_text (version : Documented) : ofText version.text =
    .ok ⟨version.text, prependNumbers version.numbers
      (suffixItems version.suffix.name version.suffix.number)⟩ := by
  rw [ofText, parse, version.lexemes_text, itemsOf_dotted]
  rfl

/-- A qualifier with a number is no release. -/
theorem Suffix.number_of_release {suffix : Suffix} (release : canonicalName suffix.name = "") :
    suffix.number = 0 := by
  match suffix with
  | .none | .plain _ => rfl
  | .numbered word true _ significant =>
    rw [canonicalName_eq_empty_iff] at release
    exact absurd release (not_or.mpr ⟨word.name_ne_empty, significant⟩)
  | .numbered word false _ significant =>
    have kept : unabbreviated word.name = word.name := by
      rw [name] at release
      unfold unabbreviated at *
      split at release
      · exact absurd release (by decide)
      · exact absurd release (by decide)
      · exact absurd release (by decide)
      · rfl
    rw [name, kept, canonicalName_eq_empty_iff] at release
    exact absurd release (not_or.mpr ⟨word.name_ne_empty, significant⟩)

theorem Documented.compareTexts_eq (left right : Documented) :
    compareTexts left.text right.text = .ok (left.compare right) := by
  rw [Version.compareTexts_eq left.ofText_text right.ofText_text, Version.compare,
    compare_prependNumbers startsNested_suffixItems startsNested_suffixItems,
    compare_suffixItems Suffix.number_of_release Suffix.number_of_release, ← Ordering.then_assoc]
  rfl

theorem Documented.totalPreorderOn : TotalPreorderOn fun text => ∃ version : Documented,
    version.text = text := by
  refine totalPreorderOn_of_apartOn ?_ (apartOn_of_orderly ?_)
  · rintro text ⟨version, rfl⟩
    exact ⟨_, version.ofText_text⟩
  · rintro text read ⟨version, rfl⟩ readText
    cases readText.symm.trans version.ofText_text
    exact (rising_prependNumbers startsNested_suffixItems
      (orderlyItems_suffixItems Suffix.number_of_release) version.numbers).orderly

/-- Documented versions are ordered as documented, those without a suffix by their numbers alone;
the order is total and transitive on them. -/
theorem compareTexts_documented :
    (∀ left right : Documented, compareTexts left.text right.text = .ok (left.compare right)) ∧
      (∀ first first' : Numeral, ∀ others others' : List Numeral,
        compareTexts (Documented.mk first others .none).text
            (Documented.mk first' others' .none).text =
          .ok (comparePadded ((first :: others).map Numeral.value)
            ((first' :: others').map Numeral.value))) ∧
      TotalPreorderOn fun text => ∃ version : Documented, version.text = text := by
  refine ⟨Documented.compareTexts_eq, ?_, Documented.totalPreorderOn⟩
  intro first first' others others'
  rw [Documented.compareTexts_eq]
  simp [Documented.compare, Documented.numbers, Suffix.name, Suffix.number, compareNames]

end MavenResolution.Version
