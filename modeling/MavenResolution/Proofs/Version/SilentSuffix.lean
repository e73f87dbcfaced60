import MavenResolution.Proofs.Version.DocumentedOrder
import MavenResolution.Proofs.Version.Equality
import MavenResolution.Proofs.Version.Exchange
import MavenResolution.Proofs.Version.Operators
import MavenResolution.Proofs.Version.Runs

/-! Suffixes that say nothing: zeros and names of the plain release, each behind a dot or a hyphen. Whatever
version they are put behind, its items stay as they are. -/
namespace MavenResolution.Version

open Text

/-- What says no more than nothing: zero, or the plain release in any case. -/
inductive Filler where
  | zero
  | release (word : Word) (named : word.name ∈ ["ga", "final", "release"])

structure SilentSuffix where
  hyphen : Bool
  filler : Filler

namespace Filler

def text : Filler → List Char
  | .zero => ['0']
  | .release word _ => word.run

def lexeme : Filler → Lexeme
  | .zero => .digits ['0']
  | .release word _ => .word word.small

theorem ascii (filler : Filler) : ∀ c ∈ filler.text, c.toNat < 128 := by
  cases filler with
  | zero => simp [text]
  | release word => exact word.ascii

theorem lexemes_map_toLower (filler : Filler) :
    lexemes (filler.text.map Char.toLower) = [filler.lexeme] := by
  cases filler with
  | zero => rfl
  | release word => exact lexemes_word word.isLetter_of_mem word.small_ne_nil

/-- In front of what says nothing, a filler says nothing either. -/
theorem itemsOf_lexeme (filler : Filler) {rest : List Lexeme} (exchange : Exchange Eq rest []) :
    itemsOf (filler.lexeme :: rest) = .ok [] := by
  have border : startsRun rest = false := exchange.border
  have behind : itemsBehind rest = .ok [] := exceptRel_eq_iff.mp exchange.behind
  cases filler with
  | zero =>
    rw [lexeme, itemsOf_digits, behind]
    rfl
  | release word named =>
    have plain : canonicalName word.name = "" := canonicalName_eq_empty_iff.mpr (.inr named)
    have name : qualifierOf word.small false = "" := plain
    rw [lexeme, itemsOf_word, border, behind, name]
    rfl

end Filler

namespace SilentSuffix

def separator (suffix : SilentSuffix) : Char := if suffix.hyphen then '-' else '.'

def text (suffix : SilentSuffix) : List Char := suffix.separator :: suffix.filler.text

def lexemes (suffix : SilentSuffix) : List Lexeme :=
  [if suffix.hyphen then .hyphen else .dot, suffix.filler.lexeme]

theorem separator_cases (suffix : SilentSuffix) : suffix.separator = '.' ∨ suffix.separator = '-' := by
  unfold separator
  split
  · exact .inr rfl
  · exact .inl rfl

theorem ascii (suffix : SilentSuffix) : ∀ c ∈ suffix.text, c.toNat < 128 := by
  rw [text, List.forall_mem_cons]
  refine ⟨?_, suffix.filler.ascii⟩
  obtain same | same := suffix.separator_cases <;> rw [same] <;> decide

/-- Behind anything, a suffix begins a lexeme of its own. -/
theorem parted (front : List Char) (suffixes : List SilentSuffix) :
    Parted front ((suffixes.flatMap text).map Char.toLower) := by
  cases suffixes with
  | nil => exact fun _ _ _ => nofun
  | cons suffix rest =>
    have small : suffix.separator.toLower = suffix.separator := by
      obtain same | same := suffix.separator_cases <;> rw [same] <;> rfl
    rw [List.flatMap_cons, text, List.cons_append, List.map_cons, small]
    exact parted_of_separator suffix.separator_cases front _

theorem lexemes_flatMap (suffixes : List SilentSuffix) :
    Version.lexemes ((suffixes.flatMap text).map Char.toLower) = suffixes.flatMap lexemes := by
  induction suffixes with
  | nil => rfl
  | cons suffix rest ih =>
    have filled := lexemes_append (parted (suffix.filler.text.map Char.toLower) rest)
    rw [suffix.filler.lexemes_map_toLower, ih] at filled
    rw [List.flatMap_cons, List.flatMap_cons, text, List.cons_append, List.map_cons, List.map_append, separator,
      lexemes]
    cases suffix.hyphen with
    | true => exact congrArg (Lexeme.hyphen :: ·) filled
    | false => exact congrArg (Lexeme.dot :: ·) filled

/-- Suffixes may be exchanged for nothing. -/
theorem exchange (suffixes : List SilentSuffix) : Exchange Eq (suffixes.flatMap lexemes) [] := by
  induction suffixes with
  | nil => exact ⟨.ok rfl, .ok rfl, rfl⟩
  | cons suffix rest ih =>
    have filled := suffix.filler.itemsOf_lexeme ih
    rw [List.flatMap_cons, lexemes, List.cons_append, List.cons_append, List.nil_append]
    cases suffix.hyphen with
    | true =>
      refine ⟨?_, ?_, rfl⟩ <;> rw [exceptRel_eq_iff]
      · simp only [if_true, itemsOf_hyphen, itemsBehind, filled]
        rfl
      · simp only [if_true, itemsBehind, filled]
        rfl
    | false =>
      refine ⟨?_, ?_, rfl⟩ <;> rw [exceptRel_eq_iff]
      · simp only [Bool.false_eq_true, if_false, itemsOf_dot, itemsBehind, filled]
        rfl
      · simp only [Bool.false_eq_true, if_false, itemsBehind, filled]

end SilentSuffix

/-- A text with suffixes behind it. -/
def followed (text : String) (suffixes : List SilentSuffix) : String :=
  text ++ String.ofList (suffixes.flatMap SilentSuffix.text)

theorem parse_followed {text : String} (ascii : ∀ c ∈ text.toList, c.toNat < 128)
    (suffixes : List SilentSuffix) : parse (followed text suffixes) = parse text := by
  have whole : ∀ c ∈ (followed text suffixes).toList, c.toNat < 128 := by
    rw [followed, String.toList_append, String.toList_ofList, List.forall_mem_append]
    refine ⟨ascii, fun c member => ?_⟩
    obtain ⟨suffix, _, member⟩ := List.mem_flatMap.mp member
    exact suffix.ascii c member
  rw [parse, parse, lowercase_of_ascii whole, lowercase_of_ascii ascii, followed, String.toList_append,
    String.toList_ofList, List.map_append, lexemes_append (SilentSuffix.parted _ suffixes),
    SilentSuffix.lexemes_flatMap, (SilentSuffix.exchange suffixes).itemsOf_append_eq, List.append_nil]

/-! Comparing texts goes through their items only. -/

theorem compareTexts_eq_parse (left right : String) :
    compareTexts left right = parse left >>= fun items => compareItems items <$> parse right := by
  unfold compareTexts ofText
  cases parse left with
  | error fault => rfl
  | ok items => cases parse right <;> rfl

theorem compareTexts_congr {left left' right right' : String} (leftAlike : parse left = parse left')
    (rightAlike : parse right = parse right') : compareTexts left right = compareTexts left' right' := by
  rw [compareTexts_eq_parse, compareTexts_eq_parse, leftAlike, rightAlike]

/-- Suffixes that say nothing leave the items of a version as they are, and with them the text of the items and
what the version compares as, whichever version it is compared with. -/
theorem items_of_followed {text : String} (ascii : ∀ c ∈ text.toList, c.toNat < 128) {version : Version}
    (read : ofText text = .ok version) (suffixes : List SilentSuffix) :
    (∃ same, ofText (followed text suffixes) = .ok same ∧ same.items = version.items ∧
      same.canonical = version.canonical ∧ same.equals version = true ∧ version.equals same = true) ∧
    ∀ other, compareTexts (followed text suffixes) other = compareTexts text other ∧
      compareTexts other (followed text suffixes) = compareTexts other text := by
  have alike := parse_followed ascii suffixes
  have reread := ofText_of_parse (alike.trans (parse_of_ofText read))
  have equal := equals_iff.mpr (compareItems_self version.items)
  refine ⟨⟨_, reread, rfl, rfl, equal, equal⟩, fun other => ?_⟩
  exact ⟨compareTexts_congr alike rfl, compareTexts_congr rfl alike⟩

/-- A release and a zero behind a version that ends in a number behind a qualifier. -/
theorem items_of_followed_candidate :
    let release : Word := ⟨"FINAL".toList, by simp, by simp⟩
    let suffixes : List SilentSuffix := [⟨false, .release release (by decide)⟩, ⟨true, .zero⟩]
    followed "1-RC2" suffixes = "1-RC2.FINAL-0" ∧
      (∃ same, ofText (followed "1-RC2" suffixes) = .ok same ∧
        same.canonical = "[1, [rc, [2]]]") ∧
      compareTexts (followed "1-RC2" suffixes) "1-rc3" = compareTexts "1-RC2" "1-rc3" := by
  intro release suffixes
  have read : ofText "1-RC2" =
      .ok ⟨"1-RC2", [.number 1, .nested [.qualifier "rc", .nested [.number 2]]]⟩ := rfl
  obtain ⟨⟨same, reread, -, canonical, -⟩, compared⟩ := items_of_followed (by simp) read suffixes
  exact ⟨by decide, ⟨same, reread, canonical.trans rfl⟩, (compared "1-rc3").1⟩

end MavenResolution.Version
