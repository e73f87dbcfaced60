import MavenResolution.Proofs.Text.Ascii
import MavenResolution.Version.Lexeme

/-! How runs of characters are read: a run of digits or of letters makes one lexeme if no character
of its kind follows. -/
namespace MavenResolution.Version

open Text

def Lexeme.startsDigits : List Lexeme → Bool
  | .digits _ :: _ => true
  | _ => false

def Lexeme.startsWord : List Lexeme → Bool
  | .word _ :: _ => true
  | _ => false

theorem not_separator_of_isDigit {c : Char} (digit : isDigit c = true) :
    (c == '.') = false ∧ (c == '-') = false := by
  constructor
  · rw [beq_eq_false_iff_ne]
    rintro rfl
    exact absurd digit (by decide)
  · rw [beq_eq_false_iff_ne]
    rintro rfl
    exact absurd digit (by decide)

theorem isLetter_iff {c : Char} : isLetter c = true ↔
    ((c == '.') = false ∧ (c == '-') = false) ∧ isDigit c = false := by
  simp only [isLetter, Bool.not_eq_true', Bool.or_eq_false_iff]

theorem isLetter_of_isAlpha {c : Char} (alpha : c.isAlpha = true) : isLetter c = true := by
  have bounds := isAlpha_iff_toNat.mp alpha
  have other : ∀ d : Char, d.toNat < 65 → (c == d) = false := by
    intro d below
    rw [beq_eq_false_iff_ne]
    rintro rfl
    omega
  have noDigit : c.isDigit = false := by
    rw [Bool.eq_false_iff, ne_eq, isDigit_iff_toNat]
    omega
  refine isLetter_iff.mpr ⟨⟨other '.' (by decide), other '-' (by decide)⟩, ?_⟩
  rw [isDigit_of_ascii (by omega), noDigit]

theorem Lexeme.cons_digit {c : Char} (digit : isDigit c = true) {rest : List Lexeme}
    (ending : startsDigits rest = false) : Lexeme.cons c rest = .digits [c] :: rest := by
  obtain ⟨dot, hyphen⟩ := not_separator_of_isDigit digit
  simp only [Lexeme.cons, dot, hyphen, digit, if_true, Bool.false_eq_true, if_false]
  match rest with
  | [] | .word _ :: _ | .dot :: _ | .hyphen :: _ => rfl
  | .digits _ :: _ => contradiction

theorem Lexeme.cons_digit_digits {c : Char} (digit : isDigit c = true) (run : List Char)
    (rest : List Lexeme) : Lexeme.cons c (.digits run :: rest) = .digits (c :: run) :: rest := by
  obtain ⟨dot, hyphen⟩ := not_separator_of_isDigit digit
  simp [Lexeme.cons, dot, hyphen, digit]

theorem Lexeme.cons_letter {c : Char} (letter : isLetter c = true) {rest : List Lexeme}
    (ending : startsWord rest = false) : Lexeme.cons c rest = .word [c] :: rest := by
  obtain ⟨⟨dot, hyphen⟩, digit⟩ := isLetter_iff.mp letter
  simp only [Lexeme.cons, dot, hyphen, digit, Bool.false_eq_true, if_false]
  match rest with
  | [] | .digits _ :: _ | .dot :: _ | .hyphen :: _ => rfl
  | .word _ :: _ => contradiction

theorem Lexeme.cons_letter_word {c : Char} (letter : isLetter c = true) (run : List Char)
    (rest : List Lexeme) : Lexeme.cons c (.word run :: rest) = .word (c :: run) :: rest := by
  obtain ⟨⟨dot, hyphen⟩, digit⟩ := isLetter_iff.mp letter
  simp [Lexeme.cons, dot, hyphen, digit]

theorem lexemes_dot (rest : List Char) : lexemes ('.' :: rest) = .dot :: lexemes rest := rfl

theorem lexemes_hyphen (rest : List Char) : lexemes ('-' :: rest) = .hyphen :: lexemes rest := rfl

theorem lexemes_digits_append {run : List Char} (digits : ∀ c ∈ run, isDigit c = true)
    (nonempty : run ≠ []) {rest : List Char} (ending : Lexeme.startsDigits (lexemes rest) = false) :
    lexemes (run ++ rest) = .digits run :: lexemes rest := by
  induction run with
  | nil => exact absurd rfl nonempty
  | cons c others ih =>
    obtain ⟨digit, digits⟩ := List.forall_mem_cons.mp digits
    cases others with
    | nil => exact Lexeme.cons_digit digit ending
    | cons =>
      rw [List.cons_append, lexemes, ih digits (List.cons_ne_nil _ _),
        Lexeme.cons_digit_digits digit]

theorem lexemes_word_append {run : List Char} (letters : ∀ c ∈ run, isLetter c = true)
    (nonempty : run ≠ []) {rest : List Char} (ending : Lexeme.startsWord (lexemes rest) = false) :
    lexemes (run ++ rest) = .word run :: lexemes rest := by
  induction run with
  | nil => exact absurd rfl nonempty
  | cons c others ih =>
    obtain ⟨letter, letters⟩ := List.forall_mem_cons.mp letters
    cases others with
    | nil => exact Lexeme.cons_letter letter ending
    | cons =>
      rw [List.cons_append, lexemes, ih letters (List.cons_ne_nil _ _),
        Lexeme.cons_letter_word letter]

theorem lexemes_digits {run : List Char} (digits : ∀ c ∈ run, isDigit c = true)
    (nonempty : run ≠ []) : lexemes run = [.digits run] := by
  have read : lexemes (run ++ []) = .digits run :: lexemes [] :=
    lexemes_digits_append digits nonempty rfl
  rwa [List.append_nil] at read

theorem lexemes_word {run : List Char} (letters : ∀ c ∈ run, isLetter c = true)
    (nonempty : run ≠ []) : lexemes run = [.word run] := by
  have read : lexemes (run ++ []) = .word run :: lexemes [] :=
    lexemes_word_append letters nonempty rfl
  rwa [List.append_nil] at read

end MavenResolution.Version
