import MavenResolution.Text.Digit

/-! The lexemes of a version text: maximal runs of digits, maximal runs of other characters,
and the two separators. -/
namespace MavenResolution.Version

open Text

inductive Lexeme where
  | digits (run : List Char)
  | word (run : List Char)
  | dot
  | hyphen
  deriving DecidableEq, Repr

/-- A character that belongs to a word: neither a digit nor a separator. -/
def isLetter (c : Char) : Bool := !(c == '.' || c == '-' || isDigit c)

/-- A lexeme put in front of others; a run that starts with the same kind of character takes the
new character in. -/
def Lexeme.cons (c : Char) (rest : List Lexeme) : List Lexeme :=
  if c == '.' then .dot :: rest
  else if c == '-' then .hyphen :: rest
  else if isDigit c then
    match rest with
    | .digits run :: others => .digits (c :: run) :: others
    | _ => .digits [c] :: rest
  else
    match rest with
    | .word run :: others => .word (c :: run) :: others
    | _ => .word [c] :: rest

def lexemes : List Char → List Lexeme
  | [] => []
  | c :: rest => Lexeme.cons c (lexemes rest)

def Lexeme.text : Lexeme → List Char
  | .digits run => run
  | .word run => run
  | .dot => ['.']
  | .hyphen => ['-']

theorem Lexeme.flatMap_text_cons (c : Char) (rest : List Lexeme) :
    (Lexeme.cons c rest).flatMap Lexeme.text = c :: rest.flatMap Lexeme.text := by
  unfold Lexeme.cons
  split
  · simp_all [Lexeme.text]
  · split
    · simp_all [Lexeme.text]
    · split <;> split <;> simp [Lexeme.text]

/-- Lexemes lose nothing of the text. -/
theorem flatMap_text_lexemes (text : List Char) :
    (lexemes text).flatMap Lexeme.text = text := by
  induction text with
  | nil => rfl
  | cons c rest ih => rw [lexemes, Lexeme.flatMap_text_cons, ih]

end MavenResolution.Version
