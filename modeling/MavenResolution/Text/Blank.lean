import MavenResolution.Text.Ranges

/-! White space and its removal from the ends of a text. -/
namespace MavenResolution.Text

/-- The white space outside ASCII. -/
def wideBlanks : List (Nat × Nat) :=
  [(0x85, 0x85), (0xa0, 0xa0), (0x1680, 0x1680), (0x2000, 0x200a), (0x2028, 0x2029),
    (0x202f, 0x202f), (0x205f, 0x205f), (0x3000, 0x3000)]

/-- White space: the blank, the controls from tab to carriage return, the four separators
before the blank, and the spaces of other scripts. -/
def isBlank (c : Char) : Bool :=
  if c.toNat < 128 then
    c == ' ' || (9 ≤ c.toNat && c.toNat ≤ 13) || (28 ≤ c.toNat && c.toNat ≤ 31)
  else inRanges wideBlanks c

def dropBlanks (text : List Char) : List Char := text.dropWhile isBlank

def dropBlanksEnd (text : List Char) : List Char := (text.reverse.dropWhile isBlank).reverse

/-- The characters of a text without the white space at its ends. -/
def trim (text : List Char) : List Char := dropBlanksEnd (dropBlanks text)

/-- A text without the white space at its ends. -/
def strip (text : String) : String := String.ofList (trim text.toList)

/-- A text without the white space at its ends, if anything is left. -/
def strip? (text : String) : Option String :=
  match trim text.toList with
  | [] => none
  | c :: rest => some (String.ofList (c :: rest))

end MavenResolution.Text
