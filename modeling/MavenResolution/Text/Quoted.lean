import MavenResolution.Text.Printable

/-! Texts in quotes, as `repr` shows them. A text that holds a single quote and no double
quote stands in double quotes, every other one in single quotes. -/
namespace MavenResolution.Text

def hexDigit (n : Nat) : Char := ("0123456789abcdef".toList)[n % 16]?.getD '0'

/-- The last `width` hexadecimal digits of a number. -/
def hex : (width : Nat) → Nat → List Char
  | 0, _ => []
  | width + 1, n => hex width (n / 16) ++ [hexDigit n]

/-- A character between the given quotes. -/
def quotedChar (quote c : Char) : List Char :=
  if c == quote || c == '\\' then ['\\', c]
  else if c == '\t' then ['\\', 't']
  else if c == '\n' then ['\\', 'n']
  else if c == '\r' then ['\\', 'r']
  else if isPrintable c then [c]
  else if c.toNat < 0x100 then ['\\', 'x'] ++ hex 2 c.toNat
  else if c.toNat < 0x10000 then ['\\', 'u'] ++ hex 4 c.toNat
  else ['\\', 'U'] ++ hex 8 c.toNat

def quoteFor (text : List Char) : Char :=
  if text.contains '\'' && !text.contains '"' then '"' else '\''

def quote (text : String) : String :=
  let mark := quoteFor text.toList
  String.ofList ([mark] ++ text.toList.flatMap (quotedChar mark) ++ [mark])

/-- A text in quotes, or the word for a missing one. -/
def quote? : Option String → String
  | some text => quote text
  | none => "None"

/-- A text, or the word for a missing one. -/
def shown : Option String → String
  | some text => text
  | none => "None"

end MavenResolution.Text
