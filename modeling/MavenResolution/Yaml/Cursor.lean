/-! Places in configuration documents. Where a thing stands, line and column, says what it belongs
to. -/
namespace MavenResolution.Yaml

/-- What is left of a text, and where it stands. -/
structure Cursor where
  rest : List Char
  line : Nat := 0
  column : Nat := 0
  deriving Repr

def isBreak (c : Char) : Bool :=
  c == '\n' || c == '\x85' || c == '\u2028' || c == '\u2029'

/-- The end of the text, white space or the end of a line. -/
def isStop : Option Char → Bool
  | none => true
  | some c => c == ' ' || c == '\t' || isBreak c

/-- A line end as it is kept in texts. -/
def keptBreak (c : Char) : Char := if c == '\x85' then '\n' else c

namespace Cursor

/-- Behind the next character. -/
def next (cursor : Cursor) : Cursor :=
  match cursor.rest with
  | [] => cursor
  | c :: rest =>
    if isBreak c then ⟨rest, cursor.line + 1, 0⟩ else ⟨rest, cursor.line, cursor.column + 1⟩

/-- Behind some more characters of the line. -/
def along (cursor : Cursor) (rest : List Char) : Cursor :=
  { cursor with rest, column := cursor.column + (cursor.rest.length - rest.length) }

def head? (cursor : Cursor) : Option Char := cursor.rest.head?

/-- Behind blanks, line ends and comments. -/
def skipFrom (inComment : Bool) (line column : Nat) : List Char → Cursor
  | [] => ⟨[], line, column⟩
  | c :: rest =>
    if isBreak c then skipFrom false (line + 1) 0 rest
    else if inComment then skipFrom true line (column + 1) rest
    else if c == ' ' then skipFrom false line (column + 1) rest
    else if c == '#' then skipFrom true line (column + 1) rest
    else ⟨c :: rest, line, column⟩

def skip (cursor : Cursor) : Cursor := skipFrom false cursor.line cursor.column cursor.rest

/-- A mark of three characters stands at the start of a line. -/
def isMarker (cursor : Cursor) (mark : String) : Bool :=
  cursor.column == 0 && mark.toList.isPrefixOf cursor.rest && isStop (cursor.rest.drop 3).head?

/-- A document begins or ends here. -/
def isBoundary (cursor : Cursor) : Bool := cursor.isMarker "---" || cursor.isMarker "..."

/-- Nothing of the document is left. -/
def isAtEnd (cursor : Cursor) : Bool := cursor.rest.isEmpty || cursor.isBoundary

/-- A mark stands here with white space behind it. -/
def isMark (cursor : Cursor) (mark : Char) : Bool :=
  cursor.head? == some mark && isStop (cursor.rest.drop 1).head?

end Cursor
end MavenResolution.Yaml
