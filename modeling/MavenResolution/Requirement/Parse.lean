import MavenResolution.Coordinate
import MavenResolution.Log
import MavenResolution.Requirement.Basic
import MavenResolution.Requirement.Token

/-! Requirements read from their texts. A range set that is not well formed is cut off at its
first fault, which is reported; the ranges in front of it hold. -/
namespace MavenResolution.Requirement

open Text

inductive Problem where
  | unexpectedEnd
  | expectedVersion (found : Symbol)
  | expectedOpening (found : Symbol)
  | expectedClosing (found : Symbol)
  | expectedComma
  deriving DecidableEq, Repr

def Problem.message : Problem → String
  | .unexpectedEnd => "unexpected end of input"
  | .expectedVersion found => "expected a version, found '" ++ found.text ++ "'"
  | .expectedOpening found => "expected '[' or '(', found '" ++ found.text ++ "'"
  | .expectedClosing found => "expected ']' or ')', found '" ++ found.text ++ "'"
  | .expectedComma => "expected ',' between ranges"

/-- What is wrong, and the column of the token where it shows. -/
structure SyntaxFault where
  column : Nat
  problem : Problem
  deriving DecidableEq, Repr

/-- The next token's symbol; past the last one the fault lies at `ending`. -/
def take (ending : Nat) : List Token → Except SyntaxFault (Token × List Token)
  | [] => .error ⟨ending, .unexpectedEnd⟩
  | token :: rest => .ok (token, rest)

def parseVersion (ending : Nat) (tokens : List Token) : Except SyntaxFault (String × List Token) := do
  let (token, rest) ← take ending tokens
  match token.symbol with
  | .version text => return (text, rest)
  | found => throw ⟨token.column, .expectedVersion found⟩

/-- The upper bound behind a comma, unless the range ends there. -/
def parseUpper : List Token → Option String × List Token
  | ⟨.version text, _⟩ :: rest => (some text, rest)
  | tokens => (none, tokens)

/-- The bounds of a range: a lone version is both, and only one side of a comma may be empty. -/
def parseBounds (ending : Nat) (tokens : List Token) :
    Except SyntaxFault ((Option String × Option String) × List Token) :=
  match tokens with
  | ⟨.comma, _⟩ :: rest => do
    let (upper, rest) ← parseVersion ending rest
    return ((none, some upper), rest)
  | _ => do
    let (lower, rest) ← parseVersion ending tokens
    match rest with
    | ⟨.comma, _⟩ :: rest =>
      let (upper, rest) := parseUpper rest
      return ((some lower, upper), rest)
    | _ => return ((some lower, some lower), rest)

def parseRange (ending : Nat) (tokens : List Token) :
    Except SyntaxFault (Range × List Token) := do
  let (opener, rest) ← take ending tokens
  match opener.symbol with
  | .opening lowerClosed =>
    let ((lower, upper), rest) ← parseBounds ending rest
    let (closer, rest) ← take ending rest
    match closer.symbol with
    | .closing upperClosed => return (⟨lower, lowerClosed, upper, upperClosed⟩, rest)
    | found => throw ⟨closer.column, .expectedClosing found⟩
  | found => throw ⟨opener.column, .expectedOpening found⟩

/-- The ranges up to the end or the first fault. Every range takes tokens, so that `fuel` tokens
hold fewer than `fuel + 1` of them. -/
def parseRanges (ending : Nat) : (fuel : Nat) → List Token → List Range × Option SyntaxFault
  | 0, _ => ([], none)
  | fuel + 1, tokens =>
    match parseRange ending tokens with
    | .error fault => ([], some fault)
    | .ok (range, []) => ([range], none)
    | .ok (range, ⟨.comma, _⟩ :: rest) =>
      let (others, fault) := parseRanges ending fuel rest
      (range :: others, fault)
    | .ok (range, token :: _) => ([range], some ⟨token.column, .expectedComma⟩)

/-- The column behind the last token. -/
def endingColumn (tokens : List Token) : Nat :=
  match tokens.getLast? with
  | some token => token.column + 1
  | none => 0

/-- A text with a closing bracket put behind it if it has none. -/
def closed (text : List Char) : List Char :=
  if text.contains ']' || text.contains ')' then text else text ++ [']']

/-- A fault together with the text that it was found in. -/
structure RangeFault where
  text : String
  fault : SyntaxFault
  deriving DecidableEq, Repr

def RangeFault.message (fault : RangeFault) (owner : Option ModuleId) : String :=
  "Syntax error at line 1:" ++ toString fault.fault.column ++ " " ++
    fault.fault.problem.message ++ " in version range '" ++ fault.text ++ "'" ++
    match owner with
    | some id => " for " ++ id.text
    | none => ""

def RangeFault.entry (fault : RangeFault) (owner : Option ModuleId) : Log.Entry :=
  Log.warning .ranges (fault.message owner)

def parseRangeSet (text : String) : RangeSet × Option RangeFault :=
  let text := closed text.toList
  let tokens := tokens text
  let (read, fault) := parseRanges (endingColumn tokens) (tokens.length + 1) tokens
  (⟨read⟩, fault.map (⟨String.ofList text, ·⟩))

def parse (text : String) : Requirement × Option RangeFault :=
  let text := strip text
  if text = "LATEST" then (.dynamic .latest, none)
  else if text = "RELEASE" then (.dynamic .release, none)
  else if text.toList.contains '[' || text.toList.contains '(' then
    let (set, fault) := parseRangeSet text
    (.ranges set, fault)
  else (.exact text, none)

end MavenResolution.Requirement
