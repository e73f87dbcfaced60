import MavenResolution.Constraint.Interval
import MavenResolution.Text.Quoted

/-! Npm ranges. A constraint that is a range is written as one and handed to `NpmSpec` of
`semantic_version`, which is no part of this library: it is a parameter of all that is said about
ranges. Here is how ranges are written, and a reader of the ranges that are. -/
namespace MavenResolution.Constraint

open Text

inductive Operator where
  | atLeast
  | below
  | atMost
  | tilde
  | caret
  deriving DecidableEq, Repr

def Operator.text : Operator → List Char
  | .atLeast => ['>', '=']
  | .below => ['<']
  | .atMost => ['<', '=']
  | .tilde => ['~']
  | .caret => ['^']

/-- An operator in front of the segments of a version, as they are written. -/
structure Block where
  operator : Operator
  segments : List (List Char)
  deriving DecidableEq, Repr

def Block.text (block : Block) : List Char := block.operator.text ++ ['.'].intercalate block.segments

/-- Blocks with blanks between them. -/
def rangeText (blocks : List Block) : String := String.ofList ([' '].intercalate (blocks.map Block.text))

/-- An operator in front of numbers. -/
def Block.write (operator : Operator) (numbers : List Nat) : Except NumeralError Block :=
  return ⟨operator, (← numbers.mapM writeNumeral).map String.toList⟩

/-- What `NpmSpec` makes of a text: the versions of three segments that match it, or the message of a
`ValueError`. -/
abbrev NpmSpec := String → Except String (Triple → Bool)

/-- A number without needless zeros, in ASCII digits. -/
def isPlain : List Char → Bool
  | [] => false
  | ['0'] => true
  | c :: rest => '1' ≤ c && c ≤ '9' && rest.all Char.isDigit

namespace NpmSpec

def takeOperator : List Char → Option (Operator × List Char)
  | '>' :: '=' :: rest => some (.atLeast, rest)
  | '<' :: '=' :: rest => some (.atMost, rest)
  | '<' :: rest => some (.below, rest)
  | '~' :: rest => some (.tilde, rest)
  | '^' :: rest => some (.caret, rest)
  | _ => none

/-- The block that a text is, with numbers that are written plainly. -/
def block? (text : List Char) : Option Block := do
  let (operator, rest) ← takeOperator text
  let segments := rest.splitOn '.'
  guard (segments.length ≤ 3 && segments.all isPlain)
  return ⟨operator, segments⟩

/-- The versions that an operator in front of numbers stands for. -/
def holds (operator : Operator) (numbers : List Nat) (triple : Triple) : Bool :=
  match operator with
  | .atLeast => (Triple.ofList numbers).compare triple != .gt
  | .below => (Upper.below (Triple.ofList numbers)).allows triple
  | .atMost =>
    (if numbers.length = 3 then Upper.upTo (Triple.ofList numbers)
      else .below (Interval.above numbers)).allows triple
  | .tilde => (Interval.tilde numbers).contains triple
  | .caret => (Interval.caret numbers).contains triple

def readBlock (range : String) (text : List Char) : Except String (Triple → Bool) :=
  match block? text with
  | none =>
    .error ("Invalid NPM block in " ++ quote range ++ ": " ++ quote (String.ofList text))
  | some block => do
    return holds block.operator (← (block.segments.mapM readNumeral).mapError NumeralError.message)

/-- Reads the ranges that are written here. Other ranges of npm, with wildcards, labels of prereleases
or alternatives, are refused. -/
def read : NpmSpec := fun range => do
  let blocks ← (range.toList.splitOn ' ').mapM (readBlock range)
  return fun triple => blocks.all fun matches? => matches? triple

end NpmSpec
end MavenResolution.Constraint
