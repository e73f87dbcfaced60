import MavenResolution.Constraint.Npm
import MavenResolution.Pattern.Parse
import MavenResolution.Version.Basic

/-! The dialects in which a constraint may be written, and what a constraint of each allows. -/
namespace MavenResolution.Constraint

open Text

inductive Dialect where
  | exact
  | tilde
  | caret
  | xRange
  | hyphen
  | latestPatch
  | latestRelease
  deriving DecidableEq, Repr

/-- The dialects in the order in which they are tried. -/
def Dialect.all : List Dialect :=
  [.exact, .tilde, .caret, .xRange, .hyphen, .latestPatch, .latestRelease]

def Dialect.name : Dialect → String
  | .exact => "exact version"
  | .tilde => "tilde range"
  | .caret => "caret range"
  | .xRange => "x-range"
  | .hyphen => "hyphen range"
  | .latestPatch => "latest patch"
  | .latestRelease => "latest release"

/-- Which candidates a constraint allows. -/
inductive Rule where
  /-- The version written in the constraint. -/
  | same
  /-- The versions of which the first three segments match a range. -/
  | within (holds : Triple → Bool)
  /-- The versions that share major and minor number with the current one. -/
  | samePatchLine
  | any

/-- Why a text is no constraint of a dialect. -/
inductive Reason where
  | notDialect (dialect : Dialect)
  | wildcardSegment
  | hyphenRange
  | patternNotSupported
  | noWildcard
  | fixedAfterWildcard
  deriving DecidableEq, Repr

def Reason.message : Reason → String
  | .notDialect .exact => "is not an exact version"
  | .notDialect .tilde => "is not a tilde range"
  | .notDialect .caret => "is not a caret range"
  | .notDialect .xRange => "is not an x-range"
  | .notDialect .hyphen => "is not a hyphen range"
  | .notDialect .latestPatch => "is not latest.patch"
  | .notDialect .latestRelease => "is not latest.release"
  | .wildcardSegment => "contains a wildcard segment"
  | .hyphenRange => "is a hyphen range"
  | .patternNotSupported => "is not supported for exact versions"
  | .noWildcard => "has no wildcard segment"
  | .fixedAfterWildcard => "has a fixed segment after a wildcard"

/-- What stops the reading of a text that has the form of a constraint. -/
inductive Fault where
  | numeral (error : NumeralError)
  /-- What `NpmSpec` raises for a range. -/
  | range (message : String)
  | pattern (text : String) (fault : Pattern.Fault)
  deriving DecidableEq, Repr

def Fault.message : Fault → String
  | .numeral error => error.message
  | .range message => message
  | .pattern text fault => fault.message text

/-- The end of a text, or the line feed that ends it. -/
def isEnd (text : List Char) : Bool := text == [] || text == ['\n']

/-- A run of decimal digits, and the text behind it. -/
def takeRun (text : List Char) : Option (List Char × List Char) :=
  match text.takeWhile isDecimal with
  | [] => none
  | c :: run => some (c :: run, text.dropWhile isDecimal)

/-- Up to `most` runs of digits, each behind a dot, and the text behind them. -/
def takeSegments : (most : Nat) → List Char → List (List Char) × List Char
  | most + 1, '.' :: rest =>
    match takeRun rest with
    | some (run, rest) =>
      let (runs, rest) := takeSegments most rest
      (run :: runs, rest)
    | none => ([], '.' :: rest)
  | _, text => ([], text)

/-- One to three runs of digits separated by dots, and the text behind them. -/
def takeVersion (text : List Char) : Option (List (List Char) × List Char) :=
  (takeRun text).map fun (run, rest) =>
    let (runs, rest) := takeSegments 2 rest
    (run :: runs, rest)

/-- The segments behind a sign, if nothing else follows. -/
def signed? (sign : Char) : List Char → Option (List (List Char))
  | c :: rest =>
    if c == sign then
      match takeVersion (dropBlanks rest) with
      | some (runs, rest) => if isEnd rest then some runs else none
      | none => none
    else none
  | [] => none

/-- The segments on both sides of a hyphen, if nothing else follows. -/
def hyphenated? (text : List Char) : Option (List (List Char) × List (List Char)) :=
  match takeVersion text with
  | none => none
  | some (lower, rest) =>
    match dropBlanks rest with
    | '-' :: rest =>
      match takeVersion (dropBlanks rest) with
      | some (upper, rest) => if isEnd rest then some (lower, upper) else none
      | none => none
    | _ => none

/-- A segment of a constraint with wildcards; `none` is a wildcard. -/
abbrev Segment := Option (List Char)

def isWildcard (c : Char) : Bool := c == 'x' || c == 'X' || c == '*'

def takeSegment : List Char → Option (Segment × List Char)
  | c :: rest =>
    if isWildcard c then some (none, rest)
    else (takeRun (c :: rest)).map fun (run, rest) => (some run, rest)
  | [] => none

/-- Up to `most` segments, each behind a dot, if nothing else follows. -/
def furtherSegments : (most : Nat) → List Char → Option (List Segment)
  | most + 1, '.' :: rest =>
    match takeSegment rest with
    | some (segment, rest) => (furtherSegments most rest).map (segment :: ·)
    | none => none
  | _, text => if isEnd text then some [] else none

/-- One to three segments separated by dots, if nothing else follows. -/
def wildcarded? (text : List Char) : Option (List Segment) :=
  match takeSegment text with
  | some (segment, rest) => (furtherSegments 2 rest).map (segment :: ·)
  | none => none

def isVersionChar (c : Char) : Bool := isWord c || c == '.' || c == '-' || c == '+'

/-- A digit and characters of versions, if nothing else follows. -/
def isExact : List Char → Bool
  | c :: rest => isDecimal c && isEnd (rest.dropWhile isVersionChar)
  | [] => false

/-- The pieces of a text between dots. -/
def dotted (text : List Char) : List (List Char) :=
  match text with
  | [] => [[]]
  | c :: rest =>
    if c == '.' then [] :: dotted rest
    else match dotted rest with
      | piece :: pieces => (c :: piece) :: pieces
      | [] => [[c]]

def isWildcardSegment : List Char → Bool
  | [c] => isWildcard c
  | _ => false

def numbers (runs : List (List Char)) : Except Fault (List Nat) :=
  (runs.mapM readNumeral).mapError .numeral

/-- What a text means in a dialect: a rule, or the reasons why it is no constraint. -/
abbrev Reading := Except Reason Rule

def readExact (text : List Char) (hasPattern : Bool) : Reading :=
  if !isExact text then .error (.notDialect .exact)
  else if (dotted text).any isWildcardSegment then .error .wildcardSegment
  else if (hyphenated? text).isSome then .error .hyphenRange
  else if hasPattern then .error .patternNotSupported
  else .ok .same

/-- What constraints are read with beside their dialects: `re.compile` and `NpmSpec`. -/
structure Tools where
  compile : Pattern.Compiler := Pattern.compile
  npm : NpmSpec := NpmSpec.read

/-- The pattern that candidates have to fit, if one is given. -/
def Tools.compilePattern (tools : Tools) : Option String → Except Fault (Option Pattern)
  | none => .ok none
  | some text => (tools.compile text).map (some ⟨text, ·⟩) |>.mapError (.pattern text)

def block (operator : Operator) (numbers : List Nat) : Except Fault Block :=
  (Block.write operator numbers).mapError .numeral

/-- The range of all versions that start with the given segments. -/
def startingWith : List Nat → Except Fault (List Block)
  | [] => return [← block .atLeast [0, 0, 0]]
  | [major] => return [← block .atLeast [major, 0, 0], ← block .below [major + 1, 0, 0]]
  | major :: minor :: _ =>
    return [← block .atLeast [major, minor, 0], ← block .below [major, minor + 1, 0]]

/-- Segments up to the third one, zero where none is given. -/
def pad (segments : List Nat) : List Nat := (segments ++ [0, 0, 0]).take 3

/-- An upper bound that is not given in full allows all versions that start with it. -/
def upperBound (segments : List Nat) : Except Fault Block :=
  if segments.length = 3 then block .atMost (pad segments)
  else block .below (pad (segments.modify (segments.length - 1) (· + 1)))

/-- A range from one version to another. -/
def between (lower upper : List Nat) : Except Fault (List Block) :=
  return [← block .atLeast (pad lower), ← upperBound upper]

/-- A range that is written, and the pattern that candidates have to fit. The pattern is compiled
before the range is read. -/
def Tools.allow (tools : Tools) (pattern : Option String) (range : List Block) :
    Except Fault (Reading × Option Pattern) := do
  let pattern ← tools.compilePattern pattern
  let holds ← (tools.npm (rangeText range)).mapError .range
  return (.ok (.within holds), pattern)

/-- What a text means in a dialect of ranges. -/
def readRange (tools : Tools) (dialect : Dialect) (text : List Char) (pattern : Option String) :
    Except Fault (Reading × Option Pattern) :=
  let refuse (reason : Reason) := Except.ok (Except.error reason, none)
  match dialect with
  | .tilde =>
    match signed? '~' text with
    | none => refuse (.notDialect .tilde)
    | some runs => tools.allow pattern [⟨.tilde, runs⟩]
  | .caret =>
    match signed? '^' text with
    | none => refuse (.notDialect .caret)
    | some runs => tools.allow pattern [⟨.caret, runs⟩]
  | .xRange =>
    match wildcarded? text with
    | none => refuse (.notDialect .xRange)
    | some segments =>
      let fixed := (segments.takeWhile Option.isSome).filterMap id
      let rest := segments.dropWhile Option.isSome
      if rest.isEmpty then refuse .noWildcard
      else if rest.any Option.isSome then refuse .fixedAfterWildcard
      else do tools.allow pattern (← startingWith (← numbers fixed))
  | .hyphen =>
    match hyphenated? text with
    | none => refuse (.notDialect .hyphen)
    | some (lower, upper) => do
      tools.allow pattern (← between (← numbers lower) (← numbers upper))
  | dialect => refuse (.notDialect dialect)

/-- What a text means in a dialect, with the pattern that candidates have to fit. -/
def read (tools : Tools) (dialect : Dialect) (text : String) (pattern : Option String) :
    Except Fault (Reading × Option Pattern) :=
  match dialect with
  | .exact => .ok (readExact text.toList pattern.isSome, none)
  | .latestPatch =>
    if text = "latest.patch" then do return (.ok .samePatchLine, ← tools.compilePattern pattern)
    else .ok (.error (.notDialect .latestPatch), none)
  | .latestRelease =>
    if text = "latest.release" then do return (.ok .any, ← tools.compilePattern pattern)
    else .ok (.error (.notDialect .latestRelease), none)
  | dialect => readRange tools dialect text.toList pattern

end MavenResolution.Constraint
