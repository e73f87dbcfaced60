import MavenResolution.Text.Blank
import MavenResolution.Text.Casing
import MavenResolution.Text.Numeral

/-! The parts of a version: a numeric core of up to four segments and what follows it. -/
namespace MavenResolution

open Text

/-- The numbers at the front of a version; segments that are not written count as zero. -/
structure Core where
  major : Nat
  minor : Nat
  patch : Nat
  extra : Nat
  deriving DecidableEq, Repr

namespace Core

def toList (core : Core) : List Nat := [core.major, core.minor, core.patch, core.extra]

def ofList (segments : List Nat) : Core :=
  ⟨segments[0]?.getD 0, segments[1]?.getD 0, segments[2]?.getD 0, segments[3]?.getD 0⟩

/-- Cores compare segment by segment. -/
def compare (left right : Core) : Ordering :=
  (((Ord.compare left.major right.major).then (Ord.compare left.minor right.minor)).then
    (Ord.compare left.patch right.patch)).then (Ord.compare left.extra right.extra)

end Core

structure Parts where
  core : Core
  remainder : String
  deriving DecidableEq, Repr

namespace Parts

/-- The numbers of the first three segments as a version of their own. -/
def triple (parts : Parts) : String :=
  toString parts.core.major ++ "." ++ toString parts.core.minor ++ "." ++
    toString parts.core.patch

/-- What may follow the core: nothing, or a separator and characters of one line. -/
def isRemainder : List Char → Bool
  | [] => true
  | c :: rest => (c == '-' || c == '.' || c == '+') && !rest.contains '\n'

/-- Tries the runs of digits at the front of a text, the longest first; `run` holds the digits in
front of it, backwards. -/
def tryRuns (next : (run rest : List Char) → Option α) (run : List Char) :
    List Char → Option α
  | [] => if run.isEmpty then none else next run.reverse []
  | c :: rest =>
    let here := fun (_ : Unit) => if run.isEmpty then none else next run.reverse (c :: rest)
    if isDecimal c then (tryRuns next (c :: run) rest).orElse here else here ()

/-- Up to `most` further segments, as many as leave a remainder behind them. -/
def segments : (most : Nat) → (taken : List (List Char)) → List Char →
    Option (List (List Char) × List Char)
  | most + 1, taken, '.' :: rest =>
    (tryRuns (fun run rest => segments most (taken ++ [run]) rest) [] rest).orElse fun _ =>
      if isRemainder ('.' :: rest) then some (taken, '.' :: rest) else none
  | _, taken, text => if isRemainder text then some (taken, text) else none

/-- The digits of the segments of a version, and its remainder. -/
def split? (text : List Char) : Option (List (List Char) × List Char) :=
  tryRuns (fun run rest => segments 3 [run] rest) [] text

/-- A text is a word without regard to case. -/
def isWordCaseless (word : String) (text : List Char) : Bool :=
  text.length == word.length && (word.toList.zip text).all fun pair => sameCaseless pair.1 pair.2

/-- A remainder that marks a release. -/
def isReleaseMarker : List Char → Bool
  | c :: rest =>
    (c == '.' || c == '-') && ["release", "final", "ga"].any (isWordCaseless · rest)
  | [] => false

/-- The parts of a version, if it has a numeric core. A release marker leaves no remainder. -/
def ofVersion (version : String) : Except NumeralError (Option Parts) :=
  match split? (trim version.toList) with
  | none => .ok none
  | some (runs, remainder) => do
    let numbers ← runs.mapM readNumeral
    let remainder := if isReleaseMarker remainder then [] else remainder
    return some ⟨Core.ofList numbers, String.ofList remainder⟩

def ofVersion? : Option String → Except NumeralError (Option Parts)
  | none => .ok none
  | some version => ofVersion version

/-- The segments of a version between dots and dollar signs that are not empty. -/
def pieces (version : String) : List String :=
  (((version.toList.splitBy fun c d => !(isSeparator c) && !(isSeparator d)).filter
    fun piece => piece.all (!isSeparator ·)).map String.ofList)
where
  isSeparator (c : Char) : Bool := c == '.' || c == '$'

/-- The first segment of a version. -/
def majorOf (version : String) : String := (pieces version)[0]?.getD version

/-- The second segment of a version, or all of it if there is none. -/
def minorOf (version : String) : String := (pieces version)[1]?.getD version

end Parts
end MavenResolution
