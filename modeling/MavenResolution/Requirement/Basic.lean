import MavenResolution.Version.Basic

/-! Version specs: an exact version, a dynamic version, or a range set. -/
namespace MavenResolution

inductive Dynamic where
  | latest
  | release
  deriving DecidableEq, Repr

def Dynamic.text : Dynamic → String
  | .latest => "LATEST"
  | .release => "RELEASE"

/-- A range of versions; a missing bound leaves its side open-ended. -/
structure Range where
  lower : Option String
  lowerClosed : Bool
  upper : Option String
  upperClosed : Bool
  deriving DecidableEq, Repr

/-- A range set: a version matches any of its ranges. -/
structure RangeSet where
  ranges : List Range
  deriving DecidableEq, Repr

inductive Requirement where
  | exact (version : String)
  | dynamic (kind : Dynamic)
  | ranges (set : RangeSet)
  deriving DecidableEq, Repr

open Text

namespace Range

def text (range : Range) : String :=
  (if range.lowerClosed then "[" else "(") ++ range.lower.getD "" ++ "," ++
    range.upper.getD "" ++ (if range.upperClosed then "]" else ")")

/-- The version lies above the lower bound, or on it if the range is closed there. -/
def aboveLower (range : Range) (version : Version) : Except NumeralError Bool :=
  match range.lower with
  | none => .ok true
  | some bound => do
    match (← Version.ofText bound).compare version with
    | .lt => return true
    | .eq => return range.lowerClosed
    | .gt => return false

/-- The version lies below the upper bound, or on it if the range is closed there. -/
def belowUpper (range : Range) (version : Version) : Except NumeralError Bool :=
  match range.upper with
  | none => .ok true
  | some bound => do
    match (← Version.ofText bound).compare version with
    | .gt => return true
    | .eq => return range.upperClosed
    | .lt => return false

def contains (range : Range) (version : Version) : Except NumeralError Bool := do
  let above ← range.aboveLower version
  let below ← range.belowUpper version
  return above && below

end Range

namespace RangeSet

def text (set : RangeSet) : String := ",".intercalate (set.ranges.map Range.text)

/-- Some range of a list contains the version. -/
def anyContains (version : Version) : List Range → Except NumeralError Bool
  | [] => .ok false
  | range :: rest => do
    if ← range.contains version then return true
    anyContains version rest

def contains (set : RangeSet) (version : Version) : Except NumeralError Bool :=
  anyContains version set.ranges

end RangeSet

namespace Requirement

def isRanges : Requirement → Bool
  | .ranges _ => true
  | _ => false

end Requirement
end MavenResolution
