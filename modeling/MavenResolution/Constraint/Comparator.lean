import MavenResolution.Constraint.Dialect

/-! Comparators: accepted constraints, which say which versions are allowed, how they compare,
and which of them is the best upgrade. -/
namespace MavenResolution

open Text Constraint

structure Comparator where
  dialect : Dialect
  constraint : String
  rule : Rule
  pattern : Option Pattern

namespace Comparator

def kind (comparator : Comparator) : String :=
  match comparator.dialect with
  | .exact => "ExactVersionComparator"
  | .tilde => "TildeRangeComparator"
  | .caret => "CaretRangeComparator"
  | .xRange => "XRangeComparator"
  | .hyphen => "HyphenRangeComparator"
  | .latestPatch => "LatestPatchComparator"
  | .latestRelease => "LatestReleaseComparator"

/-- Without a pattern releases qualify; with one, the versions whose remainder fits it. -/
def qualifies (comparator : Comparator) (parts : Parts) : Bool :=
  match comparator.pattern with
  | none => parts.remainder.isEmpty
  | some pattern => pattern.fits parts.remainder

/-- The candidate is allowed next to the current version. -/
def allows (comparator : Comparator) (current : Option String) (candidate : String) :
    Except NumeralError Bool :=
  match comparator.rule with
  | .same => .ok (candidate == comparator.constraint)
  | .within holds => do
    match ← Parts.ofVersion candidate with
    | none => return false
    | some parts =>
      return comparator.qualifies parts && holds (Triple.ofCore parts.core)
  | .samePatchLine => do
    match ← Parts.ofVersion candidate with
    | none => return false
    | some parts =>
      if comparator.qualifies parts then
        match ← Parts.ofVersion? current with
        | none => return false
        | some now => return parts.core.major == now.core.major && parts.core.minor == now.core.minor
      else return false
  | .any => do
    match ← Parts.ofVersion candidate with
    | none => return false
    | some parts => return comparator.qualifies parts

/-- Versions compare by their cores; where these are equal or missing, and for an exact
constraint, they compare as versions do. -/
def compare (comparator : Comparator) (left right : String) : Except NumeralError Ordering :=
  match comparator.rule with
  | .same => Version.compareTexts left right
  | _ => do
    let first ← Parts.ofVersion left
    let second ← Parts.ofVersion right
    match first, second with
    | some first, some second =>
      if first.core = second.core then Version.compareTexts left right
      else return first.core.compare second.core
    | _, _ => Version.compareTexts left right

/-- The candidates that are allowed, in their order. -/
def allowed (comparator : Comparator) (current : Option String) :
    List String → Except NumeralError (List String)
  | [] => .ok []
  | candidate :: rest => do
    let valid ← comparator.allows current candidate
    let others ← comparator.allowed current rest
    return if valid then candidate :: others else others

/-- The first of the greatest candidates, or `best`. -/
def greatest (comparator : Comparator) (best : String) :
    List String → Except NumeralError String
  | [] => .ok best
  | candidate :: rest => do
    let order ← comparator.compare candidate best
    comparator.greatest (if order = .gt then candidate else best) rest

/-- The best allowed candidate that is not below the current version. -/
def upgrade (comparator : Comparator) (current : Option String) (candidates : List String) :
    Except NumeralError (Option String) := do
  match ← comparator.allowed current candidates with
  | [] => return none
  | candidate :: rest =>
    let best ← comparator.greatest candidate rest
    match current with
    | none => return some best
    | some now => return if (← comparator.compare best now) = .lt then none else some best

/-- A comparator as `repr` shows it. -/
def label (comparator : Comparator) : String :=
  let pattern := match comparator.pattern with
    | some pattern =>
      if pattern.text.isEmpty then "" else ", metadata_pattern=" ++ quote pattern.text
    | none => ""
  comparator.kind ++ "(" ++ quote comparator.constraint ++ pattern ++ ")"

end Comparator
end MavenResolution
