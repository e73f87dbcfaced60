import MavenResolution.Constraint.Parts

/-! Intervals of versions with three segments. -/
namespace MavenResolution.Constraint

structure Triple where
  major : Nat
  minor : Nat
  patch : Nat
  deriving DecidableEq, Repr

def Triple.compare (left right : Triple) : Ordering :=
  ((Ord.compare left.major right.major).then (Ord.compare left.minor right.minor)).then
    (Ord.compare left.patch right.patch)

/-- The segments of a core that an interval looks at. -/
def Triple.ofCore (core : Core) : Triple := ⟨core.major, core.minor, core.patch⟩

/-- Missing segments count as zero. -/
def Triple.ofList (segments : List Nat) : Triple :=
  ⟨segments[0]?.getD 0, segments[1]?.getD 0, segments[2]?.getD 0⟩

inductive Upper where
  | unbounded
  | below (bound : Triple)
  | upTo (bound : Triple)
  deriving DecidableEq, Repr

structure Interval where
  lower : Triple
  upper : Upper
  deriving DecidableEq, Repr

def Upper.allows (triple : Triple) : Upper → Bool
  | .unbounded => true
  | .below bound => triple.compare bound == .lt
  | .upTo bound => triple.compare bound != .gt

def Interval.contains (interval : Interval) (triple : Triple) : Bool :=
  interval.lower.compare triple != .gt && interval.upper.allows triple

namespace Interval

/-- Changes of the last segment, or of the minor one if that is not given. -/
def tilde : List Nat → Interval
  | [major] => ⟨⟨major, 0, 0⟩, .below ⟨major + 1, 0, 0⟩⟩
  | segments =>
    let lower := Triple.ofList segments
    ⟨lower, .below ⟨lower.major, lower.minor + 1, 0⟩⟩

/-- Changes that keep the first segment that is not zero; of zeros alone, the last one given. -/
def caret (segments : List Nat) : Interval :=
  let lower := Triple.ofList segments
  let upper : Triple :=
    if lower.major ≠ 0 ∨ (lower.minor = 0 ∧ segments.length ≤ 1) then ⟨lower.major + 1, 0, 0⟩
    else if lower.minor ≠ 0 ∨ segments.length = 2 then ⟨lower.major, lower.minor + 1, 0⟩
    else ⟨lower.major, lower.minor, lower.patch + 1⟩
  ⟨lower, .below upper⟩

/-- The least version above all that start with the given segments. -/
def above : List Nat → Triple
  | [] => ⟨1, 0, 0⟩
  | [major] => ⟨major + 1, 0, 0⟩
  | major :: minor :: _ => ⟨major, minor + 1, 0⟩

end Interval
end MavenResolution.Constraint
