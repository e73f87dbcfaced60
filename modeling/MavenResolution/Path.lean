import MavenResolution.Text.Pieces

/-! Paths of files. Single dots and doubled slashes count for nothing; two slashes at the start are
kept. -/
namespace MavenResolution

/-- A path: how many slashes it starts with, two at most, and its segments. -/
structure Path where
  slashes : Nat := 0
  segments : List String := []
  deriving DecidableEq, Repr

namespace Path

/-- The segments of a text that say something. -/
def segmentsOf (text : List Char) : List String :=
  ((Text.pieces '/' text).filter fun piece => !piece.isEmpty && piece != ['.']).map String.ofList

/-- How many slashes a path starts with that is written with `n` of them. -/
def leadingSlashes (n : Nat) : Nat := if n = 2 then 2 else if n = 0 then 0 else 1

def ofText (text : String) : Path :=
  { slashes := leadingSlashes (text.toList.takeWhile (· == '/')).length
    segments := segmentsOf text.toList }

/-- A path below another one; a path that starts with a slash stands alone. -/
def join (path : Path) (text : String) : Path :=
  let other := ofText text
  if other.slashes = 0 then { path with segments := path.segments ++ other.segments } else other

def joinAll (path : Path) (texts : List String) : Path := texts.foldl join path

def text (path : Path) : String :=
  let inner := String.ofList (List.replicate path.slashes '/') ++ "/".intercalate path.segments
  if inner.isEmpty then "." else inner

/-- The directory that holds the path. -/
def parent (path : Path) : Path := { path with segments := path.segments.dropLast }

/-- The last segment. -/
def name (path : Path) : String := path.segments.getLast?.getD ""

/-- Segments with each step upwards taken back together with the segment in front of it. -/
def resolveSteps (anchored : Bool) : (done : List String) → List String → List String
  | done, [] => done.reverse
  | done, segment :: rest =>
    if segment = ".." then
      match done with
      | [] => resolveSteps anchored (if anchored then [] else [segment]) rest
      | last :: others =>
        if last = ".." then resolveSteps anchored (segment :: done) rest
        else resolveSteps anchored others rest
    else resolveSteps anchored (segment :: done) rest

/-- The path without steps upwards that can be taken back. -/
def normalize (path : Path) : Path :=
  { path with segments := resolveSteps (path.slashes ≠ 0) [] path.segments }

end Path
end MavenResolution
