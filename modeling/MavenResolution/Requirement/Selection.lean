import MavenResolution.Requirement.Declaration
import MavenResolution.Snapshot

/-! The version that a chain of declarations selects. The nearest declaration wins; ranges
intersect along a chain that has nothing else. -/
namespace MavenResolution

/-- How a version is found: it is written down, or chosen among those available. -/
inductive Mode where
  | exact
  | range
  | dynamic
  deriving DecidableEq, Repr

def Mode.text : Mode → String
  | .exact => "exact"
  | .range => "range"
  | .dynamic => "dynamic"

/-- The requirements of a chain from the farthest declaration to the root. -/
abbrev Chain := List Requirement

namespace Chain

open Text

def root? (chain : Chain) : Option Requirement := chain.getLast?

def isRange (chain : Chain) : Bool := chain.all Requirement.isRanges

def mode (chain : Chain) : Mode :=
  if chain.isRange then .range
  else match chain.root? with
    | some (.dynamic _) => .dynamic
    | _ => .exact

def isDynamic (chain : Chain) : Bool := chain.mode == .dynamic

/-- The version written down at the root. -/
def nearestVersion (chain : Chain) : Option String :=
  if chain.mode = .exact then
    match chain.root? with
    | some (.exact version) => some version
    | _ => none
  else none

/-- The version lies within every range set of the chain. -/
def withinRanges (version : Version) : Chain → Except NumeralError Bool
  | [] => .ok true
  | .ranges set :: rest => do
    if ← set.contains version then withinRanges version rest else return false
  | _ :: rest => withinRanges version rest

/-- The available versions within every range set, in their order. -/
def inRange (chain : Chain) : List String → Except NumeralError (List Version)
  | [] => .ok []
  | text :: rest => do
    let version ← Version.ofText text
    let within ← chain.withinRanges version
    let others ← inRange chain rest
    return if within then version :: others else others

/-- The versions that a dynamic requirement leaves to choose from. -/
def dynamicCandidates (kind : Dynamic) (available : List String) : List String :=
  match kind with
  | .latest => available
  | .release => available.filter (!Snapshot.isSnapshot ·)

/-- The version selected among the available ones. -/
def select (chain : Chain) (available : List String) : Except NumeralError (Option String) :=
  if chain.isRange then do
    return (Version.max? (← chain.inRange available)).map (·.text)
  else match chain.root? with
    | some (.dynamic kind) => do
      return (Version.max? (← Version.readAll (dynamicCandidates kind available))).map (·.text)
    | _ => .ok chain.nearestVersion

/-- The selection reads what is available. -/
def needsAvailable (chain : Chain) : Bool := chain.mode != .exact

end Chain

namespace Declarations

open Text

/-- The requirements of the declarations from a handle up to the root. -/
def chainOf (declarations : Declarations) (handle : Handle) : Chain :=
  (declarations.walk handle).map (·.requirement)

/-- The module of a declaration. -/
def ownerOf (declarations : Declarations) (handle : Handle) : ModuleId :=
  (declarations.nodes[handle.index]?.map (·.owner)).getD ⟨"", ""⟩

/-- The texts of the declarations from a handle up to the root. -/
def describe (declarations : Declarations) (handle : Handle) : String :=
  " <- ".intercalate ((declarations.walk handle).map (·.requested))

/-- A handle as `repr` shows it. -/
def label (declarations : Declarations) (handle : Handle) : String :=
  "RequestedVersion(" ++
    (declarations.ownerOf handle).text ++ ", " ++ quote (declarations.describe handle) ++ ")"

end Declarations

/-- What a selection leaves in the log: a line if no version is left. -/
def selectionLog (id : ModuleId) (description : String) : Option String → List Log.Entry
  | some _ => []
  | none => [Log.debug .selection ("No version of " ++ id.text ++ " satisfies " ++ description)]

end MavenResolution
