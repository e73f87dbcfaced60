import MavenResolution.Requirement.Parse

/-! Requested versions: declarations met on a walk through a dependency graph, in an arena. Each is linked to the
nearer declaration of the same module, if there is one. -/
namespace MavenResolution

structure Declaration where
  owner : ModuleId
  nearer : Option Nat
  requirement : Requirement
  requested : String
  deriving DecidableEq, Repr

/-- An arena of requested versions, in the order of declaration. The number tells it from another arena. -/
structure Declarations where
  id : Nat := 0
  nodes : List Declaration := []
  deriving DecidableEq, Repr

namespace Declarations

/-- The handle of a requested version: its arena and its index. -/
structure Handle where
  pass : Nat
  index : Nat
  deriving DecidableEq, Repr

inductive Fault where
  | otherPass
  | otherModule (nearer declared : ModuleId)
  | noConstraints (id : ModuleId)
  deriving DecidableEq, Repr

def Fault.message : Fault → String
  | .otherPass => "nearer declaration belongs to a different arena"
  | .otherModule nearer declared =>
    "nearer declaration is for " ++ nearer.text ++ ", not " ++ declared.text
  | .noConstraints id => "no version constraints given for " ++ id.text

/-- The nearer declaration may be linked: it belongs to this arena and to the same module. -/
def checkNearer (declarations : Declarations) (owner : ModuleId) :
    Option Handle → Except Fault (Option Nat)
  | none => .ok none
  | some handle =>
    if handle.pass ≠ declarations.id then .error .otherPass
    else match declarations.nodes[handle.index]? with
      | none => .error .otherPass
      | some nearer =>
        if nearer.owner = owner then .ok (some handle.index)
        else .error (.otherModule nearer.owner owner)

/-- What adding declarations gives: the handle of the last one, the arena with them, and the
faults of their ranges. -/
structure Added where
  handle : Handle
  declarations : Declarations
  faults : List Requirement.RangeFault
  deriving Repr

def add (declarations : Declarations) (owner : ModuleId) (requested : String)
    (nearer : Option Handle) : Except Fault Added := do
  let nearer ← declarations.checkNearer owner nearer
  let (requirement, fault) := Requirement.parse requested
  return {
    handle := ⟨declarations.id, declarations.nodes.length⟩
    declarations :=
      { declarations with nodes := declarations.nodes ++ [⟨owner, nearer, requirement, requested⟩] }
    faults := fault.toList }

/-- Declarations added behind a nearer one, each nearer than the next. -/
def extend (owner : ModuleId) : Added → List String → Except Fault Added
  | added, [] => .ok added
  | added, requested :: rest => do
    let next ← added.declarations.add owner requested (some added.handle)
    extend owner { next with faults := added.faults ++ next.faults } rest

/-- A chain of declarations from constraints, nearest first; the handle is the farthest one's. -/
def chain (declarations : Declarations) (owner : ModuleId) :
    List String → Except Fault Added
  | [] => .error (.noConstraints owner)
  | requested :: rest => do extend owner (← declarations.add owner requested none) rest

/-- The declaration at an index and the nearer ones up to the root. Links point backwards. -/
def walkFrom (nodes : List Declaration) (index : Nat) : List Declaration :=
  match nodes[index]? with
  | none => []
  | some node =>
    node :: match node.nearer with
      | none => []
      | some nearer => if nearer < index then walkFrom nodes nearer else []
termination_by index

def walk (declarations : Declarations) (handle : Handle) : List Declaration :=
  walkFrom declarations.nodes handle.index

end Declarations
end MavenResolution
