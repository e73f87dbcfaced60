import MavenResolution.Request
import MavenResolution.Session.Jar

/-! Resolution of requests to versions, POMs and jars, and the search for upgrades. -/
namespace MavenResolution

/-- A resolved dependency. -/
structure Resolved where
  coordinate : ResolvedCoordinate
  repository : Option Repository
  requested : String
  pom : Pom
  type : Option String := none
  jar : Option Path := none

/-- The result of one request of a batch. -/
structure Resolution where
  request : Request
  /-- The resolution mode, if the constraints were chained. -/
  mode : Option Mode := none
  outcome : Except Failure Resolved

namespace Session

/-- Declares the constraints of a module, nearest first. -/
def declare (declarations : Declarations) (owner : ModuleId) (constraints : List String) :
    Run Declarations.Added := do
  match declarations.chain owner constraints with
  | .error fault => throw (.declaration fault)
  | .ok added =>
    noteAll (added.faults.map (·.entry (some owner)))
    return added

/-- The version that the chain of a declaration resolves to. Metadata are downloaded only for ranges and dynamic
versions. -/
def select (session : Session) (added : Declarations.Added) (repositories : List Repository) :
    Run (Option String) := do
  let owner := added.declarations.ownerOf added.handle
  let chain := added.declarations.chainOf added.handle
  let available ←
    if chain.needsAvailable then do
      let known ← session.metadata (Coordinate.ofModule owner) repositories
      pure known.metadata.versions
    else pure []
  match chain.select available with
  | .error fault => throw (.numeral fault)
  | .ok selected =>
    noteAll (selectionLog owner (added.declarations.describe added.handle) selected)
    return selected

/-- The version of a module that constraints select. -/
def resolveVersion (session : Session) (owner : ModuleId) (constraints : List String)
    (repositories : List Repository) : Run (Option String) := do
  let added ← declare {} owner constraints
  session.select added (session.repositories ++ repositories)

/-- Resolves a request whose constraints are declared. -/
def resolveDeclared (session : Session) (request : Request) (added : Declarations.Added)
    (repositories : List Repository) : Run Resolved := do
  let some version ← session.select added repositories
    | throw (.unsatisfied request.moduleId (added.declarations.describe added.handle))
  let coordinate := (Coordinate.ofModule request.moduleId).withVersion (some version)
  let pom ← ExceptT.mk
    (Download.outcome <$> session.download coordinate none none repositories)
  let jar ← match session.jarDirectory, pom.repository with
    | some directory, some repository =>
      session.jar directory pom.coordinate repository request.type
    | _, _ => pure none
  return { coordinate := pom.coordinate, repository := pom.repository,
           requested := request.constraints.headD "", pom, type := request.type, jar }

def resolve (session : Session) (request : Request) (repositories : List Repository) :
    Run Resolved := do
  let added ← declare {} request.moduleId request.constraints
  session.resolveDeclared request added (session.repositories ++ repositories)

/-- Resolves one of several requests, and gives the declarations with those of the request. A
failure stays with its request. -/
def resolveOne (session : Session) (declarations : Declarations) (request : Request) :
    StateM State (Resolution × Declarations) := do
  let failed (mode : Option Mode) (failure : Failure) : StateM State Resolution := do
    note (Log.warning .resolution
      ("Unable to resolve " ++ request.identifier ++ ": " ++ failure.message))
    return { request, mode, outcome := .error failure }
  match ← (declare declarations request.moduleId request.constraints).run with
  | .error failure => return (← failed none failure, declarations)
  | .ok added =>
    let mode := (added.declarations.chainOf added.handle).mode
    match ← (session.resolveDeclared request added session.repositories).run with
    | .error failure => return (← failed (some mode) failure, added.declarations)
    | .ok resolved =>
      return ({ request, mode := some mode, outcome := .ok resolved }, added.declarations)

/-- Resolves requests one after another. Their declarations make one arena. -/
def resolveAllFrom (session : Session) (declarations : Declarations) :
    List Request → StateM State (List Resolution)
  | [] => return []
  | request :: rest => do
    let (resolution, declarations) ← session.resolveOne declarations request
    let others ← session.resolveAllFrom declarations rest
    return resolution :: others

def resolveAll (session : Session) (requests : List Request) : StateM State (List Resolution) :=
  session.resolveAllFrom {} requests

/-- The best published upgrade that a constraint allows. A constraint that is none is refused
before anything is asked for. -/
def findUpgrade (session : Session) (owner : ModuleId) (current : Option String)
    (constraint : String) (pattern : Option String) (repositories : List Repository) :
    Run (Option String) := do
  match Constraint.validate constraint pattern session.tools with
  | .error fault => throw (.constraint fault)
  | .ok (.invalid text rejections) => throw (.invalidConstraint text rejections)
  | .ok (.valid comparator) =>
    let known ← session.metadata (Coordinate.ofModule owner) (session.repositories ++ repositories)
    match comparator.upgrade current known.metadata.versions with
    | .error fault => throw (.numeral fault)
    | .ok best => return best

end Session
end MavenResolution
