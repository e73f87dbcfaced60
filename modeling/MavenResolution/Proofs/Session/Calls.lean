import MavenResolution.Proofs.Session.Frame

/-! What holds across everything that a session is called for. All calls but that which closes the session are put
together from four acts, each of which may go through a cache: normalizing one repository, asking one
repository for metadata or for a POM, and getting one jar. -/
namespace MavenResolution.Session

variable {session : Session} {relation : State → State → Prop} {repositories : List Repository}
  {containing : Option Pom}

/-- A relation that holds across all that single repositories are asked to find a POM. -/
structure Asking (session : Session) (relation : State → State → Prop) : Prop extends Noting relation where
  listed : ∀ entries, Keeps relation (noteAll entries)
  normalized : ∀ repository containing, Keeps relation (session.normalize repository containing)
  asked : ∀ coordinate repository, Keeps relation (session.ask coordinate repository).run
  modelled : ∀ (coordinate : ResolvedCoordinate) repository, Keeps relation
    (session.pomFrom { coordinate with repository := some repository.uri } repository)

/-- A relation that also holds across the way to a jar. -/
structure Serving (session : Session) (relation : State → State → Prop) : Prop extends
    Asking session relation where
  served : ∀ directory coordinate repository type,
    Keeps relation (session.jar directory coordinate repository type).run

/-- A relation that holds across all that is sent holds across the way to a jar if it does not mind what becomes
of files and responses. -/
theorem Frame.serves (frame : session.Frame relation)
    (cached : ∀ cache (state : State), relation state { state with jars := cache })
    (filed : ∀ files (state : State), relation state { state with files := files })
    (closed : Keeps relation closeResponse) (reported : ∀ failure, Keeps relation (session.report failure))
    (directory : Path) (coordinate : ResolvedCoordinate) (repository : Repository) (type : Option String) :
    Keeps relation (session.jar directory coordinate repository type).run :=
  frame.jar cached (frame.fetchJar (keeps_writeBody frame.toComposes filed _) closed fun _ => reported _) type

namespace Asking

variable (asking : session.Asking relation)

include asking

theorem searched (repositories : List Repository) (containing : Option Pom) (version : Option String) :
    Keeps relation (session.searched repositories containing version) :=
  asking.searched_of_normalize (asking.normalized · containing) repositories version

theorem metadata (coordinate : Coordinate) (repositories : List Repository) (containing : Option Pom) :
    Keeps relation (session.metadata coordinate repositories containing).run :=
  asking.metadata_of_searched (asking.searched repositories containing none) (asking.asked coordinate)

theorem datedVersion (coordinate : Coordinate) (repositories : List Repository) (containing : Option Pom) :
    Keeps relation (session.datedVersion coordinate repositories containing).run :=
  asking.toNoting.datedVersion (asking.metadata coordinate repositories containing)

theorem downloadFrom (coordinate : ResolvedCoordinate) (faults : DownloadFaults)
    (repositories : List Repository) :
    Keeps relation (session.downloadFrom coordinate faults repositories) := by
  induction repositories generalizing faults with
  | nil => exact asking.pure _
  | cons repository rest ih =>
    refine asking.bind (asking.modelled coordinate repository) fun result => ?_
    match result with
    | .ok (.ok pom) => exact asking.pure _
    | .ok (.error fault) => exact ih _
    | .error failure => exact asking.pure _

theorem download (coordinate : Coordinate) (relativePath : Option String) (containing : Option Pom)
    (repositories : List Repository) :
    Keeps relation (session.download coordinate relativePath containing repositories) := by
  unfold Session.download
  cases complete? coordinate with
  | none => exact asking.pure _
  | some complete =>
    refine asking.bind (asking.datedVersion coordinate repositories containing) fun dated => ?_
    cases dated with
    | error failure => exact asking.pure _
    | ok dated =>
      have got : Keeps relation (get : StateM State State) := fun state => asking.refl state
      refine asking.bind got fun state => ?_
      dsimp only
      split
      · exact asking.pure _
      · exact asking.bind (asking.searched repositories containing _) fun searched =>
          asking.downloadFrom _ [] searched

theorem select (added : Declarations.Added) (repositories : List Repository) :
    Keeps relation (session.select added repositories).run :=
  asking.toNoting.select asking.listed (asking.metadata · repositories none) added

theorem declare (declarations : Declarations) (owner : ModuleId) (constraints : List String) :
    Keeps relation (declare declarations owner constraints).run :=
  asking.toNoting.declare asking.listed declarations owner constraints

theorem resolveVersion (owner : ModuleId) (constraints : List String) (repositories : List Repository) :
    Keeps relation (session.resolveVersion owner constraints repositories).run :=
  asking.run_bind (asking.declare {} owner constraints) fun added => asking.select added _

theorem findUpgrade (owner : ModuleId) (current : Option String) (constraint : String)
    (pattern : Option String) (repositories : List Repository) :
    Keeps relation (session.findUpgrade owner current constraint pattern repositories).run := by
  unfold Session.findUpgrade
  split
  · exact asking.pure _
  · exact asking.pure _
  · refine asking.run_bind (asking.metadata _ _ none) fun known => ?_
    split <;> exact asking.pure _

end Asking

namespace Serving

variable (serving : session.Serving relation)

include serving

theorem resolveDeclared (request : Request) (added : Declarations.Added) (repositories : List Repository) :
    Keeps relation (session.resolveDeclared request added repositories).run := by
  unfold Session.resolveDeclared
  refine serving.run_bind (serving.select added repositories) fun version => ?_
  cases version with
  | none => exact serving.pure _
  | some version =>
    dsimp only
    have downloaded := serving.download
      ((Coordinate.ofModule request.moduleId).withVersion (some version)) none none repositories
    refine serving.run_bind (serving.bind downloaded fun _ => serving.pure _) fun pom => ?_
    split
    · exact serving.run_bind (serving.served _ _ _ _) fun _ => serving.pure _
    · exact serving.run_bind (serving.pure _) fun _ => serving.pure _

theorem resolve (request : Request) (repositories : List Repository) :
    Keeps relation (session.resolve request repositories).run :=
  serving.run_bind (serving.declare {} _ _) fun added => serving.resolveDeclared request added _

theorem resolveOne (declarations : Declarations) (request : Request) :
    Keeps relation (session.resolveOne declarations request) := by
  unfold Session.resolveOne
  extract_lets failed
  have fails (mode : Option Mode) (failure : Failure) : Keeps relation (failed mode failure) :=
    serving.bind (serving.noted _ nofun) fun _ => serving.pure _
  refine serving.bind (serving.declare declarations _ _) fun result => ?_
  cases result with
  | error failure => exact serving.bind (fails _ _) fun _ => serving.pure _
  | ok added =>
    refine serving.bind (serving.resolveDeclared request added _) fun result => ?_
    cases result with
    | error failure => exact serving.bind (fails _ _) fun _ => serving.pure _
    | ok resolved => exact serving.pure _

theorem resolveAllFrom (declarations : Declarations) (requests : List Request) :
    Keeps relation (session.resolveAllFrom declarations requests) := by
  induction requests generalizing declarations with
  | nil => exact serving.pure _
  | cons request rest ih =>
    refine serving.bind (serving.resolveOne declarations request) fun resolution => ?_
    exact serving.bind (ih resolution.2) fun others => serving.pure _

end Serving
end MavenResolution.Session
