import MavenResolution.Constraint.Validation
import MavenResolution.Failure
import MavenResolution.Http.Transport
import MavenResolution.Metadata
import MavenResolution.Repository.Credentials
import MavenResolution.Repository.Mirror
import MavenResolution.Settings
import MavenResolution.SingleFlight.Region

/-! Sessions: what stays the same during one pass of resolution, and what changes. -/
namespace MavenResolution

/-- Where `on_error` leads: failures that do not stop a download or a merge are logged or collected. -/
inductive Reporting where
  | toLog
  | collected
  deriving DecidableEq, Repr

/-- A resolution session: repositories, mirrors and credentials, pinned snapshot versions, transport and artifact
cache directory, and the server that answers its requests. -/
structure Session where
  repositories : List Repository := []
  mirrors : List Mirror := []
  credentials : List Credentials := []
  /-- The pinned snapshot versions. -/
  pinned : List ResolvedCoordinate := []
  includesCentral : Bool := true
  configuration : Configuration := {}
  transport : Http.Transport
  /-- The transport was made for this session, which closes it. -/
  ownsTransport : Bool := false
  /-- The artifact cache directory. Jars are fetched only if there is one. -/
  jarDirectory : Option Path := none
  reporting : Reporting := .toLog
  xml : Xml.Reader := Xml.Document.read
  tools : Constraint.Tools := {}
  server : Http.Server

namespace Session

/-- The regions of the cache, the project POMs, and what the session has done so far. -/
structure State where
  /-- The region of normalized repositories; `none` is an unreachable one. -/
  normalized : SingleFlight Repository.Identity Repository := {}
  /-- The region of metadata, by repository URL and coordinate. -/
  metadata : SingleFlight (String × Coordinate) Metadata := {}
  poms : SingleFlight ResolvedCoordinate Pom := {}
  jars : SingleFlight Path Path := {}
  projectPoms : List (Path × Pom) := []
  files : Files := {}
  requests : List Http.Request := []
  /-- How often each response has been closed, in the order in which they came. -/
  closings : List Nat := []
  reports : List Failure := []
  log : List Log.Entry := []
  closed : Bool := false
  closedConnections : Nat := 0

/-- The statistics of the cache, region by region. -/
def State.stats (state : State) : List (String × SingleFlight.Stats) :=
  [("normalized_repositories", state.normalized.stats), ("metadata", state.metadata.stats),
    ("poms", state.poms.stats)]

/-- What may raise. The cache and all else that was done remain. -/
abbrev Run := ExceptT Failure (StateM State)

def note (entry : Log.Entry) : StateM State Unit :=
  modify fun state => { state with log := state.log ++ [entry] }

def noteAll (entries : List Log.Entry) : StateM State Unit :=
  modify fun state => { state with log := state.log ++ entries }

/-- Hands a failure to `on_error` and goes on. -/
def report (session : Session) (failure : Failure) : StateM State Unit :=
  match session.reporting with
  | .toLog => note (Log.warning .session failure.message)
  | .collected => modify fun state => { state with reports := state.reports ++ [failure] }

/-! Caches. -/

def normalizedRegion : Region State Repository.Identity Repository where
  name := "normalized_repositories"
  cache := State.normalized
  withCache cache state := { state with normalized := cache }
  withEntry entry state := { state with log := state.log ++ [entry] }

def metadataRegion : Region State (String × Coordinate) Metadata where
  name := "metadata"
  cache := State.metadata
  withCache cache state := { state with metadata := cache }
  withEntry entry state := { state with log := state.log ++ [entry] }

def pomRegion : Region State ResolvedCoordinate Pom where
  name := "poms"
  cache := State.poms
  withCache cache state := { state with poms := cache }
  withEntry entry state := { state with log := state.log ++ [entry] }

def jarRegion : Region State Path Path where
  name := "artifacts"
  cache := State.jars
  withCache cache state := { state with jars := cache }
  withEntry entry state := { state with log := state.log ++ [entry] }

/-! Requests. -/

/-- Sends a request. -/
def send (session : Session) (context : String) (request : Http.Request) :
    StateM State Http.Outcome := do
  let state ← get
  let exchange := session.transport.send session.server state.requests (some context) request
  let received := match exchange.outcome with
    | .ok _ => [0]
    | .error _ => []
  set { state with
    requests := state.requests ++ exchange.requests
    closings := state.closings ++ received
    log := state.log ++ exchange.log }
  return exchange.outcome

/-- Closes the response that came last. -/
def closeResponse : StateM State Unit :=
  modify fun state =>
    { state with closings := state.closings.modify (state.closings.length - 1) (· + 1) }

/-! Set-up. -/

/-- A session from `settings.xml`: servers become credentials, mirrors are kept, and the repositories of the active
profiles come first. -/
def ofSettings (session : Session) (settings : Settings) (activeProfiles : List String) :
    Session :=
  { session with
    repositories := settings.activeRepositories activeProfiles ++ session.repositories
    mirrors := settings.mirrors
    credentials := settings.servers }

def applyMirrors (session : Session) (repository : Repository) : Repository :=
  Mirror.apply session.mirrors repository

def applyCredentials (session : Session) (repository : Repository) : Repository :=
  Credentials.apply session.credentials repository

/-! Project POMs. -/

/-- Project POMs by their normalized paths. -/
def projectPomsOf (poms : List (Path × Pom)) : List (Path × Pom) :=
  Entries.putAll [] (poms.map fun (path, pom) => (path.normalize, pom))

def State.projectPom? (state : State) (path : Path) : Option Pom :=
  state.projectPoms.lookup path.normalize

def addProjectPom (pom : Pom) : Run Unit :=
  match pom.sourcePath with
  | none => throw (.noSourcePath pom.coordinate)
  | some path => modify fun state =>
    { state with projectPoms := Entries.put path.normalize pom state.projectPoms }

/-- Closes the session: the transport if the session made it, and the cache is cleared. -/
def close (session : Session) : StateM State Unit := do
  let state ← get
  unless state.closed do
    set { state with
      normalized := state.normalized.clear
      metadata := state.metadata.clear
      poms := state.poms.clear
      closed := true
      closedConnections :=
        state.closedConnections + if session.ownsTransport then session.transport.closings else 0 }
    note (Log.debug .session "Resolution session closed")

end Session
end MavenResolution
