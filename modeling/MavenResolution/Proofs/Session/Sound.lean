import MavenResolution.Proofs.Session.Steady
import MavenResolution.Proofs.SingleFlight.Compute

/-! What a session finds out: the normalized repositories, the metadata at every repository URL, and which POM of a
version is served. All of it is fixed before anything is asked, and a sound cache holds nothing else. Where several
repositories share a key of the cache, the first of them decides. -/
namespace MavenResolution.Session

variable (session : Session)

/-- The repositories that a search goes through, in their order. -/
def route : List Repository :=
  session.repositories ++ if session.includesCentral then [session.configuration.central] else []

/-- The repository that is probed on behalf of all that are the same. -/
def probedFor (identity : Repository.Identity) : Option Repository :=
  (session.route.map (session.declared · none)).find? fun declared =>
    !declared.knownToExist && declared.identity == identity

/-- What probing a repository gives. -/
def probeAnswer (repository : Repository) : Except Empty (Option Repository) :=
  (session.probeOrReport repository {}).1

def form (repository : Repository) : Option Repository :=
  let declared := session.declared repository none
  if declared.knownToExist then some declared
  else match session.probeAnswer ((session.probedFor declared.identity).getD declared) with
    | .ok found => found.map session.applyCredentials

/-- The repositories that are asked for a version, or for metadata. -/
def sources (version : Option String) : List Repository :=
  let accepting := (session.repositories.filterMap session.form).filter fun repository =>
    (version.map repository.accepts).getD true
  let central := if session.includesCentral then session.form session.configuration.central else none
  Repository.distinct (accepting ++ central.toList)

/-- The repository that is asked for metadata on behalf of all at one URL. -/
def askedAt (uri : String) : Option Repository :=
  (session.sources none).find? (·.uri == uri)

def metadataAnswer (coordinate : Coordinate) (repository : Repository) :
    Except Failure (Option Metadata) :=
  ((session.fetchMetadata coordinate repository).run {}).1

/-! POMs. -/

/-- What becomes of a request for a POM. Only a request that fails is made again. -/
inductive PomAnswer where
  | provided (pom : Pom)
  | absent
  | unreached
  | fatal
  deriving DecidableEq

def PomAnswer.ofResult : Except Failure (Except DownloadFault Pom) → PomAnswer
  | .ok (.ok pom) => .provided pom
  | .ok (.error _) => .absent
  | .error failure => if failure.isRequest then .unreached else .fatal

def pomAnswer (coordinate : ResolvedCoordinate) (repository : Repository) : PomAnswer :=
  .ofResult (session.fetchPom { coordinate with repository := some repository.uri } repository {}).1

/-- The POM that the first repository provides. A URL where a POM is absent is not asked
again on behalf of another repository. -/
def firstProvided (answer : Repository → PomAnswer) (absent : List String) :
    List Repository → Option Pom
  | [] => none
  | repository :: rest =>
    if repository.uri ∈ absent then firstProvided answer absent rest
    else match answer repository with
      | .provided pom => some pom
      | .absent => firstProvided answer (repository.uri :: absent) rest
      | .unreached => firstProvided answer absent rest
      | .fatal => none

/-- The first answer that comes from a URL. -/
def firstAnswer (answer : Repository → PomAnswer) (repositories : List Repository) (uri : String) :
    Option PomAnswer :=
  ((repositories.filter (·.uri == uri)).map answer).find? (· ≠ .unreached)

/-- What is known of a POM at its URLs agrees with a search through repositories, given the
URLs where it is absent already. -/
structure Consistent (answer : Repository → PomAnswer) (absent : List String)
    (repositories : List Repository) (known : String → Option (Flight Pom)) : Prop where
  recorded : ∀ uri ∈ absent, known uri = some (.done none)
  agrees : ∀ uri flight, known uri = some flight →
    (∃ pom, flight = .done (some pom) ∧ firstProvided answer absent repositories = some pom) ∨
      flight = .done none ∧ (uri ∈ absent ∨ firstAnswer answer repositories uri = some .absent)

/-! Memory. -/

/-- What is remembered of a POM at a URL. -/
def Memory.pomAt (memory : Memory) (coordinate : ResolvedCoordinate) (uri : String) :
    Option (Flight Pom) :=
  memory.poms.known { coordinate with repository := some uri }

/-- All that is remembered is what any search would find out. -/
structure Sound (own : List (Path × Pom)) (memory : Memory) : Prop where
  normalized : ∀ identity flight, memory.normalized.known identity = some flight →
    ∃ repository found, session.probedFor identity = some repository ∧
      session.probeAnswer repository = .ok found ∧ flight = .done found
  metadata : ∀ uri coordinate flight, memory.metadata.known (uri, coordinate) = some flight →
    ∃ repository found, session.askedAt uri = some repository ∧
      session.metadataAnswer coordinate repository = .ok found ∧ flight = .done found
  poms : ∀ coordinate : ResolvedCoordinate,
    Consistent (session.pomAnswer coordinate) [] (session.sources (some coordinate.version))
      (memory.pomAt coordinate)
  own : memory.projectPoms = own

theorem sound_empty (own : List (Path × Pom)) :
    session.Sound own (State.memory { projectPoms := own }) where
  normalized _ _ found := nomatch found
  metadata _ _ _ found := nomatch found
  poms _ := ⟨fun _ member => absurd member List.not_mem_nil, fun _ _ found => nomatch found⟩
  own := rfl

section

variable {session} {own : List (Path × Pom)} {memory memory' : Memory}
  (sound : session.Sound own memory)

include sound

/-! Caches of which one has changed are sound if this one is. -/

theorem Sound.of_normalized
    (beside : { memory' with normalized := {} } = { memory with normalized := {} })
    (normalized : ∀ identity flight, memory'.normalized.known identity = some flight →
      ∃ repository found, session.probedFor identity = some repository ∧
        session.probeAnswer repository = .ok found ∧ flight = .done found) :
    session.Sound own memory' := by
  simp only [Memory.mk.injEq, true_and] at beside
  obtain ⟨metadata, poms, projectPoms⟩ := beside
  have same : memory'.pomAt = memory.pomAt := by
    unfold Memory.pomAt
    rw [poms]
  exact ⟨normalized, metadata ▸ sound.metadata, same ▸ sound.poms, projectPoms ▸ sound.own⟩

theorem Sound.of_metadata
    (beside : { memory' with metadata := {} } = { memory with metadata := {} })
    (metadata : ∀ uri coordinate flight, memory'.metadata.known (uri, coordinate) = some flight →
      ∃ repository found, session.askedAt uri = some repository ∧
        session.metadataAnswer coordinate repository = .ok found ∧ flight = .done found) :
    session.Sound own memory' := by
  simp only [Memory.mk.injEq, true_and] at beside
  obtain ⟨normalized, poms, projectPoms⟩ := beside
  have same : memory'.pomAt = memory.pomAt := by
    unfold Memory.pomAt
    rw [poms]
  exact ⟨normalized ▸ sound.normalized, metadata, same ▸ sound.poms, projectPoms ▸ sound.own⟩

theorem Sound.of_poms (beside : { memory' with poms := {} } = { memory with poms := {} })
    (poms : ∀ coordinate : ResolvedCoordinate,
      Consistent (session.pomAnswer coordinate) [] (session.sources (some coordinate.version))
        (memory'.pomAt coordinate)) :
    session.Sound own memory' := by
  simp only [Memory.mk.injEq, true_and] at beside
  obtain ⟨normalized, metadata, projectPoms⟩ := beside
  exact ⟨normalized ▸ sound.normalized, metadata ▸ sound.metadata, poms, projectPoms ▸ sound.own⟩

end

end MavenResolution.Session
