import MavenResolution.Proofs.Session.Acceptance
import MavenResolution.Proofs.Session.Calls
import MavenResolution.Proofs.Session.ProjectPoms
import MavenResolution.Proofs.Session.Requests

/-! The states that a session reaches, whatever it is asked to do and whatever the server answers. In all of
them its caches are idle; what it knows of a module is what some repository has said in reply to a request that
it sent, and the POM that it knows of a version bears the coordinate of that version. Until it is closed it
forgets nothing of what it knows. -/
namespace MavenResolution.Session

variable {session : Session} {state after : State} {repository : Repository} {containing : Option Pom}
  {repositories : List Repository} {requests more : List Http.Request}

/-! What a cache holds. -/

/-- A repository URL has served metadata of a coordinate, in reply to one of some requests. -/
def HasSaid (session : Session) (requests : List Http.Request) (uri : String) (coordinate : Coordinate)
    (found : Metadata) : Prop :=
  ∃ repository earlier,
    let exchange := session.metadataExchange coordinate repository earlier
    repository.uri = uri ∧ session.documentOf exchange.outcome = some found ∧
      earlier ++ exchange.requests <+: requests

theorem HasSaid.later {uri : String} {coordinate : Coordinate} {found : Metadata}
    (said : session.HasSaid requests uri coordinate found) (longer : requests <+: more) :
    session.HasSaid more uri coordinate found := by
  obtain ⟨repository, earlier, located, document, sent⟩ := said
  exact ⟨repository, earlier, located, document, sent.trans longer⟩

/-- The caches of the session are idle, and right about what they hold. -/
structure Orderly (session : Session) (state : State) : Prop where
  normalized : state.normalized.Idle
  metadata : state.metadata.Idle
  poms : state.poms.Idle
  said : ∀ uri coordinate found,
    state.metadata.known (uri, coordinate) = some (.done (some found)) →
      session.HasSaid state.requests uri coordinate found
  named : ∀ key pom, state.poms.known key = some (.done (some pom)) → pom.coordinate = key

theorem orderly_fresh (session : Session) (own : List (Path × Pom)) (files : Files) :
    session.Orderly { fresh own with files } where
  normalized _ _ known := nomatch known
  metadata _ _ known := nomatch known
  poms _ _ known := nomatch known
  said _ _ _ known := nomatch known
  named _ _ known := nomatch known

/-- What has been said stays said while more requests are sent. -/
theorem Orderly.said_later (orderly : session.Orderly state) (requests : state.requests <+: after.requests)
    (metadata : after.metadata = state.metadata) (uri : String) (coordinate : Coordinate) (found : Metadata)
    (known : after.metadata.known (uri, coordinate) = some (.done (some found))) :
    session.HasSaid after.requests uri coordinate found :=
  (orderly.said uri coordinate found (metadata ▸ known)).later requests

/-- An orderly state stays orderly, and what is known in it stays known. -/
structure Grows (session : Session) (state after : State) : Prop where
  requests : state.requests <+: after.requests
  orderly : session.Orderly state → session.Orderly after
  normalized : session.Orderly state → state.normalized.Extends after.normalized
  metadata : session.Orderly state → state.metadata.Extends after.metadata

theorem Grows.trans {last : State} (first : session.Grows state after)
    (second : session.Grows after last) : session.Grows state last where
  requests := first.requests.trans second.requests
  orderly orderly := second.orderly (first.orderly orderly)
  normalized orderly := (first.normalized orderly).trans (second.normalized (first.orderly orderly))
  metadata orderly := (first.metadata orderly).trans (second.metadata (first.orderly orderly))

/-- A computation that sends requests and finds nothing out. -/
theorem Grows.of_same (requests : state.requests <+: after.requests)
    (normalized : after.normalized = state.normalized) (metadata : after.metadata = state.metadata)
    (poms : after.poms = state.poms) : session.Grows state after where
  requests := requests
  orderly orderly :=
    { normalized := normalized ▸ orderly.normalized
      metadata := metadata ▸ orderly.metadata
      poms := poms ▸ orderly.poms
      said := orderly.said_later requests metadata
      named := poms ▸ orderly.named }
  normalized _ := normalized ▸ .refl _
  metadata _ := metadata ▸ .refl _

theorem frame_grows (session : Session) : session.Frame session.Grows where
  refl _ := .of_same (List.prefix_refl _) rfl rfl rfl
  trans := .trans
  noted _ _ _ := .of_same (List.prefix_refl _) rfl rfl rfl
  sent _ _ _ := .of_same (List.prefix_append _ _) rfl rfl rfl

theorem noteAll_grows (session : Session) (entries : List Log.Entry) :
    Keeps session.Grows (noteAll entries) :=
  fun _ => .of_same (List.prefix_refl _) rfl rfl rfl

theorem report_grows (session : Session) (failure : Failure) :
    Keeps session.Grows (session.report failure) := by
  intro state
  have memory := report_memory session failure state
  exact .of_same (report_requests session failure state ▸ List.prefix_refl _)
    (congrArg Memory.normalized memory) (congrArg Memory.metadata memory)
    (congrArg Memory.poms memory)

/-! Finding out about repositories. -/

theorem normalize_grows (session : Session) (repository : Repository) (containing : Option Pom) :
    Keeps session.Grows (session.normalize repository containing) := by
  intro state
  let view (memory : Memory) := (memory.metadata, memory.poms)
  have beside := (session.frame_memory view).normalize (fun _ _ => rfl)
    (fun repository state => congrArg view (probeOrReport_memory session repository state))
    repository containing state
  let run := session.normalize repository containing state
  have metadata : run.2.metadata = state.metadata := congrArg Prod.fst beside
  have poms : run.2.poms = state.poms := congrArg Prod.snd beside
  have requests := (session.normalize_continues repository containing state).isPrefix
  refine ⟨requests, fun orderly => ?_, fun orderly => ?_, fun orderly => ?_⟩
  · obtain ⟨-, idle, -⟩ := normalize_remembers session repository containing orderly.normalized
    exact ⟨idle, metadata ▸ orderly.metadata, poms ▸ orderly.poms, orderly.said_later requests metadata,
      poms ▸ orderly.named⟩
  · exact (normalize_remembers session repository containing orderly.normalized).2.2
  · exact metadata ▸ .refl _

/-! Asking for metadata. -/

/-- The request for metadata is all that is sent, and a document that is found stands in its reply. -/
theorem fetchMetadata_replied (session : Session) (coordinate : Coordinate) (repository : Repository)
    (state : State) :
    let exchange := session.metadataExchange coordinate repository state.requests
    let run := (session.fetchMetadata coordinate repository).run state
    run.2.requests = state.requests ++ exchange.requests ∧
      ∀ found, run.1 = .ok (some found) → session.documentOf exchange.outcome = some found := by
  intro exchange run
  obtain ⟨after, sends, requests⟩ : ∃ after, session.send Http.defaultContext
      { method := .get, url := Layout.metadata repository coordinate, auth := repository.auth } state =
        (exchange.outcome, after) ∧ after.requests = state.requests ++ exchange.requests :=
    ⟨_, rfl, rfl⟩
  unfold run fetchMetadata
  dsimp only
  rw [run_bind_apply, run_lift_apply, sends]
  cases exchange.outcome with
  | error fault =>
    dsimp only
    split
    · exact ⟨(report_requests session _ after).trans requests, by rintro _ ⟨⟩⟩
    · exact ⟨requests, by rintro _ ⟨⟩⟩
  | ok response =>
    dsimp only
    split
    · exact ⟨requests, by rintro _ ⟨⟩⟩
    · rename_i success
      rw [ne_eq, Decidable.not_not] at success
      cases read : Metadata.read (.octets response.content) session.xml with
      | ok metadata =>
        refine ⟨requests, ?_⟩
        rintro found ⟨⟩
        rw [documentOf, if_pos success, read]
        rfl
      | error fault =>
        cases fault with
        | malformed => exact ⟨(report_requests session _ after).trans requests, by rintro _ ⟨⟩⟩
        | unknownEncoding | unsupportedEncoding => exact ⟨requests, by rintro _ ⟨⟩⟩

theorem fetchMetadata_keeps (session : Session) (coordinate : Coordinate) (repository : Repository)
    (state : State) :
    metadataRegion.cache ((session.fetchMetadata coordinate repository).run state).2 =
      metadataRegion.cache state :=
  (session.frame_memory Memory.metadata).fetchMetadata
    (fun _ state => congrArg Memory.metadata (report_memory session _ state)) state

theorem ask_grows (session : Session) (coordinate : Coordinate) (repository : Repository) :
    Keeps session.Grows (session.ask coordinate repository).run := by
  intro state
  let run := (session.ask coordinate repository).run state
  let view (memory : Memory) := (memory.normalized, memory.poms)
  have beside := (session.frame_memory view).ask (fun _ _ => rfl)
    (fun _ _ failure state => congrArg view (report_memory session _ state)) coordinate repository state
  have normalized : run.2.normalized = state.normalized := congrArg Prod.fst beside
  have poms : run.2.poms = state.poms := congrArg Prod.snd beside
  have requests : state.requests <+: run.2.requests :=
    (session.ask_continues coordinate repository state).isPrefix
  have learns (orderly : session.Orderly state) := Region.compute_extends metadataRegion_besideRequests
    (repository.uri, coordinate) id (session.fetchMetadata coordinate repository).run 0 orderly.metadata
    (session.fetchMetadata_keeps coordinate repository)
  refine ⟨requests, fun orderly => ?_, fun _ => normalized ▸ .refl _, fun orderly => (learns orderly).2.1⟩
  obtain ⟨idle, -, known⟩ := learns orderly
  refine ⟨normalized ▸ orderly.normalized, idle, poms ▸ orderly.poms, fun uri other found recorded => ?_,
    poms ▸ orderly.named⟩
  rcases known (uri, other) (some found) recorded with before | ⟨same, before, unsent, sends, result, replied, rfl⟩
  · exact (orderly.said uri other found before).later requests
  · obtain ⟨rfl, rfl⟩ := Prod.mk.inj same
    obtain ⟨sent, document⟩ := session.fetchMetadata_replied other repository before
    refine ⟨repository, before.requests, rfl, document found replied, ?_⟩
    rw [← sent, ← sends]
    exact List.prefix_refl _

/-! Downloading POMs. -/

theorem fetchPom_named {key : ResolvedCoordinate} {pom : Pom}
    (provides : (session.fetchPom key repository state).1 = .ok (.ok pom)) : pom.coordinate = key := by
  obtain ⟨outcome, after, sends⟩ : ∃ outcome after, session.send Http.defaultContext
      { method := .get, url := Layout.pom repository key, auth := repository.auth } state =
        (outcome, after) := ⟨_, _, rfl⟩
  unfold fetchPom at provides
  dsimp only at provides
  rw [bind_apply, sends] at provides
  cases outcome with
  | error fault => cases provides
  | ok response =>
    dsimp only at provides
    split at provides
    · cases provides
    · cases read : Pom.read (.octets response.content) none (some repository) session.xml with
      | ok found =>
        rw [read] at provides
        cases provides
        rfl
      | error fault =>
        rw [read] at provides
        match fault with
        | .noArtifact | .document .malformed | .document (.unknownEncoding name)
        | .document (.unsupportedEncoding message) => cases provides

theorem fetchPom_keeps (session : Session) (key : ResolvedCoordinate) (repository : Repository)
    (state : State) :
    pomRegion.cache (session.fetchPom key repository state).2 = pomRegion.cache state :=
  (session.frame_memory Memory.poms).fetchPom key repository state

/-- What a session knows of POMs after it has been asked for one: what it knew before, and this one, if it was
got just now. -/
theorem pomFrom_extends (session : Session) (key : ResolvedCoordinate) (repository : Repository)
    (idle : state.poms.Idle) :
    let run := session.pomFrom key repository state
    run.2.poms.Idle ∧ ∀ other pom, run.2.poms.known other = some (.done (some pom)) →
      state.poms.known other = some (.done (some pom)) ∨
        other = key ∧ ∃ before, (session.fetchPom key repository before).1 = .ok (.ok pom) ∧
          run.2.requests = (session.fetchPom key repository before).2.requests := by
  have learns := Region.compute_extends pomRegion_besideRequests key Except.toOption
    (session.fetchPom key repository) 0 idle (session.fetchPom_keeps key repository)
  dsimp only at learns ⊢
  rw [pomFrom_apply]
  obtain ⟨idleNow, -, known⟩ := learns
  refine ⟨idleNow, fun other pom recorded => ?_⟩
  rcases known other (some pom) recorded with before | ⟨same, before, -, sends, result, fetched, provides⟩
  · exact .inl before
  · cases result with
    | error fault => cases provides
    | ok found =>
      cases provides
      exact .inr ⟨same, before, fetched, sends⟩

theorem pomFrom_grows (session : Session) (key : ResolvedCoordinate) (repository : Repository) :
    Keeps session.Grows (session.pomFrom key repository) := by
  intro state
  let run := session.pomFrom key repository state
  let view (memory : Memory) := (memory.normalized, memory.metadata)
  have frame := session.frame_memory view
  have beside : view run.2.memory = view state.memory :=
    frame.pomFrom (fun _ _ => rfl) (frame.fetchPom key repository) state
  have normalized : run.2.normalized = state.normalized := congrArg Prod.fst beside
  have metadata : run.2.metadata = state.metadata := congrArg Prod.snd beside
  have requests : state.requests <+: run.2.requests :=
    (continues_of_sent (session.pomFrom_sent key repository) state).isPrefix
  refine ⟨requests, fun orderly => ?_, fun _ => normalized ▸ .refl _, fun _ => metadata ▸ .refl _⟩
  obtain ⟨idle, known⟩ := session.pomFrom_extends key repository orderly.poms
  refine ⟨normalized ▸ orderly.normalized, metadata ▸ orderly.metadata, idle,
    orderly.said_later requests metadata, fun other pom recorded => ?_⟩
  rcases known other pom recorded with before | ⟨rfl, before, fetched, -⟩
  · exact orderly.named other pom before
  · exact fetchPom_named fetched

/-! Jars. -/

theorem closeResponse_grows (session : Session) : Keeps session.Grows closeResponse :=
  fun _ => .of_same (List.prefix_refl _) rfl rfl rfl

theorem jar_grows (session : Session) (directory : Path) (coordinate : ResolvedCoordinate)
    (repository : Repository) (type : Option String) :
    Keeps session.Grows (session.jar directory coordinate repository type).run :=
  session.frame_grows.serves (fun _ _ => .of_same (List.prefix_refl _) rfl rfl rfl)
    (fun _ _ => .of_same (List.prefix_refl _) rfl rfl rfl) session.closeResponse_grows session.report_grows
    directory coordinate repository type

/-! All calls. -/

theorem serving_grows (session : Session) : session.Serving session.Grows where
  toNoting := session.frame_grows.toNoting
  listed := session.noteAll_grows
  normalized := session.normalize_grows
  asked := session.ask_grows
  modelled _ _ := session.pomFrom_grows _ _
  served := session.jar_grows

theorem addProjectPom_grows (session : Session) (pom : Pom) :
    Keeps session.Grows (addProjectPom pom).run := by
  unfold addProjectPom
  split
  · exact session.frame_grows.pure _
  · exact fun _ => .of_same (List.prefix_refl _) rfl rfl rfl

/-! Whatever a session does. -/

/-- What a session is asked to do. -/
inductive Operation where
  | normalize (repository : Repository) (containing : Option Pom)
  | search (repositories : List Repository) (containing : Option Pom) (version : Option String)
  | metadata (coordinate : Coordinate) (repositories : List Repository) (containing : Option Pom)
  | datedVersion (coordinate : Coordinate) (repositories : List Repository) (containing : Option Pom)
  | download (coordinate : Coordinate) (relativePath : Option String) (containing : Option Pom)
      (repositories : List Repository)
  | jar (directory : Path) (coordinate : ResolvedCoordinate) (repository : Repository)
      (type : Option String)
  | select (added : Declarations.Added) (repositories : List Repository)
  | resolveVersion (owner : ModuleId) (constraints : List String) (repositories : List Repository)
  | resolve (request : Request) (repositories : List Repository)
  | resolveAll (requests : List Request)
  | findUpgrade (owner : ModuleId) (current : Option String) (constraint : String)
      (pattern : Option String) (repositories : List Repository)
  | addProjectPom (pom : Pom)
  | close

/-- The state after an operation, whether it succeeds or fails. -/
def Operation.apply (session : Session) (state : State) : Operation → State
  | .normalize repository containing => (session.normalize repository containing state).2
  | .search repositories containing version =>
    (session.searched repositories containing version state).2
  | .metadata coordinate repositories containing =>
    ((session.metadata coordinate repositories containing).run state).2
  | .datedVersion coordinate repositories containing =>
    ((session.datedVersion coordinate repositories containing).run state).2
  | .download coordinate relativePath containing repositories =>
    (session.download coordinate relativePath containing repositories state).2
  | .jar directory coordinate repository type =>
    ((session.jar directory coordinate repository type).run state).2
  | .select added repositories => ((session.select added repositories).run state).2
  | .resolveVersion owner constraints repositories =>
    ((session.resolveVersion owner constraints repositories).run state).2
  | .resolve request repositories => ((session.resolve request repositories).run state).2
  | .resolveAll requests => (session.resolveAll requests state).2
  | .findUpgrade owner current constraint pattern repositories =>
    ((session.findUpgrade owner current constraint pattern repositories).run state).2
  | .addProjectPom pom => ((Session.addProjectPom pom).run state).2
  | .close => (session.close state).2

/-- The state after some operations, one after another. -/
def reached (session : Session) (state : State) (operations : List Operation) : State :=
  operations.foldl (Operation.apply session) state

/-- What holds across all calls of a session holds across every operation that leaves it open. -/
theorem Operation.keeps {relation : State → State → Prop} (serving : session.Serving relation)
    (owned : ∀ pom, Keeps relation (Session.addProjectPom pom).run) {operation : Operation}
    (unclosed : operation ≠ .close) (state : State) : relation state (operation.apply session state) := by
  cases operation with
  | normalize repository containing => exact serving.normalized repository containing state
  | search repositories containing version => exact serving.searched repositories containing version state
  | metadata coordinate repositories containing => exact serving.metadata coordinate repositories containing state
  | datedVersion coordinate repositories containing =>
    exact serving.datedVersion coordinate repositories containing state
  | download coordinate relativePath containing repositories =>
    exact serving.download coordinate relativePath containing repositories state
  | jar directory coordinate repository type => exact serving.served directory coordinate repository type state
  | select added repositories => exact serving.select added repositories state
  | resolveVersion owner constraints repositories =>
    exact serving.resolveVersion owner constraints repositories state
  | resolve request repositories => exact serving.resolve request repositories state
  | resolveAll requests => exact serving.resolveAllFrom {} requests state
  | findUpgrade owner current constraint pattern repositories =>
    exact serving.findUpgrade owner current constraint pattern repositories state
  | addProjectPom pom => exact owned pom state
  | close => exact absurd rfl unclosed

theorem Operation.grows {operation : Operation} (unclosed : operation ≠ .close) (state : State) :
    session.Grows state (operation.apply session state) :=
  Operation.keeps session.serving_grows session.addProjectPom_grows unclosed state

/-- Closing a session empties its caches, which leaves nothing to be wrong about. -/
theorem Orderly.close (orderly : session.Orderly state) : session.Orderly (session.close state).2 := by
  have got : (get : StateM State State) state = (state, state) := rfl
  unfold Session.close
  rw [bind_apply, got]
  dsimp only
  split
  · exact orderly
  · exact {
      normalized := fun _ _ known => nomatch known
      metadata := fun _ _ known => nomatch known
      poms := fun _ _ known => nomatch known
      said := fun _ _ _ known => nomatch known
      named := fun _ _ known => nomatch known }

/-- What holds at first, and is kept by every operation, holds in every state that is reached. -/
theorem reached_of_kept {invariant : State → Prop}
    (opened : ∀ operation : Operation, operation ≠ .close → ∀ state,
      invariant state → invariant (operation.apply session state))
    (closed : ∀ state, invariant state → invariant (session.close state).2) (holds : invariant state)
    (operations : List Operation) : invariant (session.reached state operations) := by
  induction operations generalizing state with
  | nil => exact holds
  | cons operation rest ih =>
    refine ih ?_
    by_cases closing : operation = .close
    · rw [closing]
      exact closed state holds
    · exact opened operation closing state holds

theorem Orderly.reached (orderly : session.Orderly state) (operations : List Operation) :
    session.Orderly (session.reached state operations) :=
  reached_of_kept (fun _ unclosed state => (Operation.grows unclosed state).orderly)
    (fun _ => Orderly.close) orderly operations

/-- As long as a session is not closed, it forgets nothing. -/
theorem grows_reached (session : Session) (state : State) {operations : List Operation}
    (unclosed : .close ∉ operations) : session.Grows state (session.reached state operations) := by
  induction operations generalizing state with
  | nil => exact session.frame_grows.refl state
  | cons operation rest ih =>
    obtain ⟨here, there⟩ := not_or.mp (mt List.mem_cons.mpr unclosed)
    exact (Operation.grows (Ne.symm here) state).trans (ih _ there)

end MavenResolution.Session
