import MavenResolution.Proofs.Session.Replies

/-! Which repository a POM comes from. Repositories are asked in turn until one serves it; whatever
goes wrong with a reply, the repositories at other URLs are still asked. One that shares its
URL with an earlier one is asked only if the earlier one could not be reached. -/
namespace MavenResolution

/-- Where a document declares an encoding, if it does, there is none. -/
def Xml.Document.Undeclared (content : List UInt8) : Prop :=
  let detected := Encoding.detect content
  ∀ declaration behind,
    Declaration.take (leading (detected.1.decode detected.2)) = some (declaration, behind) →
      declaration.encoding = none

theorem Xml.Document.read_of_undeclared {content : List UInt8} {fault : Fault}
    (undeclared : Undeclared content) (failed : (octets content).read = .error fault) :
    fault = .malformed := by
  let characters := (Encoding.detect content).1.decode (Encoding.detect content).2
  unfold read readOctets at failed
  dsimp only at failed
  cases taken : Declaration.take (leading characters) with
  | none =>
    rw [taken] at failed
    exact (Except.error.inj failed).symm
  | some declared =>
    rw [taken] at failed
    dsimp only at failed
    rw [undeclared declared.1 declared.2 taken] at failed
    dsimp only [bind, Except.bind, pure, Except.pure] at failed
    split at failed
    · cases failed
    · exact (Except.error.inj failed).symm

theorem Pom.read_of_documentFault {document : Xml.Document} {sourcePath : Option Path}
    {repository : Option Repository} {reader : Xml.Reader} {fault : Xml.Fault}
    (failed : Pom.read document sourcePath repository reader = .error (.document fault)) :
    reader document = .error fault := by
  unfold Pom.read at failed
  split at failed
  · unfold Pom.ofElement at failed
    dsimp only at failed
    split at failed <;> cases failed
  · cases failed
    assumption

theorem Pom.repository_of_read {document : Xml.Document} {sourcePath : Option Path}
    {repository : Option Repository} {reader : Xml.Reader} {pom : Pom}
    (read : Pom.read document sourcePath repository reader = .ok pom) :
    pom.repository = repository := by
  unfold Pom.read at read
  split at read
  · unfold Pom.ofElement at read
    dsimp only at read
    split at read
    · cases read
    · cases read
      rfl
  · cases read

namespace Session

variable {session : Session} {own : List (Path × Pom)} {state : State}
  {coordinate : ResolvedCoordinate} {repository : Repository}

/-! What repositories serve. -/

/-- The request for a POM, with the credentials of the repository that is asked. -/
def pomRequest (coordinate : ResolvedCoordinate) (repository : Repository) : Http.Request :=
  { method := .get, url := Layout.pom repository coordinate, auth := repository.auth }

/-- What a repository replies to its own request. -/
def ownReply (session : Session) (coordinate : ResolvedCoordinate) (repository : Repository) :
    Http.Outcome :=
  session.server [] (pomRequest coordinate repository)

/-- The POM in a reply that tells of success. -/
def modelIn (session : Session) (coordinate : ResolvedCoordinate) (repository : Repository) :
    Http.Outcome → Option Pom
  | .error _ => none
  | .ok response =>
    if response.isSuccess then
      (Pom.read (.octets response.content) none (some repository) session.xml).toOption.map
        fun pom => { pom with coordinate := { coordinate with repository := some repository.uri } }
    else none

def served (session : Session) (coordinate : ResolvedCoordinate) (repository : Repository) :
    Option Pom :=
  session.modelIn coordinate repository (session.ownReply coordinate repository)

/-- The repositories at whose URL no earlier one has answered. -/
def inTurn (answers : Repository → Bool) (settled : List String) :
    List Repository → List Repository
  | [] => []
  | repository :: rest =>
    if repository.uri ∈ settled then inTurn answers settled rest
    else repository ::
      inTurn answers (if answers repository then repository.uri :: settled else settled) rest

/-- Repositories at different URLs are all asked. -/
theorem inTurn_of_pairwise {answers : Repository → Bool} {settled : List String}
    {repositories : List Repository} (apart : repositories.Pairwise (·.uri ≠ ·.uri))
    (unsettled : ∀ repository ∈ repositories, repository.uri ∉ settled) :
    inTurn answers settled repositories = repositories := by
  induction repositories generalizing settled with
  | nil => rfl
  | cons repository rest ih =>
    obtain ⟨differs, apartThen⟩ := List.pairwise_cons.mp apart
    obtain ⟨here, there⟩ := List.forall_mem_cons.mp unsettled
    rw [inTurn, if_neg here, ih apartThen]
    intro other member
    split
    · rw [List.mem_cons, not_or]
      exact ⟨(differs other member).symm, there other member⟩
    · exact there other member

/-- Whatever the reader raises about a reply is caught where the reply is read. For POMs this is all
but the `LookupError` of an unknown encoding, for metadata the `ParseError` alone. -/
structure CatchesFaults (session : Session) : Prop where
  metadata : ∀ earlier coordinate repository, session.Legible
    (session.server earlier (session.transport.prepare (metadataRequest coordinate repository)))
  poms : ∀ earlier coordinate repository response name, session.server earlier
      (session.transport.prepare (pomRequest coordinate repository)) = .ok response →
    response.isSuccess = true → session.xml (.octets response.content) ≠ .error (.unknownEncoding name)

/-- Of documents that declare no encoding there is nothing to raise but a `ParseError`. -/
theorem CatchesFaults.of_undeclared (reader : session.xml = Xml.Document.read)
    (undeclared : ∀ earlier request response, session.server earlier request = .ok response →
      Xml.Document.Undeclared response.content) : session.CatchesFaults where
  metadata earlier _ _ response fault replied _ raised :=
    Xml.Document.read_of_undeclared (undeclared earlier _ response replied)
      (congrFun reader _ ▸ raised)
  poms earlier _ _ response name replied _ raised := by
    cases Xml.Document.read_of_undeclared (undeclared earlier _ response replied)
      (congrFun reader _ ▸ raised)

/-- What becomes of a request, given whether the repository answers and what it serves. -/
def PomAnswer.ofReply (answers : Bool) (served : Option Pom) : PomAnswer :=
  match served with
  | some pom => .provided pom
  | none => if answers then .absent else .unreached

theorem firstProvided_eq_findSome? {answer : Repository → PomAnswer} {answers : Repository → Bool}
    {serves : Repository → Option Pom}
    (same : ∀ repository, answer repository = .ofReply (answers repository) (serves repository))
    (settled : List String) (repositories : List Repository) :
    firstProvided answer settled repositories =
      (inTurn answers settled repositories).findSome? serves := by
  induction repositories generalizing settled with
  | nil => rfl
  | cons repository rest ih =>
    rw [firstProvided, inTurn]
    split
    · exact ih settled
    · rw [List.findSome?_cons, same]
      cases serves repository with
      | some pom => rfl
      | none => cases answers repository <;> exact ih _

/-- What a session makes of the reply of a repository. -/
theorem fetchPom_of_reply (session : Session) (coordinate : ResolvedCoordinate)
    (repository : Repository) (state : State) :
    let key := { coordinate with repository := some repository.uri }
    let reply := (session.send Http.defaultContext (pomRequest coordinate repository) state).1
    let result := (session.fetchPom key repository state).1
    match reply with
    | .error fault => result = .error (.request fault)
    | .ok response => match session.modelIn coordinate repository reply with
      | some pom => result = .ok (.ok pom)
      | none => (∃ fault, result = .ok (.error fault)) ∨
        response.isSuccess = true ∧ ∃ name,
          session.xml (.octets response.content) = .error (.unknownEncoding name) ∧
            result = .error (.document (.unknownEncoding name)) := by
  have asked : { method := .get,
                 url := Layout.pom repository { coordinate with repository := some repository.uri },
                 auth := repository.auth } = pomRequest coordinate repository := rfl
  unfold fetchPom
  dsimp only
  rw [bind_apply, asked]
  generalize session.send Http.defaultContext (pomRequest coordinate repository) state = run
  obtain ⟨reply, after⟩ := run
  cases reply with
  | error fault => rfl
  | ok response =>
    dsimp only [modelIn]
    cases success : response.isSuccess with
    | false => exact .inl ⟨_, rfl⟩
    | true =>
      simp only [Bool.not_true, Bool.false_eq_true, if_false, if_true]
      cases read : Pom.read (.octets response.content) none (some repository) session.xml with
      | ok pom => rfl
      | error fault =>
        match fault with
        | .noArtifact => exact .inl ⟨_, rfl⟩
        | .document .malformed => exact .inl ⟨_, rfl⟩
        | .document (.unsupportedEncoding message) => exact .inl ⟨_, rfl⟩
        | .document (.unknownEncoding name) =>
          exact .inr ⟨trivial, name, Pom.read_of_documentFault read, rfl⟩

section

variable (failsByRequest : session.FailsByRequest)
  (catches : session.CatchesFaults)

include catches

/-- A reply that is of no use is a fault of the repository. -/
theorem exists_fetchPom_fault {response : Http.Response}
    (replied : (session.send Http.defaultContext (pomRequest coordinate repository) state).1 =
      .ok response)
    (useless : session.modelIn coordinate repository (.ok response) = none) :
    ∃ fault, (session.fetchPom { coordinate with repository := some repository.uri } repository
      state).1 = .ok (.error fault) := by
  have result := session.fetchPom_of_reply coordinate repository state
  dsimp only at result
  rw [replied] at result
  dsimp only at result
  rw [useless] at result
  rcases result with faulty | ⟨success, name, unreadable, -⟩
  · exact faulty
  · obtain ⟨before, answered⟩ := Http.Transport.exists_reply_of_send session.server
      (some Http.defaultContext) (pomRequest coordinate repository) session.transport
      state.requests replied
    exact absurd unreadable (catches.poms before _ _ response name answered success)

include failsByRequest

theorem pomAnswer_eq_ofReply (stateless : session.server.Stateless)
    (coordinate : ResolvedCoordinate) (repository : Repository) :
    session.pomAnswer coordinate repository =
      .ofReply (session.ownReply coordinate repository).isOk
        (session.served coordinate repository) := by
  have replied : (session.send Http.defaultContext (pomRequest coordinate repository) {}).1 =
      session.ownReply coordinate repository :=
    Http.Transport.outcome_send_of_waits stateless failsByRequest.waits _ _ _
  have fetched := session.fetchPom_of_reply coordinate repository {}
  dsimp only at fetched
  unfold pomAnswer served
  cases reply : session.ownReply coordinate repository with
  | error fault =>
    rw [replied, reply] at fetched
    dsimp only at fetched
    have request : fault.kind.isRequest = true := failsByRequest.server _ _ _ reply
    rw [fetched]
    simp only [PomAnswer.ofResult, Failure.isRequest, request, if_true]
    rfl
  | ok response =>
    cases provided : session.modelIn coordinate repository (.ok response) with
    | some pom =>
      rw [replied, reply] at fetched
      dsimp only at fetched
      rw [provided] at fetched
      dsimp only at fetched
      rw [fetched]
      rfl
    | none =>
      obtain ⟨fault, failed⟩ :=
        exists_fetchPom_fault catches (replied.trans reply) provided
      rw [failed]
      rfl

/-- Whatever a repository replies, a search goes on or is done. -/
theorem exists_pomFrom (coordinate : ResolvedCoordinate) (repository : Repository) (state : State) :
    ∃ result, (session.pomFrom { coordinate with repository := some repository.uri } repository
      state).1 = .ok result := by
  rw [pomFrom_apply]
  dsimp only
  rcases Region.compute_cases pomRegion_beside { coordinate with repository := some repository.uri }
    Except.toOption (session.fetchPom { coordinate with repository := some repository.uri }
      repository) 0 state with ⟨found, known, -⟩ | ⟨before, -, fetched, -⟩
  · rw [known]
    cases found <;> exact ⟨_, rfl⟩
  · -- The request was sent only now, whatever the caches held before.
    rw [fetched]
    have result := session.fetchPom_of_reply coordinate repository before
    dsimp only at result
    cases replied : (session.send Http.defaultContext (pomRequest coordinate repository) before).1
      with
    | error fault =>
      have request : fault.kind.isRequest = true :=
        failsByRequest.isRequest _ _ _ replied
      rw [replied] at result
      dsimp only at result
      rw [result, pomResult, if_pos request]
      exact ⟨_, rfl⟩
    | ok response =>
      cases provided : session.modelIn coordinate repository (.ok response) with
      | some pom =>
        rw [replied] at result
        dsimp only at result
        rw [provided] at result
        dsimp only at result
        rw [result]
        exact ⟨_, rfl⟩
      | none =>
        obtain ⟨fault, failed⟩ := exists_fetchPom_fault catches replied provided
        rw [failed]
        exact ⟨_, rfl⟩

/-- A search ends with a POM, or with the faults of all repositories in their order. -/
theorem downloadFrom_ends (coordinate : ResolvedCoordinate) (faults : DownloadFaults)
    (repositories : List Repository) (state : State) :
    let outcome := (session.downloadFrom coordinate faults repositories state).1.outcome
    (∃ pom, outcome = .ok pom) ∨
      ∃ tried : DownloadFaults, tried.map Prod.fst = repositories ∧
        outcome = .error (.pomUnavailable coordinate.coordinate (faults ++ tried)) := by
  induction repositories generalizing faults state with
  | nil =>
    refine .inr ⟨[], rfl, ?_⟩
    rw [List.append_nil]
    rfl
  | cons repository rest ih =>
    obtain ⟨result, asked⟩ := exists_pomFrom failsByRequest catches coordinate repository state
    rw [downloadFrom_cons]
    generalize session.pomFrom _ repository state = run at *
    obtain ⟨answer, after⟩ := run
    dsimp only at asked
    subst asked
    cases result with
    | ok pom => exact .inl ⟨pom, rfl⟩
    | error fault =>
      rcases ih (faults ++ [(repository, fault)]) after with provided | ⟨tried, all, unavailable⟩
      · exact .inl provided
      · refine .inr ⟨(repository, fault) :: tried, ?_, ?_⟩
        · rw [List.map_cons, all]
        · rw [List.append_cons]
          exact unavailable

end

/-! What comes before the search for a POM. -/

theorem ownPom?_eq_none {coordinate : Coordinate}
    (unowned : ∀ entry ∈ state.projectPoms, entry.2.isFor coordinate = false)
    (relativePath : Option String) (containing : Option Pom) :
    state.ownPom? coordinate relativePath containing = none := by
  have listed : state.projectPoms.find? (fun entry => entry.2.isFor coordinate) = none := by
    simpa [List.find?_eq_none] using unowned
  have referred (path : Path) (pom : Pom) (found : state.projectPom? path = some pom) :
      pom.isFor coordinate = false := by
    obtain ⟨before, behind, split, -⟩ := List.lookup_eq_some_iff.mp found
    exact unowned (path.normalize, pom) (by simp [split])
  unfold State.ownPom?
  rw [listed, Option.map_none]
  cases containing with
  | none => rfl
  | some containing =>
    cases relativePath with
    | none => rfl
    | some relativePath =>
      refine Option.bind_eq_none_iff.mpr fun path _ =>
        Option.bind_eq_none_iff.mpr fun pom found => ?_
      have refused : (guard (pom.isFor coordinate = true) : Option Unit) = none :=
        if_neg (Bool.eq_false_iff.mp (referred path pom found))
      rw [refused]
      rfl

theorem CatchesFaults.legible (catches : session.CatchesFaults) (coordinate : Coordinate)
    (repository : Repository) (earlier : List Http.Request) :
    session.Legible (session.metadataExchange coordinate repository earlier).outcome := by
  intro response fault replied success raised
  obtain ⟨before, answered⟩ := Http.Transport.exists_reply_of_send session.server
    (some Http.defaultContext) (metadataRequest coordinate repository) session.transport earlier
    replied
  exact catches.metadata before coordinate repository response fault answered success raised

theorem replies_legible (catches : session.CatchesFaults) (coordinate : Coordinate)
    (earlier : List Http.Request) (repositories : List Repository) :
    ∀ reply ∈ session.replies coordinate earlier repositories, session.Legible reply.2 := by
  induction repositories generalizing earlier with
  | nil => exact fun _ member => nomatch member
  | cons repository rest ih =>
    exact List.forall_mem_cons.mpr ⟨catches.legible coordinate repository earlier, ih _⟩

theorem exists_datedVersion (failsByRequest : session.FailsByRequest)
    (catches : session.CatchesFaults) (own : List (Path × Pom))
    {coordinate : Coordinate} (grouped : (coordinate.group.getD "").isEmpty = false)
    (repositories : List Repository) (containing : Option Pom) :
    ∃ dated, ((session.datedVersion coordinate repositories containing).run (fresh own)).1 =
      .ok dated := by
  unfold datedVersion
  cases coordinate.version with
  | none => exact ⟨_, rfl⟩
  | some version =>
    dsimp only
    split
    · exact ⟨_, rfl⟩
    · cases session.pinnedVersion? coordinate with
      | some dated => exact ⟨_, rfl⟩
      | none =>
        obtain ⟨hears, -⟩ := metadata_hears failsByRequest own grouped repositories containing
        obtain ⟨known, -⟩ := hears (replies_legible catches _ _ _)
        dsimp only
        rw [run_bind_apply]
        generalize (session.metadata coordinate repositories containing).run (fresh own) = run at *
        obtain ⟨result, after⟩ := run
        dsimp only at known
        subst known
        exact ⟨_, rfl⟩

/-- Nothing is found out about POMs. -/
structure SameModels (state after : State) : Prop where
  poms : after.poms = state.poms
  projectPoms : after.projectPoms = state.projectPoms

theorem SameModels.trans {after last : State} (first : SameModels state after)
    (second : SameModels after last) : SameModels state last :=
  ⟨second.poms.trans first.poms, second.projectPoms.trans first.projectPoms⟩

theorem frame_models (session : Session) : session.Frame SameModels where
  refl _ := ⟨rfl, rfl⟩
  trans := .trans
  noted _ _ _ := ⟨rfl, rfl⟩
  sent _ _ _ := ⟨rfl, rfl⟩

theorem report_models (session : Session) (failure : Failure) :
    Keeps SameModels (session.report failure) := fun state =>
  ⟨congrArg Memory.poms (report_memory session failure state),
    congrArg Memory.projectPoms (report_memory session failure state)⟩

theorem searched_models (session : Session) (repositories : List Repository)
    (containing : Option Pom) (version : Option String) :
    Keeps SameModels (session.searched repositories containing version) :=
  session.frame_models.searched (fun _ _ => ⟨rfl, rfl⟩)
    (fun _ => session.frame_models.probeOrReport fun _ => session.report_models _)
    repositories containing version

theorem metadata_models (session : Session) (coordinate : Coordinate)
    (repositories : List Repository) (containing : Option Pom) :
    Keeps SameModels (session.metadata coordinate repositories containing).run :=
  session.frame_models.metadata (fun _ _ => ⟨rfl, rfl⟩) (fun _ _ => ⟨rfl, rfl⟩)
    (fun _ => session.frame_models.probeOrReport fun _ => session.report_models _)
    (fun _ _ _ => session.report_models _) coordinate repositories containing

theorem datedVersion_models (session : Session) (coordinate : Coordinate)
    (repositories : List Repository) (containing : Option Pom) :
    Keeps SameModels (session.datedVersion coordinate repositories containing).run :=
  session.frame_models.datedVersion (session.metadata_models coordinate repositories containing)

theorem noteAll_models (entries : List Log.Entry) : Keeps SameModels (noteAll entries) :=
  fun _ => ⟨rfl, rfl⟩

theorem declare_models (session : Session) (declarations : Declarations) (owner : ModuleId)
    (constraints : List String) : Keeps SameModels (declare declarations owner constraints).run :=
  session.frame_models.declare noteAll_models declarations owner constraints

theorem select_models (session : Session) (added : Declarations.Added) (repositories : List Repository) :
    Keeps SameModels (session.select added repositories).run :=
  session.frame_models.select noteAll_models (session.metadata_models · repositories none) added

/-- Metadata are asked for after the search, which alone finds out about repositories. -/
theorem metadata_normalized (session : Session) {coordinate : Coordinate}
    (grouped : (coordinate.group.getD "").isEmpty = false) (repositories : List Repository)
    (containing : Option Pom) (state : State) :
    ((session.metadata coordinate repositories containing).run state).2.normalized =
      (session.searched repositories containing none state).2.normalized := by
  have frame := session.frame_memory Memory.normalized
  rw [metadata_run session grouped]
  exact frame.run_mapM (frame.ask (fun _ _ => rfl)
    (fun _ _ _ state => congrArg Memory.normalized (report_memory session _ state)) coordinate)
    (session.searched repositories containing none state).1
    (session.searched repositories containing none state).2

theorem searched_after_datedVersion (session : Session) (own : List (Path × Pom))
    {coordinate : Coordinate} (grouped : (coordinate.group.getD "").isEmpty = false)
    (repositories : List Repository) (containing : Option Pom) (version : Option String) :
    let after := ((session.datedVersion coordinate repositories containing).run (fresh own)).2
    (session.searched repositories containing version after).1 =
      (session.searched repositories containing version (fresh own)).1 := by
  have idle : (fresh own).normalized.Idle := fun _ _ known => nomatch known
  obtain ⟨idleNow, -, again⟩ :=
    searched_again session repositories containing none version idle
  unfold datedVersion
  cases coordinate.version with
  | none => rfl
  | some published =>
    dsimp only
    split
    · rfl
    · cases session.pinnedVersion? coordinate with
      | some dated => rfl
      | none =>
        have same := session.metadata_normalized grouped repositories containing (fresh own)
        dsimp only
        rw [run_bind_pure]
        exact again _ (same ▸ idleNow) (same ▸ .refl _)

/-! Downloads. -/

/-- What a download comes to: a failure to find the dated version, a POM of the project, or a search
through the repositories. -/
theorem download_apply {coordinate : Coordinate} {complete : ResolvedCoordinate}
    (completed : complete? coordinate = some complete) (relativePath : Option String)
    (containing : Option Pom) (repositories : List Repository) (state : State) :
    session.download coordinate relativePath containing repositories state =
      match (session.datedVersion coordinate repositories containing).run state with
      | (.error failure, after) => ({ outcome := .error failure }, after)
      | (.ok dated, after) => match after.ownPom? coordinate relativePath containing with
        | some pom => ({ outcome := .ok pom }, after)
        | none =>
          let searching := session.searched repositories containing (some complete.version) after
          let dated := dated.filter fun dated => !dated.isEmpty && dated != complete.version
          session.downloadFrom { complete with dated } [] searching.1 searching.2 := by
  unfold download
  rw [completed]
  dsimp only
  rw [bind_apply]
  generalize (session.datedVersion coordinate repositories containing).run state = dating
  obtain ⟨result, after⟩ := dating
  cases result with
  | error failure => rfl
  | ok dated =>
    dsimp only
    rw [bind_apply]
    change (match after.ownPom? coordinate relativePath containing with
      | some pom => _
      | none => _ : StateM State Download) after = _
    cases after.ownPom? coordinate relativePath containing with
    | some pom => rfl
    | none => rfl

section

variable (stateless : session.server.Stateless) (failsByRequest : session.FailsByRequest)
  (catches : session.CatchesFaults)

include stateless failsByRequest catches

theorem downloadFrom_of_replies (coordinate : ResolvedCoordinate) (repositories : List Repository)
    (unknown : state.poms = {}) :
    let sources := inTurn (fun repository => (session.ownReply coordinate repository).isOk) []
      repositories
    let outcome := (session.downloadFrom coordinate [] repositories state).1.outcome
    match sources.findSome? (session.served coordinate) with
    | some pom => outcome = .ok pom
    | none => ∃ faults, faults.map Prod.fst = repositories ∧
      outcome = .error (.pomUnavailable coordinate.coordinate faults) := by
  intro sources outcome
  have consistent : Consistent (session.pomAnswer coordinate) [] repositories
      (state.memory.pomAt coordinate) := by
    refine ⟨fun _ member => absurd member List.not_mem_nil, fun uri flight known => ?_⟩
    unfold Memory.pomAt State.memory at known
    rw [unknown] at known
    cases known
  have first : outcome.toOption =
      firstProvided (session.pomAnswer coordinate) [] repositories :=
    (downloadFrom_sound stateless consistent).1
  rw [firstProvided_eq_findSome?
    (pomAnswer_eq_ofReply failsByRequest catches stateless coordinate)] at first
  rcases downloadFrom_ends failsByRequest catches coordinate [] repositories state with
    ⟨pom, provided⟩ | ⟨faults, tried, unavailable⟩
  · have found : outcome.toOption = some pom := congrArg Except.toOption provided
    rw [← first, found]
    exact provided
  · have missing : outcome.toOption = none := congrArg Except.toOption unavailable
    rw [← first, missing]
    exact ⟨faults, tried, unavailable⟩

/-- The POM comes from the first repository that serves it, among those at whose URL no earlier
one has answered. If there is none, all that were searched are told to have failed. -/
theorem download_of_replies {group artifact version : String} (grouped : group.isEmpty = false)
    (named : artifact.isEmpty = false) (versioned : version.isEmpty = false)
    (unowned : ∀ entry ∈ own, entry.2.isFor ⟨some group, some artifact, some version⟩ = false)
    (repositories : List Repository) (relativePath : Option String) (containing : Option Pom) :
    let coordinate : Coordinate := ⟨some group, some artifact, some version⟩
    let outcome :=
      (session.download coordinate relativePath containing repositories (fresh own)).1.outcome
    let searched := (session.searched repositories containing (some version) (fresh own)).1
    ∃ dated, ((session.datedVersion coordinate repositories containing).run (fresh own)).1 =
        .ok dated ∧
      let published := dated.filter fun dated => !dated.isEmpty && dated != version
      let asked : ResolvedCoordinate := ⟨none, group, artifact, version, published⟩
      let sources := inTurn (fun repository => (session.ownReply asked repository).isOk) [] searched
      (match sources.findSome? (session.served asked) with
        | some pom => outcome = .ok pom
        | none => ∃ faults, faults.map Prod.fst = searched ∧
          outcome = .error (.pomUnavailable coordinate faults)) ∧
      (searched.Pairwise (·.uri ≠ ·.uri) → sources = searched) := by
  intro coordinate outcome searched
  have hasGroup : (coordinate.group.getD "").isEmpty = false := grouped
  obtain ⟨dated, tells⟩ :=
    exists_datedVersion failsByRequest catches own hasGroup repositories containing
  have models := session.datedVersion_models coordinate repositories containing (fresh own)
  have again := session.searched_after_datedVersion own hasGroup repositories containing
    (some version)
  have complete : complete? coordinate =
      some { repository := none, group, artifact, version } := by
    simp [complete?, coordinate, Option.filter, grouped, named, versioned]
  refine ⟨dated, tells, ?_, fun apart => inTurn_of_pairwise apart fun _ _ => List.not_mem_nil⟩
  have run : session.download coordinate relativePath containing repositories (fresh own) =
      session.downloadFrom ⟨none, group, artifact, version,
        dated.filter fun dated => !dated.isEmpty && dated != version⟩ [] searched
        (session.searched repositories containing (some version)
          ((session.datedVersion coordinate repositories containing).run (fresh own)).2).2 := by
    rw [download_apply complete]
    generalize (session.datedVersion coordinate repositories containing).run (fresh own) = dating
      at *
    obtain ⟨result, after⟩ := dating
    dsimp only at tells models again ⊢
    subst tells
    have missing : after.ownPom? coordinate relativePath containing = none :=
      ownPom?_eq_none (models.projectPoms ▸ unowned) relativePath containing
    dsimp only
    rw [missing]
    dsimp only
    rw [again]
  have kept := session.searched_models repositories containing (some version)
    ((session.datedVersion coordinate repositories containing).run (fresh own)).2
  have ends := downloadFrom_of_replies stateless failsByRequest catches
    ⟨none, group, artifact, version, dated.filter fun dated => !dated.isEmpty && dated != version⟩
    searched (models.trans kept).poms
  rw [← run] at ends
  exact ends

end

theorem download_of_replies_guarded :
    let server : Http.Server := fun _ request =>
      .ok { status := if request.auth = none then 401 else 200
            content := Text.Utf8.encode "<project><artifactId>lib</artifactId></project>".toList }
    let session : Session :=
      { transport := Http.Transport.ofConfiguration {}, includesCentral := false, server }
    let first : Repository := { id := some "a", uri := "https://a.example", knownToExist := true }
    let second : Repository :=
      { id := some "b", uri := "https://b.example", knownToExist := true,
        username := some "ci", password := some "secret" }
    let own : List (Path × Pom) :=
      [(Path.ofText "pom.xml", { coordinate := ⟨none, "org.example", "app", "1.0", none⟩ })]
    server.Stateless ∧ session.FailsByRequest ∧ session.CatchesFaults ∧
      (∀ entry ∈ own, entry.2.isFor ⟨some "org.example", some "lib", some "1.0"⟩ = false) ∧
      ∃ pom, session.served ⟨none, "org.example", "lib", "1.0", none⟩ second = some pom ∧
        (session.download ⟨some "org.example", some "lib", some "1.0"⟩ none none [first, second]
          (fresh own)).1.outcome = .ok pom := by
  intro server session first second own
  let coordinate : Coordinate := ⟨some "org.example", some "lib", some "1.0"⟩
  let complete : ResolvedCoordinate := ⟨none, "org.example", "lib", "1.0", none⟩
  have stateless : session.server.Stateless := by
    intro earlier earlier' a b _ _ auth
    simp only [session, server, auth]
  have failsByRequest : session.FailsByRequest := by
    refine ⟨?_, fun _ => by rfl⟩
    rintro earlier request fault ⟨⟩
  have catches : session.CatchesFaults := by
    refine .of_undeclared rfl ?_
    rintro earlier request response ⟨⟩ declaration behind taken
    cases taken
    rfl
  have unowned : ∀ entry ∈ own,
      entry.2.isFor ⟨some "org.example", some "lib", some "1.0"⟩ = false := by decide
  have undated : ((session.datedVersion coordinate [first, second] none).run (fresh own)).1 =
      .ok (some "1.0") := by rfl
  have searched : (session.searched [first, second] none (some "1.0") (fresh own)).1 =
      [first, second] := by decide
  have refused : session.served complete first = none := by rfl
  have serves : (session.served complete second).isSome := by decide +kernel
  refine ⟨stateless, failsByRequest, catches, unowned, ?_⟩
  -- Nothing needs to be evaluated from here on.
  clear_value session
  obtain ⟨pom, served⟩ := Option.isSome_iff_exists.mp serves
  obtain ⟨dated, tells, ends, inOrder⟩ := @download_of_replies session own stateless failsByRequest
    catches "org.example" "lib" "1.0" (by decide) (by decide) (by decide) unowned [first, second]
    none none
  obtain rfl := Except.ok.inj (undated.symm.trans tells)
  rw [inOrder (by rw [searched]; decide), searched] at ends
  change match [first, second].findSome? (session.served complete) with
    | some pom => _
    | none => _ at ends
  rw [List.findSome?_cons, refused, List.findSome?_cons, served] at ends
  exact ⟨pom, served, ends⟩

/-- A repository that would serve a POM is not asked if one at its URL has refused. -/
theorem exists_download_unasked :
    let server : Http.Server := fun _ request =>
      if request.auth = none then .ok { status := 401 }
      else .ok { status := 200, content :=
        Text.Utf8.encode "<project><artifactId>lib</artifactId></project>".toList }
    let session : Session :=
      { transport := Http.Transport.ofConfiguration {}, includesCentral := false, server }
    let first : Repository := { id := some "a", uri := "https://a.example", knownToExist := true }
    let second : Repository :=
      { id := some "b", uri := "https://a.example", knownToExist := true,
        username := some "ci", password := some "secret" }
    server.Stateless ∧ session.FailsByRequest ∧
      (session.searched [first, second] none (some "1.0") (fresh [])).1 = [first, second] ∧
      (session.served ⟨none, "org.example", "lib", "1.0", none⟩ second).isSome ∧
      (session.download ⟨some "org.example", some "lib", some "1.0"⟩ none none [first, second]
        (fresh [])).1.outcome matches .error (.pomUnavailable _ _) := by
  intro server session first second
  have stateless : server.Stateless := by
    intro earlier earlier' a b _ _ auth
    simp only [server, auth]
  have failsByRequest : session.FailsByRequest := by
    refine ⟨?_, fun _ => by rfl⟩
    intro earlier request fault failed
    dsimp only [session, server] at failed
    split at failed <;> cases failed
  refine ⟨stateless, failsByRequest, ?_, ?_, ?_⟩
  · decide
  · decide +kernel
  · decide +kernel

end Session
end MavenResolution
