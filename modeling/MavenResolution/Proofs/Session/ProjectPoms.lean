import MavenResolution.Proofs.Session.Sending

/-! Project POMs. No repository is asked for them; what may be asked for is the dated
version of a snapshot, which is worked out first. Nothing is asked if it is pinned, or if the session
has found out before all that it takes. -/
namespace MavenResolution.Session

variable {session : Session} {state after : State} {containing : Option Pom}
  {repositories : List Repository} {repository : Repository}

/-! Normalized repositories. -/

/-- A repository is not probed: it is known to exist, or it has been normalized before. -/
def KnowsForm (session : Session) (state : State) (containing : Option Pom)
    (repository : Repository) : Prop :=
  let declared := session.declared repository containing
  declared.knownToExist = true ∨ (state.normalized.known declared.identity).isSome

theorem KnowsForm.of_known (knows : session.KnowsForm state containing repository)
    (same : ∀ identity, after.normalized.known identity = state.normalized.known identity) :
    session.KnowsForm after containing repository := by
  unfold KnowsForm at *
  dsimp only at *
  rwa [same]

theorem KnowsForm.normalize (knows : session.KnowsForm state containing repository) :
    let run := session.normalize repository containing state
    (∀ identity, run.2.normalized.known identity = state.normalized.known identity) ∧
      run.2.requests = state.requests := by
  intro run
  cases known : (session.declared repository containing).knownToExist with
  | true =>
    have same : run = _ := normalize_of_known known
    rw [same]
    exact ⟨fun _ => rfl, rfl⟩
  | false =>
    have recorded : (state.normalized.known
        (session.declared repository containing).identity).isSome := by
      rcases knows with exists_ | recorded
      · rw [known] at exists_
        cases exists_
      · exact recorded
    obtain ⟨-, same, unsent⟩ := Region.compute_recorded normalizedRegion_besideRequests id
      (session.probeOrReport (session.declared repository containing)) 0 recorded
    have applied : run = _ := normalize_apply known
    rw [applied]
    exact ⟨same, unsent⟩

/-! Normalizing a repository that is not known. -/

theorem asks_isReachable (session : Session) (repository : Repository) (uri : String) :
    Keeps Asks (session.isReachable repository uri) := by
  refine Asks.bind (session.asks_send _ _) (fun outcome => ?_)
  cases outcome with
  | ok response => exact session.frame_continues.pure _
  | error fault => exact session.frame_continues.pure _

theorem asks_answeringForm (session : Session) (repository : Repository) :
    Keeps Asks (session.answeringForm repository).run := by
  have frame := session.frame_continues
  refine Asks.run_bind (session.asks_isReachable repository _) (fun secure => ?_)
  split
  · exact frame.pure _
  · split
    · exact frame.pure _
    · refine frame.run_bind (frame.isReachable repository _) fun plain => ?_
      split <;> exact frame.pure _

theorem asks_probeOrReport (session : Session) (repository : Repository) :
    Keeps Asks (session.probeOrReport repository) := by
  have frame := session.frame_continues
  have probes : Keeps Asks (session.probe repository).run := by
    refine Asks.run_bind (session.asks_answeringForm repository) (fun found => ?_)
    cases found with
    | none => exact frame.run_bind (frame.noted _ nofun) fun _ => frame.pure _
    | some found => exact frame.run_bind (frame.noted _ nofun) fun _ => frame.pure _
  refine Asks.bind probes (fun result => ?_)
  cases result with
  | ok found => exact frame.pure _
  | error fault => exact frame.bind (session.report_sent _) fun _ => frame.pure _

theorem asks_normalize (unknown : ¬session.KnowsForm state containing repository) :
    Asks state (session.normalize repository containing state).2 := by
  unfold KnowsForm at unknown
  dsimp only at unknown
  rw [not_or, Bool.not_eq_true, Option.not_isSome_iff_eq_none] at unknown
  obtain ⟨undeclared, unrecorded⟩ := unknown
  let declared := session.declared repository containing
  have kept : normalizedRegion.cache
      (session.probeOrReport declared (normalizedRegion.asked 0 declared.identity state)).2 =
        normalizedRegion.cache (normalizedRegion.asked 0 declared.identity state) :=
    congrArg Memory.normalized (probeOrReport_memory session declared _)
  obtain ⟨-, -, sends⟩ :=
    Region.compute_learns normalizedRegion_besideRequests id unrecorded kept
  have asks := session.asks_probeOrReport declared
    (normalizedRegion.asked 0 declared.identity state)
  rw [normalize_apply undeclared]
  unfold Asks at *
  dsimp only at sends ⊢
  rw [sends]
  exact asks

theorem normalize_continues (session : Session) (repository : Repository) (containing : Option Pom) :
    Keeps Continues (session.normalize repository containing) :=
  continues_of_sent (session.normalize_sent repository containing)

/-- Nothing is sent to normalize repositories if all of them are known. -/
theorem normalizeAll_of_knowsForm
    (known : ∀ repository ∈ repositories, session.KnowsForm state containing repository) :
    let run := repositories.mapM (session.normalize · containing) state
    (∀ identity, run.2.normalized.known identity = state.normalized.known identity) ∧
      run.2.requests = state.requests := by
  induction repositories generalizing state with
  | nil => exact ⟨fun _ => rfl, rfl⟩
  | cons repository rest ih =>
    obtain ⟨here, there⟩ := List.forall_mem_cons.mp known
    obtain ⟨same, unsent⟩ := here.normalize
    obtain ⟨sameThen, unsentThen⟩ :=
      ih fun other member => (there other member).of_known same
    rw [normalizeAll_cons]
    exact ⟨fun identity => (sameThen identity).trans (same identity), unsentThen.trans unsent⟩

theorem asks_normalizeAll
    (unknown : ¬∀ repository ∈ repositories, session.KnowsForm state containing repository) :
    Asks state (repositories.mapM (session.normalize · containing) state).2 := by
  -- The first repository that is not known is normalized in a state that knows what is known at the start.
  induction repositories generalizing state with
  | nil => exact absurd (fun _ member => nomatch member) unknown
  | cons repository rest ih =>
    have frame := session.frame_continues
    rw [normalizeAll_cons]
    by_cases here : session.KnowsForm state containing repository
    · obtain ⟨same, -⟩ := here.normalize
      have there : ¬∀ other ∈ rest, session.KnowsForm
          (session.normalize repository containing state).2 containing other := by
        intro known
        refine unknown (List.forall_mem_cons.mpr ⟨here, fun other member => ?_⟩)
        exact (known other member).of_known fun identity => (same identity).symm
      exact (ih there).behind (session.normalize_continues repository containing state)
    · have later := frame.mapM (session.normalize_continues · containing) rest
      exact (asks_normalize here).then (later _)

theorem searched_requests (session : Session) (repositories : List Repository)
    (containing : Option Pom) (version : Option String) (state : State) :
    let forms := (repositories.mapM (session.normalize · containing) state).2
    (session.searched repositories containing version state).2.requests =
      if session.includesCentral
        then (session.normalize session.configuration.central containing forms).2.requests
        else forms.requests := by
  rw [searched_apply]
  cases session.includesCentral <;> rfl

/-- A search sends nothing if and only if all normalized repositories are known that it needs. -/
structure KnowsForms (session : Session) (state : State) (containing : Option Pom)
    (repositories : List Repository) : Prop where
  listed : ∀ repository ∈ repositories, session.KnowsForm state containing repository
  central : session.includesCentral = true →
    session.KnowsForm state containing session.configuration.central

theorem KnowsForms.searched (knows : session.KnowsForms state containing repositories)
    (version : Option String) :
    (session.searched repositories containing version state).2.requests = state.requests := by
  obtain ⟨same, unsent⟩ := normalizeAll_of_knowsForm knows.listed
  rw [searched_requests]
  split
  · rename_i included
    have central := (knows.central included).of_known same
    exact central.normalize.2.trans unsent
  · exact unsent

theorem asks_searched (unknown : ¬session.KnowsForms state containing repositories)
    (version : Option String) :
    Asks state (session.searched repositories containing version state).2 := by
  have frame := session.frame_continues
  have sent := session.searched_requests repositories containing version state
  unfold Asks
  rw [sent]
  by_cases listed : ∀ repository ∈ repositories, session.KnowsForm state containing repository
  · obtain ⟨same, unsent⟩ := normalizeAll_of_knowsForm listed
    have missing : session.includesCentral = true ∧
        ¬session.KnowsForm state containing session.configuration.central :=
      Classical.not_imp.mp fun central => unknown ⟨listed, central⟩
    rw [if_pos missing.1, ← unsent]
    refine asks_normalize fun known => missing.2 ?_
    exact known.of_known fun identity => (same identity).symm
  · have asks := asks_normalizeAll listed
    split
    · exact asks.then (session.normalize_continues _ containing _)
    · exact asks

/-! Merged metadata. -/

theorem asks_fetchMetadata (session : Session) (coordinate : Coordinate) (repository : Repository) :
    Keeps Asks (session.fetchMetadata coordinate repository).run := by
  have frame := session.frame_continues
  refine Asks.run_bind (session.asks_send _ _) fun outcome => ?_
  cases outcome with
  | error fault =>
    dsimp only
    split
    · exact frame.run_bind (session.report_sent _) fun _ => frame.pure _
    · exact frame.pure _
  | ok response =>
    dsimp only
    split
    · exact frame.run_bind (frame.noted _ nofun) fun _ => frame.pure _
    · split
      · exact frame.pure _
      · exact frame.run_bind (session.report_sent _) fun _ => frame.pure _
      · exact frame.pure _

theorem ask_of_recorded {coordinate : Coordinate}
    (recorded : (state.metadata.known (repository.uri, coordinate)).isSome) :
    let run := (session.ask coordinate repository).run state
    (∃ found, run.1 = .ok found) ∧
      (∀ key, run.2.metadata.known key = state.metadata.known key) ∧
      run.2.requests = state.requests := by
  intro run
  obtain ⟨⟨found, result⟩, same, unsent⟩ := Region.compute_recorded metadataRegion_besideRequests id
    (session.fetchMetadata coordinate repository).run 0 recorded
  refine ⟨⟨found, ?_⟩, same, unsent⟩
  have applied : run = _ := session.ask_apply coordinate repository state
  rw [applied]
  dsimp only
  rw [result]
  rfl

theorem asks_ask {coordinate : Coordinate}
    (unrecorded : state.metadata.known (repository.uri, coordinate) = none) :
    Asks state ((session.ask coordinate repository).run state).2 := by
  let key := (repository.uri, coordinate)
  have kept : metadataRegion.cache ((session.fetchMetadata coordinate repository).run
      (metadataRegion.asked 0 key state)).2 = metadataRegion.cache (metadataRegion.asked 0 key state) :=
    (session.frame_memory Memory.metadata).fetchMetadata
      (fun _ state => congrArg Memory.metadata (report_memory session _ state)) _
  obtain ⟨-, -, sends⟩ := Region.compute_learns metadataRegion_besideRequests id unrecorded kept
  have asks := session.asks_fetchMetadata coordinate repository (metadataRegion.asked 0 key state)
  rw [ask_apply]
  unfold Asks at *
  dsimp only at sends ⊢
  rw [sends]
  exact asks

theorem ask_continues (session : Session) (coordinate : Coordinate) (repository : Repository) :
    Keeps Continues (session.ask coordinate repository).run :=
  continues_of_sent (session.ask_sent coordinate repository)

theorem askAll_of_recorded (session : Session) {coordinate : Coordinate}
    (recorded : ∀ repository ∈ repositories,
      (state.metadata.known (repository.uri, coordinate)).isSome) :
    let run := (repositories.mapM (session.ask coordinate)).run state
    (∃ found, run.1 = .ok found) ∧ run.2.requests = state.requests := by
  induction repositories generalizing state with
  | nil => exact ⟨⟨[], rfl⟩, rfl⟩
  | cons repository rest ih =>
    obtain ⟨here, there⟩ := List.forall_mem_cons.mp recorded
    obtain ⟨⟨found, result⟩, same, unsent⟩ := @ask_of_recorded session state repository coordinate here
    rw [run_mapM_cons]
    generalize (session.ask coordinate repository).run state = asked at *
    obtain ⟨answer, after⟩ := asked
    dsimp only at result same unsent ⊢
    subst result
    obtain ⟨⟨others, results⟩, unsentThen⟩ := ih fun other member =>
      (same (other.uri, coordinate)).symm ▸ there other member
    dsimp only
    rw [results]
    exact ⟨⟨found :: others, rfl⟩, unsentThen.trans unsent⟩

theorem asks_askAll {coordinate : Coordinate} (unrecorded : ¬∀ repository ∈ repositories,
      (state.metadata.known (repository.uri, coordinate)).isSome) :
    Asks state ((repositories.mapM (session.ask coordinate)).run state).2 := by
  induction repositories generalizing state with
  | nil => exact absurd (fun _ member => nomatch member) unrecorded
  | cons repository rest ih =>
    have frame := session.frame_continues
    rw [run_mapM_cons]
    cases here : state.metadata.known (repository.uri, coordinate) with
    | none =>
      have asks := @asks_ask session state repository coordinate here
      generalize (session.ask coordinate repository).run state = asked at *
      obtain ⟨answer, after⟩ := asked
      cases answer with
      | error failure => exact asks
      | ok found =>
        exact asks.then (frame.run_mapM (session.ask_continues coordinate) rest after)
    | some flight =>
      have recorded : (state.metadata.known (repository.uri, coordinate)).isSome := by rw [here]; rfl
      obtain ⟨⟨found, result⟩, same, unsent⟩ :=
        @ask_of_recorded session state repository coordinate recorded
      generalize (session.ask coordinate repository).run state = asked at *
      obtain ⟨answer, after⟩ := asked
      dsimp only at result same unsent ⊢
      subst result
      refine (ih fun known => unrecorded ?_).behind (.of_same unsent)
      refine List.forall_mem_cons.mpr ⟨recorded, fun other member => ?_⟩
      rw [← same]
      exact known other member

/-- The metadata of all repositories for a coordinate are in the cache. -/
structure HasHeard (session : Session) (state : State) (coordinate : Coordinate)
    (repositories : List Repository) (containing : Option Pom) : Prop where
  forms : session.KnowsForms state containing repositories
  recorded : ∀ repository ∈ (session.searched repositories containing none state).1,
    (state.metadata.known (repository.uri, coordinate)).isSome

theorem searched_metadata (session : Session) (repositories : List Repository)
    (containing : Option Pom) (version : Option String) (state : State) :
    (session.searched repositories containing version state).2.metadata = state.metadata :=
  have frame := session.frame_memory Memory.metadata
  frame.searched (fun _ _ => rfl) (fun _ => frame.probeOrReport fun _ state =>
    congrArg Memory.metadata (report_memory session _ state)) repositories containing version state

section

variable {coordinate : Coordinate} (grouped : (coordinate.group.getD "").isEmpty = false)

include grouped

theorem metadata_of_hasHeard (heard : session.HasHeard state coordinate repositories containing) :
    let run := (session.metadata coordinate repositories containing).run state
    (∃ known, run.1 = .ok known) ∧ run.2.requests = state.requests := by
  have unsent := heard.forms.searched none
  have kept := session.searched_metadata repositories containing none state
  obtain ⟨⟨found, results⟩, unsentThen⟩ := askAll_of_recorded session
    (fun repository member => kept.symm ▸ heard.recorded repository member)
  rw [metadata_run session grouped]
  dsimp only
  rw [results]
  exact ⟨⟨_, rfl⟩, unsentThen.trans unsent⟩

theorem asks_metadata (unheard : ¬session.HasHeard state coordinate repositories containing) :
    Asks state ((session.metadata coordinate repositories containing).run state).2 := by
  have frame := session.frame_continues
  rw [metadata_run session grouped]
  dsimp only
  by_cases forms : session.KnowsForms state containing repositories
  · have unsent := forms.searched none
    have kept := session.searched_metadata repositories containing none state
    refine (asks_askAll fun recorded => unheard ⟨forms, ?_⟩).behind (.of_same unsent)
    exact fun repository member => kept ▸ recorded repository member
  · exact (asks_searched forms none).then (frame.run_mapM (session.ask_continues coordinate) _ _)

end

/-! Project POMs. -/

/-- The dated version of a snapshot costs nothing if it is pinned, or can be told without asking. -/
theorem datedVersion_silent_iff {coordinate : Coordinate} {version : String}
    (versioned : coordinate.version = some version)
    (grouped : (coordinate.group.getD "").isEmpty = false) (repositories : List Repository)
    (containing : Option Pom) (state : State) :
    let run := (session.datedVersion coordinate repositories containing).run state
    ((∃ dated, run.1 = .ok dated) ∧ run.2.requests = state.requests ↔
      Snapshot.isSnapshot version = false ∨ (session.pinnedVersion? coordinate).isSome ∨
        session.HasHeard state coordinate repositories containing) := by
  intro run
  cases snapshot : Snapshot.isSnapshot version with
  | false =>
    have given : run = (.ok (some version), state) := by
      simp only [run, datedVersion, versioned, snapshot]
      rfl
    simp [given]
  | true =>
    cases pinned : session.pinnedVersion? coordinate with
    | some dated =>
      have given : run = (.ok (some dated), state) := by
        simp only [run, datedVersion, versioned, snapshot, pinned]
        rfl
      simp [given]
    | none =>
      have worked : run = ((session.metadata coordinate repositories containing).run state).map
          (·.map fun known : Metadata.Known => some
            ((known.metadata.snapshot.map (SnapshotStamp.dated · version)).getD version)) id := by
        simp only [run, datedVersion, versioned, snapshot, pinned]
        exact run_bind_pure (session.metadata coordinate repositories containing) _ state
      rw [worked]
      simp only [Bool.true_eq_false, Option.isSome_none, Bool.false_eq_true, false_or]
      constructor
      · rintro ⟨-, unsent⟩
        by_cases heard : session.HasHeard state coordinate repositories containing
        · exact heard
        · exact absurd unsent (asks_metadata grouped heard).requests_ne
      · intro heard
        obtain ⟨⟨known, result⟩, unsent⟩ := metadata_of_hasHeard grouped heard
        rw [Prod.map_fst, result]
        exact ⟨⟨_, rfl⟩, unsent⟩

theorem ownPom?_after {coordinate : Coordinate} {relativePath : Option String}
    (kept : after.projectPoms = state.projectPoms) :
    after.ownPom? coordinate relativePath containing =
      state.ownPom? coordinate relativePath containing := by
  unfold State.ownPom? State.projectPom?
  rw [kept]

/-- A POM of the project comes back as soon as its version is dated, and no repository is asked for it.
Nothing at all is asked for a release, for a snapshot whose dated version is pinned, and for one of
which the session has heard before; for all other snapshots something is, or there is no POM. -/
theorem download_ownPom_silent_iff {coordinate : Coordinate} {complete : ResolvedCoordinate}
    {relativePath : Option String} {pom : Pom} (completed : complete? coordinate = some complete)
    (own : state.ownPom? coordinate relativePath containing = some pom)
    (repositories : List Repository) :
    let dating := (session.datedVersion coordinate repositories containing).run state
    let run := session.download coordinate relativePath containing repositories state
    run.1.outcome = dating.1.map (fun _ => pom) ∧ run.2 = dating.2 ∧
      Sent (session.Inquires coordinate) state run.2 ∧
      (run.1.outcome = .ok pom ∧ run.2.requests = state.requests ↔
        Snapshot.isSnapshot complete.version = false ∨
          (session.pinnedVersion? coordinate).isSome ∨
          session.HasHeard state coordinate repositories containing) := by
  intro dating run
  have grouped := grouped_of_complete? completed
  have versioned : coordinate.version = some complete.version := by
    rw [← coordinate_of_complete? completed]
    rfl
  have models := session.datedVersion_models coordinate repositories containing state
  have sent := session.datedVersion_sent coordinate repositories containing state
  have silent := session.datedVersion_silent_iff versioned grouped repositories containing state
  have found : dating.2.ownPom? coordinate relativePath containing = some pom :=
    (ownPom?_after models.projectPoms).trans own
  have ends : run.1.outcome = dating.1.map (fun _ => pom) ∧ run.2 = dating.2 := by
    have applied : run = _ := download_apply completed relativePath containing repositories state
    rw [applied]
    clear_value run
    subst run
    dsimp only [dating] at found ⊢
    generalize (session.datedVersion coordinate repositories containing).run state = dated at found ⊢
    obtain ⟨result, after⟩ := dated
    cases result with
    | error failure => exact ⟨rfl, rfl⟩
    | ok version =>
      dsimp only at found ⊢
      rw [found]
      exact ⟨rfl, rfl⟩
  obtain ⟨outcome, reaches⟩ := ends
  have provides : run.1.outcome = .ok pom ↔ ∃ dated, dating.1 = .ok dated := by
    rw [outcome]
    cases dating.1 with
    | error failure => simp [Except.map]
    | ok version => simp [Except.map]
  refine ⟨outcome, reaches, reaches ▸ sent, ?_⟩
  rw [provides, reaches]
  exact silent

theorem download_ownPom_pinned :
    let pom : Pom := { coordinate := ⟨none, "org.example", "lib", "1.0-SNAPSHOT", none⟩ }
    let session : Session :=
      { transport := Http.Transport.ofConfiguration {}
        pinned := [⟨none, "org.example", "lib", "1.0-SNAPSHOT", some "1.0-20220101.000000-1"⟩]
        server := fun _ _ => .error ⟨.connection, "refused"⟩ }
    let own := [(Path.ofText "pom.xml", pom)]
    let run := session.download ⟨some "org.example", some "lib", some "1.0-SNAPSHOT"⟩ none none
      [{ id := some "a", uri := "https://a.example" }] (fresh own)
    (fresh own).ownPom? ⟨some "org.example", some "lib", some "1.0-SNAPSHOT"⟩ none none = some pom ∧
      run.1.outcome = .ok pom ∧ run.2.requests = [] := by
  intro pom session own run
  have completed : complete? ⟨some "org.example", some "lib", some "1.0-SNAPSHOT"⟩ =
      some { repository := none, group := "org.example", artifact := "lib",
             version := "1.0-SNAPSHOT" } := by decide
  have found : (fresh own).ownPom? ⟨some "org.example", some "lib", some "1.0-SNAPSHOT"⟩ none none =
      some pom := by rfl
  have pinned : (session.pinnedVersion?
      ⟨some "org.example", some "lib", some "1.0-SNAPSHOT"⟩).isSome := by decide
  obtain ⟨-, -, -, silent⟩ := @download_ownPom_silent_iff session (fresh own) none _ _ none pom
    completed found [{ id := some "a", uri := "https://a.example" }]
  exact ⟨found, silent.mpr (.inr (.inl pinned))⟩

/-- A repository is asked for the dated version of a snapshot although its POM is a project POM. -/
theorem exists_download_ownPom_asked :
    let pom : Pom := { coordinate := ⟨none, "org.example", "lib", "1.0-SNAPSHOT", none⟩ }
    let session : Session :=
      { transport := Http.Transport.ofConfiguration {}, includesCentral := false
        server := fun _ _ => .ok { status := 404 } }
    let own := [(Path.ofText "pom.xml", pom)]
    let run := session.download ⟨some "org.example", some "lib", some "1.0-SNAPSHOT"⟩ none none
      [{ id := some "a", uri := "https://a.example", knownToExist := true }] (fresh own)
    (fresh own).ownPom? ⟨some "org.example", some "lib", some "1.0-SNAPSHOT"⟩ none none = some pom ∧
      run.1.outcome = .ok pom ∧
      run.2.requests.map (fun request => (request.method, request.url)) =
        [(.get, "https://a.example/org/example/lib/1.0-SNAPSHOT/maven-metadata.xml")] := by
  refine ⟨by rfl, by rfl, ?_⟩
  decide +kernel

end MavenResolution.Session
