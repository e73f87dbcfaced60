import MavenResolution.Proofs.Session.Resolved

/-! Where the jar of a version is asked for: beside its POM. The session makes out the URL from the POM,
which it may have got long ago; but every POM that it knows says what it was asked for and where it came from. -/
namespace MavenResolution

/-- The POM of a version and its jar differ in the kind of file alone. -/
theorem Layout.exists_stem (repository : Repository) (coordinate : ResolvedCoordinate) : ∃ stem,
    pom repository coordinate = stem ++ ".pom" ∧ jar repository coordinate = stem ++ ".jar" := by
  refine ⟨repository.root ++ "/" ++ groupPath coordinate.group ++ "/" ++ coordinate.artifact ++ "/" ++
    coordinate.version ++ "/" ++ coordinate.artifact ++ "-" ++ coordinate.effectiveVersion, ?_, ?_⟩
  · simp only [pom, file, fileName, String.append_assoc]
    rfl
  · simp only [jar, file, fileName, String.append_assoc]
    rfl

namespace Session

variable {session : Session} {state after last : State} {repository : Repository} {pom : Pom}
  {requests more : List Http.Request}

/-! Where POMs come from. -/

/-- A repository has given a POM, in reply to one of some requests. -/
def HasGiven (session : Session) (requests : List Http.Request) (pom : Pom) : Prop :=
  ∃ repository earlier,
    let exchange := session.pomExchange pom.coordinate repository earlier
    session.modelIn pom.coordinate repository exchange.outcome = some pom ∧ earlier ++ exchange.requests <+: requests

theorem HasGiven.later (given : session.HasGiven requests pom) (longer : requests <+: more) :
    session.HasGiven more pom := by
  obtain ⟨repository, earlier, model, sent⟩ := given
  exact ⟨repository, earlier, model, sent.trans longer⟩

/-- Every POM that is known was given by some repository. -/
structure Traced (session : Session) (state : State) : Prop where
  idle : state.poms.Idle
  given : ∀ key pom, state.poms.known key = some (.done (some pom)) → session.HasGiven state.requests pom

theorem traced_fresh (session : Session) (own : List (Path × Pom)) (files : Files) :
    session.Traced { fresh own with files } where
  idle _ _ known := nomatch known
  given _ _ known := nomatch known

/-- POMs that are found out later are given too. -/
structure Traces (session : Session) (state after : State) : Prop where
  requests : state.requests <+: after.requests
  traced : session.Traced state → session.Traced after

theorem Traces.trans (first : session.Traces state after) (second : session.Traces after last) :
    session.Traces state last where
  requests := first.requests.trans second.requests
  traced traced := second.traced (first.traced traced)

/-- A computation that gets no POM. -/
theorem Traces.of_same (requests : state.requests <+: after.requests) (poms : after.poms = state.poms) :
    session.Traces state after where
  requests := requests
  traced traced :=
    { idle := poms ▸ traced.idle
      given := fun key pom known => (traced.given key pom (poms ▸ known)).later requests }

theorem frame_traces (session : Session) : session.Frame session.Traces where
  refl _ := .of_same (List.prefix_refl _) rfl
  trans := .trans
  noted _ _ _ := .of_same (List.prefix_refl _) rfl
  sent _ _ _ := .of_same (List.prefix_append _ _) rfl

theorem report_traces (session : Session) (failure : Failure) :
    Keeps session.Traces (session.report failure) := fun state =>
  .of_same (report_requests session failure state ▸ List.prefix_refl _) (session.report_models failure state).poms

theorem pomFrom_traces (session : Session) (coordinate : ResolvedCoordinate) (repository : Repository) :
    Keeps session.Traces
      (session.pomFrom { coordinate with repository := some repository.uri } repository) := by
  intro state
  have requests := (continues_of_sent (session.pomFrom_sent
    { coordinate with repository := some repository.uri } repository) state).isPrefix
  refine ⟨requests, fun traced => ?_⟩
  obtain ⟨idle, known⟩ := session.pomFrom_extends
    { coordinate with repository := some repository.uri } repository traced.idle
  refine ⟨idle, fun other pom recorded => ?_⟩
  rcases known other pom recorded with before | ⟨-, before, fetched, sends⟩
  · exact (traced.given other pom before).later requests
  · have model := fetchPom_provides before fetched
    obtain ⟨located, -⟩ := modelIn_eq_some model
    refine ⟨repository, before.requests, ?_, ?_⟩
    · rw [located]
      exact model
    · rw [located, sends, fetchPom_requests]
      exact List.prefix_refl _

theorem serving_traces (session : Session) : session.Serving session.Traces where
  toNoting := session.frame_traces.toNoting
  listed _ _ := .of_same (List.prefix_refl _) rfl
  normalized := session.frame_traces.normalize (fun _ _ => .of_same (List.prefix_refl _) rfl)
    fun _ => session.frame_traces.probeOrReport fun _ => session.report_traces _
  asked := session.frame_traces.ask (fun _ _ => .of_same (List.prefix_refl _) rfl) fun _ _ _ => session.report_traces _
  modelled := session.pomFrom_traces
  served := session.frame_traces.serves (fun _ _ => .of_same (List.prefix_refl _) rfl)
    (fun _ _ => .of_same (List.prefix_refl _) rfl) (fun _ => .of_same (List.prefix_refl _) rfl)
    session.report_traces

theorem addProjectPom_traces (session : Session) (pom : Pom) :
    Keeps session.Traces (addProjectPom pom).run := by
  unfold addProjectPom
  split
  · exact session.frame_traces.pure _
  · exact fun _ => .of_same (List.prefix_refl _) rfl

theorem Traced.close (traced : session.Traced state) : session.Traced (session.close state).2 := by
  have got : (get : StateM State State) state = (state, state) := rfl
  unfold Session.close
  rw [bind_apply, got]
  dsimp only
  split
  · exact traced
  · exact {
      idle := fun _ _ known => nomatch known
      given := fun _ _ known => nomatch known }

theorem Traced.reached (traced : session.Traced state) (operations : List Operation) :
    session.Traced (session.reached state operations) :=
  reached_of_kept (fun _ unclosed state =>
      (Operation.keeps session.serving_traces session.addProjectPom_traces unclosed state).traced)
    (fun _ => Traced.close) traced operations

/-! What is sent on the way to a POM. -/

/-- Only the answers to requests for jars are read chunk by chunk. -/
def Unstreamed (request : Http.Request) : Prop := request.stream = none

theorem asking_unstreamed (session : Session) : session.Asking (Sent Unstreamed) := by
  have noting := noting_sent Unstreamed
  have sent (request : Http.Request) (unstreamed : Unstreamed request) :
      Keeps (Sent Unstreamed) (session.send Http.defaultContext request) := by
    intro state
    refine (session.sent_send Http.defaultContext request state).mono ?_
    rintro _ rfl
    exact unstreamed
  exact {
    toNoting := noting
    listed := fun _ _ => .of_same rfl
    normalized := noting.normalize (fun _ _ => .of_same rfl) fun _ =>
      noting.probeOrReport (fun _ => sent _ rfl) fun _ => session.report_sent _
    asked := fun _ _ => noting.ask (fun _ _ => .of_same rfl)
      (noting.fetchMetadata (sent _ rfl) fun _ => session.report_sent _)
    modelled := fun _ _ state => (session.pomFrom_sent _ _ state).mono fun _ same => by rw [same]; rfl }

/-! POMs and jars together. -/

/-- A dependency whose POM is no project POM has it from a repository that was asked for it, just now or before. All
that is sent for it but the request for its jar is sent on the way to the POM. -/
theorem resolve_traced {request : Request} {repositories : List Repository} {resolved : Resolved}
    (orderly : session.Orderly state) (traced : session.Traced state)
    (resolves : (session.resolve request repositories).run state = (.ok resolved, after))
    (foreign : ∀ entry ∈ state.projectPoms, entry.2 ≠ resolved.pom) :
    ∃ others, session.HasGiven (state.requests ++ others) resolved.pom ∧
      (∀ request ∈ others, Unstreamed request) ∧ resolved.coordinate = resolved.pom.coordinate ∧
      resolved.repository = resolved.pom.repository ∧
      (after.requests = state.requests ++ others ∨
        ∃ repository, resolved.repository = some repository ∧ after.requests = state.requests ++ others ++
          (session.jarExchange resolved.coordinate repository (state.requests ++ others)).requests) := by
  obtain ⟨added, declared, version, selected, download, downloaded, declares, selects, ran, provided,
    sameCoordinate, sameRepository, ends⟩ := resolve_steps resolves
  -- The requests, what is known and where it comes from are all carried along the same way.
  have chosen {relation : State → State → Prop} (asking : session.Asking relation) : relation state selected :=
    asking.trans ((asking.declare _ _ _).of_eq declares) ((asking.select _ _).of_eq selects)
  have modelled {relation : State → State → Prop} (asking : session.Asking relation) :
      relation state downloaded :=
    asking.trans (chosen asking) ((asking.download _ _ _ _).of_eq ran)
  obtain ⟨others, sent, unstreamed⟩ := modelled session.asking_unstreamed
  have known : ∃ key, downloaded.poms.known key = some (.done (some resolved.pom)) := by
    have orderlyNow := (chosen session.serving_grows.toAsking).orderly orderly
    rcases download_recorded orderlyNow ran provided with own | ⟨key, -, recorded⟩
    · obtain ⟨entry, member, same⟩ := exists_entry_of_ownPom? own
      have models := ((session.declare_models _ _ _).of_eq declares).trans
        ((session.select_models _ _).of_eq selects)
      exact absurd same (foreign entry (models.projectPoms ▸ member))
    · exact ⟨key, recorded⟩
  obtain ⟨key, recorded⟩ := known
  have given := ((modelled session.serving_traces.toAsking).traced traced).given key _ recorded
  rw [sent] at given
  refine ⟨others, given, unstreamed, sameCoordinate, sameRepository, ?_⟩
  rcases ends with rfl | ⟨directory, repository, origin, asked⟩
  · exact .inl sent
  · have requested := session.jar_requests directory resolved.coordinate repository request.type downloaded
    rw [asked, sent] at requested
    exact requested.imp_right fun requested => ⟨repository, origin, requested⟩

/-- Whatever a session has been asked for before, the jar of a version whose POM is no project POM is requested
where the POM was got, but for the extension of the file. -/
theorem resolve_locates_alike (session : Session) (own : List (Path × Pom)) (files : Files)
    (operations : List Operation) {request : Request} {repositories : List Repository} {resolved : Resolved}
    {after : State} :
    let state := session.reached { fresh own with files } operations
    (session.resolve request repositories).run state = (.ok resolved, after) →
    (∀ entry ∈ state.projectPoms, entry.2 ≠ resolved.pom) →
    ∃ repository earlier stem others jar,
      let exchange := session.pomExchange resolved.coordinate repository earlier
      resolved.repository = some repository ∧
      session.modelIn resolved.coordinate repository exchange.outcome = some resolved.pom ∧
      earlier ++ exchange.requests <+: state.requests ++ others ∧ exchange.requests ≠ [] ∧
      (∀ asked ∈ exchange.requests, asked.url = stem ++ ".pom") ∧
      after.requests = state.requests ++ others ++ jar ∧
      (∀ request ∈ others, request.stream = none) ∧
      ∀ request ∈ jar, request.stream = some true ∧ request.url = stem ++ ".jar" := by
  intro state resolves foreign
  have orderly : session.Orderly state := (session.orderly_fresh own files).reached operations
  have traced : session.Traced state := (session.traced_fresh own files).reached operations
  obtain ⟨others, ⟨repository, earlier, model, sent⟩, unstreamed, sameCoordinate, sameRepository, requests⟩ :=
    resolve_traced orderly traced resolves foreign
  obtain ⟨-, origin⟩ := modelIn_eq_some model
  rw [← sameCoordinate] at model sent
  rw [← sameRepository] at origin
  obtain ⟨stem, locatedPom, locatedJar⟩ := Layout.exists_stem repository resolved.coordinate
  have asked : ∀ asked ∈ (session.pomExchange resolved.coordinate repository earlier).requests,
      asked.url = stem ++ ".pom" := by
    intro asked member
    rw [Http.Transport.send_requests _ _ _ _ _ asked member, ← locatedPom]
    rfl
  have nonempty : (session.pomExchange resolved.coordinate repository earlier).requests ≠ [] :=
    Http.Transport.send_requests_ne_nil _ _ _ _ _
  rcases requests with unsent | ⟨other, same, requested⟩
  · refine ⟨repository, earlier, stem, others, [], origin, model, sent, nonempty, asked, ?_, unstreamed,
      fun _ member => absurd member List.not_mem_nil⟩
    rw [unsent, List.append_nil]
  · obtain rfl := Option.some.inj (origin.symm.trans same)
    refine ⟨repository, earlier, stem, others, _, origin, model, sent, nonempty, asked, requested, unstreamed, ?_⟩
    intro request member
    rw [Http.Transport.send_requests _ _ _ _ _ request member, ← locatedJar]
    exact ⟨rfl, rfl⟩

/-- A dated snapshot in a mirror whose URL ends in slashes; its POM came with an earlier call. -/
theorem resolve_locates_alike_dated :
    let model := Text.Utf8.encode "<project><artifactId>lib</artifactId></project>".toList
    let session : Session :=
      { repositories := [{ id := some "a", uri := "https://a.example", snapshots := true }]
        mirrors := [{ id := some "m", url := "https://m.example//", mirrorOf := "*" }]
        pinned := [⟨none, "org.example", "lib", "1.0-SNAPSHOT", some "1.0-20220101.000000-1"⟩]
        transport := Http.Transport.ofConfiguration {}
        includesCentral := false
        jarDirectory := some (Path.ofText "jars")
        server := fun _ _ => .ok { status := 200, content := model } }
    let own : List (Path × Pom) :=
      [(Path.ofText "pom.xml", { coordinate := ⟨none, "org.example", "app", "1.0", none⟩ })]
    let operations : List Operation :=
      [.download ⟨some "org.example", some "lib", some "1.0-SNAPSHOT"⟩ none none session.repositories]
    let state := session.reached { fresh own with files := {} } operations
    let run := (session.resolve ⟨"org.example", "lib", ["1.0-SNAPSHOT"], none⟩ []).run state
    ∃ resolved, run.1 = .ok resolved ∧ (∀ entry ∈ state.projectPoms, entry.2 ≠ resolved.pom) ∧
      run.2.requests.length = state.requests.length + 1 ∧ ∃ repository earlier stem others jar,
        let exchange := session.pomExchange resolved.coordinate repository earlier
        resolved.repository = some repository ∧
        earlier ++ exchange.requests <+: state.requests ++ others ∧
        (∀ asked ∈ exchange.requests, asked.url = stem ++ ".pom") ∧
        run.2.requests = state.requests ++ others ++ jar ∧
        ∀ request ∈ jar, request.stream = some true ∧ request.url = stem ++ ".jar" := by
  intro model session own operations state run
  have evaluated : run.1.toOption.any (fun resolved => state.projectPoms.all (·.2 ≠ resolved.pom)) ∧
      run.2.requests.length = state.requests.length + 1 := by
    decide +kernel
  obtain ⟨foreign, once⟩ := evaluated
  have locates := fun resolved after => @resolve_locates_alike session own {} operations
    ⟨"org.example", "lib", ["1.0-SNAPSHOT"], none⟩ [] resolved after
  clear_value session
  cases ran : run with
  | mk result after =>
    rw [ran] at foreign once
    cases result with
    | error failure => cases foreign
    | ok resolved =>
      have apart : ∀ entry ∈ state.projectPoms, entry.2 ≠ resolved.pom := fun entry member =>
        of_decide_eq_true (List.all_eq_true.mp foreign entry member)
      obtain ⟨repository, earlier, stem, others, jar, origin, -, sent, -, urls, requests, -, jars⟩ :=
        locates resolved after ran apart
      exact ⟨resolved, rfl, apart, once, repository, earlier, stem, others, jar, origin, sent, urls, requests, jars⟩

end Session
end MavenResolution
