import MavenResolution.Proofs.Session.Credentials
import MavenResolution.Proofs.Session.Fallback

/-! The requests by which a version is resolved. A POM that a repository provides is the answer to the
last request that the search sends; after it comes at most the request for the jar. -/
namespace MavenResolution.Session

variable {session : Session} {state after : State} {coordinate : ResolvedCoordinate}
  {repository : Repository} {pom : Pom}

/-! Computations that send nothing. -/

def SendsNothing (m : StateM State α) : Prop :=
  Keeps (fun state after => after.requests = state.requests) m

theorem sendsNothing_pure (a : α) : SendsNothing (pure a) := fun _ => rfl

theorem SendsNothing.bind {m : StateM State α} {f : α → StateM State β} (first : SendsNothing m)
    (next : ∀ a, SendsNothing (f a)) : SendsNothing (m >>= f) :=
  fun state => (next (m state).1 (m state).2).trans (first state)

/-- What is sent at first is all that is sent. -/
theorem requests_bind (m : StateM State α) {f : α → StateM State β} (next : ∀ a, SendsNothing (f a))
    (state : State) : ((m >>= f) state).2.requests = (m state).2.requests := next _ _

theorem SendsNothing.run_bind {m : ExceptT ε (StateM State) α}
    {f : α → ExceptT ε (StateM State) β} (first : SendsNothing m.run)
    (next : ∀ a, SendsNothing (f a).run) : SendsNothing (m >>= f).run := by
  change SendsNothing (m.run >>= ExceptT.bindCont f)
  refine first.bind fun result => ?_
  cases result with
  | ok a => exact next a
  | error fault => exact sendsNothing_pure _

theorem requests_run_bind (m : ExceptT ε (StateM State) α) {f : α → ExceptT ε (StateM State) β}
    (next : ∀ a, SendsNothing (f a).run) (state : State) :
    ((m >>= f).run state).2.requests = (m.run state).2.requests := by
  change ((m.run >>= ExceptT.bindCont f) state).2.requests = _
  refine requests_bind m.run (fun result => ?_) state
  cases result with
  | ok a => exact next a
  | error fault => exact sendsNothing_pure _

theorem sendsNothing_note (entry : Log.Entry) : SendsNothing (note entry) := fun _ => rfl

theorem sendsNothing_closeResponse : SendsNothing closeResponse := fun _ => rfl

theorem sendsNothing_report (session : Session) (failure : Failure) :
    SendsNothing (session.report failure) := report_requests session failure

theorem sendsNothing_writeBody (path : Path) (chunks : List Http.Chunk) :
    SendsNothing (writeBody path chunks) := by
  have composes : Composes fun state after : State => after.requests = state.requests :=
    ⟨fun _ => rfl, fun first second => second.trans first⟩
  exact keeps_writeBody composes (fun _ _ => rfl) path chunks

/-! Requests for POMs. -/

/-- What sending the request for a POM gives. -/
def pomExchange (session : Session) (coordinate : ResolvedCoordinate) (repository : Repository)
    (earlier : List Http.Request) : Http.Transport.Exchange :=
  session.transport.send session.server earlier (some Http.defaultContext)
    (pomRequest coordinate repository)

theorem fetchPom_requests (session : Session) (coordinate : ResolvedCoordinate)
    (repository : Repository) (state : State) :
    let key := { coordinate with repository := some repository.uri }
    (session.fetchPom key repository state).2.requests =
      state.requests ++ (session.pomExchange coordinate repository state.requests).requests := by
  refine requests_bind (session.send Http.defaultContext _) (fun outcome => ?_) state
  cases outcome with
  | error fault => exact sendsNothing_pure _
  | ok response =>
    dsimp only
    split
    · exact (sendsNothing_note _).bind fun _ => sendsNothing_pure _
    · split
      · exact (sendsNothing_note _).bind fun _ => sendsNothing_pure _
      · exact sendsNothing_pure _
      · exact sendsNothing_pure _

theorem fetchPom_provides (state : State)
    (provides : (session.fetchPom { coordinate with repository := some repository.uri } repository
      state).1 = .ok (.ok pom)) :
    session.modelIn coordinate repository
      (session.pomExchange coordinate repository state.requests).outcome = some pom := by
  have result := session.fetchPom_of_reply coordinate repository state
  have sent : (session.send Http.defaultContext (pomRequest coordinate repository) state).1 =
      (session.pomExchange coordinate repository state.requests).outcome := rfl
  dsimp only at result
  rw [provides, sent] at result
  split at result
  · cases result
  · split at result
    · rename_i found
      cases result
      exact found
    · rcases result with ⟨fault, faulty⟩ | ⟨-, name, -, failed⟩
      · cases faulty
      · cases failed

/-- No POM has been found yet. -/
def FoundNone (state : State) : Prop :=
  ∀ key flight, state.poms.known key = some flight → flight = .done none

theorem pomRegion_besideRequests : pomRegion.Beside State.requests :=
  ⟨fun _ _ => rfl, fun _ _ => rfl, fun _ _ => rfl, fun _ _ => rfl⟩

/-- A session that has found no POM finds one by the request that it sends last, or finds none. -/
theorem pomFrom_provides (absent : FoundNone state) (coordinate : ResolvedCoordinate)
    (repository : Repository) :
    let exchange := session.pomExchange coordinate repository state.requests
    let run := session.pomFrom { coordinate with repository := some repository.uri } repository state
    (∃ pom, run.1 = .ok (.ok pom) ∧ session.modelIn coordinate repository exchange.outcome = some pom ∧
      run.2.requests = state.requests ++ exchange.requests) ∨
    (∀ pom, run.1 ≠ .ok (.ok pom)) ∧ FoundNone run.2 := by
  intro exchange run
  let key : ResolvedCoordinate := { coordinate with repository := some repository.uri }
  cases entry : state.poms.known key with
  | some flight =>
    -- Nothing is sent here, but neither is a POM found: all that is recorded is that there is none.
    obtain rfl : flight = .done none := absent key flight entry
    obtain ⟨result, known, -⟩ := pomFrom_known session repository entry
    refine .inr ⟨fun pom provided => ?_, fun other flight recorded => ?_⟩
    · cases result.symm.trans provided
    · exact absent other flight ((known other).symm.trans recorded)
  | none =>
    let fetch := session.fetchPom key repository
    let asked := pomRegion.asked 0 key state
    have kept : pomRegion.cache (fetch asked).2 = pomRegion.cache asked :=
      (session.frame_memory Memory.poms).fetchPom key repository asked
    obtain ⟨gives, learns, sends⟩ :=
      Region.compute_learns pomRegion_besideRequests Except.toOption entry kept
    have result : run.1 = pomResult (.fetched (fetch asked).1) := by
      rw [← gives]
      exact congrArg Prod.fst (pomFrom_apply session key repository state)
    have after : run.2 = (pomRegion.compute key Except.toOption fetch 0 state).2 :=
      congrArg Prod.snd (pomFrom_apply session key repository state)
    have learned (other : ResolvedCoordinate) : run.2.poms.known other =
        pomRegion.learned key Except.toOption (fetch asked).1 state other := by
      rw [after]
      exact learns other
    cases fetched : (fetch asked).1 with
    | error failure =>
      rw [fetched] at result learned
      refine .inr ⟨fun pom provided => ?_, fun other flight recorded => ?_⟩
      · rw [provided] at result
        cases failure with
        | request fault =>
          cases request : fault.kind.isRequest <;> simp [pomResult, request] at result
        | _ => cases result
      · exact absent other flight ((learned other).symm.trans recorded)
    | ok answer =>
      rw [fetched] at result learned
      cases answer with
      | ok pom =>
        refine .inl ⟨pom, result, fetchPom_provides asked fetched, ?_⟩
        rw [after]
        exact sends.trans (fetchPom_requests session coordinate repository asked)
      | error fault =>
        refine .inr ⟨fun pom provided => ?_, fun other flight recorded => ?_⟩
        · cases result.symm.trans provided
        · have known := (learned other).symm.trans recorded
          dsimp only [Region.learned] at known
          split at known
          · cases known
            rfl
          · exact absent other flight known

/-- A search that finds a POM finds it by the request that it sends last. -/
theorem downloadFrom_provides {repositories : List Repository} {faults : DownloadFaults}
    {download : Download} (absent : FoundNone state) (coordinate : ResolvedCoordinate)
    (ran : session.downloadFrom coordinate faults repositories state = (download, after))
    (provided : download.outcome = .ok pom) :
    ∃ repository ∈ repositories, ∃ before,
      let exchange := session.pomExchange coordinate repository before
      session.modelIn coordinate repository exchange.outcome = some pom ∧
        after.requests = before ++ exchange.requests := by
  -- Every repository that is passed by leaves a state behind in which no POM is found yet.
  induction repositories generalizing faults state with
  | nil =>
    cases ran
    cases provided
  | cons repository rest ih =>
    have step := @pomFrom_provides session state absent coordinate repository
    rw [downloadFrom_cons] at ran
    dsimp only at step
    generalize session.pomFrom _ repository state = run at *
    obtain ⟨result, asked⟩ := run
    dsimp only at step ran
    rcases step with ⟨found, rfl, model, sent⟩ | ⟨missing, absentNow⟩
    · cases ran
      obtain rfl : found = pom := Except.ok.inj provided
      exact ⟨repository, List.mem_cons_self, state.requests, model, sent⟩
    · match result with
      | .ok (.ok found) => exact absurd rfl (missing found)
      | .ok (.error fault) =>
        obtain ⟨other, member, before, model, sent⟩ := ih absentNow ran
        exact ⟨other, List.mem_cons_of_mem _ member, before, model, sent⟩
      | .error failure =>
        cases ran
        cases provided

/-- What a POM says of where it comes from. -/
theorem modelIn_eq_some {outcome : Http.Outcome}
    (model : session.modelIn coordinate repository outcome = some pom) :
    pom.coordinate = { coordinate with repository := some repository.uri } ∧
      pom.repository = some repository := by
  unfold modelIn at model
  split at model
  · cases model
  · rename_i response
    split at model
    · obtain ⟨found, succeeded, rfl⟩ := Option.map_eq_some_iff.mp model
      refine ⟨rfl, ?_⟩
      cases read : Pom.read (.octets response.content) none (some repository) session.xml with
      | ok other =>
        rw [read] at succeeded
        cases succeeded
        have origin := Pom.repository_of_read read
        exact origin
      | error fault =>
        rw [read] at succeeded
        cases succeeded
    · cases model

theorem exists_entry_of_ownPom? {coordinate : Coordinate}
    (own : state.ownPom? coordinate none none = some pom) :
    ∃ entry ∈ state.projectPoms, entry.2 = pom := by
  unfold State.ownPom? at own
  cases first : state.projectPoms.find? fun entry => entry.2.isFor coordinate with
  | none =>
    rw [first] at own
    cases own
  | some entry =>
    rw [first] at own
    cases own
    exact ⟨entry, List.mem_of_find?_eq_some first, rfl⟩

/-- A POM that is no project POM is found by the request that is sent last. -/
theorem download_provides {coordinate : Coordinate} {repositories : List Repository}
    {download : Download} (unknown : state.poms = {})
    (foreign : ∀ entry ∈ state.projectPoms, entry.2 ≠ pom)
    (ran : session.download coordinate none none repositories state = (download, after))
    (provided : download.outcome = .ok pom) :
    ∃ repository before, pom.repository = some repository ∧
      session.applyCredentials repository = repository ∧
      let exchange := session.pomExchange pom.coordinate repository before
      session.modelIn pom.coordinate repository exchange.outcome = some pom ∧
        after.requests = before ++ exchange.requests := by
  cases completed : complete? coordinate with
  | none =>
    unfold Session.download at ran
    rw [completed] at ran
    cases ran
    cases provided
  | some complete =>
    have models := session.datedVersion_models coordinate repositories none state
    rw [download_apply completed] at ran
    generalize (session.datedVersion coordinate repositories none).run state = dating at *
    obtain ⟨result, dated⟩ := dating
    cases result with
    | error failure =>
      cases ran
      cases provided
    | ok version =>
      dsimp only at ran models
      cases own : dated.ownPom? coordinate none none with
      | some found =>
        rw [own] at ran
        cases ran
        cases provided
        obtain ⟨entry, member, same⟩ := exists_entry_of_ownPom? own
        exact absurd same (foreign entry (models.projectPoms ▸ member))
      | none =>
        rw [own] at ran
        dsimp only at ran
        have unchanged := models.trans
          (session.searched_models repositories none (some complete.version) dated)
        have credentialed :=
          session.applyCredentials_searched repositories none (some complete.version) dated
        generalize session.searched repositories none (some complete.version) dated = searching
          at *
        have absent : FoundNone searching.2 := by
          intro key flight known
          rw [unchanged.poms, unknown] at known
          cases known
        obtain ⟨repository, member, before, model, sent⟩ := downloadFrom_provides absent _ ran provided
        obtain ⟨located, origin⟩ := modelIn_eq_some model
        refine ⟨repository, before, origin, credentialed repository member, ?_⟩
        rw [located]
        exact ⟨model, sent⟩

/-! Requests for jars. -/

def jarRequest (session : Session) (coordinate : ResolvedCoordinate) (repository : Repository) :
    Http.Request :=
  { method := .get, url := Layout.jar repository coordinate, auth := session.jarAuth repository,
    stream := some true }

/-- What sending the request for a jar gives. -/
def jarExchange (session : Session) (coordinate : ResolvedCoordinate) (repository : Repository)
    (earlier : List Http.Request) : Http.Transport.Exchange :=
  session.transport.send session.server earlier (some "artifact")
    (session.jarRequest coordinate repository)

theorem fetchJar_requests (session : Session) (coordinate : ResolvedCoordinate)
    (repository : Repository) (path : Path) (state : State) :
    ((session.fetchJar coordinate repository path).run state).2.requests =
      state.requests ++ (session.jarExchange coordinate repository state.requests).requests := by
  unfold fetchJar
  refine requests_run_bind _ (fun outcome => ?_) state
  extract_lets finish
  have finished : ∀ written, SendsNothing (finish written).run := by
    intro written
    dsimp only [finish]
    split
    · exact SendsNothing.run_bind (sendsNothing_note _) fun _ => sendsNothing_pure _
    · split
      · exact SendsNothing.run_bind (sendsNothing_report session _) fun _ => sendsNothing_pure _
      · exact sendsNothing_pure _
  cases outcome with
  | error fault => exact (sendsNothing_pure _).run_bind finished
  | ok response =>
    dsimp only
    split
    · refine SendsNothing.run_bind (sendsNothing_writeBody _ _) fun written => ?_
      refine SendsNothing.run_bind sendsNothing_closeResponse fun _ => ?_
      exact (sendsNothing_pure _).run_bind finished
    · refine SendsNothing.run_bind (sendsNothing_report session _) fun _ => ?_
      exact SendsNothing.run_bind sendsNothing_closeResponse fun _ => sendsNothing_pure _

theorem jarRegion_besideRequests : jarRegion.Beside State.requests :=
  ⟨fun _ _ => rfl, fun _ _ => rfl, fun _ _ => rfl, fun _ _ => rfl⟩

/-- A jar is asked for once, or not at all. -/
theorem jar_requests (session : Session) (directory : Path) (coordinate : ResolvedCoordinate)
    (repository : Repository) (type : Option String) (state : State) :
    let after := ((session.jar directory coordinate repository type).run state).2
    after.requests = state.requests ∨ after.requests =
      state.requests ++ (session.jarExchange coordinate repository state.requests).requests := by
  unfold jar
  split
  · exact .inl rfl
  · have got : (get : Run State).run state = (.ok state, state) := rfl
    dsimp only
    rw [run_bind_apply, got]
    dsimp only
    split
    · exact .inl rfl
    · exact .inl rfl
    · let path := Layout.jarPath directory coordinate
      rcases Region.compute_cases jarRegion_besideRequests path id
        (session.fetchJar coordinate repository path).run 0 state with
        ⟨found, -, unsent⟩ | ⟨before, same, -, sent⟩
      · exact .inl unsent
      · have fetched := fetchJar_requests session coordinate repository path before
        rw [same] at fetched
        exact .inr (sent.trans fetched)

/-! A version that is resolved. -/

/-- What a request that is resolved has gone through: its version was selected, the POM of it downloaded,
and its jar asked for if there is a place for jars. -/
theorem resolve_steps {request : Request} {repositories : List Repository} {resolved : Resolved}
    (resolves : (session.resolve request repositories).run state = (.ok resolved, after)) :
    ∃ added declared version selected download downloaded,
      (declare {} request.moduleId request.constraints).run state = (.ok added, declared) ∧
      (session.select added (session.repositories ++ repositories)).run declared =
        (.ok (some version), selected) ∧
      session.download ((Coordinate.ofModule request.moduleId).withVersion (some version)) none none
        (session.repositories ++ repositories) selected = (download, downloaded) ∧
      download.outcome = .ok resolved.pom ∧ resolved.coordinate = resolved.pom.coordinate ∧
      resolved.repository = resolved.pom.repository ∧
      (after = downloaded ∨ ∃ directory repository, resolved.repository = some repository ∧
        (session.jar directory resolved.coordinate repository request.type).run downloaded =
          (.ok resolved.jar, after)) := by
  unfold resolve at resolves
  obtain ⟨added, declared, declares, resolves⟩ := run_bind_ok resolves
  unfold resolveDeclared at resolves
  obtain ⟨version, selected, selects, resolves⟩ := run_bind_ok resolves
  cases version with
  | none => cases resolves
  | some version =>
    dsimp only at resolves
    obtain ⟨pom, downloaded, downloads, resolves⟩ := run_bind_ok resolves
    obtain ⟨download, ran, provided⟩ := run_map_ok downloads
    refine ⟨added, declared, version, selected, download, downloaded, declares, selects, ran, ?_⟩
    rw [provided]
    split at resolves
    · rename_i directory repository _ origin
      obtain ⟨jar, last, asked, resolves⟩ := run_bind_ok resolves
      cases resolves
      exact ⟨rfl, rfl, rfl, .inr ⟨directory, repository, origin, asked⟩⟩
    · obtain ⟨jar, last, asked, resolves⟩ := run_bind_ok resolves
      cases asked
      cases resolves
      exact ⟨rfl, rfl, rfl, .inl rfl⟩

/-- Declaring a request and selecting its version finds out nothing about POMs. -/
theorem resolve_selects {request : Request} {repositories : List Repository} {resolved : Resolved}
    (resolves : (session.resolve request repositories).run state = (.ok resolved, after)) :
    ∃ (coordinate : Coordinate) (selected : State) (download : Download) (downloaded : State),
      SameModels state selected ∧
      session.download coordinate none none (session.repositories ++ repositories) selected =
        (download, downloaded) ∧
      download.outcome = .ok resolved.pom ∧ resolved.coordinate = resolved.pom.coordinate ∧
      resolved.repository = resolved.pom.repository ∧
      (after.requests = downloaded.requests ∨
        ∃ repository, resolved.repository = some repository ∧
          after.requests = downloaded.requests ++
            (session.jarExchange resolved.coordinate repository downloaded.requests).requests) := by
  obtain ⟨added, declared, version, selected, download, downloaded, declares, selects, ran, provided,
    sameCoordinate, sameRepository, last⟩ := resolve_steps resolves
  have declaredModels := (session.declare_models {} request.moduleId request.constraints).of_eq declares
  have selectedModels :=
    (session.select_models added (session.repositories ++ repositories)).of_eq selects
  refine ⟨_, selected, download, downloaded, declaredModels.trans selectedModels, ran, provided,
    sameCoordinate, sameRepository, ?_⟩
  rcases last with rfl | ⟨directory, repository, origin, asked⟩
  · exact .inl rfl
  · have sent := session.jar_requests directory resolved.coordinate repository request.type downloaded
    rw [asked] at sent
    exact sent.imp_right fun sent => ⟨repository, origin, sent⟩

/-- A version whose POM is no project POM is resolved by a request for its POM, and no more than one for its jar. -/
theorem resolve_requests {request : Request} {repositories : List Repository} {resolved : Resolved}
    (resolves : (session.resolve request repositories).run state = (.ok resolved, after))
    (unknown : state.poms = {}) (foreign : ∀ entry ∈ state.projectPoms, entry.2 ≠ resolved.pom) :
    ∃ repository before, resolved.repository = some repository ∧
      session.applyCredentials repository = repository ∧
      let descriptor := session.pomExchange resolved.coordinate repository before
      let jar := session.jarExchange resolved.coordinate repository (before ++ descriptor.requests)
      session.modelIn resolved.coordinate repository descriptor.outcome = some resolved.pom ∧
        (after.requests = before ++ descriptor.requests ∨
          after.requests = before ++ descriptor.requests ++ jar.requests) := by
  obtain ⟨coordinate, selected, download, downloaded, models, ran, provided, sameCoordinate,
    sameRepository, sent⟩ := resolve_selects resolves
  obtain ⟨repository, before, origin, credentialed, model, asked⟩ := download_provides
    (models.poms.trans unknown) (models.projectPoms.symm ▸ foreign) ran provided
  rw [asked, sameCoordinate, sameRepository, origin] at sent
  rw [sameCoordinate, sameRepository]
  refine ⟨repository, before, origin, credentialed, model, ?_⟩
  rcases sent with unsent | ⟨other, same, sent⟩
  · exact .inl unsent
  · obtain rfl := Option.some.inj same
    exact .inr sent

end MavenResolution.Session
