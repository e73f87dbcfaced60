import MavenResolution.Proofs.Session.Told

/-! Which repository provides a POM is the same in every session with sound caches. A search
passes over the repositories that fail; of those that answered, the caches spare it the request,
and of those that could not be reached it knows nothing. -/
namespace MavenResolution.Session

variable {session : Session} {own : List (Path × Pom)} {state : State}

/-! One step of a search. -/

section

variable {answer : Repository → PomAnswer} {absent absent' : List String} {repository : Repository}
  {rest : List Repository} {known known' : String → Option (Flight Pom)}

/-- A search passes over a repository; URLs where the POM is absent are kept in mind. -/
structure Passes (answer : Repository → PomAnswer) (absent : List String) (repository : Repository)
    (rest : List Repository) (absent' : List String) : Prop where
  provided : firstProvided answer absent (repository :: rest) = firstProvided answer absent' rest
  missing : ∀ uri,
    uri ∈ absent ∨ firstAnswer answer (repository :: rest) uri = some .absent ↔
      uri ∈ absent' ∨ firstAnswer answer rest uri = some .absent
  subset : absent ⊆ absent'

theorem firstAnswer_of_ne {uri : String} (differs : repository.uri ≠ uri) :
    firstAnswer answer (repository :: rest) uri = firstAnswer answer rest uri := by
  simp [firstAnswer, differs]

theorem firstAnswer_of_unreached (unreached : answer repository = .unreached) (uri : String) :
    firstAnswer answer (repository :: rest) uri = firstAnswer answer rest uri := by
  by_cases same : repository.uri = uri
  · simp [firstAnswer, same, unreached]
  · exact firstAnswer_of_ne same

theorem firstAnswer_of_reached (reached : answer repository ≠ .unreached) :
    firstAnswer answer (repository :: rest) repository.uri = some (answer repository) := by
  simp [firstAnswer, reached]

theorem Passes.of_mem (recorded : repository.uri ∈ absent) :
    Passes answer absent repository rest absent where
  provided := by rw [firstProvided, if_pos recorded]
  missing uri := by
    by_cases same : repository.uri = uri
    · rw [← same]
      simp [recorded]
    · rw [firstAnswer_of_ne same]
  subset := List.Subset.refl _

theorem Passes.of_unreached (unrecorded : repository.uri ∉ absent)
    (unreached : answer repository = .unreached) :
    Passes answer absent repository rest absent where
  provided := by rw [firstProvided, if_neg unrecorded, unreached]
  missing uri := by rw [firstAnswer_of_unreached unreached]
  subset := List.Subset.refl _

theorem Passes.of_absent (unrecorded : repository.uri ∉ absent)
    (missing : answer repository = .absent) :
    Passes answer absent repository rest (repository.uri :: absent) where
  provided := by rw [firstProvided, if_neg unrecorded, missing]
  missing uri := by
    by_cases same : repository.uri = uri
    · rw [← same, firstAnswer_of_reached (by simp [missing]), missing]
      simp
    · rw [firstAnswer_of_ne same, List.mem_cons, or_iff_right (Ne.symm same)]
  subset := List.subset_cons_self _ _

theorem Passes.consistent (passes : Passes answer absent repository rest absent')
    (consistent : Consistent answer absent (repository :: rest) known)
    (recorded : ∀ uri ∈ absent', known uri = some (.done none)) :
    Consistent answer absent' rest known where
  recorded := recorded
  agrees uri flight found := by
    rw [← passes.provided, ← passes.missing]
    exact consistent.agrees uri flight found

theorem Passes.consistent_cons (passes : Passes answer absent repository rest absent')
    (consistent : Consistent answer absent' rest known) :
    Consistent answer absent (repository :: rest) known where
  recorded uri member := consistent.recorded uri (passes.subset member)
  agrees uri flight found := by
    rw [passes.provided, passes.missing]
    exact consistent.agrees uri flight found

/-- Where a POM is known to be absent, a search passes over the repository. -/
theorem Consistent.passes (consistent : Consistent answer absent (repository :: rest) known)
    (missing : known repository.uri = some (.done none)) :
    ∃ absent', Passes answer absent repository rest absent' ∧
      Consistent answer absent' rest known := by
  by_cases recorded : repository.uri ∈ absent
  · have passes : Passes answer absent repository rest absent := .of_mem recorded
    exact ⟨absent, passes, passes.consistent consistent consistent.recorded⟩
  · by_cases unreached : answer repository = .unreached
    · have passes : Passes answer absent repository rest absent := .of_unreached recorded unreached
      exact ⟨absent, passes, passes.consistent consistent consistent.recorded⟩
    · obtain ⟨_, same, _⟩ | ⟨_, member | first⟩ := consistent.agrees _ _ missing
      · cases same
      · contradiction
      · rw [firstAnswer_of_reached unreached, Option.some_inj] at first
        have passes : Passes answer absent repository rest (repository.uri :: absent) :=
          .of_absent recorded first
        refine ⟨repository.uri :: absent, passes, passes.consistent consistent ?_⟩
        exact List.forall_mem_cons.mpr ⟨missing, consistent.recorded⟩

theorem Consistent.not_mem {uri : String} (consistent : Consistent answer absent rest known)
    (unknown : known uri = none) : uri ∉ absent := by
  intro member
  cases unknown.symm.trans (consistent.recorded uri member)

/-- What is learned at one URL agrees with the search if it agrees there. -/
theorem Consistent.learn (consistent : Consistent answer absent rest known) {uri : String}
    {flight : Flight Pom} (unknown : known uri = none)
    (agrees : (∃ pom, flight = .done (some pom) ∧ firstProvided answer absent rest = some pom) ∨
      flight = .done none ∧ (uri ∈ absent ∨ firstAnswer answer rest uri = some .absent))
    (learned : ∀ other, known' other = if other == uri then some flight else known other) :
    Consistent answer absent rest known' where
  recorded other member := by
    have differs : other ≠ uri := by
      rintro rfl
      exact consistent.not_mem unknown member
    rw [learned, if_neg (by simpa using differs)]
    exact consistent.recorded other member
  agrees other found knownNow := by
    rw [learned] at knownNow
    cases same : other == uri with
    | true =>
      rw [same, if_pos rfl] at knownNow
      cases knownNow
      rw [eq_of_beq same]
      exact agrees
    | false =>
      rw [same, if_neg Bool.false_ne_true] at knownNow
      exact consistent.agrees other found knownNow

end

/-! One request. -/

theorem pomRegion_beside : pomRegion.Beside fun state : State => { state.memory with poms := {} } :=
  ⟨fun _ _ => rfl, fun _ _ => rfl, fun _ _ => rfl, fun _ _ => rfl⟩

variable {key coordinate : ResolvedCoordinate} {repository : Repository} {rest : List Repository}
  {absent : List String}

/-- What a search gets from a caller of the cache. -/
def pomResult : Computed Failure (Except DownloadFault Pom) Pom →
    Except Failure (Except DownloadFault Pom)
  | .known (some pom) => .ok (.ok pom)
  | .known none => .ok (.error .knownAbsent)
  | .fetched (.error (.request fault)) =>
    if fault.kind.isRequest then .ok (.error (.request fault)) else .error (.request fault)
  | .fetched result => result

theorem pomFrom_apply (session : Session) (key : ResolvedCoordinate) (repository : Repository)
    (state : State) : session.pomFrom key repository state =
      let run := pomRegion.compute key Except.toOption (session.fetchPom key repository) 0 state
      (pomResult run.1, run.2) := by
  simp only [pomFrom, bind, StateT.bind]
  cases pomRegion.compute key Except.toOption (session.fetchPom key repository) 0 state with
  | mk computed after =>
    match computed with
    | .known none | .known (some _) => rfl
    | .fetched (.ok _) => rfl
    | .fetched (.error failure) => cases failure <;> rfl

theorem pomFrom_known (session : Session) (repository : Repository) {found : Option Pom}
    (done : state.poms.known key = some (.done found)) :
    let run := session.pomFrom key repository state
    run.1 = pomResult (.known found) ∧
      (∀ other, run.2.poms.known other = state.poms.known other) ∧
      { run.2.memory with poms := {} } = { state.memory with poms := {} } := by
  obtain ⟨result, known, beside⟩ := Region.compute_known pomRegion_beside Except.toOption
    (session.fetchPom key repository) 0 done
  rw [pomFrom_apply]
  exact ⟨congrArg pomResult result, known, beside⟩

/-- What a search makes of an answer. -/
def PomAnswer.Yields (answer : PomAnswer) (result : Except Failure (Except DownloadFault Pom)) :
    Prop :=
  match answer with
  | .provided pom => result = .ok (.ok pom)
  | .absent | .unreached => ∃ fault, result = .ok (.error fault)
  | .fatal => ∃ failure, result = .error failure

/-- What is remembered of an answer. -/
def PomAnswer.flight? : PomAnswer → Option (Flight Pom)
  | .provided pom => some (.done (some pom))
  | .absent => some (.done none)
  | .unreached | .fatal => none

theorem PomAnswer.yields_ofResult (result : Except Failure (Except DownloadFault Pom)) :
    (PomAnswer.ofResult result).Yields (pomResult (.fetched result)) := by
  match result with
  | .ok (.ok pom) => rfl
  | .ok (.error fault) => exact ⟨fault, rfl⟩
  | .error failure =>
    cases failure with
    | request fault =>
      cases request : fault.kind.isRequest <;>
        simp only [ofResult, pomResult, Failure.isRequest, request] <;> exact ⟨_, rfl⟩
    | _ => exact ⟨_, rfl⟩

theorem pomFrom_unknown (stateless : session.server.Stateless) (repository : Repository)
    (unknown : state.poms.known key = none) :
    let answer := PomAnswer.ofResult (session.fetchPom key repository {}).1
    let run := session.pomFrom key repository state
    answer.Yields run.1 ∧
      (∀ other, run.2.poms.known other =
        if other == key then answer.flight? else state.poms.known other) ∧
      { run.2.memory with poms := {} } = { state.memory with poms := {} } := by
  have fetching (state : State) : (session.fetchPom key repository state).1 =
        (session.fetchPom key repository {}).1 ∧
      (session.fetchPom key repository state).2.poms = state.poms ∧
      { (session.fetchPom key repository state).2.memory with poms := {} } =
        { state.memory with poms := {} } := by
    obtain ⟨same, memory⟩ := steady_fetchPom stateless key repository state
    exact ⟨same, congrArg Memory.poms memory, by rw [memory]⟩
  obtain ⟨result, known, beside⟩ := Region.compute_unknown pomRegion_beside unknown fetching
  rw [pomFrom_apply]
  refine ⟨?_, fun other => (known other).trans ?_, beside⟩
  · simp only [result]
    exact PomAnswer.yields_ofResult _
  · match (session.fetchPom key repository {}).1 with
    | .ok (.ok _) | .ok (.error _) => rfl
    | .error failure =>
      have forgotten : (PomAnswer.ofResult (.error failure)).flight? = none := by
        cases request : failure.isRequest <;> simp [PomAnswer.ofResult, request, PomAnswer.flight?]
      rw [forgotten]
      cases same : other == key with
      | true =>
        rw [eq_of_beq same]
        exact unknown
      | false => rfl

/-! A whole search. -/

theorem downloadFrom_cons (session : Session) (coordinate : ResolvedCoordinate)
    (faults : DownloadFaults) (repository : Repository) (rest : List Repository) (state : State) :
    session.downloadFrom coordinate faults (repository :: rest) state =
      match session.pomFrom { coordinate with repository := some repository.uri } repository state with
      | (.ok (.ok pom), after) => (⟨.ok pom, faults⟩, after)
      | (.ok (.error fault), after) =>
        session.downloadFrom coordinate (faults ++ [(repository, fault)]) rest after
      | (.error failure, after) => (⟨.error failure, faults⟩, after) := by
  simp only [downloadFrom, bind, StateT.bind]
  cases session.pomFrom { coordinate with repository := some repository.uri } repository state with
  | mk result after =>
    match result with
    | .ok (.ok _) | .ok (.error _) | .error _ => rfl

/-- What a search for a POM leaves as it was: all that is not about this POM. -/
structure Aside (coordinate : ResolvedCoordinate) (state after : State) : Prop where
  poms : ∀ key, (∀ uri, key ≠ { coordinate with repository := some uri }) →
    after.poms.known key = state.poms.known key
  beside : { after.memory with poms := {} } = { state.memory with poms := {} }

theorem Aside.trans {coordinate : ResolvedCoordinate} {state after last : State}
    (first : Aside coordinate state after) (second : Aside coordinate after last) :
    Aside coordinate state last where
  poms key other := (second.poms key other).trans (first.poms key other)
  beside := second.beside.trans first.beside

theorem pomAt_of_learned {after : State} {flight : Option (Flight Pom)}
    (known : ∀ other, after.poms.known other =
      if other == { coordinate with repository := some repository.uri } then flight
      else state.poms.known other) (uri : String) :
    after.memory.pomAt coordinate uri =
      if uri == repository.uri then flight else state.memory.pomAt coordinate uri := by
  have same : (({ coordinate with repository := some uri } : ResolvedCoordinate) ==
      { coordinate with repository := some repository.uri }) = (uri == repository.uri) := by
    rw [Bool.eq_iff_iff, beq_iff_eq, beq_iff_eq]
    simp
  refine (known _).trans ?_
  rw [same]
  rfl

/-- Asking one repository takes a search a step further, or ends it with what it is to give. -/
theorem pomFrom_sound (stateless : session.server.Stateless)
    (consistent : Consistent (session.pomAnswer coordinate) absent (repository :: rest)
      (state.memory.pomAt coordinate)) :
    let answer := session.pomAnswer coordinate
    let key := { coordinate with repository := some repository.uri }
    let run := session.pomFrom key repository state
    Aside coordinate state run.2 ∧
      ((∃ fault absent', run.1 = .ok (.error fault) ∧ Passes answer absent repository rest absent' ∧
        Consistent answer absent' rest (run.2.memory.pomAt coordinate)) ∨
      Consistent answer absent (repository :: rest) (run.2.memory.pomAt coordinate) ∧
        ((∃ pom, run.1 = .ok (.ok pom) ∧
          firstProvided answer absent (repository :: rest) = some pom) ∨
        ∃ failure, run.1 = .error failure ∧
          firstProvided answer absent (repository :: rest) = none)) := by
  intro answer key run
  cases entry : state.memory.pomAt coordinate repository.uri with
  | some flight =>
    have agrees := consistent.agrees _ _ entry
    obtain ⟨found, rfl⟩ : ∃ found, flight = .done found := by
      obtain ⟨pom, same, _⟩ | ⟨same, _⟩ := agrees <;> exact ⟨_, same⟩
    obtain ⟨result, known, beside⟩ := pomFrom_known session repository entry
    have same : run.2.memory.pomAt coordinate = state.memory.pomAt coordinate :=
      funext fun uri => known _
    refine ⟨⟨fun key _ => known key, beside⟩, ?_⟩
    rw [same]
    cases found with
    | none =>
      obtain ⟨absent', passes, consistent'⟩ := consistent.passes entry
      exact .inl ⟨_, absent', result, passes, consistent'⟩
    | some pom =>
      obtain ⟨other, found, provided⟩ | ⟨found, _⟩ := agrees
      · cases found
        exact .inr ⟨consistent, .inl ⟨pom, result, provided⟩⟩
      · cases found
  | none =>
    obtain ⟨yields, known, beside⟩ := pomFrom_unknown stateless repository entry
    change (answer repository).Yields run.1 at yields
    have learned (uri : String) : run.2.memory.pomAt coordinate uri =
        if uri == repository.uri then (answer repository).flight?
        else state.memory.pomAt coordinate uri := pomAt_of_learned known uri
    have unlearned (forgotten : (answer repository).flight? = none) :
        run.2.memory.pomAt coordinate = state.memory.pomAt coordinate := by
      funext uri
      rw [learned, forgotten]
      split
      · rename_i same
        rw [eq_of_beq same]
        exact entry.symm
      · rfl
    have unrecorded := consistent.not_mem entry
    have provided : firstProvided answer absent (repository :: rest) = _ :=
      (firstProvided.eq_2 ..).trans (if_neg unrecorded)
    refine ⟨⟨fun other differs => ?_, beside⟩, ?_⟩
    · refine (known other).trans (if_neg ?_)
      simpa using differs repository.uri
    · cases outcome : answer repository with
      | provided pom =>
        rw [outcome] at yields learned provided
        refine .inr ⟨consistent.learn entry (.inl ⟨pom, rfl, provided⟩) learned,
          .inl ⟨pom, yields, provided⟩⟩
      | absent =>
        rw [outcome] at yields learned provided
        obtain ⟨fault, yields⟩ := yields
        have first : firstAnswer answer (repository :: rest) repository.uri = some .absent := by
          rw [firstAnswer_of_reached (by simp [outcome]), outcome]
        have consistent' := consistent.learn entry (.inr ⟨rfl, .inr first⟩) learned
        obtain ⟨absent', passes, consistent'⟩ := consistent'.passes
          (by simp [learned, PomAnswer.flight?])
        exact .inl ⟨fault, absent', yields, passes, consistent'⟩
      | unreached =>
        rw [outcome] at yields unlearned
        obtain ⟨fault, yields⟩ := yields
        have passes : Passes answer absent repository rest absent :=
          .of_unreached unrecorded outcome
        refine .inl ⟨fault, absent, yields, passes, ?_⟩
        rw [unlearned rfl]
        exact passes.consistent consistent consistent.recorded
      | fatal =>
        rw [outcome] at yields unlearned provided
        obtain ⟨failure, yields⟩ := yields
        rw [unlearned rfl]
        exact .inr ⟨consistent, .inr ⟨failure, yields, provided⟩⟩

theorem downloadFrom_sound (stateless : session.server.Stateless) {repositories : List Repository}
    {faults : DownloadFaults}
    (consistent : Consistent (session.pomAnswer coordinate) absent repositories
      (state.memory.pomAt coordinate)) :
    let run := session.downloadFrom coordinate faults repositories state
    run.1.outcome.toOption = firstProvided (session.pomAnswer coordinate) absent repositories ∧
      Consistent (session.pomAnswer coordinate) absent repositories (run.2.memory.pomAt coordinate) ∧
      Aside coordinate state run.2 := by
  induction repositories generalizing absent faults state with
  | nil => exact ⟨rfl, consistent, fun _ _ => rfl, rfl⟩
  | cons repository rest ih =>
    obtain ⟨aside, step⟩ := pomFrom_sound stateless consistent
    rw [downloadFrom_cons]
    cases asked : session.pomFrom { coordinate with repository := some repository.uri } repository
        state with
    | mk result after =>
      simp only [asked] at aside step
      obtain ⟨fault, absent', rfl, passes, consistent'⟩ | ⟨consistent', stops⟩ := step
      · obtain ⟨same, consistentThen, asideThen⟩ := ih consistent'
        exact ⟨same.trans passes.provided.symm, passes.consistent_cons consistentThen,
          aside.trans asideThen⟩
      · obtain ⟨pom, rfl, provided⟩ | ⟨failure, rfl, provided⟩ := stops
        · exact ⟨provided.symm, consistent', aside⟩
        · exact ⟨provided.symm, consistent', aside⟩

/-- What is remembered of other POMs does not bear on a search. -/
theorem Aside.sound {after : State} (aside : Aside coordinate state after)
    (sound : session.Sound own state.memory)
    (consistent : Consistent (session.pomAnswer coordinate) []
      (session.sources (some coordinate.version)) (after.memory.pomAt coordinate)) :
    session.Sound own after.memory := by
  refine sound.of_poms aside.beside fun other => ?_
  by_cases same : { other with repository := none } = { coordinate with repository := none }
  · have located (uri : String) : { other with repository := some uri } =
        { coordinate with repository := some uri } :=
      congrArg (fun key : ResolvedCoordinate => { key with repository := some uri }) same
    have answers : session.pomAnswer other = session.pomAnswer coordinate := by
      funext repository
      simp only [pomAnswer, located]
    have remembered : after.memory.pomAt other = after.memory.pomAt coordinate := by
      funext uri
      simp only [Memory.pomAt, located]
    have version : other.version = coordinate.version :=
      (ResolvedCoordinate.mk.inj same).2.2.2.1
    rw [answers, remembered, version]
    exact consistent
  · have remembered : after.memory.pomAt other = state.memory.pomAt other := by
      funext uri
      refine aside.poms _ fun uri' equal => same ?_
      exact congrArg (fun key : ResolvedCoordinate => { key with repository := none }) equal
    rw [remembered]
    exact sound.poms other

theorem downloadFrom_keeps (stateless : session.server.Stateless)
    (sound : session.Sound own state.memory) (coordinate : ResolvedCoordinate) :
    let searched := session.sources (some coordinate.version)
    let run := session.downloadFrom coordinate [] searched state
    run.1.outcome.toOption = firstProvided (session.pomAnswer coordinate) [] searched ∧
      session.Sound own run.2.memory := by
  obtain ⟨provided, consistent, aside⟩ := downloadFrom_sound stateless (sound.poms coordinate)
  exact ⟨provided, aside.sound sound consistent⟩

end MavenResolution.Session
