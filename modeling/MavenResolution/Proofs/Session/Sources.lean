import MavenResolution.Proofs.Session.Sound

/-! Searches find the same repositories in every session with sound caches. A repository that is
not known to exist is probed when the first one with its identity comes up, whatever the session
has done before. -/
namespace MavenResolution.Session

variable {session : Session} {own : List (Path × Pom)} {state : State} {memory : Memory}
  {repository : Repository} {before rest behind : List Repository}

/-- The computation gives one result in every state with sound caches, which stay sound. -/
def Gives (session : Session) (own : List (Path × Pom)) (m : StateM State α) (result : α) : Prop :=
  ∀ state, session.Sound own state.memory →
    (m state).1 = result ∧ session.Sound own (m state).2.memory

theorem normalizedRegion_beside : normalizedRegion.Beside
    fun state : State => { state.memory with normalized := {} } :=
  ⟨fun _ _ => rfl, fun _ _ => rfl, fun _ _ => rfl, fun _ _ => rfl⟩

/-- A repository need not be probed any more. -/
def Settled (session : Session) (memory : Memory) (repository : Repository) : Prop :=
  (session.declared repository none).knownToExist = true ∨
    (memory.normalized.known (session.declared repository none).identity).isSome

theorem exists_probeAnswer (session : Session) (repository : Repository) :
    ∃ found, session.probeAnswer repository = .ok found := by
  cases session.probeAnswer repository with
  | error fault => exact fault.elim
  | ok found => exact ⟨found, rfl⟩

theorem exists_probedFor (member : repository ∈ session.route)
    (unknown : (session.declared repository none).knownToExist = false) :
    ∃ first, session.probedFor (session.declared repository none).identity = some first := by
  rw [← Option.isSome_iff_exists, probedFor, List.find?_isSome]
  exact ⟨_, List.mem_map_of_mem member, by simp [unknown]⟩

/-- A repository that is probed is the first of those that are the same. -/
theorem probedFor_of_unsettled (split : session.route = before ++ repository :: behind)
    (settled : ∀ earlier ∈ before, session.Settled memory earlier)
    (unknown : (session.declared repository none).knownToExist = false)
    (unprobed : memory.normalized.known (session.declared repository none).identity = none) :
    session.probedFor (session.declared repository none).identity =
      some (session.declared repository none) := by
  rw [probedFor, List.find?_eq_some_iff_append]
  refine ⟨by simp [unknown], before.map (session.declared · none),
    behind.map (session.declared · none), by simp [split], fun declared member => ?_⟩
  rcases List.mem_map.mp member with ⟨earlier, earlierMember, rfl⟩
  rcases settled earlier earlierMember with known | probed
  · simp [known]
  · have differs : (session.declared earlier none).identity ≠
        (session.declared repository none).identity := by
      intro same
      rw [same, unprobed] at probed
      cases probed
    simp [differs]

/-- Probing on behalf of an identity leaves sound caches that know what became of it. -/
theorem compute_normalized (stateless : session.server.Stateless)
    (split : session.route = before ++ repository :: behind)
    (sound : session.Sound own state.memory)
    (settled : ∀ earlier ∈ before, session.Settled state.memory earlier)
    (unknown : (session.declared repository none).knownToExist = false) :
    let declared := session.declared repository none
    let run := normalizedRegion.compute declared.identity id (session.probeOrReport declared) 0 state
    run.1.outcome = session.probeAnswer ((session.probedFor declared.identity).getD declared) ∧
      session.Sound own run.2.memory ∧
      ∀ identity, (run.2.memory.normalized.known identity).isSome =
        (identity == declared.identity || (state.memory.normalized.known identity).isSome) := by
  intro declared run
  have member : repository ∈ session.route := by simp [split]
  obtain ⟨first, probed⟩ := exists_probedFor member unknown
  obtain ⟨found, answer⟩ := session.exists_probeAnswer first
  have expected : session.probeAnswer ((session.probedFor declared.identity).getD declared) =
      .ok found := by
    rw [probed, Option.getD_some, answer]
  have recorded : ∀ flight, state.normalized.known declared.identity = some flight →
      ∃ other, (Except.ok found : Except Empty _) = .ok other ∧ flight = .done other := by
    intro flight known
    obtain ⟨other, otherFound, probedOther, answerOther, done⟩ := sound.normalized _ _ known
    cases probed.symm.trans probedOther
    exact ⟨otherFound, answer.symm.trans answerOther, done⟩
  have fetching : state.normalized.known declared.identity = none → ∀ state : State,
      (session.probeOrReport declared state).1 = .ok found ∧
        (session.probeOrReport declared state).2.normalized = state.normalized ∧
        { (session.probeOrReport declared state).2.memory with normalized := {} } =
          { state.memory with normalized := {} } := by
    intro unprobed state
    obtain ⟨same, memory⟩ := steady_probeOrReport stateless declared state
    cases probed.symm.trans (probedFor_of_unsettled split settled unknown unprobed)
    exact ⟨same.trans answer, congrArg Memory.normalized memory, by rw [memory]⟩
  obtain ⟨result, known, beside⟩ := Region.compute_expected normalizedRegion_beside recorded fetching
  refine ⟨result.trans expected.symm, sound.of_normalized beside ?_, ?_⟩
  · intro identity flight knownNow
    have now := (known identity).symm.trans knownNow
    cases same : identity == declared.identity with
    | true =>
      rw [same, if_pos rfl] at now
      cases now
      rw [eq_of_beq same]
      exact ⟨first, found, probed, answer, rfl⟩
    | false =>
      rw [same, if_neg Bool.false_ne_true] at now
      exact sound.normalized _ _ now
  · intro identity
    refine (congrArg Option.isSome (known identity)).trans ?_
    cases identity == declared.identity <;> rfl

theorem normalize_sound (stateless : session.server.Stateless)
    (split : session.route = before ++ repository :: behind)
    (sound : session.Sound own state.memory)
    (settled : ∀ earlier ∈ before, session.Settled state.memory earlier) :
    let run := session.normalize repository none state
    run.1 = session.form repository ∧ session.Sound own run.2.memory ∧
      ∀ earlier ∈ before ++ [repository], session.Settled run.2.memory earlier := by
  intro run
  cases known : (session.declared repository none).knownToExist with
  | true =>
    have same : run = (some (session.declared repository none), state) := by
      simp only [run, normalize, known, if_true]
      rfl
    rw [same]
    refine ⟨by simp [form, known], sound, fun earlier member => ?_⟩
    obtain member | member := List.mem_append.mp member
    · exact settled earlier member
    · rw [List.mem_singleton.mp member]
      exact .inl known
  | false =>
    obtain ⟨result, soundNow, knownNow⟩ := compute_normalized stateless split sound settled known
    obtain ⟨found, answer⟩ := session.exists_probeAnswer
      ((session.probedFor (session.declared repository none).identity).getD
        (session.declared repository none))
    rw [answer] at result
    have same : run = (found.map session.applyCredentials,
        (normalizedRegion.compute (session.declared repository none).identity id
          (session.probeOrReport (session.declared repository none)) 0 state).2) := by
      simp only [run, normalize, known, Bool.false_eq_true, if_false, bind, StateT.bind]
      generalize normalizedRegion.compute _ _ _ _ state = computed at result ⊢
      obtain ⟨answered, after⟩ := computed
      dsimp only at result ⊢
      rw [result]
      rfl
    rw [same]
    refine ⟨?_, soundNow, fun earlier member => ?_⟩
    · simp only [form, known, Bool.false_eq_true, if_false, answer]
    · obtain member | member := List.mem_append.mp member
      · exact (settled earlier member).imp_right fun probed =>
          (knownNow _).trans (by simp [probed])
      · rw [List.mem_singleton.mp member]
        exact .inr ((knownNow _).trans (by simp))

theorem normalizeAll_cons (session : Session) (containing : Option Pom) (repository : Repository)
    (rest : List Repository) (state : State) :
    (repository :: rest).mapM (session.normalize · containing) state =
      let first := session.normalize repository containing state
      let others := rest.mapM (session.normalize · containing) first.2
      (first.1 :: others.1, others.2) := by
  rw [List.mapM_cons]
  rfl

theorem normalizeAll_sound (stateless : session.server.Stateless)
    (split : session.route = before ++ rest ++ behind)
    (sound : session.Sound own state.memory)
    (settled : ∀ earlier ∈ before, session.Settled state.memory earlier) :
    let run := rest.mapM (session.normalize · none) state
    run.1 = rest.map session.form ∧ session.Sound own run.2.memory ∧
      ∀ earlier ∈ before ++ rest, session.Settled run.2.memory earlier := by
  induction rest generalizing before state with
  | nil =>
    rw [List.append_nil]
    exact ⟨rfl, sound, settled⟩
  | cons repository rest ih =>
    have here : session.route = before ++ repository :: (rest ++ behind) := by
      simpa using split
    have there : session.route = (before ++ [repository]) ++ rest ++ behind := by
      simpa using split
    obtain ⟨form, soundNow, settledNow⟩ := normalize_sound stateless here sound settled
    obtain ⟨forms, soundThen, settledThen⟩ := ih there soundNow settledNow
    rw [normalizeAll_cons]
    refine ⟨List.cons_eq_cons.mpr ⟨form, forms⟩, soundThen, ?_⟩
    simpa using settledThen

theorem searched_apply (session : Session) (repositories : List Repository)
    (containing : Option Pom) (version : Option String) (state : State) :
    session.searched repositories containing version state =
      let forms := repositories.mapM (session.normalize · containing) state
      let central := if session.includesCentral
        then session.normalize session.configuration.central containing forms.2 else (none, forms.2)
      (Repository.distinct ((forms.1.filterMap id).filter (fun repository =>
        (version.map repository.accepts).getD true) ++ central.1.toList), central.2) := by
  unfold searched
  cases session.includesCentral <;> rfl

theorem searched_gives (stateless : session.server.Stateless) (version : Option String) :
    session.Gives own (session.searched session.repositories none version)
      (session.sources version) := by
  intro state sound
  have none (earlier : Repository) (member : earlier ∈ []) : session.Settled state.memory earlier :=
    nomatch member
  have accepted : (session.repositories.map session.form).filterMap id =
      session.repositories.filterMap session.form := by
    simp [List.filterMap_map]
  rw [searched_apply]
  cases included : session.includesCentral with
  | false =>
    have split : session.route = [] ++ session.repositories ++ [] := by simp [route, included]
    obtain ⟨same, soundNow, _⟩ := normalizeAll_sound stateless split sound none
    simp only [Bool.false_eq_true, if_false]
    refine ⟨?_, soundNow⟩
    rw [same, accepted]
    simp [sources, included]
  | true =>
    have split : session.route = [] ++ session.repositories ++ [session.configuration.central] := by
      simp [route, included]
    have last : session.route = session.repositories ++ session.configuration.central :: [] := by
      simp [route, included]
    obtain ⟨same, soundNow, settledNow⟩ := normalizeAll_sound stateless split sound none
    obtain ⟨sameCentral, soundThen, _⟩ := normalize_sound stateless last soundNow settledNow
    simp only [if_true]
    refine ⟨?_, soundThen⟩
    rw [same, sameCentral, accepted]
    simp [sources, included]

end MavenResolution.Session
