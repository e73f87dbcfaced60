import MavenResolution.Proofs.Session.Sources

/-! The merged metadata of a module are the same in every session with a sound cache. The first repository at a URL
speaks for all others there. -/
namespace MavenResolution.Session

variable {session : Session} {own : List (Path × Pom)} {state : State} {coordinate : Coordinate}
  {repository : Repository} {before rest behind : List Repository}

theorem metadataRegion_beside : metadataRegion.Beside
    fun state : State => { state.memory with metadata := {} } :=
  ⟨fun _ _ => rfl, fun _ _ => rfl, fun _ _ => rfl, fun _ _ => rfl⟩

/-- Asks a repository, unless what it says is known. -/
def ask (session : Session) (coordinate : Coordinate) (repository : Repository) :
    Run (Option Metadata) :=
  ExceptT.mk (Computed.outcome <$> metadataRegion.compute (repository.uri, coordinate) id
    (session.fetchMetadata coordinate repository).run)

/-- What is said on behalf of a repository. -/
def told (session : Session) (coordinate : Coordinate) (repository : Repository) :
    Except Failure (Option Metadata) :=
  session.metadataAnswer coordinate ((session.askedAt repository.uri).getD repository)

theorem exists_askedAt (member : repository ∈ session.sources none) :
    ∃ first, session.askedAt repository.uri = some first := by
  rw [← Option.isSome_iff_exists, askedAt, List.find?_isSome]
  exact ⟨repository, member, beq_self_eq_true _⟩

theorem askedAt_of_unasked (split : session.sources none = before ++ repository :: behind)
    (settled : ∀ earlier ∈ before, (state.metadata.known (earlier.uri, coordinate)).isSome)
    (unasked : state.metadata.known (repository.uri, coordinate) = none) :
    session.askedAt repository.uri = some repository := by
  rw [askedAt, List.find?_eq_some_iff_append]
  refine ⟨beq_self_eq_true _, before, behind, split, fun earlier member => ?_⟩
  have differs : earlier.uri ≠ repository.uri := by
    intro same
    have known := settled earlier member
    rw [same, unasked] at known
    cases known
  simpa using differs

theorem ask_sound (stateless : session.server.Stateless)
    (split : session.sources none = before ++ repository :: behind)
    (sound : session.Sound own state.memory)
    (settled : ∀ earlier ∈ before, (state.metadata.known (earlier.uri, coordinate)).isSome) :
    let run := (session.ask coordinate repository).run state
    run.1 = session.told coordinate repository ∧ session.Sound own run.2.memory ∧
      ∀ uri, run.2.metadata.known (uri, coordinate) =
        if uri == repository.uri then (session.told coordinate repository).toOption.map .done
        else state.metadata.known (uri, coordinate) := by
  intro run
  have member : repository ∈ session.sources none := by simp [split]
  obtain ⟨first, asked⟩ := exists_askedAt member
  have expected : session.told coordinate repository = session.metadataAnswer coordinate first := by
    rw [told, asked, Option.getD_some]
  have recorded : ∀ flight, state.metadata.known (repository.uri, coordinate) = some flight →
      ∃ found, session.told coordinate repository = .ok found ∧ flight = .done found := by
    intro flight known
    obtain ⟨other, found, askedOther, answerOther, done⟩ := sound.metadata _ _ _ known
    cases asked.symm.trans askedOther
    exact ⟨found, expected.trans answerOther, done⟩
  have fetching : state.metadata.known (repository.uri, coordinate) = none → ∀ state : State,
      ((session.fetchMetadata coordinate repository).run state).1 =
          session.told coordinate repository ∧
        ((session.fetchMetadata coordinate repository).run state).2.metadata = state.metadata ∧
        { ((session.fetchMetadata coordinate repository).run state).2.memory with metadata := {} } =
          { state.memory with metadata := {} } := by
    intro unasked state
    obtain ⟨same, memory⟩ := steady_fetchMetadata stateless coordinate repository state
    cases asked.symm.trans (askedAt_of_unasked split settled unasked)
    exact ⟨same.trans expected.symm, congrArg Memory.metadata memory, by rw [memory]⟩
  obtain ⟨result, known, beside⟩ := Region.compute_expected metadataRegion_beside recorded fetching
  refine ⟨result, sound.of_metadata beside ?_, fun uri => (known (uri, coordinate)).trans ?_⟩
  · intro uri other flight knownNow
    have now := (known (uri, other)).symm.trans knownNow
    cases same : (uri, other) == (repository.uri, coordinate) with
    | true =>
      rw [same, if_pos rfl] at now
      obtain ⟨sameUri, sameCoordinate⟩ := Prod.mk.inj (eq_of_beq same)
      rw [sameUri, sameCoordinate]
      cases answer : session.told coordinate repository with
      | ok found =>
        rw [answer] at now
        cases now
        exact ⟨first, found, asked, expected.symm.trans answer, rfl⟩
      | error failure =>
        rw [answer] at now
        cases now
    | false =>
      rw [same, if_neg Bool.false_ne_true] at now
      exact sound.metadata _ _ _ now
  · have same : ((uri, coordinate) == (repository.uri, coordinate)) = (uri == repository.uri) := by
      rw [Bool.eq_iff_iff, beq_iff_eq, beq_iff_eq, Prod.mk.injEq, and_iff_left rfl]
    rw [same]
    rfl

theorem askAll_sound (stateless : session.server.Stateless)
    (split : session.sources none = before ++ rest ++ behind)
    (sound : session.Sound own state.memory)
    (settled : ∀ earlier ∈ before, (state.metadata.known (earlier.uri, coordinate)).isSome) :
    let run := (rest.mapM (session.ask coordinate)).run state
    run.1 = rest.mapM (session.told coordinate) ∧ session.Sound own run.2.memory := by
  induction rest generalizing before state with
  | nil => exact ⟨rfl, sound⟩
  | cons repository rest ih =>
    have here : session.sources none = before ++ repository :: (rest ++ behind) := by
      simpa using split
    have there : session.sources none = (before ++ [repository]) ++ rest ++ behind := by
      simpa using split
    obtain ⟨said, soundNow, knownNow⟩ := ask_sound stateless here sound settled
    cases first : (session.ask coordinate repository).run state with
    | mk result after =>
      rw [first] at said soundNow knownNow
      simp only at said soundNow knownNow
      rw [List.mapM_cons, List.mapM_cons, run_bind_apply, first, ← said]
      cases result with
      | error failure => exact ⟨rfl, soundNow⟩
      | ok found =>
        have settledNow : ∀ earlier ∈ before ++ [repository],
            (after.metadata.known (earlier.uri, coordinate)).isSome := by
          intro earlier member
          rw [knownNow, ← said]
          obtain member | member := List.mem_append.mp member
          · split
            · rfl
            · exact settled earlier member
          · rw [List.mem_singleton.mp member, beq_self_eq_true]
            rfl
        obtain ⟨others, soundThen⟩ := ih there soundNow settledNow
        simp only [run_bind_apply, ← others]
        cases second : (rest.mapM (session.ask coordinate)).run after with
        | mk results last =>
          rw [second] at soundThen
          cases results <;> exact ⟨rfl, soundThen⟩

/-- The merged metadata of all repositories that are searched. -/
def toldByAll (session : Session) (coordinate : Coordinate) : Except Failure Metadata.Known :=
  if (coordinate.group.getD "").isEmpty then .error (.missingGroup coordinate)
  else do return (← (session.sources none).mapM (session.told coordinate)).foldl .merge none

theorem metadata_eq (session : Session) (coordinate : Coordinate) (repositories : List Repository)
    (containing : Option Pom) : session.metadata coordinate repositories containing = (do
      if (coordinate.group.getD "").isEmpty then throw (.missingGroup coordinate)
      let searched ← session.searched repositories containing
      let found ← searched.mapM (session.ask coordinate)
      return found.foldl Metadata.Known.merge none) := rfl

/-- What all say together is put together from what single repositories say. -/
theorem metadata_run (session : Session) {coordinate : Coordinate}
    (grouped : (coordinate.group.getD "").isEmpty = false) (repositories : List Repository)
    (containing : Option Pom) (state : State) :
    (session.metadata coordinate repositories containing).run state =
      let searching := session.searched repositories containing none state
      let asking := (searching.1.mapM (session.ask coordinate)).run searching.2
      (asking.1.map (·.foldl Metadata.Known.merge none), asking.2) := by
  rw [metadata_eq, if_neg (by rw [grouped]; exact Bool.false_ne_true), run_bind_apply,
    run_lift_apply]
  exact run_bind_pure _ _ _

theorem metadata_gives (stateless : session.server.Stateless) (coordinate : Coordinate) :
    session.Gives own (session.metadata coordinate session.repositories none).run
      (session.toldByAll coordinate) := by
  intro state sound
  obtain ⟨searched, soundNow⟩ := searched_gives stateless none state sound
  unfold toldByAll
  split
  · rename_i ungrouped
    rw [metadata_eq, if_pos ungrouped]
    exact ⟨rfl, sound⟩
  · rename_i grouped
    have split : session.sources none = [] ++ session.sources none ++ [] := by simp
    have settled (after : State) : ∀ earlier ∈ [],
        (after.metadata.known (Repository.uri earlier, coordinate)).isSome :=
      fun _ member => nomatch member
    obtain ⟨found, soundThen⟩ := askAll_sound stateless split soundNow (settled _)
    rw [metadata_run session (Bool.eq_false_iff.mpr grouped)]
    dsimp only
    rw [searched, ← found]
    refine ⟨?_, soundThen⟩
    cases (((session.sources none).mapM (session.ask coordinate)).run
      (session.searched session.repositories none none state).2).1 <;> rfl

end MavenResolution.Session
