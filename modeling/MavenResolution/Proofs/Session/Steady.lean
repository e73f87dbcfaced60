import MavenResolution.Proofs.Http.Stateless
import MavenResolution.Session.Resolution

/-! What a session remembers, and computations that neither depend on it nor change it. -/
namespace MavenResolution.Session

/-- The parts of the state that bear on what comes out of a computation. -/
structure Memory where
  normalized : SingleFlight Repository.Identity Repository
  metadata : SingleFlight (String × Coordinate) Metadata
  poms : SingleFlight ResolvedCoordinate Pom
  projectPoms : List (Path × Pom)

def State.memory (state : State) : Memory :=
  ⟨state.normalized, state.metadata, state.poms, state.projectPoms⟩

theorem bind_apply (m : StateM State α) (f : α → StateM State β) (state : State) :
    (m >>= f) state = f (m state).1 (m state).2 := rfl

theorem run_bind_apply (m : ExceptT ε (StateM State) α) (f : α → ExceptT ε (StateM State) β)
    (state : State) : (m >>= f).run state = match m.run state with
      | (.ok a, after) => (f a).run after
      | (.error fault, after) => (.error fault, after) := by
  change (match m.run state with | (result, after) => ExceptT.bindCont f result after) = _
  cases m.run state with
  | mk result after => cases result <;> rfl

/-- What comes of a computation is put in another form. -/
theorem run_bind_pure (m : ExceptT ε (StateM State) α) (f : α → β) (state : State) :
    (m >>= fun a => pure (f a)).run state = ((m.run state).1.map f, (m.run state).2) := by
  rw [run_bind_apply]
  cases m.run state with
  | mk result after => cases result <;> rfl

/-- A sequence succeeds if both of its steps do. -/
theorem run_bind_ok {m : ExceptT ε (StateM State) α} {f : α → ExceptT ε (StateM State) β} {b : β}
    {state last : State} (succeeded : (m >>= f).run state = (.ok b, last)) :
    ∃ a after, m.run state = (.ok a, after) ∧ (f a).run after = (.ok b, last) := by
  rw [run_bind_apply] at succeeded
  cases run : m.run state with
  | mk result after =>
    rw [run] at succeeded
    cases result with
    | ok a => exact ⟨a, after, rfl, succeeded⟩
    | error fault => cases succeeded

theorem run_map_ok {m : StateM State α} {f : α → Except ε β} {b : β} {state last : State}
    (succeeded : (ExceptT.mk (f <$> m)).run state = (.ok b, last)) :
    ∃ a, m state = (a, last) ∧ f a = .ok b := by
  have same : (f (m state).1, (m state).2) = (.ok b, last) := succeeded
  obtain ⟨gives, reaches⟩ := Prod.mk.inj same
  exact ⟨(m state).1, Prod.ext rfl reaches, gives⟩

theorem run_mapM_cons (f : α → ExceptT ε (StateM State) β) (a : α) (rest : List α) (state : State) :
    ((a :: rest).mapM f).run state = match (f a).run state with
      | (.error fault, after) => (.error fault, after)
      | (.ok b, after) =>
        let others := (rest.mapM f).run after
        (others.1.map (b :: ·), others.2) := by
  rw [List.mapM_cons, run_bind_apply]
  cases (f a).run state with
  | mk result after =>
    cases result with
    | error fault => rfl
    | ok b =>
      dsimp only
      rw [run_bind_apply]
      cases (rest.mapM f).run after with
      | mk results last => cases results <;> rfl

theorem run_lift_apply (m : StateM State α) (state : State) :
    (liftM m : ExceptT ε (StateM State) α).run state = (.ok (m state).1, (m state).2) := rfl

/-- The computation gives in any state what it gives in an empty one, and leaves the caches as they are. -/
def Steady (m : StateM State α) : Prop :=
  ∀ state, (m state).1 = (m {}).1 ∧ (m state).2.memory = state.memory

theorem steady_pure (a : α) : Steady (pure a) := fun _ => ⟨rfl, rfl⟩

theorem Steady.bind {m : StateM State α} {f : α → StateM State β} (steady : Steady m)
    (next : ∀ a, Steady (f a)) : Steady (m >>= f) := by
  intro state
  obtain ⟨same, memory⟩ := steady state
  obtain ⟨sameNext, memoryNext⟩ := next (m state).1 (m state).2
  obtain ⟨sameEmpty, _⟩ := next (m {}).1 (m {}).2
  constructor
  · change (f (m state).1 (m state).2).1 = (f (m {}).1 (m {}).2).1
    rw [sameNext, sameEmpty, same]
  · exact memoryNext.trans memory

theorem Steady.map {m : StateM State α} (steady : Steady m) (f : α → β) : Steady (f <$> m) :=
  steady.bind fun a => steady_pure (f a)

theorem Steady.run_bind {m : ExceptT ε (StateM State) α} {f : α → ExceptT ε (StateM State) β}
    (steady : Steady m.run) (next : ∀ a, Steady (f a).run) : Steady (m >>= f).run := by
  change Steady (m.run >>= ExceptT.bindCont f)
  refine steady.bind fun result => ?_
  cases result with
  | ok a => exact next a
  | error fault => exact steady_pure _

theorem Steady.run_lift {m : StateM State α} (steady : Steady m) :
    Steady (liftM m : ExceptT ε (StateM State) α).run :=
  steady.map Except.ok

theorem steady_run_pure (a : α) : Steady (pure a : ExceptT ε (StateM State) α).run := steady_pure _

theorem steady_run_throw (fault : ε) : Steady (throw fault : ExceptT ε (StateM State) α).run :=
  steady_pure _

theorem steady_note (entry : Log.Entry) : Steady (note entry) := fun _ => ⟨rfl, rfl⟩

theorem steady_report (session : Session) (failure : Failure) : Steady (session.report failure) := by
  unfold report
  split
  · exact steady_note _
  · exact fun _ => ⟨rfl, rfl⟩

section

variable {session : Session} (stateless : session.server.Stateless)

include stateless

theorem steady_send (context : String) (request : Http.Request) :
    Steady (session.send context request) := by
  intro state
  refine ⟨?_, rfl⟩
  exact Http.Transport.outcome_send stateless _ _ _ _ request

/-! What single repositories are asked. -/

theorem steady_isReachable (repository : Repository) (uri : String) :
    Steady (session.isReachable repository uri) := by
  refine (steady_send stateless _ _).bind fun outcome => ?_
  cases outcome <;> exact steady_pure _

theorem steady_answeringForm (repository : Repository) :
    Steady (session.answeringForm repository).run := by
  refine (steady_isReachable stateless repository _).run_bind fun secure => ?_
  split
  · exact steady_run_pure _
  · split
    · exact steady_run_pure _
    · refine (steady_isReachable stateless repository _).run_bind fun plain => ?_
      split <;> exact steady_run_pure _

theorem steady_probe (repository : Repository) : Steady (session.probe repository).run := by
  refine (steady_answeringForm stateless repository).run_bind fun found => ?_
  cases found <;> exact (steady_note _).run_lift.run_bind fun _ => steady_run_pure _

theorem steady_probeOrReport (repository : Repository) :
    Steady (session.probeOrReport repository) := by
  refine (steady_probe stateless repository).bind fun found => ?_
  cases found with
  | ok found => exact steady_pure _
  | error fault => exact (steady_report session _).bind fun _ => steady_pure _

theorem steady_fetchMetadata (coordinate : Coordinate) (repository : Repository) :
    Steady (session.fetchMetadata coordinate repository).run := by
  refine (steady_send stateless _ _).run_lift.run_bind fun outcome => ?_
  cases outcome with
  | error fault =>
    dsimp only
    split
    · exact (steady_report session _).run_lift.run_bind fun _ => steady_run_pure _
    · exact steady_run_throw _
  | ok response =>
    dsimp only
    split
    · exact (steady_note _).run_lift.run_bind fun _ => steady_run_pure _
    · split
      · exact steady_run_pure _
      · exact (steady_report session _).run_lift.run_bind fun _ => steady_run_pure _
      · exact steady_run_throw _

theorem steady_fetchPom (coordinate : ResolvedCoordinate) (repository : Repository) :
    Steady (session.fetchPom coordinate repository) := by
  refine (steady_send stateless _ _).bind fun outcome => ?_
  cases outcome with
  | error fault => exact steady_pure _
  | ok response =>
    dsimp only
    split
    · exact (steady_note _).bind fun _ => steady_pure _
    · split
      · exact (steady_note _).bind fun _ => steady_pure _
      · exact steady_pure _
      · exact steady_pure _

end

end MavenResolution.Session
