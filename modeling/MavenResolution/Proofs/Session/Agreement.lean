import MavenResolution.Proofs.Outcome
import MavenResolution.Proofs.Session.Providers

/-! Computations that agree: started with sound caches they give what looks the same, and leave
sound caches behind. -/
namespace MavenResolution.Session

variable {session : Session} {own : List (Path × Pom)}

def Agree (session : Session) (own : List (Path × Pom)) (view : α → β)
    (left right : StateM State α) : Prop :=
  ∀ state state', session.Sound own state.memory → session.Sound own state'.memory →
    view (left state).1 = view (right state').1 ∧
      session.Sound own (left state).2.memory ∧ session.Sound own (right state').2.memory

theorem Gives.agree {m : StateM State α} {result : α} (gives : session.Gives own m result) :
    session.Agree own id m m := by
  intro state state' sound sound'
  obtain ⟨same, soundNow⟩ := gives state sound
  obtain ⟨same', soundNow'⟩ := gives state' sound'
  exact ⟨same.trans same'.symm, soundNow, soundNow'⟩

theorem Agree.bind {left right : StateM State α} {f g : α → StateM State β} {view : α → γ}
    {view' : β → δ} (agree : session.Agree own view left right)
    (next : ∀ a b, view a = view b → session.Agree own view' (f a) (g b)) :
    session.Agree own view' (left >>= f) (right >>= g) := by
  intro state state' sound sound'
  obtain ⟨same, soundNow, soundNow'⟩ := agree state state' sound sound'
  exact next _ _ same _ _ soundNow soundNow'

theorem Gives.bind_agree {left right : StateM State α} {a b : α} {f g : α → StateM State β}
    {view : β → γ} (gives : session.Gives own left a) (gives' : session.Gives own right b)
    (next : session.Agree own view (f a) (g b)) :
    session.Agree own view (left >>= f) (right >>= g) := by
  intro state state' sound sound'
  obtain ⟨same, soundNow⟩ := gives state sound
  obtain ⟨same', soundNow'⟩ := gives' state' sound'
  have run : (left >>= f) state = f a (left state).2 := by
    rw [← same]
    rfl
  have run' : (right >>= g) state' = g b (right state').2 := by
    rw [← same']
    rfl
  rw [run, run']
  exact next _ _ soundNow soundNow'

theorem agree_pure {a b : α} {view : α → β} (same : view a = view b) :
    session.Agree own view (pure a) (pure b) :=
  fun _ _ sound sound' => ⟨same, sound, sound'⟩

theorem agree_noteAll (entries entries' : List Log.Entry) :
    session.Agree own id (noteAll entries) (noteAll entries') :=
  fun _ _ sound sound' => ⟨rfl, sound, sound'⟩

theorem agree_note (entry entry' : Log.Entry) :
    session.Agree own id (note entry) (note entry') :=
  fun _ _ sound sound' => ⟨rfl, sound, sound'⟩

theorem Agree.map {left right : StateM State α} {f : α → β} {view : β → γ}
    (agree : session.Agree own (fun a => view (f a)) left right) :
    session.Agree own view (f <$> left) (f <$> right) := agree

theorem agree_projectPoms : session.Agree own State.projectPoms get get :=
  fun _ _ sound sound' => ⟨sound.own.trans sound'.own.symm, sound, sound'⟩

/-! What may fail looks the same if it fails in any way. -/

theorem Agree.run_bind {left right : Run α} {f g : α → Run β}
    (agree : session.Agree own Except.toOption left.run right.run)
    (next : ∀ a, session.Agree own Except.toOption (f a).run (g a).run) :
    session.Agree own Except.toOption (left >>= f).run (right >>= g).run := by
  change session.Agree own Except.toOption (left.run >>= ExceptT.bindCont f)
    (right.run >>= ExceptT.bindCont g)
  refine agree.bind fun a b same => ?_
  obtain ⟨value, rfl, rfl⟩ | ⟨_, _, rfl, rfl⟩ := cases_of_toOption_eq same
  · exact next value
  · exact agree_pure rfl

theorem Agree.run_lift {left right : StateM State α} (agree : session.Agree own id left right) :
    session.Agree own Except.toOption (liftM left : Run α).run (liftM right : Run α).run := by
  intro state state' sound sound'
  obtain ⟨same, soundNow, soundNow'⟩ := agree state state' sound sound'
  exact ⟨congrArg some same, soundNow, soundNow'⟩

theorem Agree.of_id {left right : StateM State α} {view : α → β}
    (agree : session.Agree own id left right) : session.Agree own view left right := by
  intro state state' sound sound'
  obtain ⟨same, soundNow, soundNow'⟩ := agree state state' sound sound'
  exact ⟨congrArg view same, soundNow, soundNow'⟩

theorem agree_run_pure (a : α) :
    session.Agree own Except.toOption (pure a : Run α).run (pure a : Run α).run :=
  agree_pure rfl

theorem agree_run_throw (failure failure' : Failure) :
    session.Agree own Except.toOption (throw failure : Run α).run (throw failure' : Run α).run :=
  agree_pure rfl

/-! Metadata, POMs, versions. -/

section

variable (stateless : session.server.Stateless)

include stateless

theorem metadata_agree (coordinate : Coordinate) :
    session.Agree own Except.toOption (session.metadata coordinate session.repositories none).run
      (session.metadata coordinate session.repositories none).run :=
  (metadata_gives stateless coordinate).agree.of_id

theorem datedVersion_agree (coordinate : Coordinate) :
    session.Agree own Except.toOption (session.datedVersion coordinate session.repositories none).run
      (session.datedVersion coordinate session.repositories none).run := by
  unfold datedVersion
  cases coordinate.version with
  | none => exact agree_run_pure _
  | some version =>
    dsimp only
    split
    · exact agree_run_pure _
    · cases session.pinnedVersion? coordinate with
      | some dated => exact agree_run_pure _
      | none => exact (metadata_agree stateless coordinate).run_bind fun _ => agree_run_pure _

theorem download_agree (coordinate : Coordinate) :
    session.Agree own (fun download => download.outcome.toOption)
      (session.download coordinate none none session.repositories)
      (session.download coordinate none none session.repositories) := by
  unfold download
  cases complete? coordinate with
  | none => exact agree_pure rfl
  | some complete =>
    refine (datedVersion_agree stateless coordinate).bind fun a b same => ?_
    obtain ⟨dated, rfl, rfl⟩ | ⟨_, _, rfl, rfl⟩ := cases_of_toOption_eq same
    · refine agree_projectPoms.bind fun a b same => ?_
      have own : a.ownPom? coordinate none none = b.ownPom? coordinate none none := by
        unfold State.ownPom? State.projectPom?
        rw [same]
      dsimp only
      rw [own]
      split
      · exact agree_pure rfl
      · refine (searched_gives stateless _).bind_agree (searched_gives stateless _) ?_
        intro state state' sound sound'
        obtain ⟨same, soundNow⟩ := downloadFrom_keeps stateless sound { complete with dated := _ }
        obtain ⟨same', soundNow'⟩ := downloadFrom_keeps stateless sound' { complete with dated := _ }
        exact ⟨same.trans same'.symm, soundNow, soundNow'⟩
    · exact agree_pure rfl

end

end MavenResolution.Session
