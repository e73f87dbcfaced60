import MavenResolution.Proofs.Requirement.Declared
import MavenResolution.Proofs.Session.Agreement

/-! Requests that are resolved together do not influence each other, although they share what the
session remembers and one arena of declarations. -/
namespace MavenResolution

/-- What a resolution comes to, whatever a failure says. -/
def Resolution.view (resolution : Resolution) : Request × Option Mode × Option Resolved :=
  (resolution.request, resolution.mode, resolution.outcome.toOption)

namespace Session

variable {session : Session} {own : List (Path × Pom)}

theorem noteAll_agree (entries entries' : List Log.Entry) :
    session.Agree own Except.toOption (liftM (noteAll entries) : Run Unit).run
      (liftM (noteAll entries') : Run Unit).run :=
  (agree_noteAll entries entries').run_lift

/-- What is selected does not depend on what is reported about it. -/
theorem selected_agree (selected : Except Text.NumeralError (Option String))
    (entries entries' : Option String → List Log.Entry) :
    session.Agree own Except.toOption
      (match selected with
        | .error fault => throw (.numeral fault)
        | .ok version => do
          noteAll (entries version)
          return version : Run (Option String)).run
      (match selected with
        | .error fault => throw (.numeral fault)
        | .ok version => do
          noteAll (entries' version)
          return version : Run (Option String)).run := by
  cases selected with
  | error fault => exact agree_run_throw _ _
  | ok version => exact (noteAll_agree _ _).run_bind fun _ => agree_run_pure _

/-- Declarations that lead to the same requirements of the same module select the same version. -/
theorem select_agree (stateless : session.server.Stateless) {added added' : Declarations.Added}
    {owner : ModuleId} {chain : Chain} (ends : Declarations.Ends added owner chain)
    (ends' : Declarations.Ends added' owner chain) :
    session.Agree own Except.toOption (session.select added session.repositories).run
      (session.select added' session.repositories).run := by
  unfold select
  rw [ends.ownerOf, ends'.ownerOf, ends.chain, ends'.chain]
  dsimp only
  split
  · exact (metadata_agree stateless _).run_bind fun known =>
      (agree_run_pure _).run_bind fun available => selected_agree (chain.select available) _ _
  · exact (agree_run_pure _).run_bind fun available =>
      selected_agree (chain.select available) _ _

theorem resolveDeclared_agree (stateless : session.server.Stateless)
    (noJars : session.jarDirectory = none) (request : Request) {added added' : Declarations.Added}
    {owner : ModuleId} {chain : Chain} (ends : Declarations.Ends added owner chain)
    (ends' : Declarations.Ends added' owner chain) :
    session.Agree own Except.toOption
      (session.resolveDeclared request added session.repositories).run
      (session.resolveDeclared request added' session.repositories).run := by
  unfold resolveDeclared
  refine (select_agree stateless ends ends').run_bind fun selected => ?_
  cases selected with
  | none => exact agree_run_throw _ _
  | some version =>
    dsimp only
    refine Agree.run_bind (Agree.map (download_agree stateless _)) fun pom => ?_
    rw [noJars]
    exact (agree_run_pure _).run_bind fun _ => agree_run_pure _

theorem declare_gives {declarations : Declarations} {request : Request}
    {added : Declarations.Added}
    (declared : declarations.chain request.moduleId request.constraints = .ok added) :
    session.Gives own (declare declarations request.moduleId request.constraints).run
      (.ok added) := by
  intro state sound
  rw [declare, declared]
  exact ⟨rfl, sound⟩

theorem declare_nil_gives (declarations : Declarations) (owner : ModuleId) :
    session.Gives own (declare declarations owner []).run
      (.error (.declaration (.noConstraints owner))) :=
  fun _ sound => ⟨rfl, sound⟩

/-- A request comes to the same, whatever else has been declared and found out. -/
theorem resolveOne_agree (stateless : session.server.Stateless)
    (noJars : session.jarDirectory = none) (request : Request)
    (declarations declarations' : Declarations) :
    session.Agree own (fun resolved => resolved.1.view) (session.resolveOne declarations request)
      (session.resolveOne declarations' request) := by
  have failed (mode : Option Mode) (failure failure' : Failure) (entry entry' : Log.Entry)
      (declarations declarations' : Declarations) :
      session.Agree own (fun resolved : Resolution × Declarations => resolved.1.view)
        (do
          note entry
          return ({ request, mode, outcome := .error failure }, declarations))
        (do
          note entry'
          return ({ request, mode, outcome := .error failure' }, declarations')) :=
    (agree_note entry entry').bind fun _ _ _ => agree_pure rfl
  unfold resolveOne
  by_cases empty : request.constraints = []
  · rw [empty]
    refine (declare_nil_gives _ _).bind_agree (declare_nil_gives _ _) ?_
    exact failed _ _ _ _ _ _ _
  · obtain ⟨added, declared, ends⟩ := Declarations.chain_ends declarations request.moduleId empty
    obtain ⟨added', declared', ends'⟩ :=
      Declarations.chain_ends declarations' request.moduleId empty
    refine (declare_gives declared).bind_agree (declare_gives declared') ?_
    dsimp only
    rw [ends.chain, ends'.chain]
    refine (resolveDeclared_agree stateless noJars request ends ends').bind fun a b same => ?_
    obtain ⟨resolved, rfl, rfl⟩ | ⟨_, _, rfl, rfl⟩ := cases_of_toOption_eq same
    · exact agree_pure rfl
    · exact failed _ _ _ _ _ _ _

/-- The state of a session that has just begun. -/
def fresh (own : List (Path × Pom)) : State := { projectPoms := own }

theorem resolveAllFrom_view (stateless : session.server.Stateless)
    (noJars : session.jarDirectory = none) (requests : List Request) (declarations : Declarations)
    {state : State} (sound : session.Sound own state.memory) :
    (session.resolveAllFrom declarations requests state).1.map Resolution.view =
      requests.map fun request => (session.resolveOne {} request (fresh own)).1.1.view := by
  induction requests generalizing declarations state with
  | nil => rfl
  | cons request rest ih =>
    obtain ⟨same, soundNow, _⟩ := resolveOne_agree stateless noJars request declarations {} state
      (fresh own) sound (session.sound_empty own)
    rw [List.map_cons, ← ih (session.resolveOne declarations request state).1.2 soundNow]
    exact congrArg (· :: _) same

theorem resolveOne_request (session : Session) (request : Request) (declarations : Declarations)
    (state : State) : (session.resolveOne declarations request state).1.1.request = request := by
  simp only [resolveOne, bind, StateT.bind]
  cases (declare declarations request.moduleId request.constraints).run state with
  | mk declared after =>
    cases declared with
    | error failure => rfl
    | ok added =>
      simp only [StateT.bind]
      cases (session.resolveDeclared request added session.repositories).run after with
      | mk resolved last => cases resolved <;> rfl

theorem resolveAll_view (stateless : session.server.Stateless)
    (noJars : session.jarDirectory = none) (requests : List Request) :
    (session.resolveAll requests (fresh own)).1.map Resolution.view =
      requests.map fun request => (session.resolveOne {} request (fresh own)).1.1.view :=
  resolveAllFrom_view stateless noJars requests {} (session.sound_empty own)

/-- What a request comes to among others is what it comes to alone, in a session of its own. It
does not matter which others there are, and where it stands. -/
theorem resolveAll_independent (stateless : session.server.Stateless)
    (noJars : session.jarDirectory = none) (own : List (Path × Pom)) (requests : List Request) :
    let resolved (requests : List Request) := (session.resolveAll requests (fresh own)).1
    (resolved requests).map (·.request) = requests ∧
      (resolved requests).map (fun resolution => [resolution.view]) =
        requests.map (fun request => (resolved [request]).map Resolution.view) ∧
      ∀ others : List Request, ∀ i j : Nat, requests[i]? = others[j]? →
        (resolved requests)[i]?.map Resolution.view = (resolved others)[j]?.map Resolution.view := by
  intro resolved
  have view (requests : List Request) : (resolved requests).map Resolution.view =
      requests.map fun request => (session.resolveOne {} request (fresh own)).1.1.view :=
    resolveAll_view stateless noJars requests
  refine ⟨?_, ?_, fun others i j same => ?_⟩
  · have requested := congrArg (List.map Prod.fst) (view requests)
    simpa [Resolution.view, resolveOne_request, Function.comp_def] using requested
  · simp only [view, List.map_cons, List.map_nil]
    have single := congrArg (List.map fun seen => [seen]) (view requests)
    simpa [Function.comp_def] using single
  · rw [← List.getElem?_map, ← List.getElem?_map, view, view, List.getElem?_map, List.getElem?_map,
      same]

/-- Of four requests for one module three succeed, by what the first of them found out, and one has no
constraint. -/
theorem resolveAll_independent_guarded :
    let listing := Text.Utf8.encode ("<metadata><versioning><versions><version>1.0</version>" ++
      "<version>1.5</version></versions></versioning></metadata>").toList
    let model := Text.Utf8.encode "<project><artifactId>lib</artifactId></project>".toList
    let server : Http.Server := fun _ request => .ok <|
      if request.auth = none then { status := 401 }
      else if request.url = "https://nexus.example/maven/org/example/lib/maven-metadata.xml" then
        { status := 200, content := listing }
      else { status := 200, content := model }
    let session : Session :=
      { repositories := [{ id := some "nexus", uri := "https://nexus.example/maven" }]
        credentials := [{ id := "nexus", username := some "ci", password := some "secret" }]
        transport := Http.Transport.ofConfiguration {}
        includesCentral := false
        server }
    let requests : List Request := [⟨"org.example", "lib", ["[1.0,2.0)"], none⟩,
      ⟨"org.example", "lib", ["1.5"], none⟩, ⟨"org.example", "lib", [], none⟩,
      ⟨"org.example", "lib", ["[1.5,)"], none⟩]
    let resolved (requests : List Request) := (session.resolveAll requests (fresh [])).1
    server.Stateless ∧ session.jarDirectory = none ∧
      (resolved requests).map (fun resolution => resolution.outcome.toOption.map (·.coordinate.version)) =
        [some "1.5", some "1.5", none, some "1.5"] ∧
      (session.resolveAll requests (fresh [])).2.requests.length = 3 ∧
      (resolved requests).map (fun resolution => [resolution.view]) =
        requests.map fun request => (resolved [request]).map Resolution.view := by
  intro listing model server session requests resolved
  have stateless : session.server.Stateless := by
    intro earlier earlier' a b _ url auth
    simp only [session, server, url, auth]
  have independent := resolveAll_independent stateless rfl [] requests
  exact ⟨stateless, rfl, by decide +kernel, by decide +kernel, independent.2.1⟩

end Session
end MavenResolution
