import MavenResolution.Proofs.Session.ParallelDownload

/-! Alike sessions fetch jars and resolve requests side by side. -/
namespace MavenResolution.Session

variable {change : UserChange} {session session' : Session}

/-! What is done alike in any session. -/

theorem parallel_attempt (change' : Files → Files) :
    Parallel change session session' Eq (attempt change') (attempt change') := by
  refine parallel_files (fun state state' same => by rw [same]) fun state => ?_
  dsimp only
  split <;> exact (parallel_setFiles _).bind_same fun _ => .pure rfl

theorem parallel_writeChunks (location : Location) (chunks : List Http.Chunk) :
    Parallel change session session' Eq (writeChunks location chunks) (writeChunks location chunks) := by
  fun_induction writeChunks location chunks with
  | case1 => exact .pure rfl
  | case2 => exact .pure rfl
  | case3 rest ih => exact ih
  | case4 octets rest filled ih =>
    refine (parallel_attempt _).bind_same fun written => ?_
    cases written with
    | error fault => exact .pure rfl
    | ok _ => exact ih

theorem parallel_completeFile (source target : Location) (chunks : List Http.Chunk) :
    Parallel change session session' Eq (completeFile source target chunks) (completeFile source target chunks) := by
  have written : Parallel change session session' Eq (writeFile source chunks) (writeFile source chunks) := by
    refine (parallel_writeChunks _ chunks).bind_same fun written => ?_
    refine (parallel_attempt _).bind_same fun closed => ?_
    cases closed <;> exact .pure rfl
  refine written.bind_same fun written => ?_
  cases written with
  | error fault => exact .pure rfl
  | ok _ =>
    refine (parallel_attempt _).bind_same fun granted => ?_
    cases granted with
    | error fault => exact .pure rfl
    | ok _ =>
      refine parallel_files (fun state state' same => by rw [same]) fun state => ?_
      split
      · exact .pure rfl
      · exact (parallel_setFiles _).bind_same fun _ => .pure rfl

theorem parallel_writeBody (path : Path) (chunks : List Http.Chunk) :
    Parallel change session session' Eq (writeBody path chunks) (writeBody path chunks) := by
  refine parallel_files (fun state state' same => by rw [same]) fun state => ?_
  dsimp only
  refine (parallel_setFiles _).bind_same fun _ => ?_
  split
  · exact .pure rfl
  · split
    · exact .pure rfl
    · rename_i part files begun
      refine (parallel_setFiles _).bind_same fun _ => ?_
      refine (parallel_completeFile _ _ chunks).bind_same fun written => ?_
      cases written with
      | error fault =>
        have dropped : Parallel change session session' Eq
            (modify fun state => { state with files := state.files.set part none } : StateM State PUnit)
            (modify fun state => { state with files := state.files.set part none }) :=
          parallel_modify (fun _ => rfl) (fun _ => rfl) fun _ _ states =>
            { states with files := by rw [states.files] }
        exact dropped.bind_same fun _ => .pure rfl
      | ok _ => exact .pure rfl

theorem parallel_declare (declarations : Declarations) (owner : ModuleId) (constraints : List String) :
    Parallel change session session' Eq (declare declarations owner constraints).run
      (declare declarations owner constraints).run := by
  unfold declare
  cases declarations.chain owner constraints with
  | error fault => exact .pure rfl
  | ok added =>
    have noted : Parallel change session session' (ExceptRel Eq Eq)
        (do noteAll (added.faults.map (·.entry (some owner))); return added : Run _).run
        (do noteAll (added.faults.map (·.entry (some owner))); return added : Run _).run :=
      (parallel_noteAll _).run_lift.run_bind_same fun _ => .pure (.ok rfl)
    exact noted.mono fun _ _ => exceptRel_eq_iff.mp

theorem jar_continues (session : Session) (directory : Path) (coordinate : ResolvedCoordinate)
    (repository : Repository) (type : Option String) :
    Keeps Continues (session.jar directory coordinate repository type).run := by
  have frame := session.frame_continues
  have written (path : Path) (chunks : List Http.Chunk) : Keeps Continues (writeBody path chunks) :=
    fun state => .of_same (sendsNothing_writeBody path chunks state)
  refine frame.jar (fun _ _ => .of_same rfl) ?_ type
  exact frame.fetchJar (written _) (fun _ => .of_same rfl) fun _ => session.report_sent _

/-- What becomes of a request that fails. -/
def giveUp (request : Request) (mode : Option Mode) (declarations : Declarations) (failure : Failure) :
    StateM State (Resolution × Declarations) := do
  note (Log.warning .resolution
    ("Unable to resolve " ++ request.identifier ++ ": " ++ failure.message))
  return ({ request, mode, outcome := .error failure }, declarations)

/-- What becomes of a request whose constraints are declared. -/
def concludeResolution (request : Request) (mode : Mode) (declarations : Declarations) :
    Except Failure Resolved → StateM State (Resolution × Declarations)
  | .error failure => giveUp request (some mode) declarations failure
  | .ok resolved => return ({ request, mode := some mode, outcome := .ok resolved }, declarations)

theorem parallel_giveUp (request : Request) (mode : Option Mode) (declarations : Declarations)
    {failure failure' : Failure} (failures : failure.Alike change failure') :
    Parallel change session session' (fun resolved resolved' => resolved.2 = resolved'.2)
      (giveUp request mode declarations failure) (giveUp request mode declarations failure') :=
  (parallel_note (.of_failures _ _ failures)).bind_same fun _ => .pure rfl

variable (sessions : session.Alike change session')

include sessions

section

variable {coordinate coordinate' : ResolvedCoordinate} (coordinates : coordinate.Alike change coordinate')
  {repository repository' : Repository} (repositories : repository.Alike change repository')

include coordinates repositories

theorem parallel_concludeJar (path : Path) (written : Except WriteFault Unit) :
    Parallel change session session' (ExceptRel (Failure.Alike change) Eq)
      (session.concludeJar coordinate repository path written).run
      (session'.concludeJar coordinate' repository' path written).run := by
  have same : Redaction.safeUrl (Layout.jar repository coordinate) =
      Redaction.safeUrl (Layout.jar repository' coordinate') :=
    Layout.safeUrl_file_eq repositories coordinates "jar"
  cases written with
  | ok _ =>
    rw [concludeJar, concludeJar, same]
    exact (parallel_note (.same _)).run_lift.run_bind_same fun _ => .pure (.ok rfl)
  | error fault =>
    rw [concludeJar, concludeJar]
    cases fault.reported? path with
    | none => exact .pure (.error (.same _))
    | some reason =>
      have failures := Failure.Alike.jarUnavailable reason coordinates repositories
      exact (parallel_report sessions failures).run_lift.run_bind_same fun _ => .pure (.ok rfl)

theorem parallel_fetchJar (path : Path) :
    Parallel change session session' (ExceptRel (Failure.Alike change) Eq)
      (session.fetchJar coordinate repository path).run
      (session'.fetchJar coordinate' repository' path).run := by
  have shown : Http.Request.ShownAlike (session.jarRequest coordinate repository)
      (session'.jarRequest coordinate' repository') :=
    ⟨rfl, Layout.safeUrl_file_eq repositories coordinates "jar"⟩
  have concluded (written : Except WriteFault Unit) : Parallel change session session'
      (ExceptRel (Failure.Alike change) Eq)
      (pure written >>= session.concludeJar coordinate repository path).run
      (pure written >>= session'.concludeJar coordinate' repository' path).run :=
    parallel_concludeJar sessions coordinates repositories path written
  refine (parallel_send sessions _ shown).run_lift.run_bind_same fun outcome => ?_
  cases outcome with
  | error fault => exact concluded (.error (.stream fault))
  | ok response =>
    dsimp only
    split
    · refine (parallel_writeBody path response.chunks).run_lift.run_bind_same fun written => ?_
      exact parallel_closeResponse.run_lift.run_bind_same fun _ => concluded written
    · have failures := Failure.Alike.jarUnavailable (.status response.status) coordinates repositories
      refine (parallel_report sessions failures).run_lift.run_bind_same fun _ => ?_
      exact parallel_closeResponse.run_lift.run_bind_same fun _ => .pure (.ok rfl)

theorem parallel_jar (directory : Path) (type : Option String) :
    Parallel change session session' (ExceptRel (Failure.Alike change) Eq)
      (session.jar directory coordinate repository type).run
      (session'.jar directory coordinate' repository' type).run := by
  have fetched (path : Path) := parallel_outcome (jarRegion_alike change) (rfl : path = path)
    (parallel_fetchJar sessions coordinates repositories path)
  unfold jar
  split
  · exact .pure (.ok rfl)
  · have composes := composes_sent fun _ => True
    have got : Parallel change session session' (ExceptRel (Failure.Alike change) (State.Alike change))
        (get : Run State).run (get : Run State).run := parallel_get.run_lift
    dsimp only
    rw [coordinates.jarPath_eq]
    refine got.run_bind ?_ ?_ fun state state' states => ?_
    · intro state
      split
      · exact composes.pure _
      · exact composes.pure _
      · exact (fetched _).continues
    · intro state
      split
      · exact composes.pure _
      · exact composes.pure _
      · exact (fetched _).continues'
    · rw [states.files]
      split
      · exact .pure (.ok rfl)
      · exact .pure (.error (.same _))
      · exact fetched _

end

/-! Resolution. -/

theorem parallel_select (added : Declarations.Added) :
    Parallel change session session' (ExceptRel (Failure.Alike change) Eq)
      (session.select added session.repositories).run
      (session'.select added session'.repositories).run := by
  have selects (chain : Chain) (entries : Option String → List Log.Entry) (available : List String) :
      Parallel change session session' (ExceptRel (Failure.Alike change) Eq)
        (selectFrom chain entries available).run
        (selectFrom chain entries available).run := by
    unfold selectFrom
    cases chain.select available with
    | error fault => exact .pure (.error (.same _))
    | ok selected => exact (parallel_noteAll _).run_lift.run_bind_same fun _ => .pure (.ok rfl)
  unfold select
  dsimp only
  split
  · refine (parallel_metadata sessions .none sessions.repositories _).run_bind_same fun known => ?_
    exact Parallel.run_bind_same (.pure (.ok rfl)) fun available => selects _ _ available
  · exact Parallel.run_bind_same (.pure (.ok rfl)) fun available => selects _ _ available

theorem parallel_resolveDeclared (request : Request) (added : Declarations.Added) :
    Parallel change session session' (ExceptRel (Failure.Alike change) fun _ _ => True)
      (session.resolveDeclared request added session.repositories).run
      (session'.resolveDeclared request added session'.repositories).run := by
  have composes := composes_sent fun _ => True
  unfold resolveDeclared
  refine (parallel_select sessions added).run_bind_same fun selected => ?_
  cases selected with
  | none => exact .pure (.error (.same _))
  | some version =>
    dsimp only
    have downloaded := (parallel_download sessions .none sessions.repositories
      ((Coordinate.ofModule request.moduleId).withVersion (some version)) none).mono
      fun _ _ => DownloadAlike.outcome
    refine (Parallel.map downloaded).run_bind ?_ ?_ fun pom pom' poms => ?_
    · intro pom
      split
      · exact composes.run_bind (session.jar_continues _ _ _ _) fun _ => composes.pure _
      · exact composes.run_bind (composes.pure _) fun _ => composes.pure _
    · intro pom
      split
      · exact composes.run_bind (session'.jar_continues _ _ _ _) fun _ => composes.pure _
      · exact composes.run_bind (composes.pure _) fun _ => composes.pure _
    · have places := poms.repository
      rw [sessions.jarDirectory]
      generalize pom.repository = place at places ⊢
      generalize pom'.repository = place' at places ⊢
      cases session'.jarDirectory with
      | none => exact Parallel.run_bind_same (.pure (.ok rfl)) fun _ => .pure (.ok trivial)
      | some directory =>
        cases places with
        | none => exact Parallel.run_bind_same (.pure (.ok rfl)) fun _ => .pure (.ok trivial)
        | some repositories =>
          exact (parallel_jar sessions poms.coordinate repositories directory request.type).run_bind_same
            fun _ => .pure (.ok trivial)

/-- A request leaves the same declarations behind. -/
theorem parallel_resolveOne (declarations : Declarations) (request : Request) :
    Parallel change session session' (fun resolved resolved' => resolved.2 = resolved'.2)
      (session.resolveOne declarations request) (session'.resolveOne declarations request) := by
  have composes := composes_sent fun _ => True
  have concluded (mode : Mode) (declarations : Declarations) (result : Except Failure Resolved) :
      Keeps Continues (concludeResolution request mode declarations result) := by
    cases result with
    | error failure => exact composes.bind (fun _ => .of_same rfl) fun _ => composes.pure _
    | ok resolved => exact composes.pure _
  unfold resolveOne
  refine (parallel_declare declarations request.moduleId request.constraints).bind_same fun result => ?_
  cases result with
  | error failure => exact parallel_giveUp request none declarations (.same failure)
  | ok added =>
    let mode := (added.declarations.chainOf added.handle).mode
    refine (parallel_resolveDeclared sessions request added).bind (concluded mode added.declarations)
      (concluded mode added.declarations) fun result result' results => ?_
    cases results with
    | error failures => exact parallel_giveUp request (some mode) added.declarations failures
    | ok _ => exact .pure rfl

theorem parallel_resolveAllFrom (declarations : Declarations) (requests : List Request) :
    Parallel change session session' (fun _ _ => True) (session.resolveAllFrom declarations requests)
      (session'.resolveAllFrom declarations requests) := by
  have composes := composes_sent fun _ => True
  induction requests generalizing declarations with
  | nil => exact .pure trivial
  | cons request rest ih =>
    rw [resolveAllFrom, resolveAllFrom]
    refine (parallel_resolveOne sessions declarations request).bind ?_ ?_ fun resolved resolved' same => ?_
    · intro resolved
      exact composes.bind (ih resolved.2).continues fun _ => composes.pure _
    · intro resolved
      exact composes.bind (ih resolved.2).continues' fun _ => composes.pure _
    · obtain ⟨resolution, declared⟩ := resolved
      obtain ⟨resolution', declared'⟩ := resolved'
      obtain rfl : declared = declared' := same
      exact (ih declared).bind (fun _ => composes.pure _) (fun _ => composes.pure _)
        fun _ _ _ => .pure trivial

end MavenResolution.Session
