import MavenResolution.Proofs.Session.Told

/-! What a computation leaves as it was, whatever the server answers. A relation between states that
holds across every single act of a session holds across all that is composed of such acts. -/
namespace MavenResolution

/-- The relation holds between the state before and the state after. -/
def Keeps {σ α : Type} (relation : σ → σ → Prop) (m : StateM σ α) : Prop :=
  ∀ state, relation state (m state).2

theorem Keeps.of_eq {σ α : Type} {relation : σ → σ → Prop} {m : StateM σ α} {state after : σ} {a : α}
    (keeps : Keeps relation m) (ran : m state = (a, after)) : relation state after := by
  have kept := keeps state
  rwa [ran] at kept

/-- A relation that holds across whatever is composed of parts across which it holds. -/
structure Composes {σ : Type} (relation : σ → σ → Prop) : Prop where
  refl : ∀ state, relation state state
  trans : ∀ {a b c}, relation a b → relation b c → relation a c

namespace Composes

variable {σ : Type} {relation : σ → σ → Prop} (composes : Composes relation)

include composes

theorem pure (a : α) : Keeps relation (Pure.pure a : StateM σ α) := fun state => composes.refl state

theorem bind {m : StateM σ α} {f : α → StateM σ β} (first : Keeps relation m)
    (next : ∀ a, Keeps relation (f a)) : Keeps relation (m >>= f) :=
  fun state => composes.trans (first state) (next (m state).1 (m state).2)

theorem run_bind {m : ExceptT ε (StateM σ) α} {f : α → ExceptT ε (StateM σ) β}
    (first : Keeps relation m.run) (next : ∀ a, Keeps relation (f a).run) :
    Keeps relation (m >>= f).run := by
  change Keeps relation (m.run >>= ExceptT.bindCont f)
  refine composes.bind first fun result => ?_
  cases result with
  | ok a => exact next a
  | error fault => exact composes.pure _

theorem mapM {f : α → StateM σ β} (each : ∀ a, Keeps relation (f a)) (list : List α) :
    Keeps relation (list.mapM f) := by
  induction list with
  | nil => exact composes.pure _
  | cons a rest ih =>
    rw [List.mapM_cons]
    exact composes.bind (each a) fun b => composes.bind ih fun others => composes.pure _

theorem run_mapM {f : α → ExceptT ε (StateM σ) β} (each : ∀ a, Keeps relation (f a).run)
    (list : List α) : Keeps relation (list.mapM f).run := by
  induction list with
  | nil => exact composes.pure _
  | cons a rest ih =>
    rw [List.mapM_cons]
    exact composes.run_bind (each a) fun b => composes.run_bind ih fun others => composes.pure _

theorem compute {κ ν ε : Type} [BEq κ] {region : Region σ κ ν}
    (cached : ∀ cache state, relation state (region.withCache cache state))
    (entered : Keeps relation (modify (region.withEntry region.miss) : StateM σ Unit))
    {fetch : StateM σ (Except ε α)} (fetched : Keeps relation fetch) (key : κ)
    (outcome : α → Option ν) (waiters : Nat) :
    Keeps relation (region.compute key outcome fetch waiters) := by
  refine composes.bind (fun state => cached _ state) fun claim => ?_
  cases claim with
  | known outcome => exact composes.pure _
  | waiting ticket => exact composes.pure _
  | fetching ticket =>
    refine composes.bind entered fun _ => composes.bind fetched fun result => ?_
    cases result with
    | ok found => exact composes.bind (fun state => cached _ state) fun _ => composes.pure _
    | error fault => exact composes.bind (fun state => cached _ state) fun _ => composes.pure _

end Composes

namespace Session

/-- A relation that holds across what a session notes by itself. -/
structure Noting (relation : State → State → Prop) : Prop extends Composes relation where
  noted : ∀ entry : Log.Entry, entry.source ≠ .session → Keeps relation (note entry)

/-- A relation that also holds across all that a session sends. -/
structure Frame (session : Session) (relation : State → State → Prop) : Prop extends
    Noting relation where
  sent : ∀ context request, Keeps relation (session.send context request)

/-- What a chain selects of the versions that are available, with the entries that tell it. -/
def selectFrom (chain : Chain) (entries : Option String → List Log.Entry) (available : List String) :
    Run (Option String) :=
  match chain.select available with
  | .error fault => throw (.numeral fault)
  | .ok selected => do
    noteAll (entries selected)
    return selected

variable {session : Session} {relation : State → State → Prop}

namespace Noting

variable (noting : Noting relation)

include noting

/-! What single repositories are asked. -/

section

variable {repository : Repository} (sent : ∀ uri, Keeps relation
  (session.send Http.defaultContext { method := .head, url := uri, auth := repository.auth }))

include sent

theorem isReachable (uri : String) : Keeps relation (session.isReachable repository uri) := by
  refine noting.bind (sent uri) fun outcome => ?_
  cases outcome <;> exact noting.pure _

theorem answeringForm : Keeps relation (session.answeringForm repository).run := by
  refine noting.run_bind (noting.isReachable sent _) fun secure => ?_
  split
  · exact noting.pure _
  · split
    · exact noting.pure _
    · refine noting.run_bind (noting.isReachable sent _) fun plain => ?_
      split <;> exact noting.pure _

theorem probe : Keeps relation (session.probe repository).run := by
  refine noting.run_bind (noting.answeringForm sent) fun found => ?_
  cases found with
  | none => exact noting.run_bind (noting.noted _ nofun) fun _ => noting.pure _
  | some found => exact noting.run_bind (noting.noted _ nofun) fun _ => noting.pure _

theorem probeOrReport
    (reported : ∀ cause, Keeps relation (session.report (.notNormalized repository cause))) :
    Keeps relation (session.probeOrReport repository) := by
  refine noting.bind (noting.probe sent) fun result => ?_
  cases result with
  | ok found => exact noting.pure _
  | error fault => exact noting.bind (reported _) fun _ => noting.pure _

end

theorem fetchPom {coordinate : ResolvedCoordinate} {repository : Repository}
    (sent : Keeps relation (session.send Http.defaultContext
      { method := .get, url := Layout.pom repository coordinate, auth := repository.auth })) :
    Keeps relation (session.fetchPom coordinate repository) := by
  refine noting.bind sent fun outcome => ?_
  cases outcome with
  | error fault => exact noting.pure _
  | ok response =>
    dsimp only
    split
    · exact noting.bind (noting.noted _ nofun) fun _ => noting.pure _
    · split
      · exact noting.bind (noting.noted _ nofun) fun _ => noting.pure _
      · exact noting.pure _
      · exact noting.pure _

theorem fetchMetadata {coordinate : Coordinate} {repository : Repository}
    (sent : Keeps relation (session.send Http.defaultContext
      { method := .get, url := Layout.metadata repository coordinate, auth := repository.auth }))
    (reported : ∀ cause,
      Keeps relation (session.report (.metadataUnavailable coordinate repository cause))) :
    Keeps relation (session.fetchMetadata coordinate repository).run := by
  refine noting.run_bind sent fun outcome => ?_
  cases outcome with
  | error fault =>
    dsimp only
    split
    · exact noting.run_bind (reported _) fun _ => noting.pure _
    · exact noting.pure _
  | ok response =>
    dsimp only
    split
    · exact noting.run_bind (noting.noted _ nofun) fun _ => noting.pure _
    · split
      · exact noting.pure _
      · exact noting.run_bind (reported _) fun _ => noting.pure _
      · exact noting.pure _

/-! Caches, and what goes through them. -/

theorem normalize
    (cached : ∀ cache (state : State), relation state { state with normalized := cache })
    (probed : ∀ repository, Keeps relation (session.probeOrReport repository))
    (repository : Repository) (containing : Option Pom) :
    Keeps relation (session.normalize repository containing) := by
  unfold Session.normalize
  dsimp only
  split
  · exact noting.pure _
  · have stored : ∀ cache state, relation state (normalizedRegion.withCache cache state) := cached
    have entered : Keeps relation
        (modify (normalizedRegion.withEntry normalizedRegion.miss) : StateM State Unit) :=
      noting.noted _ nofun
    refine noting.bind (noting.compute stored entered (probed _) _ _ _) fun computed => ?_
    split
    exact noting.pure _

theorem searched_of_normalize {containing : Option Pom}
    (normalized : ∀ repository, Keeps relation (session.normalize repository containing))
    (repositories : List Repository) (version : Option String) :
    Keeps relation (session.searched repositories containing version) := by
  refine noting.bind (noting.mapM normalized _) fun forms => ?_
  dsimp only
  split
  · exact noting.bind (normalized _) fun central => noting.pure _
  · exact noting.bind (noting.pure _) fun central => noting.pure _

theorem searched
    (cached : ∀ cache (state : State), relation state { state with normalized := cache })
    (probed : ∀ repository, Keeps relation (session.probeOrReport repository))
    (repositories : List Repository) (containing : Option Pom) (version : Option String) :
    Keeps relation (session.searched repositories containing version) :=
  noting.searched_of_normalize (fun repository => noting.normalize cached probed repository containing)
    repositories version

theorem pomFrom (stored : ∀ cache (state : State), relation state { state with poms := cache })
    {coordinate : ResolvedCoordinate} {repository : Repository}
    (fetched : Keeps relation (session.fetchPom coordinate repository)) :
    Keeps relation (session.pomFrom coordinate repository) := by
  have entered : Keeps relation (modify (pomRegion.withEntry pomRegion.miss) : StateM State Unit) :=
    noting.noted _ nofun
  refine noting.bind (noting.compute stored entered fetched _ _ _) fun computed => ?_
  split <;> exact noting.pure _

/-! Metadata, and the dated version that they tell. -/

theorem ask (stored : ∀ cache (state : State), relation state { state with metadata := cache })
    {coordinate : Coordinate} {repository : Repository}
    (fetched : Keeps relation (session.fetchMetadata coordinate repository).run) :
    Keeps relation (session.ask coordinate repository).run := by
  have entered : Keeps relation
      (modify (metadataRegion.withEntry metadataRegion.miss) : StateM State Unit) :=
    noting.noted _ nofun
  exact noting.bind (noting.compute stored entered fetched _ _ _) fun computed => noting.pure _

theorem metadata_of_searched {coordinate : Coordinate} {repositories : List Repository}
    {containing : Option Pom} (searched : Keeps relation (session.searched repositories containing))
    (asked : ∀ repository, Keeps relation (session.ask coordinate repository).run) :
    Keeps relation (session.metadata coordinate repositories containing).run := by
  rw [metadata_eq]
  split
  · exact noting.pure _
  · refine noting.run_bind (noting.bind searched fun _ => noting.pure _) fun searched => ?_
    exact noting.run_bind (noting.run_mapM asked searched) fun found => noting.pure _

theorem metadata (cached : ∀ cache (state : State), relation state { state with normalized := cache })
    (probed : ∀ repository, Keeps relation (session.probeOrReport repository))
    {coordinate : Coordinate}
    (asked : ∀ repository, Keeps relation (session.ask coordinate repository).run)
    (repositories : List Repository) (containing : Option Pom) :
    Keeps relation (session.metadata coordinate repositories containing).run :=
  noting.metadata_of_searched (noting.searched cached probed repositories containing none) asked

theorem datedVersion {coordinate : Coordinate} {repositories : List Repository}
    {containing : Option Pom}
    (asked : Keeps relation (session.metadata coordinate repositories containing).run) :
    Keeps relation (session.datedVersion coordinate repositories containing).run := by
  unfold Session.datedVersion
  cases coordinate.version with
  | none => exact noting.pure _
  | some version =>
    dsimp only
    split
    · exact noting.pure _
    · cases session.pinnedVersion? coordinate with
      | some dated => exact noting.pure _
      | none => exact noting.run_bind asked fun known => noting.pure _

theorem select {repositories : List Repository}
    (noted : ∀ entries, Keeps relation (noteAll entries))
    (asked : ∀ coordinate, Keeps relation (session.metadata coordinate repositories none).run)
    (added : Declarations.Added) : Keeps relation (session.select added repositories).run := by
  have selects (chain : Chain) (entries : Option String → List Log.Entry) (available : List String) :
      Keeps relation (selectFrom chain entries available).run := by
    unfold selectFrom
    cases chain.select available with
    | error fault => exact noting.pure _
    | ok selected =>
      exact noting.run_bind (noting.bind (noted _) fun _ => noting.pure _) fun _ =>
        noting.pure _
  unfold Session.select
  dsimp only
  split
  · exact noting.run_bind (asked _) fun known =>
      noting.run_bind (noting.pure _) fun available => selects _ _ available
  · exact noting.run_bind (noting.pure _) fun available => selects _ _ available

theorem declare (noted : ∀ entries, Keeps relation (noteAll entries)) (declarations : Declarations)
    (owner : ModuleId) (constraints : List String) :
    Keeps relation (declare declarations owner constraints).run := by
  unfold Session.declare
  cases declarations.chain owner constraints with
  | error fault => exact noting.pure _
  | ok added =>
    exact noting.run_bind (noting.bind (noted _) fun _ => noting.pure _) fun _ => noting.pure _

end Noting

/-! Bodies that are written to files. -/

theorem get_bind_apply (f : State → StateM State α) (state : State) :
    ((get : StateM State State) >>= f) state = f state state := rfl

theorem setFiles_bind_apply (files : Files) (f : Unit → StateM State α) (state : State) :
    (setFiles files >>= f) state = f () { state with files } := rfl

theorem attempt_apply (change : Files → Files) (state : State) : attempt change state =
    match state.files.permit with
    | (some fault, files) => (.error fault, { state with files })
    | (none, files) => (.ok (), { state with files := change files }) := by
  unfold attempt Files.permit
  rw [get_bind_apply]
  cases state.files.refusals.head?.join <;> rfl

theorem moveFile_apply (source target : Location) (state : State) : moveFile source target state =
    match state.files.permit with
    | (some fault, files) => (.error (.stream fault), { state with files })
    | (none, files) => match files.move source target with
      | .error fault => (.error (.file fault), { state with files })
      | .ok moved => (.ok (), { state with files := moved }) := by
  unfold moveFile
  rw [bind_apply, attempt_apply]
  obtain ⟨refused, files⟩ := state.files.permit
  cases refused with
  | some fault => rfl
  | none =>
    dsimp only
    rw [get_bind_apply]
    dsimp only [id]
    cases files.move source target <;> rfl

section

variable (composes : Composes relation)

include composes

section

variable {source target : Location}
  (permitted : ∀ state : State, relation state { state with files := state.files.permit.2 })

include permitted

theorem keeps_attempt {change : Files → Files}
    (changed : ∀ state : State, relation state { state with files := change state.files }) :
    Keeps relation (attempt change) := by
  intro state
  have kept := permitted state
  rw [attempt_apply]
  generalize state.files.permit = permission at kept ⊢
  obtain ⟨refused, files⟩ := permission
  cases refused with
  | some fault => exact kept
  | none => exact composes.trans kept (changed _)

theorem keeps_moveFile (moved : ∀ (state : State) files, state.files.move source target = .ok files →
    relation state { state with files }) : Keeps relation (moveFile source target) := by
  intro state
  have kept := permitted state
  rw [moveFile_apply]
  generalize state.files.permit = permission at kept ⊢
  obtain ⟨refused, files⟩ := permission
  cases refused with
  | some fault => exact kept
  | none =>
    dsimp only
    cases outcome : files.move source target with
    | error fault => exact kept
    | ok after => exact composes.trans kept (moved { state with files } after outcome)

variable (appended : ∀ octets (state : State),
    relation state { state with files := state.files.append source octets })

include appended

theorem keeps_writeChunks (chunks : List Http.Chunk) : Keeps relation (writeChunks source chunks) := by
  fun_induction writeChunks source chunks with
  | case1 => exact composes.pure _
  | case2 => exact composes.pure _
  | case3 rest ih => exact ih
  | case4 octets rest filled ih =>
    refine composes.bind (keeps_attempt composes permitted (appended _)) fun written => ?_
    cases written with
    | error fault => exact composes.pure _
    | ok _ => exact ih

theorem keeps_writeFile (chunks : List Http.Chunk) : Keeps relation (writeFile source chunks) := by
  refine composes.bind (keeps_writeChunks composes permitted appended chunks) fun written => ?_
  refine composes.bind (keeps_attempt composes permitted fun state => composes.refl state) fun closed => ?_
  cases closed <;> exact composes.pure _

theorem keeps_completeFile (moved : ∀ (state : State) files, state.files.move source target = .ok files →
    relation state { state with files }) (chunks : List Http.Chunk) :
    Keeps relation (completeFile source target chunks) := by
  refine composes.bind (keeps_writeFile composes permitted appended chunks) fun written => ?_
  cases written with
  | error fault => exact composes.pure _
  | ok _ => exact keeps_moveFile composes permitted moved

end

variable (filed : ∀ files (state : State), relation state { state with files := files })

include filed

theorem keeps_writeBody (path : Path) (chunks : List Http.Chunk) :
    Keeps relation (writeBody path chunks) := by
  have got : Keeps relation (get : StateM State State) := fun state => composes.refl state
  have set (files : Files) : Keeps relation (setFiles files) := fun state => filed files state
  refine composes.bind got fun before => ?_
  dsimp only
  refine composes.bind (set _) fun _ => ?_
  split
  · exact composes.pure _
  · split
    · exact composes.pure _
    · refine composes.bind (set _) fun _ => ?_
      refine composes.bind (keeps_completeFile composes (fun _ => filed _ _) (fun _ _ => filed _ _)
        (fun _ _ _ => filed _ _) chunks) fun written => ?_
      cases written with
      | error fault => exact composes.bind (fun state => filed _ state) fun _ => composes.pure _
      | ok _ => exact composes.pure _

end

/-- What becomes of a jar once its body is written, or could not be. -/
def concludeJar (session : Session) (coordinate : ResolvedCoordinate) (repository : Repository)
    (path : Path) : Except WriteFault Unit → Run (Option Path)
  | .ok () => do
    note (Log.debug .artifacts "Artifact downloaded"
      [("event", .text "artifact_fetch"), ("component", .text "artifacts"),
        ("action", .text "download_artifact"), ("outcome", .text "downloaded"),
        ("target", .text (Redaction.safeUrl (Layout.jar repository coordinate)))])
    return some path
  | .error fault =>
    match fault.reported? path with
    | some reason => do
      session.report (.jarUnavailable coordinate repository reason)
      return none
    | none => throw (fault.failure path)

namespace Frame

variable (frame : session.Frame relation)

include frame

/-! All requests, whatever they ask. -/

theorem isReachable (repository : Repository) (uri : String) :
    Keeps relation (session.isReachable repository uri) :=
  frame.toNoting.isReachable (fun _ => frame.sent _ _) uri

theorem probe (repository : Repository) : Keeps relation (session.probe repository).run :=
  frame.toNoting.probe fun _ => frame.sent _ _

theorem probeOrReport {repository : Repository}
    (reported : ∀ cause, Keeps relation (session.report (.notNormalized repository cause))) :
    Keeps relation (session.probeOrReport repository) :=
  frame.toNoting.probeOrReport (fun _ => frame.sent _ _) reported

theorem fetchPom (coordinate : ResolvedCoordinate) (repository : Repository) :
    Keeps relation (session.fetchPom coordinate repository) :=
  frame.toNoting.fetchPom (frame.sent _ _)

theorem fetchMetadata {coordinate : Coordinate} {repository : Repository}
    (reported : ∀ cause,
      Keeps relation (session.report (.metadataUnavailable coordinate repository cause))) :
    Keeps relation (session.fetchMetadata coordinate repository).run :=
  frame.toNoting.fetchMetadata (frame.sent _ _) reported

theorem ask (stored : ∀ cache (state : State), relation state { state with metadata := cache })
    (reported : ∀ coordinate repository cause,
      Keeps relation (session.report (.metadataUnavailable coordinate repository cause)))
    (coordinate : Coordinate) (repository : Repository) :
    Keeps relation (session.ask coordinate repository).run :=
  frame.toNoting.ask stored (frame.fetchMetadata (reported coordinate repository))

theorem metadata (cached : ∀ cache (state : State), relation state { state with normalized := cache })
    (stored : ∀ cache (state : State), relation state { state with metadata := cache })
    (probed : ∀ repository, Keeps relation (session.probeOrReport repository))
    (reported : ∀ coordinate repository cause,
      Keeps relation (session.report (.metadataUnavailable coordinate repository cause)))
    (coordinate : Coordinate) (repositories : List Repository) (containing : Option Pom) :
    Keeps relation (session.metadata coordinate repositories containing).run :=
  frame.toNoting.metadata cached probed (frame.ask stored reported coordinate) repositories
    containing

/-! Jars. -/

theorem fetchJar {coordinate : ResolvedCoordinate} {repository : Repository} {path : Path}
    (written : ∀ chunks, Keeps relation (writeBody path chunks))
    (closed : Keeps relation closeResponse)
    (reported : ∀ fault, Keeps relation (session.report (.jarUnavailable coordinate repository fault))) :
    Keeps relation (session.fetchJar coordinate repository path).run := by
  unfold Session.fetchJar
  refine frame.run_bind (frame.sent _ _) fun outcome => ?_
  extract_lets finish
  have finished : ∀ written, Keeps relation (finish written).run := by
    intro written
    dsimp only [finish]
    split
    · exact frame.run_bind (frame.noted _ nofun) fun _ => frame.pure _
    · split
      · exact frame.run_bind (reported _) fun _ => frame.pure _
      · exact frame.pure _
  cases outcome with
  | error fault => exact frame.run_bind (frame.pure _) finished
  | ok response =>
    dsimp only
    split
    · refine frame.run_bind (written response.chunks) fun written => ?_
      refine frame.run_bind closed fun _ => ?_
      exact frame.run_bind (frame.pure _) finished
    · refine frame.run_bind (reported _) fun _ => ?_
      exact frame.run_bind closed fun _ => frame.pure _

theorem jar (cached : ∀ cache (state : State), relation state { state with jars := cache })
    {directory : Path} {coordinate : ResolvedCoordinate} {repository : Repository}
    (fetched : Keeps relation
      (session.fetchJar coordinate repository (Layout.jarPath directory coordinate)).run)
    (type : Option String) : Keeps relation (session.jar directory coordinate repository type).run := by
  unfold Session.jar
  split
  · exact frame.pure _
  · have got : Keeps relation (get : Run State).run := fun state => frame.refl state
    refine frame.run_bind got fun state => ?_
    split
    · exact frame.pure _
    · exact frame.pure _
    · have entered : Keeps relation
          (modify (jarRegion.withEntry jarRegion.miss) : StateM State Unit) := frame.noted _ nofun
      exact frame.bind (frame.compute cached entered fetched _ _ _) fun _ => frame.pure _

end Frame
end Session
end MavenResolution
