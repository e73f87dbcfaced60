import MavenResolution.Session.Download

/-! The jars in the artifact cache directory. A jar is written to a temporary file beside its path and moved there
when it is complete. -/
namespace MavenResolution.Session

/-- What ends the writing of a body: a fault that came in place of a chunk, or with which the system
refused to go on, or the state of the files. -/
inductive WriteFault where
  | stream (fault : Http.Fault)
  | file (fault : Files.Fault)
  deriving DecidableEq, Repr

/-- What a fault counts as that is reported; other faults end everything. -/
def WriteFault.reported? (path : Path) : WriteFault → Option DownloadFault
  | .stream fault =>
    if fault.kind.isRequest || fault.kind = .system then some (.request fault) else none
  | .file fault => if fault.isSystem then some (.file fault path) else none

def WriteFault.failure (path : Path) : WriteFault → Failure
  | .stream fault => .request fault
  | .file fault => .file fault path

def setFiles (files : Files) : StateM State Unit := modify fun state => { state with files }

/-- Does to the files what the system may refuse. -/
def attempt (change : Files → Files) : StateM State (Except Http.Fault Unit) := do
  let (refused, files) := (← get).files.permit
  match refused with
  | some fault =>
    setFiles files
    return .error fault
  | none =>
    setFiles (change files)
    return .ok ()

/-- Puts the chunks of a body into a file, up to the first fault. Empty chunks are not written. -/
def writeChunks (location : Location) :
    List Http.Chunk → StateM State (Except Http.Fault Unit)
  | [] => return .ok ()
  | .error fault :: _ => return .error fault
  | .ok [] :: rest => writeChunks location rest
  | .ok octets :: rest => do
    match ← attempt (·.append location octets) with
    | .error fault => return .error fault
    | .ok () => writeChunks location rest

/-- Puts a body into a file, which is closed then. A fault of the closing hides an earlier one. -/
def writeFile (location : Location) (chunks : List Http.Chunk) :
    StateM State (Except Http.Fault Unit) := do
  let written ← writeChunks location chunks
  match ← attempt id with
  | .error fault => return .error fault
  | .ok () => return written

/-- Moves a file that is complete to its place. -/
def moveFile (source target : Location) : StateM State (Except WriteFault Unit) := do
  match ← attempt id with
  | .error fault => return .error (.stream fault)
  | .ok () =>
    match (← get).files.move source target with
    | .error fault => return .error (.file fault)
    | .ok files =>
      setFiles files
      return .ok ()

/-- Puts a body into a file, and moves that to its place. -/
def completeFile (source target : Location) (chunks : List Http.Chunk) :
    StateM State (Except WriteFault Unit) := do
  match ← writeFile source chunks with
  | .error fault => return .error (.stream fault)
  | .ok () => moveFile source target

/-- Writes a body to a path. Nothing of it stays if it cannot be completed. -/
def writeBody (path : Path) (chunks : List Http.Chunk) : StateM State (Except WriteFault Unit) := do
  let (directory, files) := (← get).files.makeDirectories path.parent
  setFiles files
  match directory with
  | .error fault => return .error (.file fault)
  | .ok directory =>
    match files.beginPart directory path with
    | .error fault => return .error (.file fault)
    | .ok (part, files) =>
      setFiles files
      match ← completeFile part (directory ++ [path.name]) chunks with
      | .error fault =>
        modify fun state => { state with files := state.files.set part none }
        return .error fault
      | .ok () => return .ok ()

/-- The credentials for a jar: those of the last entry that bears the id of the repository, if it has username and
password, or else those of the repository. -/
def jarAuth (session : Session) (repository : Repository) : Option (String × String) :=
  let server := session.credentials.reverse.find? (·.id == repository.id.getD "")
  (server.bind fun server => do return (← server.username, ← server.password)) <|> repository.auth

/-- Fetches the jar of a resolved dependency from the repository of its POM. Failures go to `on_error`. -/
def fetchJar (session : Session) (coordinate : ResolvedCoordinate) (repository : Repository)
    (path : Path) : Run (Option Path) := do
  let url := Layout.jar repository coordinate
  let refuse (fault : DownloadFault) := session.report (.jarUnavailable coordinate repository fault)
  let outcome ← session.send "artifact"
    { method := .get, url, auth := session.jarAuth repository, stream := some true }
  let written ← match outcome with
    | .error fault => pure (Except.error (WriteFault.stream fault))
    | .ok response =>
      if response.isSuccess then
        let written ← writeBody path response.chunks
        closeResponse
        pure written
      else
        refuse (.status response.status)
        closeResponse
        return none
  match written with
  | .ok () =>
    note (Log.debug .artifacts "Artifact downloaded"
      [("event", .text "artifact_fetch"), ("component", .text "artifacts"),
        ("action", .text "download_artifact"), ("outcome", .text "downloaded"),
        ("target", .text (Redaction.safeUrl url))])
    return some path
  | .error fault =>
    match fault.reported? path with
    | some reason =>
      refuse reason
      return none
    | none => throw (fault.failure path)

/-- The local path of the jar of a resolved dependency, if it is available. Other packagings than jars have none. -/
def jar (session : Session) (directory : Path) (coordinate : ResolvedCoordinate)
    (repository : Repository) (type : Option String) : Run (Option Path) := do
  if type.any (· ≠ "jar") then return none
  let path := Layout.jarPath directory coordinate
  match (← get).files.look path with
  | .ok (.file _) => return some path
  | .error .nameTooLong => throw (.file .nameTooLong path)
  | _ =>
    ExceptT.mk (Computed.outcome <$> jarRegion.compute path id
      (session.fetchJar coordinate repository path).run)

end MavenResolution.Session
