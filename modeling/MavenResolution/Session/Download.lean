import MavenResolution.Session.Metadata

/-! Download of POMs: project POMs before any repository, and the repositories in order, up to the first that serves
the POM. -/
namespace MavenResolution

/-- A downloaded POM, or why there is none, and the failures of the repositories before it. -/
structure Download where
  outcome : Except Failure Pom
  faults : DownloadFaults := []

namespace Session

/-- The path that the relative path of a parent leads to from the containing POM. -/
def referredPath (containing : Pom) (relativePath : String) : Option Path :=
  match containing.sourcePath, Text.strip? relativePath with
  | some path, some _ => some ((path.parent.join relativePath).join "pom.xml")
  | _, _ => none

/-- The project POM of a coordinate: by its coordinate, or at the relative path from the containing POM, if it is
for that coordinate. -/
def State.ownPom? (state : State) (coordinate : Coordinate) (relativePath : Option String)
    (containing : Option Pom) : Option Pom :=
  (state.projectPoms.find? fun (_, pom) => pom.isFor coordinate).map (·.2) <|> do
    let pom ← state.projectPom? (← referredPath (← containing) (← relativePath))
    guard (pom.isFor coordinate)
    return pom

/-- Fetches a POM from one repository. -/
def fetchPom (session : Session) (coordinate : ResolvedCoordinate) (repository : Repository) :
    StateM State (Except Failure (Except DownloadFault Pom)) := do
  let url := Layout.pom repository coordinate
  let entry (message outcome : String) (status : Option Nat) := Log.debug .download message
    (Log.present [("event", some (.text "pom_fetch")), ("component", some (.text "downloader")),
      ("action", some (.text "download")), ("outcome", some (.text outcome)),
      ("status_code", status.map .number), ("target", some (.text (Redaction.safeUrl url)))])
  match ← session.send Http.defaultContext { method := .get, url, auth := repository.auth } with
  | .error fault => return .error (.request fault)
  | .ok response =>
    if !response.isSuccess then
      note (entry "POM unavailable" "unavailable" (some response.status))
      return .ok (.error (.status response.status))
    match Pom.read (.octets response.content) none (some repository) session.xml with
    | .ok pom =>
      note (entry "POM downloaded" "downloaded" none)
      return .ok (.ok { pom with coordinate })
    | .error (.document (.unknownEncoding name)) =>
      return .error (.document (.unknownEncoding name))
    | .error fault => return .ok (.error (.unreadable fault))

/-- The POM from one repository, through the region of POMs. A failed request is no confirmed absence. -/
def pomFrom (session : Session) (coordinate : ResolvedCoordinate) (repository : Repository) :
    StateM State (Except Failure (Except DownloadFault Pom)) := do
  match ← pomRegion.compute coordinate Except.toOption (session.fetchPom coordinate repository) with
  | .known (some pom) => return .ok (.ok pom)
  | .known none => return .ok (.error .knownAbsent)
  | .fetched (.error (.request fault)) =>
    return if fault.kind.isRequest then .ok (.error (.request fault)) else .error (.request fault)
  | .fetched result => return result

/-- Tries the normalized repositories in order, after others have failed. -/
def downloadFrom (session : Session) (coordinate : ResolvedCoordinate) (faults : DownloadFaults) :
    List Repository → StateM State Download
  | [] => return ⟨.error (.pomUnavailable coordinate.coordinate faults), faults⟩
  | repository :: rest => do
    match ← session.pomFrom { coordinate with repository := some repository.uri } repository with
    | .ok (.ok pom) => return ⟨.ok pom, faults⟩
    | .ok (.error fault) =>
      session.downloadFrom coordinate (faults ++ [(repository, fault)]) rest
    | .error failure => return ⟨.error failure, faults⟩

/-- The coordinate of a version that is complete. -/
def complete? (coordinate : Coordinate) : Option ResolvedCoordinate := do
  let group ← coordinate.group.filter (!·.isEmpty)
  let artifact ← coordinate.artifact.filter (!·.isEmpty)
  let version ← coordinate.version.filter (!·.isEmpty)
  return { repository := none, group, artifact, version }

/-- Downloads the POM of a coordinate. A snapshot gets its dated version first. -/
def download (session : Session) (coordinate : Coordinate) (relativePath : Option String := none)
    (containing : Option Pom := none) (repositories : List Repository := []) :
    StateM State Download := do
  match complete? coordinate with
  | none => return { outcome := .error (.missingCoordinate coordinate) }
  | some complete =>
    match ← (session.datedVersion coordinate repositories containing).run with
    | .error failure => return { outcome := .error failure }
    | .ok dated =>
      match (← get).ownPom? coordinate relativePath containing with
      | some pom => return { outcome := .ok pom }
      | none =>
        let searched ← session.searched repositories containing (some complete.version)
        let dated := dated.filter fun dated => !dated.isEmpty && dated != complete.version
        session.downloadFrom { complete with dated } [] searched

end Session
end MavenResolution
