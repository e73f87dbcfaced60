import MavenResolution.Layout
import MavenResolution.Session.Normalization

/-! Download of `maven-metadata.xml` from all repositories, merged, and the dated versions of snapshots. -/
namespace MavenResolution.Session

/-- The metadata of one repository. Metadata that cannot be parsed go to `on_error` and count as none. -/
def fetchMetadata (session : Session) (coordinate : Coordinate) (repository : Repository) :
    Run (Option Metadata) := do
  let url := Layout.metadata repository coordinate
  match ← session.send Http.defaultContext { method := .get, url, auth := repository.auth } with
  | .error fault =>
    if fault.kind.isRequest then
      session.report (.metadataUnavailable coordinate repository fault.message)
      return none
    else throw (.request fault)
  | .ok response =>
    if response.status ≠ 200 then
      note (Log.debug .download "Metadata unavailable"
        [("event", .text "metadata_fetch"), ("component", .text "downloader"),
          ("action", .text "download_metadata"), ("outcome", .text "unavailable"),
          ("status_code", .number response.status), ("target", .text (Redaction.safeUrl url))])
      return none
    match Metadata.read (.octets response.content) session.xml with
    | .ok metadata => return some metadata
    | .error .malformed =>
      session.report (.metadataUnavailable coordinate repository
        ("unparseable metadata: " ++ Xml.Fault.malformed.message))
      return none
    | .error fault => throw (.document fault)

/-- The merged metadata of every reachable repository for a module, or for one version of it. -/
def metadata (session : Session) (coordinate : Coordinate) (repositories : List Repository)
    (containing : Option Pom := none) : Run Metadata.Known := do
  if (coordinate.group.getD "").isEmpty then throw (.missingGroup coordinate)
  let searched ← session.searched repositories containing
  let found ← searched.mapM fun repository =>
    ExceptT.mk (Computed.outcome <$> metadataRegion.compute (repository.uri, coordinate) id
      (session.fetchMetadata coordinate repository).run)
  return found.foldl Metadata.Known.merge none

/-- The dated version that a pinned snapshot version gives a snapshot. -/
def pinnedVersion? (session : Session) (coordinate : Coordinate) : Option String :=
  session.pinned.findSome? fun pinned =>
    if pinned.coordinate = coordinate then pinned.dated else none

/-- The dated version that a snapshot is published under: the pinned one, or the one in the metadata, if any. -/
def datedVersion (session : Session) (coordinate : Coordinate) (repositories : List Repository)
    (containing : Option Pom := none) : Run (Option String) := do
  match coordinate.version with
  | none => return none
  | some version =>
    if !Snapshot.isSnapshot version then return some version
    match session.pinnedVersion? coordinate with
    | some dated => return some dated
    | none =>
      let known ← session.metadata coordinate repositories containing
      return some ((known.metadata.snapshot.map (SnapshotStamp.dated · version)).getD version)

end MavenResolution.Session
