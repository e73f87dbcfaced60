import MavenResolution.Snapshot
import MavenResolution.Xml.Document
import MavenResolution.Xml.Lookup

/-! Metadata: the published versions of a module in one repository, and merged metadata of several. -/
namespace MavenResolution

/-- The `snapshot` of metadata: timestamp and build number. -/
structure SnapshotStamp where
  timestamp : String
  buildNumber : String
  deriving DecidableEq, Repr

/-- The dated version that stands for a snapshot. -/
def SnapshotStamp.dated (stamp : SnapshotStamp) (version : String) : String :=
  Snapshot.base version ++ stamp.timestamp ++ "-" ++ stamp.buildNumber

structure SnapshotVersion where
  extension : Option String
  classifier : Option String
  value : String
  updated : Option String := none
  deriving DecidableEq, Repr

structure Metadata where
  versions : List String := []
  snapshot : Option SnapshotStamp := none
  snapshotVersions : List SnapshotVersion := []
  latest : Option String := none
  release : Option String := none
  lastUpdated : Option String := none
  deriving DecidableEq, Repr

namespace Metadata

open Xml

def snapshotOf (element : Element) : Option SnapshotStamp := do
  return ⟨← element.childText? "timestamp", ← element.childText? "buildNumber"⟩

def snapshotVersionOf (element : Element) : Option SnapshotVersion := do
  return { extension := element.childText? "extension"
           classifier := element.childText? "classifier"
           value := ← element.childText? "value"
           updated := element.childText? "updated" }

def ofVersioning (element : Element) : Metadata :=
  { versions := (element.entries "versions" "version").filterMap Element.content?
    snapshot := (element.child? "snapshot").bind snapshotOf
    snapshotVersions :=
      (element.entries "snapshotVersions" "snapshotVersion").filterMap snapshotVersionOf
    latest := element.childText? "latest"
    release := element.childText? "release"
    lastUpdated := element.childText? "lastUpdated" }

/-- The metadata in a document. Tags are looked up without a namespace. -/
def ofElement (root : Element) : Metadata :=
  ((root.child? "versioning").map ofVersioning).getD {}

def read (document : Document) (reader : Reader := Document.read) : Except Fault Metadata := do
  return ofElement (← reader document)

/-- Merged metadata. The `latest` and `release` of a single repository are not merged with those of another one. -/
def merge (a b : Metadata) : Metadata :=
  { versions := a.versions ++ b.versions
    snapshot := a.snapshot <|> b.snapshot
    snapshotVersions := a.snapshotVersions ++ b.snapshotVersions }

/-- Metadata merged so far; `none` is the empty metadata, the unit of merging, which is not the same as metadata
without versions. -/
abbrev Known := Option Metadata

namespace Known

/-- Merging with the empty metadata as unit. -/
def merge : Known → Known → Known
  | known, none => known
  | none, known => known
  | some a, some b => some (a.merge b)

def metadata (known : Known) : Metadata := known.getD {}

end Known
end Metadata
end MavenResolution
