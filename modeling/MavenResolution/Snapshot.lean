/-! Snapshots: versions that are still being worked on. -/
namespace MavenResolution.Snapshot

def suffix : String := "-SNAPSHOT"

/-- The version ends like a snapshot. -/
def isSnapshot (version : String) : Bool := suffix.toList.isSuffixOf version.toList

/-- What dated versions of a snapshot begin with: the version up to the last word of it. -/
def base (version : String) : String :=
  String.ofList (version.toList.take (version.toList.length - "SNAPSHOT".length))

end MavenResolution.Snapshot
