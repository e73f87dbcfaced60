import MavenResolution.Coordinate
import MavenResolution.Path
import MavenResolution.Repository.Basic

/-! Where the files of a module lie: in a repository, and in a directory of jars. -/
namespace MavenResolution.Layout

open Text

/-- A group as the directories that stand for it. -/
def groupPath (group : String) : String := group.map fun c => if c = '.' then '/' else c

/-- The URL of the metadata of a module, or of one version of it. -/
def metadata (repository : Repository) (coordinate : Coordinate) : String :=
  let version := (coordinate.version.filter (!·.isEmpty)).map (· ++ "/")
  repository.root ++ "/" ++ groupPath (coordinate.group.getD "") ++ "/" ++
    shown coordinate.artifact ++ "/" ++ version.getD "" ++ "maven-metadata.xml"

def fileName (coordinate : ResolvedCoordinate) (kind : String) : String :=
  coordinate.artifact ++ "-" ++ coordinate.effectiveVersion ++ "." ++ kind

/-- The URL of a file of a version. -/
def file (repository : Repository) (coordinate : ResolvedCoordinate) (kind : String) : String :=
  repository.root ++ "/" ++ groupPath coordinate.group ++ "/" ++ coordinate.artifact ++ "/" ++
    coordinate.version ++ "/" ++ fileName coordinate kind

def pom (repository : Repository) (coordinate : ResolvedCoordinate) : String :=
  file repository coordinate "pom"

def jar (repository : Repository) (coordinate : ResolvedCoordinate) : String :=
  file repository coordinate "jar"

/-- The path of a jar in a directory. -/
def jarPath (directory : Path) (coordinate : ResolvedCoordinate) : Path :=
  let group := (pieces '.' coordinate.group.toList).map String.ofList
  (directory.joinAll group).joinAll
    [coordinate.artifact, coordinate.version, fileName coordinate "jar"]

end MavenResolution.Layout
