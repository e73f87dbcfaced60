import MavenResolution.Text.Quoted

/-! Coordinates: what a module is called, which version of it is meant, and where a version was
found. -/
namespace MavenResolution

/-- A module without its version. -/
structure ModuleId where
  group : String
  artifact : String
  deriving DecidableEq, Repr, Inhabited

def ModuleId.text (id : ModuleId) : String := id.group ++ ":" ++ id.artifact

/-- A coordinate of which parts may still be unknown. -/
structure Coordinate where
  group : Option String
  artifact : Option String
  version : Option String := none
  deriving DecidableEq, Repr, Inhabited

namespace Coordinate

open Text

def ofModule (id : ModuleId) : Coordinate := ⟨some id.group, some id.artifact, none⟩

def moduleId (coordinate : Coordinate) : ModuleId :=
  ⟨coordinate.group.getD "", coordinate.artifact.getD ""⟩

def withVersion (coordinate : Coordinate) (version : Option String) : Coordinate :=
  { coordinate with version }

def text (coordinate : Coordinate) : String :=
  shown coordinate.group ++ ":" ++ shown coordinate.artifact ++ ":" ++ shown coordinate.version

end Coordinate

/-- A complete coordinate with the URL of the repository that it was found in. A snapshot is
published under a dated version. -/
structure ResolvedCoordinate where
  repository : Option String
  group : String
  artifact : String
  version : String
  dated : Option String := none
  deriving DecidableEq, Repr, Inhabited

namespace ResolvedCoordinate

/-- The version that file names bear. -/
def effectiveVersion (coordinate : ResolvedCoordinate) : String :=
  match coordinate.dated with
  | some dated => if dated.isEmpty then coordinate.version else dated
  | none => coordinate.version

def coordinate (resolved : ResolvedCoordinate) : Coordinate :=
  ⟨some resolved.group, some resolved.artifact, some resolved.version⟩

def withDated (coordinate : ResolvedCoordinate) (dated : Option String) : ResolvedCoordinate :=
  { coordinate with dated }

def text (coordinate : ResolvedCoordinate) : String :=
  coordinate.group ++ ":" ++ coordinate.artifact ++ ":" ++ coordinate.effectiveVersion

end ResolvedCoordinate
end MavenResolution
