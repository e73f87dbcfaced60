import MavenResolution.Coordinate
import MavenResolution.Entries
import MavenResolution.Path
import MavenResolution.Repository.Basic
import MavenResolution.Text.Placeholder
import MavenResolution.Xml.Document
import MavenResolution.Xml.Lookup

/-! POMs: coordinate, parent, properties, dependencies and repositories, and the expansion of placeholders. -/
namespace MavenResolution

structure Dependency where
  coordinate : Coordinate
  scope : Option String := none
  type : Option String := none
  classifier : Option String := none
  optional : Bool := false
  deriving DecidableEq, Repr

/-- A POM with the repository that served it, or the path of a project POM. -/
structure Pom where
  coordinate : ResolvedCoordinate
  parent : Option Coordinate := none
  packaging : String := "jar"
  /-- Names and values, in the order in which the names came up first. -/
  properties : List (String × String) := []
  dependencies : List Dependency := []
  repositories : List Repository := []
  sourcePath : Option Path := none
  repository : Option Repository := none
  deriving DecidableEq, Repr

namespace Pom

open Text Xml

inductive Fault where
  | document (fault : Xml.Fault)
  | noArtifact
  deriving DecidableEq, Repr

def Fault.message : Fault → String
  | .document fault => fault.message
  | .noArtifact => "POM has no artifactId"

def coordinateOf (element : Element) : Coordinate :=
  ⟨element.childText? "groupId", element.childText? "artifactId", element.childText? "version"⟩

def propertiesOf (element : Element) : List (String × String) :=
  Entries.putAll [] (element.children.map fun child =>
    (String.ofList child.name.base, strip (String.ofList child.text)))

def dependencyOf (element : Element) : Dependency :=
  { coordinate := coordinateOf element
    scope := element.childText? "scope"
    type := element.childText? "type"
    classifier := element.childText? "classifier"
    optional := ((element.childText? "optional").map Element.isTrue).getD false }

/-- Releases or snapshots are enabled, unless the repository disables them. -/
def isEnabled (element : Element) (kind : String) : Bool :=
  (((element.child? kind).bind (·.childText? "enabled")).map Element.isTrue).getD true

/-- A repository of a POM, if it has a URL. -/
def repositoryOf (element : Element) : Option Repository :=
  (element.childText? "url").map fun uri =>
    { id := element.childText? "id", uri, releases := isEnabled element "releases",
      snapshots := isEnabled element "snapshots" }

/-- The POM in a document, whatever its namespace. Group and version may be inherited from the parent. -/
def ofElement (root : Element) (sourcePath : Option Path) (repository : Option Repository) :
    Except Fault Pom :=
  let root := root.withoutSpaces
  let parent := (root.child? "parent").map coordinateOf
  match root.childText? "artifactId" with
  | none => .error .noArtifact
  | some artifact =>
    .ok
      { coordinate :=
          { repository := repository.map (·.uri)
            group := (root.childText? "groupId" <|> parent.bind (·.group)).getD ""
            artifact
            version := (root.childText? "version" <|> parent.bind (·.version)).getD "" }
        parent
        packaging := (root.childText? "packaging").getD "jar"
        properties := ((root.child? "properties").map propertiesOf).getD []
        dependencies := (root.entries "dependencies" "dependency").map dependencyOf
        repositories := (root.entries "repositories" "repository").filterMap repositoryOf
        sourcePath
        repository }

def read (document : Document) (sourcePath : Option Path) (repository : Option Repository)
    (reader : Reader := Document.read) : Except Fault Pom :=
  match reader document with
  | .ok root => ofElement root sourcePath repository
  | .error fault => .error (.document fault)

/-- The properties `project.groupId` and so on, which need no declaration. -/
def builtIn? (pom : Pom) (name : String) : Option String :=
  match name with
  | "project.groupId" => some pom.coordinate.group
  | "project.artifactId" => some pom.coordinate.artifact
  | "project.version" => some pom.coordinate.version
  | "pom.groupId" => some pom.coordinate.group
  | "pom.artifactId" => some pom.coordinate.artifact
  | "pom.version" => some pom.coordinate.version
  | "project.parent.groupId" => pom.parent.bind (·.group)
  | "project.parent.version" => pom.parent.bind (·.version)
  | _ => none

/-- The value of a property; what the POM declares goes first. -/
def lookup? (pom : Pom) (name : String) : Option String :=
  pom.properties.lookup name <|> pom.builtIn? name

/-- How many passes expand the placeholders in the values of placeholders. -/
def expansionPasses : Nat := 10

/-- A text with its placeholders replaced; unknown names stay as they are. -/
def value (pom : Pom) (text : String) : String :=
  String.ofList (Placeholder.expandUpTo "$\x7b".toList
    (fun name => (pom.lookup? (String.ofList name)).map String.toList) expansionPasses text.toList)

/-- The POM has the coordinate. -/
def isFor (pom : Pom) (coordinate : Coordinate) : Bool :=
  pom.coordinate.coordinate == coordinate

end Pom
end MavenResolution
