import MavenResolution.Configuration.Basic
import MavenResolution.Files
import MavenResolution.Text.Utf8
import MavenResolution.Yaml.Document

/-! Finding and reading the document with the settings. -/
namespace MavenResolution.Configuration

open Text Yaml

/-- Where documents are looked for: the one that a variable names, the working directory, and the
home directory. -/
structure Places where
  named : Option String := none
  working : String
  home : String
  deriving DecidableEq, Repr

def given (path : Option String) : Option String := path.filter (!·.isEmpty)

/-- The paths where a document may lie, in the order in which they are tried. A path that is asked
for is the only one. -/
def candidates (places : Places) (path : Option String) : List String :=
  match given path with
  | some path => [path]
  | none =>
    (given places.named).toList ++
      [places.working ++ "/gavresolve.yml", places.home ++ "/.config/gavresolve/config.yml"]

/-- The last piece of a path is no name: what lies there can only be a directory. -/
def namesDirectory (path : String) : Bool :=
  match (pieces '/' path.toList).getLast? with
  | some piece => piece.isEmpty || piece == ['.']
  | none => true

def isDocument (files : Files) (path : String) : Bool :=
  !namesDirectory path && files.isFile (Path.ofText path)

inductive LoadFault where
  | file (fault : Files.Fault)
  | notText
  | document (fault : Yaml.Fault)
  | value (fault : ConversionFault)
  deriving DecidableEq, Repr

section

variable {α : Type} [Object α]

/-- The document at a path. One that is no mapping has no entries; one that says nothing is an
empty mapping. -/
def readDocument (safeLoad : Reader α) (files : Files) (path : String) :
    Except LoadFault (List (Data α × Data α) × List Log.Entry) := do
  let octets ← (files.read (Path.ofText path)).mapError .file
  let some text := Utf8.decode? octets | throw .notText
  let value ← (safeLoad text).mapError .document
  let loaded := Log.debug .configuration ("Loaded config from " ++ path)
  match value with
  | .mapping entries => return (entries, [loaded])
  | value =>
    if value.isVoid then return ([], [loaded])
    else return ([], [Log.warning .configuration
      ("Ignoring config " ++ path ++ ": top level is not a mapping")])

/-- What loading gives: the entries of the document or the fault that ended it, the configuration,
and what the log says. -/
structure Loaded (α : Type) where
  entries : Except LoadFault (List (Data α × Data α))
  configuration : Configuration
  log : List Log.Entry

/-- Reads the first document there is and changes the settings that it has values for. -/
def loadWith (safeLoad : Reader α) (configuration : Configuration) (files : Files) (places : Places)
    (path : Option String) : Loaded α :=
  match (candidates places path).find? (isDocument files) with
  | none => ⟨.ok [], configuration, []⟩
  | some path =>
    match readDocument safeLoad files path with
    | .error fault => ⟨.error fault, configuration, []⟩
    | .ok (entries, log) =>
      let applied := configuration.apply entries
      { entries := match applied.fault with
          | none => .ok entries
          | some fault => .error (.value fault)
        configuration := applied.configuration
        log := log ++ applied.log }

end

/-- Loads documents without further notations. -/
def load : Configuration → Files → Places → (path : Option String) → Loaded Empty := loadWith Yaml.read

end MavenResolution.Configuration
