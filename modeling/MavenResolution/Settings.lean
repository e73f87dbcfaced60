import MavenResolution.Files
import MavenResolution.Log
import MavenResolution.Repository.Credentials
import MavenResolution.Repository.Mirror
import MavenResolution.Text.Placeholder
import MavenResolution.Xml.Document
import MavenResolution.Xml.Lookup

/-! Maven's `settings.xml`: servers with credentials, mirrors, and profiles with repositories. -/
namespace MavenResolution

structure Profile where
  id : Option String
  repositories : List Repository := []
  activeByDefault : Bool := false
  deriving DecidableEq, Repr

structure Settings where
  servers : List Credentials := []
  mirrors : List Mirror := []
  profiles : List Profile := []
  activeProfiles : List String := []
  deriving DecidableEq, Repr

namespace Settings

open Text Xml

/-- The variables of the environment. -/
abbrev Variables := List (String × String)

/-- The repositories of the profiles that are active by default, by the settings or by name. -/
def activeRepositories (settings : Settings) (wanted : List String) : List Repository :=
  (settings.profiles.filter fun profile =>
    profile.activeByDefault ||
      (settings.activeProfiles ++ wanted).any (some · == profile.id)).flatMap (·.repositories)

/-- A text without the white space around it, with the values of the variables that it names; none
if nothing is left. -/
def expand (environment : Variables) (text : List Char) : Option String :=
  let value? name := (environment.lookup (String.ofList name)).map String.toList
  match Placeholder.expand "$\x7benv.".toList value? (trim text) with
  | [] => none
  | c :: rest => some (String.ofList (c :: rest))

def textOf (environment : Variables) (element : Element) (name : String) : Option String :=
  (element.child? name).bind fun child => expand environment child.text

/-- The `enabled` flag of releases or snapshots, if it is given. -/
def flagOf (environment : Variables) (element : Element) (kind : String) : Option Bool :=
  (element.child? kind).map fun child =>
    ((textOf environment child "enabled").map Element.isTrue).getD true

def serverOf (environment : Variables) (element : Element) : Credentials :=
  { id := (textOf environment element "id").getD ""
    username := textOf environment element "username"
    password := textOf environment element "password" }

/-- A mirror, if it has a URL and a `mirrorOf` list; otherwise the warning that it is skipped. -/
def mirrorOf (environment : Variables) (element : Element) : Except Log.Entry Mirror :=
  let id := textOf environment element "id"
  match textOf environment element "url", textOf environment element "mirrorOf" with
  | some url, some mirrorOf =>
    .ok { id, url, mirrorOf, releases := flagOf environment element "releases",
          snapshots := flagOf environment element "snapshots" }
  | _, _ =>
    .error (Log.warning .settings ("Ignoring mirror " ++ shown id ++ " without url or mirrorOf"))

/-- A repository of a profile, if it has a URL. Snapshots are disabled by default. -/
def repositoryOf (environment : Variables) (element : Element) : Option Repository :=
  (textOf environment element "url").map fun uri =>
    { id := textOf environment element "id", uri
      releases := (flagOf environment element "releases").getD true
      snapshots := (flagOf environment element "snapshots").getD false }

def profileOf (environment : Variables) (element : Element) : Profile :=
  { id := textOf environment element "id"
    repositories :=
      (element.grandchildren "repositories" "repository").filterMap (repositoryOf environment)
    activeByDefault :=
      (((element.child? "activation").bind (textOf environment · "activeByDefault")).map
        Element.isTrue).getD false }

/-- The settings in a document, whatever its namespace, and the warnings about them. -/
def ofElement (environment : Variables) (root : Element) : Settings × List Log.Entry :=
  let root := root.withoutSpaces
  let mirrors := (root.grandchildren "mirrors" "mirror").map (mirrorOf environment)
  let settings : Settings :=
    { servers := (root.grandchildren "servers" "server").map (serverOf environment)
      mirrors := mirrors.filterMap Except.toOption
      profiles := (root.grandchildren "profiles" "profile").map (profileOf environment)
      activeProfiles :=
        (root.grandchildren "activeProfiles" "activeProfile").filterMap
          fun element => expand environment element.text }
  let refused := mirrors.filterMap fun
    | .error entry => some entry
    | .ok _ => none
  (settings, refused ++ [Log.debug .settings
    ("Parsed Maven settings: " ++ toString settings.servers.length ++ " servers, " ++
      toString settings.mirrors.length ++ " mirrors, " ++
      toString settings.profiles.length ++ " profiles")])

inductive Fault where
  | document (fault : Xml.Fault)
  | file (fault : Files.Fault)
  /-- The file holds no text. -/
  | notText
  deriving DecidableEq, Repr

def ofText (environment : Variables) (text : List Char) : Except Fault (Settings × List Log.Entry) :=
  match (Document.text text).read with
  | .ok root => .ok (ofElement environment root)
  | .error fault => .error (.document fault)

/-- The settings in a file. -/
def ofFile (environment : Variables) (files : Files) (path : Path) :
    Except Fault (Settings × List Log.Entry) :=
  match files.read path with
  | .error fault => .error (.file fault)
  | .ok octets =>
    match Utf8.decode? octets with
    | none => .error .notText
    | some text => ofText environment text

/-- A text is the settings themselves if it starts with a tag. -/
def isMarkup (text : String) : Bool := (dropBlanks text.toList).head? == some '<'

/-- The settings that a text holds, or those in the file that it names. -/
def load (environment : Variables) (files : Files) (text : String) :
    Except Fault (Settings × List Log.Entry) :=
  if isMarkup text then ofText environment text.toList
  else ofFile environment files (Path.ofText text)

end Settings
end MavenResolution
