import MavenResolution.Http.Basic
import MavenResolution.Path

/-! Files and directories, and what the operating system refuses to do with them. -/
namespace MavenResolution

/-- Where a file lies: the names of the directories down to it, and its own. -/
abbrev Location := List String

inductive Node where
  | file (content : List UInt8)
  | directory
  deriving DecidableEq, Repr

/-- Files and directories by their location. The working directory and those above it exist in
any case. -/
structure Files where
  here : Location := ["tmp", "work"]
  nodes : List (Location × Node) := []
  /-- What becomes of the writes, closings and moves to come, one after another: the fault with
  which one is refused, if it is. Those behind the list are granted. -/
  refusals : List (Option Http.Fault) := []
  deriving DecidableEq, Repr

namespace Files

inductive Fault where
  | notFound
  | isDirectory
  | notDirectory
  | nameTooLong
  /-- The path holds a character that no path may hold. -/
  | nullCharacter
  deriving DecidableEq, Repr

def nodeAt (files : Files) (location : Location) : Option Node :=
  if location.isPrefixOf files.here then some .directory else files.nodes.lookup location

/-- The number of bytes that a name may have. -/
def nameLimit : Nat := 255

/-- The number of bytes that a path may have. -/
def pathLimit : Nat := 4095

/-- The location that segments lead to from another one. All in front of the last one are
directories. -/
def walk (files : Files) : Location → List String → Except Fault Location
  | location, [] => .ok location
  | location, segment :: rest =>
    if segment = ".." then files.walk location.dropLast rest
    else if nameLimit < segment.utf8ByteSize then .error .nameTooLong
    else
      let next := location ++ [segment]
      if rest.isEmpty then .ok next
      else match files.nodeAt next with
        | some .directory => files.walk next rest
        | some (.file _) => .error .notDirectory
        | none => .error .notFound

/-- The path may be asked for. -/
def checkPath (path : Path) : Except Fault Unit :=
  if path.segments.any (·.toList.contains '\x00') then .error .nullCharacter
  else if pathLimit < path.text.utf8ByteSize then .error .nameTooLong
  else .ok ()

def start (files : Files) (path : Path) : Location := if path.slashes = 0 then files.here else []

def locate (files : Files) (path : Path) : Except Fault Location := do
  checkPath path
  files.walk (files.start path) path.segments

/-- What lies at a path. -/
def look (files : Files) (path : Path) : Except Fault Node := do
  match files.nodeAt (← files.locate path) with
  | some node => return node
  | none => throw .notFound

def isFile (files : Files) (path : Path) : Bool :=
  match files.look path with
  | .ok (.file _) => true
  | _ => false

def read (files : Files) (path : Path) : Except Fault (List UInt8) := do
  match ← files.look path with
  | .file content => return content
  | .directory => throw .isDirectory

/-- The files with what lies at one location replaced, or without it. -/
def set (files : Files) (location : Location) (node : Option Node) : Files :=
  let others := files.nodes.filter (·.1 != location)
  { files with nodes := (node.toList.map (location, ·)) ++ others }

/-- Makes the directories that segments lead through, as far as they are missing. What has been
made stays if a later one cannot be made. -/
def makeAlong (files : Files) : Location → List String → Except Fault Location × Files
  | location, [] => (.ok location, files)
  | location, segment :: rest =>
    if segment = ".." then files.makeAlong location.dropLast rest
    else if nameLimit < segment.utf8ByteSize then (.error .nameTooLong, files)
    else
      let next := location ++ [segment]
      match files.nodeAt next with
      | some .directory => files.makeAlong next rest
      | some (.file _) => (.error .notDirectory, files)
      | none => (files.set next (some .directory)).makeAlong next rest

/-- Makes a directory and those above it. -/
def makeDirectories (files : Files) (path : Path) : Except Fault Location × Files :=
  match checkPath path with
  | .error fault => (.error fault, files)
  | .ok () => files.makeAlong (files.start path) path.segments

/-- The files with one more, and with the directories down to it. -/
def add (files : Files) (path : Path) (content : List UInt8) : Files :=
  match files.makeDirectories path.parent with
  | (.ok directory, files) => files.set (directory ++ [path.name]) (some (.file content))
  | (.error _, files) => files

/-- The files with bytes put behind those of a file. -/
def append (files : Files) (location : Location) (octets : List UInt8) : Files :=
  match files.nodes.lookup location with
  | some (.file content) => files.set location (some (.file (content ++ octets)))
  | _ => files

/-- The fault with which the next write, closing or move is refused, if it is, and the files before
the one behind it. -/
def permit (files : Files) : Option Http.Fault × Files :=
  (files.refusals.head?.join, { files with refusals := files.refusals.tail })

/-- Puts a file in another place, over a file that is there. A directory does not give way. -/
def move (files : Files) (source target : Location) : Except Fault Files :=
  match files.nodeAt target, files.nodes.lookup source with
  | some .directory, _ => .error .isDirectory
  | _, some node => .ok ((files.set source none).set target (some node))
  | _, none => .error .notFound

/-- The name of a file that is not complete yet. -/
def partName (name : String) (number : Nat) : String :=
  let digits := toString number
  "." ++ name ++ "." ++ String.ofList (List.replicate (8 - digits.length) '0') ++ digits ++ ".part"

/-- A place in a directory where nothing lies, for a file that is not complete yet. More names are
tried than there are files. -/
def partLocation (files : Files) (directory : Location) (name : String) : Location :=
  let candidates := (List.range (files.nodes.length + 1)).map fun number =>
    directory ++ [partName name number]
  (candidates.find? fun location => (files.nodeAt location).isNone).getD []

/-- Begins a file beside the place of another one. -/
def beginPart (files : Files) (directory : Location) (path : Path) : Except Fault (Location × Files) :=
  let part := partName path.name 0
  if part.toList.contains '\x00' then .error .nullCharacter
  else if nameLimit < part.utf8ByteSize ||
      pathLimit < (path.parent.join part).text.utf8ByteSize then .error .nameTooLong
  else
    let location := files.partLocation directory path.name
    .ok (location, files.set location (some (.file [])))

/-- The files below a location, with the names on the way to them. -/
def filesBelow (files : Files) (location : Location) : List (Location × List UInt8) :=
  files.nodes.filterMap fun
    | (place, .file content) =>
      if location.isPrefixOf place then some (place.drop location.length, content) else none
    | (_, .directory) => none

end Files
end MavenResolution
