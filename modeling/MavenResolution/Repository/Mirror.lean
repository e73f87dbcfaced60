import MavenResolution.Repository.Basic
import MavenResolution.Text.Blank
import MavenResolution.Text.Pieces
import MavenResolution.Url.Basic

/-! Mirrors of repositories, with their `mirrorOf` lists. -/
namespace MavenResolution

/-- A mirror with its `mirrorOf` list. Its release and snapshot flags, where given, replace those of the repository.
-/
structure Mirror where
  id : Option String
  url : String
  mirrorOf : String
  releases : Option Bool := none
  snapshots : Option Bool := none
  deriving DecidableEq, Repr

namespace Mirror

open Text

/-- One entry of a `mirrorOf` list. -/
inductive Selector where
  | excluded (name : List Char)
  | everything
  | external
  | named (name : List Char)
  deriving DecidableEq, Repr

def Selector.ofEntry : List Char → Selector
  | '!' :: name => .excluded name
  | ['*'] => .everything
  | entry => if entry = "external:*".toList then .external else .named entry

/-- The entries of a `mirrorOf` list: what stands between commas, blanks apart. -/
def entries (text : List Char) : List (List Char) :=
  ((pieces ',' text).map trim).filter (!·.isEmpty)

def selectors (mirror : Mirror) : List Selector :=
  (entries mirror.mirrorOf.toList).map Selector.ofEntry

def localHosts : List String := ["localhost", "127.0.0.1", "::1"]

/-- The repository is external: neither a file URL nor on the local host. -/
def isExternal (repository : Repository) : Bool :=
  match Url.ofChars? repository.uri.toList with
  | none => true
  | some url => url.scheme != "file".toList && !localHosts.any (·.toList == url.host)

/-- The name is the id or the URL of the repository. -/
def isNamed (name : List Char) (repository : Repository) : Bool :=
  some (String.ofList name) == repository.id || String.ofList name == repository.uri

/-- The mirror matches the repository: the entries are read in order, and an exclusion ends the reading. -/
def selects (repository : Repository) (found : Bool) : List Selector → Bool
  | [] => found
  | .excluded name :: rest =>
    if isNamed name repository then false else selects repository found rest
  | .everything :: rest => selects repository true rest
  | .external :: rest => selects repository (found || isExternal repository) rest
  | .named name :: rest => selects repository (found || isNamed name repository) rest

def isFor (mirror : Mirror) (repository : Repository) : Bool :=
  selects repository false mirror.selectors

/-- The repository with id, URL and flags of the mirror. -/
def replace (mirror : Mirror) (repository : Repository) : Repository :=
  { repository with
    id := mirror.id
    uri := mirror.url
    releases := mirror.releases.getD repository.releases
    snapshots := mirror.snapshots.getD repository.snapshots }

def applyTo (mirror : Mirror) (repository : Repository) : Repository :=
  if mirror.isFor repository then mirror.replace repository else repository

/-- The repository, replaced by the first mirror that matches it. -/
def apply (mirrors : List Mirror) (repository : Repository) : Repository :=
  match mirrors.find? (·.isFor repository) with
  | some mirror => mirror.replace repository
  | none => repository

end Mirror
end MavenResolution
