import MavenResolution.Snapshot
import MavenResolution.Text.Casing
import MavenResolution.Text.Digit
import MavenResolution.Text.Quoted

/-! Repositories: where versions are published, and which of them. -/
namespace MavenResolution

/-- A Maven repository. Its URI may hold placeholders until it is normalized against the POM that declared it. -/
structure Repository where
  id : Option String
  uri : String
  releases : Bool := true
  snapshots : Bool := false
  knownToExist : Bool := false
  username : Option String := none
  password : Option String := none
  deriving DecidableEq, Repr

namespace Repository

open Text

/-- The fields that take part in the equality of repositories. Credentials and `known_to_exist` do not. -/
structure Identity where
  id : Option String
  uri : String
  releases : Bool
  snapshots : Bool
  deriving DecidableEq, Repr

def identity (repository : Repository) : Identity :=
  ⟨repository.id, repository.uri, repository.releases, repository.snapshots⟩

/-- Repositories are equal. -/
def same (a b : Repository) : Bool := a.identity == b.identity

/-- HTTP Basic credentials, if username and password are both set. -/
def auth (repository : Repository) : Option (String × String) := do
  return (← repository.username, ← repository.password)

def milestoneUri : String := "https://repo.spring.io/milestone"

/-- A text without one line end behind it. -/
def dropLineEnd (text : List Char) : List Char :=
  match text.reverse with
  | '\n' :: rest => rest.reverse
  | _ => text

/-- The version ends in `M` or `RC` and a number. -/
def isMilestone (version : String) : Bool :=
  let text := dropLineEnd version.toList
  let (digits, rest) := text.reverse.span isDecimal
  !digits.isEmpty && !text.contains '\n' &&
    (['M'].isPrefixOf rest || ['C', 'R'].isPrefixOf rest)

/-- The repository accepts a version: snapshots and releases by its flags, milestones alone for the Spring milestone
repository. -/
def accepts (repository : Repository) (version : String) : Bool :=
  if Snapshot.isSnapshot version then repository.snapshots
  else if lowercaseText repository.uri == milestoneUri then isMilestone version
  else repository.releases

def withUri (repository : Repository) (uri : String) : Repository := { repository with uri }

/-- The URI without slashes at its end. -/
def root (repository : Repository) : String :=
  String.ofList (repository.uri.toList.reverse.dropWhile (· == '/')).reverse

def word (flag : Bool) : String := if flag then "True" else "False"

/-- A repository as `repr` shows it, without its credentials. -/
def label (repository : Repository) : String :=
  "MavenRepository(id=" ++ quote? repository.id ++ ", uri=" ++ quote repository.uri ++
    ", releases=" ++ word repository.releases ++ ", snapshots=" ++ word repository.snapshots ++
    ", known_to_exist=" ++ word repository.knownToExist ++ ")"

def centralUri : String := "https://repo.maven.apache.org/maven2"

/-- Maven Central, at a URL. -/
def central (uri : String) : Repository :=
  { id := some "central", uri, releases := true, snapshots := false, knownToExist := true }

end Repository
end MavenResolution
