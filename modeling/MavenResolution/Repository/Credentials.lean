import MavenResolution.Repository.Basic

/-! Credentials for repositories, given by the id of the repository. -/
namespace MavenResolution

structure Credentials where
  id : String
  username : Option String := none
  password : Option String := none
  deriving DecidableEq, Repr

namespace Credentials

open Text

/-- Credentials as `repr` shows them. -/
def label (credentials : Credentials) : String :=
  "MavenRepositoryCredentials(id=" ++ quote credentials.id ++ ")"

/-- The repository with the first credentials that bear its id. -/
def apply (credentials : List Credentials) (repository : Repository) : Repository :=
  match credentials.find? (some ·.id == repository.id) with
  | some found => { repository with username := found.username, password := found.password }
  | none => repository

end Credentials
end MavenResolution
