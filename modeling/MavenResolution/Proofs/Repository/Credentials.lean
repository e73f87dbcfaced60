import MavenResolution.Repository.Credentials
import MavenResolution.Session.Normalization

/-! Credentials and the repositories that bear their ids. Giving a repository its credentials changes
nothing else about it, and giving them twice is giving them once. -/
namespace MavenResolution

/-- HTTP Basic credentials, if username and password are both set. -/
def Credentials.auth (credentials : Credentials) : Option (String × String) := do
  return (← credentials.username, ← credentials.password)

namespace Repository

variable (credentials : List Credentials) (repository : Repository)

/-- User and password as they are declared, be it that one is missing. -/
def declaredCredentials : Option String × Option String := (repository.username, repository.password)

/-- The credentials that are due to whoever bears an id: the first ones with this id, or else those
that a repository brings itself. -/
def dueCredentials (id : Option String) : Option String × Option String :=
  match credentials.find? (some ·.id == id) with
  | some found => (found.username, found.password)
  | none => repository.declaredCredentials

/-- Where the session has credentials for an id, it does not matter whose id it is. -/
theorem dueCredentials_of_isSome {id : Option String}
    (due : (credentials.find? (some ·.id == id)).isSome) (other : Repository) :
    repository.dueCredentials credentials id = other.dueCredentials credentials id := by
  obtain ⟨found, first⟩ := Option.isSome_iff_exists.mp due
  unfold dueCredentials
  rw [first]

variable {credentials} in
theorem dueCredentials_of_find_eq_none {id : Option String}
    (missing : credentials.find? (some ·.id == id) = none) :
    repository.dueCredentials credentials id = repository.declaredCredentials := by
  unfold dueCredentials
  rw [missing]

variable {credentials repository} in
theorem apply_of_find_eq_some {found : Credentials}
    (first : credentials.find? (some ·.id == repository.id) = some found) :
    Credentials.apply credentials repository =
      { repository with username := found.username, password := found.password } := by
  unfold Credentials.apply
  rw [first]

variable {credentials repository} in
theorem apply_of_find_eq_none (missing : credentials.find? (some ·.id == repository.id) = none) :
    Credentials.apply credentials repository = repository := by
  unfold Credentials.apply
  rw [missing]

theorem identity_apply :
    (Credentials.apply credentials repository).identity = repository.identity := by
  unfold Credentials.apply
  split <;> rfl

theorem id_apply : (Credentials.apply credentials repository).id = repository.id :=
  congrArg Identity.id (identity_apply credentials repository)

theorem knownToExist_apply :
    (Credentials.apply credentials repository).knownToExist = repository.knownToExist := by
  unfold Credentials.apply
  split <;> rfl

theorem declaredCredentials_apply :
    (Credentials.apply credentials repository).declaredCredentials =
      dueCredentials credentials repository repository.id := by
  unfold dueCredentials
  cases first : credentials.find? (some ·.id == repository.id) with
  | none => rw [apply_of_find_eq_none first]
  | some found =>
    rw [apply_of_find_eq_some first]
    rfl

theorem apply_withUri (uri : String) :
    Credentials.apply credentials (repository.withUri uri) =
      (Credentials.apply credentials repository).withUri uri := by
  unfold Credentials.apply withUri
  dsimp only
  split <;> rfl

theorem apply_apply :
    Credentials.apply credentials (Credentials.apply credentials repository) =
      Credentials.apply credentials repository := by
  cases first : credentials.find? (some ·.id == repository.id) with
  | none => rw [apply_of_find_eq_none first, apply_of_find_eq_none first]
  | some found =>
    rw [apply_of_find_eq_some first]
    exact apply_of_find_eq_some first

/-- Where no two credentials bear one id, whichever bear it are the first. -/
theorem find?_eq_some_of_distinct {credentials : List Credentials} {found : Credentials}
    (distinct : credentials.Pairwise (·.id ≠ ·.id)) (member : found ∈ credentials) :
    credentials.find? (some ·.id == some found.id) = some found := by
  induction credentials with
  | nil => cases member
  | cons first rest ih =>
    obtain ⟨apart, distinctThen⟩ := List.pairwise_cons.mp distinct
    rw [List.find?_cons]
    rcases List.mem_cons.mp member with rfl | later
    · rw [beq_self_eq_true]
    · have differs : (some first.id == some found.id) = false := by
        simpa using apart found later
      rw [differs]
      exact ih distinctThen later

/-! Placeholders stand in the URL only. -/

theorem exists_expand (containing : Option Pom) :
    ∃ uri, repository.expand containing = repository.withUri uri := by
  cases containing with
  | none => exact ⟨repository.uri, rfl⟩
  | some pom =>
    unfold expand
    dsimp only
    split
    · exact ⟨repository.uri, rfl⟩
    · exact ⟨_, rfl⟩

end Repository
end MavenResolution
