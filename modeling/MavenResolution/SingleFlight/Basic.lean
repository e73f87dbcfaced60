/-! Single-flight caches. The first caller that asks for a key fetches it; concurrent callers wait for the outcome.
-/
namespace MavenResolution

/-- What is known of a key: the ticket of the caller that is fetching it, or the outcome, which may
be that there is nothing. -/
inductive Flight (ν : Type) where
  | pending (ticket : Nat)
  | done (outcome : Option ν)
  deriving DecidableEq, Repr

/-- The key is being fetched under a ticket. -/
def Flight.isPending (ticket : Nat) : Flight ν → Bool
  | .pending other => other == ticket
  | .done _ => false

structure SingleFlight (κ ν : Type) where
  entries : List (κ × Flight ν) := []
  hits : Nat := 0
  misses : Nat := 0
  deriving DecidableEq, Repr

namespace SingleFlight

variable {κ ν : Type} [BEq κ]

/-- The outcome of a key, if it has one. -/
def outcome? (cache : SingleFlight κ ν) (key : κ) : Option (Option ν) :=
  match cache.entries.lookup key with
  | some (.done outcome) => some outcome
  | _ => none

/-- The cache with an outcome for a key of which nothing is known. -/
def put (cache : SingleFlight κ ν) (key : κ) (outcome : Option ν) : SingleFlight κ ν :=
  match cache.entries.lookup key with
  | some _ => cache
  | none => { cache with entries := (key, .done outcome) :: cache.entries }

/-- What a caller that asks for a key has to do. -/
inductive Claim (ν : Type) where
  | known (outcome : Option ν)
  | waiting (ticket : Nat)
  | fetching (ticket : Nat)
  deriving DecidableEq, Repr

/-- Asks for a key. A caller that has to fetch takes the number of misses so far as its ticket. -/
def claim (cache : SingleFlight κ ν) (key : κ) : Claim ν × SingleFlight κ ν :=
  match cache.entries.lookup key with
  | some (.done outcome) => (.known outcome, { cache with hits := cache.hits + 1 })
  | some (.pending ticket) => (.waiting ticket, { cache with hits := cache.hits + 1 })
  | none =>
    (.fetching cache.misses,
      { cache with
        entries := (key, .pending cache.misses) :: cache.entries
        misses := cache.misses + 1 })

/-- The cache after callers have found something under a key. -/
def join (cache : SingleFlight κ ν) (callers : Nat) : SingleFlight κ ν :=
  { cache with hits := cache.hits + callers }

/-- The cache with the outcome that the holder of a ticket found, if its entry is still there. -/
def settle (cache : SingleFlight κ ν) (key : κ) (ticket : Nat) (outcome : Option ν) :
    SingleFlight κ ν :=
  { cache with
    entries := cache.entries.map fun (k, flight) =>
      (k, if k == key && flight.isPending ticket then .done outcome else flight) }

/-- The cache without anything known of a key. -/
def drop (cache : SingleFlight κ ν) (key : κ) : SingleFlight κ ν :=
  { cache with entries := cache.entries.filter fun (k, _) => !(k == key) }

/-- The cache without its entries; its counts go on. -/
def clear (cache : SingleFlight κ ν) : SingleFlight κ ν := { cache with entries := [] }

structure Stats where
  hits : Nat
  misses : Nat
  entries : Nat
  deriving DecidableEq, Repr

def stats (cache : SingleFlight κ ν) : Stats := ⟨cache.hits, cache.misses, cache.entries.length⟩

end SingleFlight
end MavenResolution
