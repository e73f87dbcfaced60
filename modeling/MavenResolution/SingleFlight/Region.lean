import MavenResolution.Log
import MavenResolution.SingleFlight.Basic

/-! Cache regions: caches that are parts of a larger state, which a fetch may read and change. -/
namespace MavenResolution

/-- A cache within a state that also keeps the log. -/
structure Region (σ κ ν : Type) where
  name : String
  cache : σ → SingleFlight κ ν
  withCache : SingleFlight κ ν → σ → σ
  withEntry : Log.Entry → σ → σ

/-- What a caller gets: the outcome that was known, or what its own fetch gave. -/
inductive Computed (ε α ν : Type) where
  | known (outcome : Option ν)
  | fetched (result : Except ε α)

/-- The outcome for a caller whose fetch gives nothing beside it. -/
def Computed.outcome : Computed ε (Option ν) ν → Except ε (Option ν)
  | .known outcome => .ok outcome
  | .fetched result => result

namespace Region

variable {σ κ ν : Type} [BEq κ]

def update (region : Region σ κ ν) (change : SingleFlight κ ν → SingleFlight κ ν) (state : σ) :
    σ :=
  region.withCache (change (region.cache state)) state

def miss (region : Region σ κ ν) : Log.Entry :=
  Log.debug .cache "Cache miss"
    [("event", .text "cache_miss"), ("component", .text "cache"), ("action", .text "compute"),
      ("target", .text region.name)]

/-- Asks for a key on behalf of a caller and of `waiters` more, who all find its entry. -/
def claim (region : Region σ κ ν) (waiters : Nat) (key : κ) : StateM σ (SingleFlight.Claim ν) :=
  modifyGet fun state =>
    let (claim, cache) := (region.cache state).claim key
    (claim, region.withCache (cache.join waiters) state)

/-- Gets a key, with a fetch if nothing is known of it. What the fetch gives is recorded as
`outcome` tells; a fetch that fails leaves nothing behind. A caller that waits for a fetch of its
own gets nothing. -/
def compute (region : Region σ κ ν) (key : κ) (outcome : α → Option ν)
    (fetch : StateM σ (Except ε α)) (waiters : Nat := 0) : StateM σ (Computed ε α ν) := do
  match ← region.claim waiters key with
  | .known outcome => return .known outcome
  | .waiting _ => return .known none
  | .fetching ticket =>
    modify (region.withEntry region.miss)
    match ← fetch with
    | .ok found =>
      modify (region.update (·.settle key ticket (outcome found)))
      return .fetched (.ok found)
    | .error fault =>
      modify (region.update (·.drop key))
      return .fetched (.error fault)

end Region
end MavenResolution
