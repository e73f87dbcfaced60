import MavenResolution.Proofs.Relation
import MavenResolution.SingleFlight.Basic

/-! Caches of two runs that know alike things of alike keys. As long as the keys of one run stand for
those of the other one to one, the caches stay alike, and callers get alike outcomes. -/
namespace MavenResolution

open Relator

variable {κ ν : Type} {keys : κ → κ → Prop} {values : ν → ν → Prop}

/-- Alike flights are the same ones, or have landed with alike outcomes. -/
inductive Flight.Alike (values : ν → ν → Prop) : Flight ν → Flight ν → Prop
  | pending (ticket : Nat) : Flight.Alike values (.pending ticket) (.pending ticket)
  | done {outcome outcome' : Option ν} (alike : Option.Rel values outcome outcome') :
      Flight.Alike values (.done outcome) (.done outcome')

theorem Flight.Alike.isPending_eq {flight flight' : Flight ν} (alike : flight.Alike values flight')
    (ticket : Nat) : flight.isPending ticket = flight'.isPending ticket := by
  cases alike <;> rfl

namespace SingleFlight

/-- What callers have to do is alike. -/
inductive Claim.Alike (values : ν → ν → Prop) : Claim ν → Claim ν → Prop
  | known {outcome outcome' : Option ν} (alike : Option.Rel values outcome outcome') :
      Claim.Alike values (.known outcome) (.known outcome')
  | waiting (ticket : Nat) : Claim.Alike values (.waiting ticket) (.waiting ticket)
  | fetching (ticket : Nat) : Claim.Alike values (.fetching ticket) (.fetching ticket)

/-- The caches know alike things of alike keys. -/
structure Alike (keys : κ → κ → Prop) (values : ν → ν → Prop) (cache cache' : SingleFlight κ ν) :
    Prop where
  entries : List.Forall₂ (PairRel keys (Flight.Alike values)) cache.entries cache'.entries
  misses : cache.misses = cache'.misses

theorem alike_empty : Alike keys values {} {} := ⟨.nil, rfl⟩

variable [BEq κ] [LawfulBEq κ] {cache cache' : SingleFlight κ ν} {key key' : κ}
  {outcome outcome' : Option ν}

namespace Alike

variable (alike : cache.Alike keys values cache') (oneToOne : OneToOne keys) (asked : keys key key')

omit [LawfulBEq κ] [BEq κ] in
include alike in
theorem join (callers : Nat) : (cache.join callers).Alike keys values (cache'.join callers) :=
  ⟨alike.entries, alike.misses⟩

include alike oneToOne asked

theorem claim : (cache.claim key).1.Alike values (cache'.claim key').1 ∧
    (cache.claim key).2.Alike keys values (cache'.claim key').2 := by
  have found := lookup_rel oneToOne alike.entries asked
  unfold SingleFlight.claim
  generalize cache.entries.lookup key = flight at found
  generalize cache'.entries.lookup key' = flight' at found
  cases found with
  | none =>
    rw [alike.misses]
    exact ⟨.fetching _, .cons ⟨asked, .pending _⟩ alike.entries, rfl⟩
  | some flights =>
    cases flights with
    | pending ticket => exact ⟨.waiting ticket, alike.entries, alike.misses⟩
    | done outcomes => exact ⟨.known outcomes, alike.entries, alike.misses⟩

theorem settle (ticket : Nat) (outcomes : Option.Rel values outcome outcome') :
    (cache.settle key ticket outcome).Alike keys values (cache'.settle key' ticket outcome') := by
  refine ⟨List.rel_map ?_ alike.entries, alike.misses⟩
  rintro ⟨other, flight⟩ ⟨other', flight'⟩ ⟨others, flights⟩
  refine ⟨others, ?_⟩
  dsimp only
  rw [oneToOne.beq_eq others asked, flights.isPending_eq]
  split
  · exact .done outcomes
  · exact flights

theorem drop : (cache.drop key).Alike keys values (cache'.drop key') := by
  refine ⟨List.rel_filter ?_ alike.entries, alike.misses⟩
  rintro ⟨other, flight⟩ ⟨other', flight'⟩ ⟨others, -⟩
  dsimp only
  rw [oneToOne.beq_eq others asked]

end Alike
end SingleFlight
end MavenResolution
