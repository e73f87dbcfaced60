import MavenResolution.Proofs.Version.Order
import MavenResolution.Version.Basic

/-! Versions as they are usually written: numerals between dots, then perhaps a hyphen and a
qualifier, and behind it perhaps one more numeral. They are ordered by their numerals, filled up
with zeros, then by the rank of the qualifier, then by its numeral. -/
namespace MavenResolution.Version

open Text

structure Numeral where
  run : List Char
  digits : ∀ c ∈ run, c.isDigit = true
  nonempty : run ≠ []
  short : run.length ≤ numeralLimit

def Numeral.value (numeral : Numeral) : Nat :=
  numeral.run.foldl (fun value c => 10 * value + (c.toNat - '0'.toNat)) 0

structure Word where
  run : List Char
  letters : ∀ c ∈ run, c.isAlpha = true
  nonempty : run ≠ []

/-- A word without regard to case. -/
def Word.name (word : Word) : String := String.ofList (word.run.map Char.toLower)

/-- The names of qualifiers in their order; those in a line stand for the same one. -/
def precedence : List (List String) :=
  [["alpha"], ["beta"], ["milestone"], ["rc", "cr"], ["snapshot"],
    ["", "ga", "final", "release"], ["sp"]]

/-- The line in which a name stands; one that stands in none ranks behind all that do. -/
def place (name : String) : Nat := precedence.findIdx (·.contains name)

def compareNames (left right : String) : Ordering :=
  (Ord.compare (place left) (place right)).then
    (if place left = precedence.length then Ord.compare left right else .eq)

/-- What a name stands for directly in front of a numeral. -/
def unabbreviated : String → String
  | "a" => "alpha"
  | "b" => "beta"
  | "m" => "milestone"
  | name => name

/-- What stands behind the numerals. -/
inductive Suffix where
  | none
  | plain (word : Word)
  /-- A release takes no numeral. A hyphen may set the numeral off. -/
  | numbered (word : Word) (hyphen : Bool) (numeral : Numeral)
      (significant : word.name ∉ ["ga", "final", "release"])

namespace Suffix

def name : Suffix → String
  | .none => ""
  | .plain word => word.name
  | .numbered word true _ _ => word.name
  | .numbered word false _ _ => unabbreviated word.name

def number : Suffix → Nat
  | .numbered _ _ numeral _ => numeral.value
  | _ => 0

def text : Suffix → List Char
  | .none => []
  | .plain word => '-' :: word.run
  | .numbered word true numeral _ => '-' :: word.run ++ '-' :: numeral.run
  | .numbered word false numeral _ => '-' :: word.run ++ numeral.run

end Suffix

/-- Sequences of numbers in lexicographic order, the shorter one filled up with zeros. -/
def comparePadded : List Nat → List Nat → Ordering
  | [], [] => .eq
  | [], right :: rights => (Ord.compare 0 right).then (comparePadded [] rights)
  | left :: lefts, [] => (Ord.compare left 0).then (comparePadded lefts [])
  | left :: lefts, right :: rights => (Ord.compare left right).then (comparePadded lefts rights)

structure Documented where
  first : Numeral
  others : List Numeral
  suffix : Suffix

namespace Documented

def numbers (version : Documented) : List Nat :=
  version.first.value :: version.others.map Numeral.value

def text (version : Documented) : String :=
  String.ofList (version.first.run ++ version.others.flatMap (fun numeral => '.' :: numeral.run) ++
    version.suffix.text)

/-- The numbers count first, then the qualifier, then its number. -/
def compare (left right : Documented) : Ordering :=
  ((comparePadded left.numbers right.numbers).then
    (compareNames left.suffix.name right.suffix.name)).then
      (Ord.compare left.suffix.number right.suffix.number)

end Documented

/-! Names. -/

theorem unabbreviated_eq (name : String) : unabbreviated name = abbreviated name := by
  unfold unabbreviated abbreviated
  split <;> simp_all

theorem place_eq_rank (name : String) : place name = rank (canonicalName name) := by
  by_cases known : name ∈ precedence.flatten
  · simp only [precedence, List.flatten_cons, List.flatten_nil, List.cons_append, List.nil_append,
      List.append_nil, List.mem_cons, List.not_mem_nil, or_false] at known
    rcases known with rfl | rfl | rfl | rfl | rfl | rfl | rfl | rfl | rfl | rfl | rfl | rfl <;>
      decide
  · simp only [precedence, List.flatten_cons, List.flatten_nil, List.cons_append, List.nil_append,
      List.append_nil, List.mem_cons, List.not_mem_nil, or_false, not_or] at known
    simp [place, precedence, rank, canonicalName, knownQualifiers, List.findIdx_cons, known]

theorem canonicalName_eq_empty_iff {name : String} :
    canonicalName name = "" ↔ name = "" ∨ name ∈ ["ga", "final", "release"] := by
  unfold canonicalName
  split
  · simp_all
  · split <;> simp_all

theorem canonicalName_of_unknown {name : String}
    (unknown : rank (canonicalName name) = knownQualifiers.length) : canonicalName name = name := by
  unfold canonicalName at *
  split at unknown
  · exact absurd unknown (by decide)
  · split at unknown
    · exact absurd unknown (by decide)
    · simp_all

theorem compareNames_eq (left right : String) :
    compareNames left right = compareQualifiers (canonicalName left) (canonicalName right) := by
  have lines : precedence.length = knownQualifiers.length := rfl
  simp only [compareNames, compareQualifiers, place_eq_rank, lines]
  by_cases same : rank (canonicalName left) = rank (canonicalName right)
  · by_cases unknown : rank (canonicalName left) = knownQualifiers.length
    · rw [canonicalName_of_unknown unknown, canonicalName_of_unknown (same ▸ unknown)]
    · simp only [if_neg unknown]
  · have differs : Ord.compare (rank (canonicalName left)) (rank (canonicalName right)) ≠ .eq := by
      simpa only [ne_eq, Std.LawfulEqOrd.compare_eq_iff_eq] using same
    rw [then_eq_left differs, then_eq_left differs]

end MavenResolution.Version
