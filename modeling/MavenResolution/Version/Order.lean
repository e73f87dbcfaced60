import MavenResolution.Version.Item

/-! The order of items. Numbers rank above nested lists and these above qualifiers; a missing
item counts as zero, as a release, or as the list's first item compares. -/
namespace MavenResolution.Version

/-- Qualifiers compare by rank, and those that are not known by their names. -/
def compareQualifiers (left right : String) : Ordering :=
  (compare (rank left) (rank right)).then
    (if rank left = knownQualifiers.length then compare left right else .eq)

/-- An item compared with a missing one. -/
def Item.compareMissing : Item → Ordering
  | .number value => compare value 0
  | .qualifier name => compare (rank name) releaseRank
  | .nested [] => .eq
  | .nested (item :: _) => item.compareMissing

/-- Items compared with missing ones, in their order. -/
def compareMissings : List Item → Ordering
  | [] => .eq
  | item :: rest => item.compareMissing.then (compareMissings rest)

mutual
def Item.compare : Item → Item → Ordering
  | .number left, .number right => Ord.compare left right
  | .number _, _ => .gt
  | .qualifier left, .qualifier right => compareQualifiers left right
  | .qualifier _, _ => .lt
  | .nested _, .number _ => .lt
  | .nested _, .qualifier _ => .gt
  | .nested left, .nested right => compareItems left right

/-- Lists compare item by item, the shorter one filled up with missing items. -/
def compareItems : List Item → List Item → Ordering
  | [], right => (compareMissings right).swap
  | left :: rest, [] => left.compareMissing.then (compareMissings rest)
  | left :: lefts, right :: rights => (left.compare right).then (compareItems lefts rights)
end

end MavenResolution.Version
