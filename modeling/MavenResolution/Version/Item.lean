/-! The items of a version. A version is a list of numbers and qualifiers that may end in a
nested list, where a hyphen or the border between digits and letters opened one. -/
namespace MavenResolution.Version

/-- The names of the qualifiers that rank below a plain release, the release, and the one that
ranks directly above it, in their order. -/
def knownQualifiers : List String :=
  ["alpha", "beta", "milestone", "rc", "snapshot", "", "sp"]

/-- The rank of a qualifier; a name that is not known ranks above all that are. -/
def rank (qualifier : String) : Nat := knownQualifiers.idxOf qualifier

/-- The rank of a plain release. -/
def releaseRank : Nat := rank ""

/-- Another spelling of a qualifier's name. -/
def canonicalName (name : String) : String :=
  if name = "ga" ∨ name = "final" ∨ name = "release" then ""
  else if name = "cr" then "rc"
  else name

/-- The qualifier that a letter abbreviates in front of a number. -/
def abbreviated (name : String) : String :=
  if name = "a" then "alpha"
  else if name = "b" then "beta"
  else if name = "m" then "milestone"
  else name

inductive Item where
  | number (value : Nat)
  | qualifier (name : String)
  | nested (items : List Item)
  deriving Repr, Inhabited

def Item.isNested : Item → Bool
  | .nested _ => true
  | _ => false

/-- An item that says no more than its absence: zero, a release, an empty list. -/
def Item.isNull : Item → Bool
  | .number value => value == 0
  | .qualifier name => rank name == releaseRank
  | .nested items => items.isEmpty

/-- No number or qualifier stands in front of a nested list or the end. -/
def startsNested : List Item → Bool
  | [] => true
  | item :: _ => item.isNested

/-- An item in front of a normal list, left out if it is null and no number or qualifier
follows. -/
def prepend (item : Item) (items : List Item) : List Item :=
  if item.isNull && startsNested items then items else item :: items

/-- A normal list as the end of another one. -/
def enclose (items : List Item) : List Item :=
  if items.isEmpty then [] else [.nested items]

mutual
/-- The text of an item tree: lists in brackets, numbers and qualifiers bare. -/
def Item.text : Item → String
  | .number value => toString value
  | .qualifier name => name
  | .nested items => "[" ++ Item.texts items ++ "]"

def Item.texts : List Item → String
  | [] => ""
  | [item] => item.text
  | item :: next :: rest => item.text ++ ", " ++ Item.texts (next :: rest)
end

end MavenResolution.Version
