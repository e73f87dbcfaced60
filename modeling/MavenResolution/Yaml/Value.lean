import MavenResolution.Decimal.Shortest
import MavenResolution.Text.Numeral
import MavenResolution.Yaml.Moment

/-! Values of configuration documents, as `yaml.safe_load` gives them, and how `repr` shows them. -/
namespace MavenResolution.Yaml

open Decimal Text

/-- What `int`, `float`, `repr` and `bool` make of a value that is neither scalar nor list nor dict: bytes, a set, a
pair, or a list that is inside of itself. -/
class Object (α : Type) where
  /-- What `int` returns, if it raises neither `TypeError` nor `ValueError`. -/
  integer? : α → Option Int
  /-- What `float` returns, if it raises neither. -/
  number? : α → Option Binary64
  /-- What `repr` returns, and `str`, if they raise no `ValueError`. -/
  shown? : α → Option String
  /-- The value counts as false. -/
  isVoid : α → Bool

instance : Object Empty := ⟨nofun, nofun, nofun, nofun⟩

/-- Values of documents; those that are neither scalars nor lists nor dicts are objects in `α`. -/
inductive Data (α : Type) where
  | null
  | boolean (value : Bool)
  | integer (value : Int)
  | number (value : Binary64)
  | text (value : String)
  | moment (value : Moment)
  | sequence (items : List (Data α))
  /-- Keys and values, in the order in which the keys came up first. -/
  | mapping (entries : List (Data α × Data α))
  | object (value : α)
  deriving Repr

/-- Values that are no further objects. -/
abbrev Value := Data Empty

namespace Value

mutual

/-- The same value, of the same kind. -/
def same : Value → Value → Bool
  | .null, .null => true
  | .boolean a, .boolean b => a == b
  | .integer a, .integer b => a == b
  | .number a, .number b => a == b
  | .text a, .text b => a == b
  | .moment a, .moment b => a == b
  | .sequence as, .sequence bs => sameAll as bs
  | .mapping as, .mapping bs => sameEntries as bs
  | _, _ => false

def sameAll : List Value → List Value → Bool
  | [], [] => true
  | a :: as, b :: bs => same a b && sameAll as bs
  | _, _ => false

def sameEntries : List (Value × Value) → List (Value × Value) → Bool
  | [], [] => true
  | (a, x) :: as, (b, y) :: bs => same a b && same x y && sameEntries as bs
  | _, _ => false

end

mutual

theorem same_iff : (a b : Value) → (same a b = true ↔ a = b)
  | .sequence as, .sequence bs => by simp [same, sameAll_iff as bs]
  | .mapping as, .mapping bs => by simp [same, sameEntries_iff as bs]
  | .null, b | .boolean _, b | .integer _, b | .number _, b | .text _, b | .moment _, b => by
    cases b <;> simp [same]
  | .sequence _, .null | .sequence _, .boolean _ | .sequence _, .integer _ | .sequence _, .number _
  | .sequence _, .text _ | .sequence _, .moment _ | .sequence _, .mapping _ => by simp [same]
  | .mapping _, .null | .mapping _, .boolean _ | .mapping _, .integer _ | .mapping _, .number _
  | .mapping _, .text _ | .mapping _, .moment _ | .mapping _, .sequence _ => by simp [same]

theorem sameAll_iff : (as bs : List Value) → (sameAll as bs = true ↔ as = bs)
  | [], [] => by simp [sameAll]
  | [], _ :: _ | _ :: _, [] => by simp [sameAll]
  | a :: as, b :: bs => by simp [sameAll, same_iff a b, sameAll_iff as bs]

theorem sameEntries_iff : (as bs : List (Value × Value)) → (sameEntries as bs = true ↔ as = bs)
  | [], [] => by simp [sameEntries]
  | [], _ :: _ | _ :: _, [] => by simp [sameEntries]
  | (a, x) :: as, (b, y) :: bs => by
    simp [sameEntries, same_iff a b, same_iff x y, sameEntries_iff as bs, and_assoc]

end

instance : DecidableEq Value := fun a b => decidable_of_iff (same a b = true) (same_iff a b)

/-- Entries in which a key has a value: where it came up first, if it did. -/
def setEntry (key value : Value) : List (Value × Value) → List (Value × Value)
  | [] => [(key, value)]
  | (k, v) :: rest => if same k key then (k, value) :: rest else (k, v) :: setEntry key value rest

/-- A value may be a key if nothing is inside it. -/
def isKey : Value → Bool
  | .sequence _ | .mapping _ => false
  | _ => true

end Value

namespace Data

variable {α : Type} [Object α]

/-- The value of a key that is a text. -/
def entry? (name : String) : List (Data α × Data α) → Option (Data α)
  | [] => none
  | (.text key, value) :: rest => if key = name then some value else entry? name rest
  | _ :: rest => entry? name rest

/-- Nothing, zero, no text, and collections without members. -/
def isVoid : Data α → Bool
  | .null => true
  | .boolean value => !value
  | .integer value => value == 0
  | .number (.finite _ mantissa _) => mantissa == 0
  | .number _ => false
  | .text value => value.isEmpty
  | .moment _ => false
  | .sequence items => items.isEmpty
  | .mapping entries => entries.isEmpty
  | .object value => Object.isVoid value

mutual

/-- A value as `repr` shows it: texts in quotes. -/
def shown : Data α → String
  | .null => "None"
  | .boolean value => if value then "True" else "False"
  | .integer value => toString value
  | .number value => value.text
  | .text value => quote value
  | .moment value => value.shown
  | .sequence items => "[" ++ ", ".intercalate (shownAll items) ++ "]"
  | .mapping entries => "\x7b" ++ ", ".intercalate (shownEntries entries) ++ "\x7d"
  | .object value => (Object.shown? value).getD ""

def shownAll : List (Data α) → List String
  | [] => []
  | item :: rest => shown item :: shownAll rest

def shownEntries : List (Data α × Data α) → List String
  | [] => []
  | (key, value) :: rest => (shown key ++ ": " ++ shown value) :: shownEntries rest

end

mutual

/-- No whole number in a value has more digits than are written. -/
def isWritable : Data α → Bool
  | .integer value => (writeNumeral value.natAbs).toOption.isSome
  | .sequence items => areWritable items
  | .mapping entries => areWritableEntries entries
  | .object value => (Object.shown? value).isSome
  | _ => true

def areWritable : List (Data α) → Bool
  | [] => true
  | item :: rest => isWritable item && areWritable rest

def areWritableEntries : List (Data α × Data α) → Bool
  | [] => true
  | (key, value) :: rest => isWritable key && isWritable value && areWritableEntries rest

end

end Data
end MavenResolution.Yaml
