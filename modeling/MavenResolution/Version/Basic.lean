import MavenResolution.Text.Casing
import MavenResolution.Text.Numeral
import MavenResolution.Version.Lexeme
import MavenResolution.Version.Order

/-! Versions: a text, and the item tree by which it is ordered. -/
namespace MavenResolution.Version

open Text

/-- The qualifier that a word stands for. -/
def qualifierOf (word : List Char) (beforeDigit : Bool) : String :=
  let name := String.ofList word
  canonicalName (if beforeDigit then abbreviated name else name)

/-- The normal item list that lexemes denote. A separator without an item in front of it stands
for zero; a hyphen and the border between digits and letters open a nested list. -/
def itemsOf : List Lexeme → Except NumeralError (List Item)
  | [] => .ok []
  | .dot :: rest => do return prepend (.number 0) (← itemsOf rest)
  | .hyphen :: rest => do return prepend (.number 0) (enclose (← itemsOf rest))
  | .digits run :: [] => do return prepend (.number (← readNumeral run)) []
  | .digits run :: .dot :: rest => do
    let value ← readNumeral run
    return prepend (.number value) (← itemsOf rest)
  | .digits run :: .hyphen :: rest => do
    let value ← readNumeral run
    return prepend (.number value) (enclose (← itemsOf rest))
  | .digits run :: next :: rest => do
    let value ← readNumeral run
    return prepend (.number value) (enclose (← itemsOf (next :: rest)))
  | .word run :: [] => .ok (prepend (.qualifier (qualifierOf run false)) [])
  | .word run :: .dot :: rest => do
    return prepend (.qualifier (qualifierOf run false)) (← itemsOf rest)
  | .word run :: .hyphen :: rest => do
    return prepend (.qualifier (qualifierOf run false)) (enclose (← itemsOf rest))
  | .word run :: next :: rest => do
    return prepend (.qualifier (qualifierOf run true)) (enclose (← itemsOf (next :: rest)))

/-- The item tree of a version text, without regard to case. -/
def parse (text : String) : Except NumeralError (List Item) :=
  itemsOf (lexemes (lowercase text.toList))

end Version

/-- A version text with its item tree. -/
structure Version where
  text : String
  items : List Version.Item

namespace Version

open Text

def ofText (text : String) : Except NumeralError Version := do
  return ⟨text, ← parse text⟩

def compare (left right : Version) : Ordering := compareItems left.items right.items

/-! How versions stand to each other. Being lower and being equal are read off the comparison, the
rest off these two. -/

def isBelow (left right : Version) : Bool := left.compare right == .lt

def equals (left right : Version) : Bool := left.compare right == .eq

def isAbove (left right : Version) : Bool := !left.isBelow right && !left.equals right

def isAtMost (left right : Version) : Bool := left.isBelow right || left.equals right

def isAtLeast (left right : Version) : Bool := !left.isBelow right

/-- The text of the item tree of a version. -/
def canonical (version : Version) : String := Item.text (.nested version.items)

/-- Texts compared as versions. The left one is read first. -/
def compareTexts (left right : String) : Except NumeralError Ordering := do
  let left ← ofText left
  return left.compare (← ofText right)

/-- The first of the greatest versions. -/
def greatest : Version → List Version → Version
  | best, [] => best
  | best, version :: rest =>
    greatest (if version.compare best = .gt then version else best) rest

def max? : List Version → Option Version
  | [] => none
  | version :: rest => some (greatest version rest)

def readAll (texts : List String) : Except NumeralError (List Version) := texts.mapM ofText

end MavenResolution.Version
