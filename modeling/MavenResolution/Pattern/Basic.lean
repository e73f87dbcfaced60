import MavenResolution.Text.Blank
import MavenResolution.Text.Casing
import MavenResolution.Text.Digit
import MavenResolution.Text.Word

/-! Patterns and the texts that they match. A pattern takes a position in a text to the positions
where a match from there may end; which of them a repetition prefers does not bear on whether a
pattern matches a whole text. -/
namespace MavenResolution.Pattern

open Text

inductive Category where
  | digit
  | blank
  | word
  deriving DecidableEq, Repr

def Category.holds : Category → Char → Bool
  | .digit, c => isDecimal c
  | .blank, c => isBlank c
  | .word, c => isWord c

/-- A part of a character set. -/
inductive Member where
  | char (c : Char)
  | span (first last : Char)
  | category (kind : Category) (negated : Bool)
  deriving DecidableEq, Repr

/-- Places in a text. -/
inductive Anchor where
  | textStart
  | textEnd
  /-- The end, or in front of a line feed at the end. -/
  | lastLineEnd
  | lineStart
  | lineEnd
  | wordBorder
  | withinWord
  deriving DecidableEq, Repr

inductive Node where
  | literal (c : Char) (caseless : Bool)
  | any (newline : Bool)
  | oneOf (negated caseless : Bool) (members : List Member)
  | anchor (place : Anchor)
  | sequence (nodes : List Node)
  | choice (nodes : List Node)
  | repeated (least : Nat) (most : Option Nat) (node : Node)
  | ahead (negated : Bool) (node : Node)
  deriving Repr, Inhabited

def Member.holds (caseless : Bool) (c : Char) : Member → Bool
  | .char d => if caseless then sameCaseless d c else c == d
  | .span first last =>
    if caseless then (caselessForms c).any fun d => first ≤ d && d ≤ last
    else first ≤ c && c ≤ last
  | .category kind negated => kind.holds (if caseless then lowerChar c else c) != negated

/-- The character before a position belongs to a word. -/
def wordBefore (text : List Char) : (position : Nat) → Bool
  | 0 => false
  | position + 1 => (text[position]?.map isWord).getD false

def wordAfter (text : List Char) (position : Nat) : Bool :=
  (text[position]?.map isWord).getD false

def Anchor.holds (text : List Char) (position : Nat) : Anchor → Bool
  | .textStart => position == 0
  | .textEnd => position == text.length
  | .lastLineEnd => text.drop position == [] || text.drop position == ['\n']
  | .lineStart => position == 0 || text[position - 1]? == some '\n'
  | .lineEnd => position == text.length || text[position]? == some '\n'
  | .wordBorder => !text.isEmpty && wordBefore text position != wordAfter text position
  | .withinWord => !text.isEmpty && wordBefore text position == wordAfter text position

/-- The position behind a character that has a property. -/
def step (text : List Char) (accepts : Char → Bool) (position : Nat) : List Nat :=
  match text[position]? with
  | some c => if accepts c then [position + 1] else []
  | none => []

/-- A relation between positions, `count` times in a row. -/
def times (next : Nat → List Nat) : (count : Nat) → List Nat → List Nat
  | 0, positions => positions
  | count + 1, positions => times next count (positions.flatMap next).eraseDups

/-- A relation between positions, up to `count` times in a row. -/
def upTo (next : Nat → List Nat) : (count : Nat) → List Nat → List Nat
  | 0, positions => positions
  | count + 1, positions =>
    (positions ++ upTo next count (positions.flatMap next).eraseDups).eraseDups

mutual
/-- The positions where a match that starts at a position may end. More repetitions than the
text has characters reach no further positions. -/
def Node.ends (text : List Char) : Node → Nat → List Nat
  | .literal d caseless, position =>
    step text (fun c => if caseless then sameCaseless d c else c == d) position
  | .any newline, position => step text (fun c => newline || c != '\n') position
  | .oneOf negated caseless members, position =>
    step text (fun c => (members.any (·.holds caseless c)) != negated) position
  | .anchor place, position => if place.holds text position then [position] else []
  | .sequence nodes, position => Node.endsAll text nodes position
  | .choice nodes, position => (Node.endsAny text nodes position).eraseDups
  | .repeated least most node, position =>
    let bound := text.length + 1
    let extra := match most with
      | some most => min (most - least) bound
      | none => bound
    upTo (node.ends text) extra (times (node.ends text) (min least bound) [position])
  | .ahead negated node, position =>
    if (node.ends text position).isEmpty == negated then [position] else []

def Node.endsAll (text : List Char) : List Node → Nat → List Nat
  | [], position => [position]
  | node :: rest, position =>
    ((node.ends text position).flatMap (Node.endsAll text rest)).eraseDups

def Node.endsAny (text : List Char) : List Node → Nat → List Nat
  | [], _ => []
  | node :: rest, position => node.ends text position ++ Node.endsAny text rest position
end

/-- The pattern matches the whole text. -/
def Node.matchesAll (node : Node) (text : List Char) : Bool :=
  (node.ends text 0).contains text.length

end MavenResolution.Pattern
