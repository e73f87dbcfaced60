import MavenResolution.Yaml.Cursor
import MavenResolution.Yaml.Scalar

/-! Scalars: plain ones, and those in quotes. A scalar may go on over several lines; a line end in
it counts as a blank, and further ones are kept. -/
namespace MavenResolution.Yaml

/-- What stands between two parts of a scalar, and the place behind it. -/
structure Gap where
  text : List Char
  cursor : Cursor
  deriving Repr

namespace Gap

/-- Further line ends of a gap, with the blanks between them. Tabs count only in quotes. A document
boundary ends a scalar. -/
def breaksFrom (tabs : Bool) : (fuel : Nat) → Cursor → Option Gap
  | 0, cursor => some ⟨[], cursor⟩
  | fuel + 1, cursor =>
    if cursor.isBoundary then none
    else match cursor.rest with
      | c :: _ =>
        if c == ' ' || (tabs && c == '\t') then breaksFrom tabs fuel cursor.next
        else if isBreak c then
          (breaksFrom tabs fuel cursor.next).map fun gap =>
            { gap with text := keptBreak c :: gap.text }
        else some ⟨[], cursor⟩
      | [] => some ⟨[], cursor⟩

/-- The gap at a place: its blanks as they are, or what its line ends come to. -/
def take (tabs : Bool) (cursor : Cursor) : Option Gap :=
  let isBlank (c : Char) := c == ' ' || (tabs && c == '\t')
  let blanks := cursor.rest.takeWhile isBlank
  let behind := cursor.along (cursor.rest.dropWhile isBlank)
  match behind.rest with
  | c :: _ =>
    if isBreak c then do
      let gap ← breaksFrom tabs behind.rest.length behind.next
      let first := if keptBreak c != '\n' then [c] else if gap.text.isEmpty then [' '] else []
      return { gap with text := first ++ gap.text }
    else some ⟨blanks, behind⟩
  | [] => some ⟨blanks, behind⟩

end Gap

namespace Scalar

/-- Marks that no plain scalar starts with, unless some of them stand in front of a letter. -/
def marks : List Char := "-?:,[]\x7b\x7d#&*!|>'\"%@`".toList

def startsPlain (flow : Bool) : List Char → Bool
  | [] => false
  | c :: rest =>
    if marks.contains c then
      !isStop rest.head? && (c == '-' || (!flow && (c == '?' || c == ':')))
    else !isStop (some c)

/-- Marks that end a plain scalar inside brackets. -/
def isFlowMark (c : Char) : Bool :=
  c == ',' || c == '?' || c == '[' || c == ']' || c == '\x7b' || c == '\x7d'

def isFlowStop : Option Char → Bool
  | none => true
  | some c => isStop (some c) || (isFlowMark c && c != '?')

/-- A colon ends a plain scalar where it may stand behind a key. -/
def endsPlain (flow : Bool) (c : Char) (next : Option Char) : Bool :=
  isStop (some c) || (c == ':' && (if flow then isFlowStop next else isStop next)) ||
    (flow && isFlowMark c)

/-- The characters of a plain scalar up to a gap or its end. -/
def plainChunk (flow : Bool) : List Char → List Char × List Char
  | [] => ([], [])
  | c :: rest =>
    if endsPlain flow c rest.head? then ([], c :: rest)
    else
      let (chunk, rest) := plainChunk flow rest
      (c :: chunk, rest)

/-- The rest of a plain scalar behind a chunk. It goes on if the gap is followed by something in
column `floor` or behind it; inside brackets the column is no matter. -/
def plainFrom (flow : Bool) (floor : Nat) :
    (fuel : Nat) → (text : List Char) → Cursor → List Char × Cursor
  | 0, text, cursor => (text, cursor)
  | fuel + 1, text, cursor =>
    match Gap.take false cursor with
    | none => (text, cursor)
    | some gap =>
      if gap.text.isEmpty || gap.cursor.head? == some '#' || (!flow && gap.cursor.column < floor) then
        (text, cursor)
      else
        let (chunk, rest) := plainChunk flow gap.cursor.rest
        if chunk.isEmpty then (text, cursor)
        else plainFrom flow floor fuel (text ++ gap.text ++ chunk) (gap.cursor.along rest)

def plain (flow : Bool) (floor : Nat) (cursor : Cursor) : List Char × Cursor :=
  let (chunk, rest) := plainChunk flow cursor.rest
  plainFrom flow floor rest.length chunk (cursor.along rest)

/-- A scalar in single quotes, behind the first one. A doubled quote stands for one. -/
def singleQuoted : (fuel : Nat) → Cursor → Option (List Char × Cursor)
  | 0, _ => none
  | fuel + 1, cursor =>
    match cursor.rest with
    | [] => none
    | '\'' :: '\'' :: _ => (singleQuoted fuel cursor.next.next).map fun (text, c) => ('\'' :: text, c)
    | '\'' :: _ => some ([], cursor.next)
    | c :: _ =>
      if isStop (some c) then do
        let gap ← Gap.take true cursor
        let (text, behind) ← singleQuoted fuel gap.cursor
        return (gap.text ++ text, behind)
      else (singleQuoted fuel cursor.next).map fun (text, behind) => (c :: text, behind)

/-- The character that an escape mark stands for. -/
def escape? (c : Char) : Option Char :=
  match c with
  | '0' => some '\x00'
  | 'a' => some '\x07'
  | 'b' => some '\x08'
  | 't' => some '\t'
  | '\t' => some '\t'
  | 'n' => some '\n'
  | 'v' => some '\x0b'
  | 'f' => some '\x0c'
  | 'r' => some '\r'
  | 'e' => some '\x1b'
  | ' ' => some ' '
  | '"' => some '"'
  | '\\' => some '\\'
  | '/' => some '/'
  | 'N' => some '\x85'
  | '_' => some '\xa0'
  | 'L' => some '\u2028'
  | 'P' => some '\u2029'
  | _ => none

/-- How many hexadecimal digits follow an escape mark. -/
def escapeWidth? (c : Char) : Option Nat :=
  match c with
  | 'x' => some 2
  | 'u' => some 4
  | 'U' => some 8
  | _ => none

/-- The character with the number that the digits behind an escape mark denote. -/
def numbered? (width : Nat) (cursor : Cursor) : Option (Char × Cursor) :=
  let digits := cursor.rest.take width
  let code := valueOf 16 digits
  if digits.length = width && digits.all (isDigitOf 16) && code.isValidChar then
    some (Char.ofNat code, cursor.along (cursor.rest.drop width))
  else none

/-- A scalar in double quotes, behind the first one. -/
def doubleQuoted : (fuel : Nat) → Cursor → Option (List Char × Cursor)
  | 0, _ => none
  | fuel + 1, cursor =>
    match cursor.rest with
    | [] => none
    | '"' :: _ => some ([], cursor.next)
    | '\\' :: c :: _ =>
      let behind := cursor.next.next
      if isBreak c then do
        let gap ← Gap.breaksFrom true behind.rest.length behind
        let (text, behind) ← doubleQuoted fuel gap.cursor
        return (gap.text ++ text, behind)
      else match escape? c with
        | some escaped => (doubleQuoted fuel behind).map fun (text, c) => (escaped :: text, c)
        | none => do
          let (character, behind) ← numbered? (← escapeWidth? c) behind
          let (text, behind) ← doubleQuoted fuel behind
          return (character :: text, behind)
    | c :: _ =>
      if c == '\\' then none
      else if isStop (some c) then do
        let gap ← Gap.take true cursor
        let (text, behind) ← doubleQuoted fuel gap.cursor
        return (gap.text ++ text, behind)
      else (doubleQuoted fuel cursor.next).map fun (text, behind) => (c :: text, behind)

/-- The scalar at a place. -/
def take (flow : Bool) (floor : Nat) (cursor : Cursor) : Except Fault (Value × Cursor) :=
  match cursor.head? with
  | some '\'' =>
    match singleQuoted cursor.rest.length cursor.next with
    | some (text, behind) => .ok (.text (String.ofList text), behind)
    | none => .error .malformed
  | some '"' =>
    match doubleQuoted cursor.rest.length cursor.next with
    | some (text, behind) => .ok (.text (String.ofList text), behind)
    | none => .error .malformed
  | _ =>
    if startsPlain flow cursor.rest then do
      let (text, behind) := plain flow floor cursor
      return (← resolve text, behind)
    else .error .malformed

end Scalar
end MavenResolution.Yaml
