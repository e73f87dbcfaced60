import MavenResolution.Text.Lines
import MavenResolution.Yaml.Text

/-! Configuration documents: mappings and sequences, written in brackets or by indentation. They are read by
`safe_load` of PyYAML, which is no part of this library: it is a parameter of all that is said about
configurations. Here is a reader of plain documents: one without tags, anchors, directives, merge keys, explicit
keys and block scalars. -/
namespace MavenResolution.Yaml

/-- What `yaml.safe_load` makes of a text. -/
abbrev Reader (α : Type) := List Char → Except Fault (Data α)

/-- How long a key may be, its blanks included. -/
def keyLimit : Nat := 1024

/-- What stands at one place is the key of a colon at another: on one line, and not too long. -/
def isKeyOf (start colon : Cursor) : Bool :=
  start.line == colon.line && start.rest.length - colon.rest.length ≤ keyLimit

/-- Entries with one more, whose key has to be one that nothing is inside of. -/
def addEntry (key value : Value) (entries : List (Value × Value)) :
    Except Fault (List (Value × Value)) :=
  if key.isKey then .ok (Value.setEntry key value entries) else .error .malformed

mutual

/-- A value inside brackets, or a collection in brackets. -/
def flowNode : (fuel : Nat) → Cursor → Except Fault (Value × Cursor)
  | 0, _ => .error .malformed
  | fuel + 1, cursor =>
    if cursor.isBoundary then .error .malformed
    else match cursor.head? with
      | some '[' => flowSequence fuel true [] cursor.next.skip
      | some '\x7b' => flowMapping fuel true [] cursor.next.skip
      | _ => Scalar.take true 0 cursor

/-- The rest of a sequence in brackets, its items so far in reverse order. An item may be a single
pair. -/
def flowSequence : (fuel : Nat) → (first : Bool) → List Value → Cursor → Except Fault (Value × Cursor)
  | 0, _, _, _ => .error .malformed
  | fuel + 1, first, items, cursor =>
    if cursor.head? == some ']' then .ok (.sequence items.reverse, cursor.next)
    else if !first && cursor.head? != some ',' then .error .malformed
    else
      let start := if first then cursor else cursor.next.skip
      if !first && start.head? == some ']' then .ok (.sequence items.reverse, start.next)
      else do
        let (item, behind) ← flowNode fuel start
        let behind := behind.skip
        if behind.head? == some ':' then
          if !isKeyOf start behind then throw .malformed
          let (value, behind) ← flowValue fuel behind.next.skip
          let entries ← addEntry item value []
          flowSequence fuel false (.mapping entries :: items) behind.skip
        else flowSequence fuel false (item :: items) behind

/-- The rest of a mapping in brackets. A key without a colon has no value. -/
def flowMapping : (fuel : Nat) → (first : Bool) → List (Value × Value) → Cursor →
    Except Fault (Value × Cursor)
  | 0, _, _, _ => .error .malformed
  | fuel + 1, first, entries, cursor =>
    if cursor.head? == some '\x7d' then .ok (.mapping entries, cursor.next)
    else if !first && cursor.head? != some ',' then .error .malformed
    else
      let start := if first then cursor else cursor.next.skip
      if !first && start.head? == some '\x7d' then .ok (.mapping entries, start.next)
      else do
        let (key, behind) ← flowNode fuel start
        let behind := behind.skip
        if behind.head? == some ':' then
          if !isKeyOf start behind then throw .malformed
          let (value, behind) ← flowValue fuel behind.next.skip
          flowMapping fuel false (← addEntry key value entries) behind.skip
        else flowMapping fuel false (← addEntry key .null entries) behind

/-- The value behind a colon inside brackets; none stands in front of a comma or a bracket. -/
def flowValue : (fuel : Nat) → Cursor → Except Fault (Value × Cursor)
  | 0, _ => .error .malformed
  | fuel + 1, cursor =>
    match cursor.head? with
    | some ',' | some ']' | some '\x7d' => .ok (.null, cursor)
    | _ => flowNode fuel cursor

end

/-- A scalar, or a collection in brackets. -/
def leaf (fuel floor : Nat) (cursor : Cursor) : Except Fault (Value × Cursor) :=
  match cursor.head? with
  | some '[' | some '\x7b' => flowNode fuel cursor
  | _ => Scalar.take false floor cursor

/-- The place of the next thing behind a leaf: nothing else stands on its line. -/
def behindLeaf (cursor : Cursor) : Except Fault Cursor :=
  let next := cursor.skip
  if next.isAtEnd || cursor.line < next.line then .ok next else .error .malformed

mutual

/-- The value at a place in column `floor` or behind it, and the place of what follows. -/
def blockNode : (fuel floor : Nat) → Cursor → Except Fault (Value × Cursor)
  | 0, _, _ => .error .malformed
  | fuel + 1, floor, cursor =>
    if cursor.isMark '-' then blockSequence fuel cursor.column false [] cursor
    else do
      let (value, behind) ← leaf fuel floor cursor
      let colon := behind.skip
      if colon.isMark ':' then
        if isKeyOf cursor colon then blockMapping fuel cursor.column value [] colon
        else throw .malformed
      else return (value, ← behindLeaf behind)

/-- The rest of a sequence in a column, from a hyphen on. A sequence that is the value of a key may
stand in the column of the key; the next key ends it. -/
def blockSequence : (fuel column : Nat) → (underKey : Bool) → List Value → Cursor →
    Except Fault (Value × Cursor)
  | 0, _, _, _, _ => .error .malformed
  | fuel + 1, column, underKey, items, hyphen => do
    let start := hyphen.next.skip
    let (item, next) ←
      if start.isAtEnd || (hyphen.line < start.line && start.column ≤ column) then
        .ok (Data.null, start)
      else blockNode fuel (column + 1) start
    let items := item :: items
    if next.isAtEnd || next.column < column then return (.sequence items.reverse, next)
    else if column < next.column then throw .malformed
    else if next.isMark '-' then blockSequence fuel column underKey items next
    else if underKey then return (.sequence items.reverse, next)
    else throw .malformed

/-- The rest of a mapping in a column, from the colon behind a key on. -/
def blockMapping : (fuel column : Nat) → (key : Value) → List (Value × Value) → Cursor →
    Except Fault (Value × Cursor)
  | 0, _, _, _, _ => .error .malformed
  | fuel + 1, column, key, entries, colon => do
    let (value, next) ← blockValue fuel column colon
    let entries ← addEntry key value entries
    if next.isAtEnd || next.column < column then return (.mapping entries, next)
    else if column < next.column then throw .malformed
    else
      let (key, behind) ← leaf fuel (column + 1) next
      let colon := behind.skip
      if colon.isMark ':' && isKeyOf next colon then blockMapping fuel column key entries colon
      else throw .malformed

/-- The value behind the colon of a key in a column. -/
def blockValue : (fuel column : Nat) → Cursor → Except Fault (Value × Cursor)
  | 0, _, _ => .error .malformed
  | fuel + 1, column, colon =>
    let start := colon.next.skip
    if start.isAtEnd then .ok (.null, start)
    else if start.line = colon.line then do
      if start.isMark '-' then throw .malformed
      let (value, behind) ← leaf fuel (column + 1) start
      return (value, ← behindLeaf behind)
    else if column < start.column then blockNode fuel (column + 1) start
    else if start.column = column && start.isMark '-' then
      blockSequence fuel column true [] start
    else .ok (.null, start)

end

/-- A character that a document may hold. -/
def isAllowed (c : Char) : Bool :=
  let n := c.toNat
  n == 9 || n == 10 || n == 13 || (0x20 ≤ n && n ≤ 0x7e) || n == 0x85 ||
    (0xa0 ≤ n && n ≤ 0xfffd) || 0x10000 ≤ n

/-- Behind the marks that end a document. -/
def skipEnds : (fuel : Nat) → Cursor → Cursor
  | 0, cursor => cursor
  | fuel + 1, cursor =>
    if cursor.isMarker "..." then skipEnds fuel cursor.next.next.next.skip else cursor

/-- The value of a document that begins at a place. What stands on the line of its opening mark is
no key. -/
def rootNode (fuel : Nat) (start : Cursor) : Except Fault (Value × Cursor) :=
  if start.isMarker "---" then
    let content := start.next.next.next.skip
    if content.isAtEnd then .ok (.null, content)
    else if content.line = start.line then do
      if content.isMark '-' then throw .malformed
      let (value, behind) ← leaf fuel 0 content
      return (value, ← behindLeaf behind)
    else blockNode fuel 0 content
  else if start.isMarker "..." then .error .malformed
  else blockNode fuel 0 start

/-- The value of a text that holds one document. Notations that are not read here are malformed. -/
def read : Reader Empty := fun text => do
  let text := Text.unifyLines text
  let text := if text.head? == some '\uFEFF' then text.drop 1 else text
  if !text.all isAllowed then throw .malformed
  let start := Cursor.skip ⟨text, 0, 0⟩
  if start.rest.isEmpty then return .null
  let fuel := 3 * text.length + 3
  let (value, next) ← rootNode fuel start
  if (skipEnds text.length next).rest.isEmpty then return value else throw .malformed

end MavenResolution.Yaml
