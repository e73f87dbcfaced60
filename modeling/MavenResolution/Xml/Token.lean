import MavenResolution.Xml.Name

/-! Documents cut into tags, character data and the rest of the markup. -/
namespace MavenResolution.Xml

structure Attribute where
  name : QName
  value : List Char
  deriving DecidableEq, Repr

inductive Token where
  /-- A start tag. It is closed if it makes an empty element. -/
  | opening (name : QName) (attributes : List Attribute) (closed : Bool)
  | closing (name : QName)
  /-- Character data as written, references included. -/
  | characters (raw : List Char)
  /-- Character data that holds no markup. -/
  | literal (text : List Char)
  | doctype
  /-- A comment or an instruction. -/
  | remark
  deriving DecidableEq, Repr

namespace Token

/-- The rest of a text behind a mark that it begins with. -/
def dropMark : (mark text : List Char) → Option (List Char)
  | [], text => some text
  | m :: mark, c :: text => if m == c then dropMark mark text else none
  | _ :: _, [] => none

/-- The text before the first occurrence of a mark, and the text behind it. -/
def cutAt (mark : List Char) : List Char → Option (List Char × List Char)
  | [] => none
  | c :: rest =>
    match dropMark mark (c :: rest) with
    | some behind => some ([], behind)
    | none => (cutAt mark rest).map fun (first, behind) => (c :: first, behind)

def skipSpace (text : List Char) : List Char := text.dropWhile isSpace

def digitOf? (base : Nat) (c : Char) : Option Nat :=
  let digit? :=
    if '0' ≤ c ∧ c ≤ '9' then some (c.toNat - '0'.toNat)
    else if 'a' ≤ c ∧ c ≤ 'f' then some (c.toNat - 'a'.toNat + 10)
    else if 'A' ≤ c ∧ c ≤ 'F' then some (c.toNat - 'A'.toNat + 10)
    else none
  digit?.filter (· < base)

/-- The character with the number that the digits denote. -/
def numbered? (base : Nat) (digits : List Char) : Option Char := do
  let values ← digits.mapM (digitOf? base)
  let code := values.foldl (fun code digit => base * code + digit) 0
  if values.isEmpty || !isCodePoint code then none else some (Char.ofNat code)

/-- The character that a reference stands for: the text between its marks is given. -/
def reference? : List Char → Option Char
  | '#' :: 'x' :: digits => numbered? 16 digits
  | '#' :: digits => numbered? 10 digits
  | name =>
    if name = "lt".toList then some '<'
    else if name = "gt".toList then some '>'
    else if name = "amp".toList then some '&'
    else if name = "quot".toList then some '"'
    else if name = "apos".toList then some '\''
    else none

/-- A text with its references replaced. `pending` is what has been read of a reference. -/
def expandFrom (pending : Option (List Char)) : List Char → Option (List Char)
  | [] => if pending.isSome then none else some []
  | c :: rest =>
    match pending with
    | none => if c == '&' then expandFrom (some []) rest else (c :: ·) <$> expandFrom none rest
    | some name =>
      if c == ';' then do
        let character ← reference? name
        (character :: ·) <$> expandFrom none rest
      else expandFrom (some (name ++ [c])) rest

def expand? (text : List Char) : Option (List Char) := expandFrom none text

/-- The value of an attribute between the given quotes. Line ends and tabs in it are blanks. -/
def takeValue : List Char → Option (List Char × List Char)
  | [] => none
  | quote :: rest => do
    guard (quote == '"' || quote == '\'')
    let (raw, rest) ← cutAt [quote] rest
    guard (!raw.contains '<')
    let value ← expand? (raw.map fun c => if isSpace c then ' ' else c)
    return (value, rest)

/-- The attributes of a start tag, whether it closes its element, and the text behind it. White
space stands in front of every attribute. -/
def takeAttributes : (fuel : Nat) → List Char → Option (List Attribute × Bool × List Char)
  | 0, _ => none
  | fuel + 1, text =>
    match skipSpace text with
    | '>' :: rest => some ([], false, rest)
    | '/' :: '>' :: rest => some ([], true, rest)
    | inner => do
      guard (inner.length < text.length)
      let (name, rest) ← takeQName inner
      let rest ← dropMark ['='] (skipSpace rest)
      let (value, rest) ← takeValue (skipSpace rest)
      let (others, closed, rest) ← takeAttributes fuel rest
      return (⟨name, value⟩ :: others, closed, rest)

def takeOpening (text : List Char) : Option (Token × List Char) := do
  let (name, rest) ← takeQName text
  let (attributes, closed, rest) ← takeAttributes (rest.length + 1) rest
  return (.opening name attributes closed, rest)

def takeClosing (text : List Char) : Option (Token × List Char) := do
  let (name, rest) ← takeQName text
  let rest ← dropMark ['>'] (skipSpace rest)
  return (.closing name, rest)

/-- A comment ends at its first double hyphen. -/
def takeComment (text : List Char) : Option (Token × List Char) := do
  let (_, rest) ← cutAt ['-', '-'] text
  let rest ← dropMark ['>'] rest
  return (.remark, rest)

/-- The name is reserved for the declaration at the start of a document. -/
def isReserved (target : List Char) : Bool := target.map Char.toLower == "xml".toList

def takeInstruction (text : List Char) : Option (Token × List Char) := do
  let (target, rest) ← takeName text
  guard (!isReserved target)
  guard ((rest.head?.map isSpace).getD false || (dropMark ['?', '>'] rest).isSome)
  let (_, rest) ← cutAt ['?', '>'] rest
  return (.remark, rest)

def takeLiteral (text : List Char) : Option (Token × List Char) := do
  let (inner, rest) ← cutAt [']', ']', '>'] text
  return (.literal inner, rest)

/-- A document type that declares nothing but its name. One with an external identifier or an internal
subset is not read. -/
def takeDoctype (text : List Char) : Option (Token × List Char) := do
  guard ((text.head?.map isSpace).getD false)
  let (_, rest) ← takeQName (skipSpace text)
  let rest ← dropMark ['>'] (skipSpace rest)
  return (.doctype, rest)

def takeMarkup (text : List Char) : Option (Token × List Char) :=
  match dropMark ['!', '-', '-'] text with
  | some rest => takeComment rest
  | none => match dropMark "![CDATA[".toList text with
    | some rest => takeLiteral rest
    | none => match dropMark "!DOCTYPE".toList text with
      | some rest => takeDoctype rest
      | none => match text with
        | '?' :: rest => takeInstruction rest
        | '/' :: rest => takeClosing rest
        | _ => takeOpening text

/-- The first token of a text, and the text behind it. -/
def take : List Char → Option (Token × List Char)
  | [] => none
  | '<' :: rest => takeMarkup rest
  | c :: rest => some (.characters (c :: rest.takeWhile (· != '<')), rest.dropWhile (· != '<'))

def ofCharsWith : (fuel : Nat) → List Char → Option (List Token)
  | _, [] => some []
  | 0, _ :: _ => none
  | fuel + 1, text => do
    let (token, rest) ← take text
    (token :: ·) <$> ofCharsWith fuel rest

/-- The tokens of a text. Every token takes a character at least. -/
def ofChars? (text : List Char) : Option (List Token) := ofCharsWith text.length text

end Token
end MavenResolution.Xml
