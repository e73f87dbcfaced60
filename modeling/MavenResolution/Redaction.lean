import MavenResolution.Text.Blank
import MavenResolution.Text.Word
import MavenResolution.Url.Basic
import MavenResolution.Url.Query

/-! Redaction of secrets: the values of sensitive keys, and the user info of URLs. -/
namespace MavenResolution.Redaction

open Text

def sensitiveWords : List String :=
  ["token", "password", "passwd", "secret", "key", "auth", "signature"]

def marker : List Char := "[REDACTED]".toList

/-- The rest of a text behind a word that it begins with, in whatever case. -/
def dropWord : (word text : List Char) → Option (List Char)
  | [], text => some text
  | w :: word, c :: text => if sameCaseless w c then dropWord word text else none
  | _ :: _, [] => none

def isSign (c : Char) : Bool := c == '=' || c == ':'

def isValueChar (c : Char) : Bool := !isBlank c && c != '&' && c != ',' && c != ';'

/-- The value behind a sign, and the rest before the value is read. -/
def valueAfterSign (text : List Char) : Option (List Char) :=
  match text.dropWhile isBlank with
  | c :: rest =>
    if isSign c then
      let value := rest.dropWhile isBlank
      if (value.head?.map isValueChar).getD false then some value else none
    else none
  | [] => none

/-- A value given to a sensitive word at the start of a text. -/
structure Assignment where
  /-- How many characters stand in front of the value. -/
  kept : Nat
  /-- How many characters the value has. -/
  hidden : Nat
  deriving DecidableEq, Repr

def assignment? (text : List Char) : Option Assignment := do
  let rest ← sensitiveWords.findSome? fun word => dropWord word.toList text
  let value ← valueAfterSign rest
  return ⟨text.length - value.length, (value.takeWhile isValueChar).length⟩

/-- A text with secret values redacted. `inWord` tells that a word character stands in front, `kept` and `hidden`
how much is left of an assignment that began before. -/
def redactFrom (inWord : Bool) (kept hidden : Nat) : List Char → List Char
  | [] => []
  | c :: rest =>
    match kept, hidden with
    | kept + 1, hidden =>
      c :: (if kept = 0 ∧ 0 < hidden then marker else []) ++ redactFrom (isWord c) kept hidden rest
    | 0, hidden + 1 => redactFrom (isWord c) 0 hidden rest
    | 0, 0 =>
      match if inWord then none else assignment? (c :: rest) with
      | some ⟨kept + 1, hidden⟩ => c :: redactFrom (isWord c) kept hidden rest
      | _ => c :: redactFrom (isWord c) 0 0 rest

def redactChars (text : List Char) : List Char := redactFrom false 0 0 text

/-- A text in which `[REDACTED]` stands for every value given to a sensitive word. -/
def redact (text : String) : String := String.ofList (redactChars text.toList)

def isInfix (word : List Char) : List Char → Bool
  | [] => word.isEmpty
  | c :: rest => word.isPrefixOf (c :: rest) || isInfix word rest

/-- The name of a query pair holds a sensitive word. -/
def isSensitive (name : List Char) : Bool :=
  sensitiveWords.any fun word => isInfix word.toList (lowercase name)

def redactPair (pair : List Char × List Char) : List Char × List Char :=
  (pair.1, if isSensitive pair.1 then marker else pair.2)

def redactQuery (query : List Char) : List Char :=
  if query.isEmpty then [] else Url.Query.ofPairs ((Url.Query.pairs query).map redactPair)

/-- A URL without its user info and without the values of sensitive query pairs. A text that `urlsplit` rejects is
redacted as any other text. -/
def safeUrlChars (text : List Char) (rules : Url.Rules := {}) : List Char :=
  match Url.ofChars? text rules with
  | none => redactChars text
  | some url => Url.toChars
      { url with authority := url.hostAndPort, query := redactQuery url.query } rules

def safeUrl (text : String) (rules : Url.Rules := {}) : String :=
  String.ofList (safeUrlChars text.toList rules)

end MavenResolution.Redaction
