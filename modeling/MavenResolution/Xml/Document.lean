import MavenResolution.Text.Lines
import MavenResolution.Xml.Element
import MavenResolution.Xml.Encoding

/-! Reading documents. What a session does is said for every reader in the place of `ET.fromstring`; the
one here has neither entities of document types nor codecs that the parser does not know itself. -/
namespace MavenResolution.Xml

open Text

/-- A document as it is given: as text, or as bytes that may declare their encoding. -/
inductive Document where
  | text (content : List Char)
  | octets (content : List UInt8)
  deriving DecidableEq, Repr

namespace Document

/-- The characters up to the first place without one. -/
def leading (characters : List (Option Char)) : List Char :=
  (characters.takeWhile (·.isSome)).filterMap id

/-- The root of a text without its declaration. -/
def ofChars? (text : List Char) : Option Element := do
  guard (text.all fun c => isCodePoint c.toNat)
  let (_, body) ← Declaration.take text
  Element.ofTokens? (← Token.ofChars? (unifyLines body))

/-- The root of a document in bytes; a declared encoding counts only if `declares` says so. -/
def readOctets (declares : Bool) (octets : List UInt8) : Except Fault Element := do
  let (detected, rest) := Encoding.detect octets
  let characters := detected.decode rest
  let some (declaration, _) := Declaration.take (leading characters) | throw .malformed
  let characters ← match declaration.encoding with
    | some name =>
      if declares then pure ((← detected.declared name).decode rest) else pure characters
    | none => pure characters
  match (characters.mapM id).bind ofChars? with
  | some root => return root
  | none => throw .malformed

/-- The root of a document. Text is read through its bytes. -/
def read : Document → Except Fault Element
  | .text content => readOctets false (Utf8.encode content)
  | .octets content => readOctets true content

end Document

/-- What reads documents: `ET.fromstring`. -/
abbrev Reader := Document → Except Fault Element

end MavenResolution.Xml
