import MavenResolution.Xml.Token

/-! Elements, and how tags make them. Names that are written alike may belong to different
namespaces: a name means what the declarations around it say. -/
namespace MavenResolution.Xml

/-- A name with the namespace that it belongs to. -/
structure Name where
  space : Option (List Char)
  base : List Char
  deriving DecidableEq, Repr

/-- An element with the text in front of its first child. -/
inductive Element where
  | mk (name : Name) (text : List Char) (children : List Element)
  deriving Repr

namespace Element

def name : Element → Name
  | .mk name _ _ => name

def text : Element → List Char
  | .mk _ text _ => text

def children : Element → List Element
  | .mk _ _ children => children

end Element

/-- The namespaces of the prefixes in force, the innermost first. The empty prefix stands for the
namespace of names that have none. -/
abbrev Scope := List (List Char × List Char)

namespace Scope

def markupSpace : List Char := "http://www.w3.org/XML/1998/namespace".toList

def declarationSpace : List Char := "http://www.w3.org/2000/xmlns/".toList

def markupPrefix : List Char := "xml".toList

def declarationPrefix : List Char := "xmlns".toList

def initial : Scope := [(markupPrefix, markupSpace)]

/-- A prefix may be given a namespace: a prefix cannot be taken back, and the reserved prefixes
and namespaces go together. -/
def mayBind (lead space : List Char) : Bool :=
  !space.contains '\x7d' && (lead.isEmpty || !space.isEmpty) && lead != declarationPrefix &&
    (lead == markupPrefix) == (space == markupSpace) && space != declarationSpace

/-- The namespace of a prefix. -/
def find? (scope : Scope) (lead : List Char) : Option (List Char) :=
  (List.lookup lead scope).filter (!·.isEmpty)

/-- The prefix that an attribute declares. -/
def declared? (name : QName) : Option (List Char) :=
  match name.lead with
  | none => if name.base = declarationPrefix then some [] else none
  | some lead => if lead = declarationPrefix then some name.base else none

/-- The scope inside a tag with some attributes. -/
def extend (scope : Scope) : List Attribute → Option Scope
  | [] => some scope
  | ⟨name, value⟩ :: rest =>
    match declared? name with
    | none => scope.extend rest
    | some lead => do
      guard (mayBind lead value)
      Scope.extend ((lead, value) :: scope) rest

/-- The meaning of an element's name. -/
def resolve? (scope : Scope) (name : QName) : Option Name :=
  match name.lead with
  | none => some ⟨scope.find? [], name.base⟩
  | some lead => (scope.find? lead).map fun space => ⟨some space, name.base⟩

/-- The meaning of an attribute's name. Without a prefix it belongs to no namespace. -/
def resolveAttribute? (scope : Scope) (name : QName) : Option Name :=
  match name.lead with
  | none => some ⟨none, name.base⟩
  | some _ => scope.resolve? name

/-- What the names of attributes mean, declarations apart. -/
def meanings? (scope : Scope) (names : List QName) : Option (List Name) :=
  (names.filter fun name => (declared? name).isNone).mapM scope.resolveAttribute?

/-- The attributes of a tag have names that differ, as written and as meant. -/
def admits (scope : Scope) (attributes : List Attribute) : Bool :=
  let names := attributes.map (·.name)
  decide names.Nodup && (scope.meanings? names).any fun meanings => decide meanings.Nodup

end Scope

/-- An element whose end tag has not been met. Its children are in reverse order. -/
structure OpenElement where
  written : QName
  name : Name
  scope : Scope
  text : List Char := []
  children : List Element := []
  deriving Repr

namespace OpenElement

def close (opened : OpenElement) : Element :=
  .mk opened.name opened.text opened.children.reverse

def addText (opened : OpenElement) (text : List Char) : OpenElement :=
  if opened.children.isEmpty then { opened with text := opened.text ++ text } else opened

def addChild (opened : OpenElement) (child : Element) : OpenElement :=
  { opened with children := child :: opened.children }

end OpenElement

/-- What has been read of a document: the elements that are open, the innermost first, the root
once it is closed, and whether a document type came by. -/
structure Draft where
  opened : List OpenElement := []
  root : Option Element := none
  hasDoctype : Bool := false
  deriving Repr

namespace Draft

def isBefore (document : Draft) : Bool := document.opened.isEmpty && document.root.isNone

/-- Places a complete element. -/
def addElement (document : Draft) (element : Element) : Draft :=
  match document.opened with
  | parent :: outer => { document with opened := parent.addChild element :: outer }
  | [] => { document with root := some element }

/-- Outside the root there is white space only. -/
def addCharacters (document : Draft) (raw : List Char) : Option Draft :=
  match document.opened with
  | [] => if raw.all isSpace then some document else none
  | parent :: outer => do
    guard (Token.cutAt [']', ']', '>'] raw).isNone
    return { document with opened := parent.addText (← Token.expand? raw) :: outer }

def addLiteral (document : Draft) (text : List Char) : Option Draft :=
  match document.opened with
  | [] => none
  | parent :: outer => some { document with opened := parent.addText text :: outer }

def scope (document : Draft) : Scope :=
  (document.opened.head?.map (·.scope)).getD Scope.initial

def addOpening (document : Draft) (written : QName) (attributes : List Attribute)
    (closed : Bool) : Option Draft := do
  guard (document.root.isNone)
  let scope ← document.scope.extend attributes
  guard (scope.admits attributes)
  let opened : OpenElement := { written, name := ← scope.resolve? written, scope }
  if closed then return document.addElement opened.close
  else return { document with opened := opened :: document.opened }

/-- An end tag closes the innermost open element, and bears its name as written. -/
def addClosing (document : Draft) (written : QName) : Option Draft :=
  match document.opened with
  | [] => none
  | innermost :: outer =>
    if innermost.written = written then
      some ({ document with opened := outer }.addElement innermost.close)
    else none

def add (document : Draft) : Token → Option Draft
  | .opening name attributes closed => document.addOpening name attributes closed
  | .closing name => document.addClosing name
  | .characters raw => document.addCharacters raw
  | .literal text => document.addLiteral text
  | .doctype =>
    if document.isBefore && !document.hasDoctype then some { document with hasDoctype := true }
    else none
  | .remark => some document

def addAll (document : Draft) : List Token → Option Draft
  | [] => some document
  | token :: rest => do (← document.add token).addAll rest

end Draft

namespace Element

/-- The root that some tokens make. -/
def ofTokens? (tokens : List Token) : Option Element := do
  let document ← Draft.addAll {} tokens
  guard document.opened.isEmpty
  document.root

end Element
end MavenResolution.Xml
