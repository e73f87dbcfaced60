import MavenResolution.Text.Blank
import MavenResolution.Text.Casing
import MavenResolution.Xml.Element

/-! Finding elements and their texts. -/
namespace MavenResolution.Xml.Element

open Text

mutual

/-- The element with all its names taken out of their namespaces. -/
def withoutSpaces : Element → Element
  | .mk name text children => .mk ⟨none, name.base⟩ text (withoutSpacesAll children)

def withoutSpacesAll : List Element → List Element
  | [] => []
  | child :: rest => withoutSpaces child :: withoutSpacesAll rest

end

/-- The element bears a name that belongs to no namespace. -/
def isNamed (name : String) (element : Element) : Bool := element.name == ⟨none, name.toList⟩

def childrenNamed (element : Element) (name : String) : List Element :=
  element.children.filter (isNamed name)

def child? (element : Element) (name : String) : Option Element :=
  element.children.find? (isNamed name)

/-- The children with a name of all children with another name. -/
def grandchildren (element : Element) (outer inner : String) : List Element :=
  (element.childrenNamed outer).flatMap (·.childrenNamed inner)

/-- The children with a name of the first child with another name. -/
def entries (element : Element) (outer inner : String) : List Element :=
  ((element.child? outer).map (·.childrenNamed inner)).getD []

/-- The text of an element without the white space around it, if anything is left. -/
def content? (element : Element) : Option String := strip? (String.ofList element.text)

/-- The text of the first child with a name, if there is one. -/
def childText? (element : Element) (name : String) : Option String :=
  (element.child? name).bind content?

/-- The word for yes, in whatever case. -/
def isTrue (text : String) : Bool := lowercaseText text == "true"

end MavenResolution.Xml.Element
