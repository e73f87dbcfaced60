import Mathlib.Data.Option.Basic
import MavenResolution.Metadata
import MavenResolution.Pom
import MavenResolution.Proofs.Outcome
import MavenResolution.Settings

/-! Documents whose names belong to one namespace. A document gets there by a declaration in its first tag. POMs
and settings say the same whatever namespace their names belong to; metadata say nothing in any. -/
namespace MavenResolution.Xml

variable {space : List Char}

/-! Elements. -/

namespace Element

mutual

/-- The element with all its names put into a namespace. -/
def within (space : List Char) : Element → Element
  | .mk name text children => .mk ⟨some space, name.base⟩ text (withinAll space children)

def withinAll (space : List Char) : List Element → List Element
  | [] => []
  | child :: rest => within space child :: withinAll space rest

end

mutual

theorem withoutSpaces_within (space : List Char) (element : Element) :
    (element.within space).withoutSpaces = element.withoutSpaces := by
  cases element with
  | mk name text children => rw [within, withoutSpaces, withoutSpaces, withoutSpacesAll_withinAll]

theorem withoutSpacesAll_withinAll (space : List Char) (children : List Element) :
    withoutSpacesAll (withinAll space children) = withoutSpacesAll children := by
  cases children with
  | nil => rfl
  | cons child rest =>
    rw [withinAll, withoutSpacesAll, withoutSpacesAll, withoutSpaces_within, withoutSpacesAll_withinAll]

end

theorem withinAll_eq_map (children : List Element) : withinAll space children = children.map (within space) := by
  induction children with
  | nil => rfl
  | cons child rest ih => rw [withinAll, ih, List.map_cons]

/-- A name that belongs to a namespace is none that belongs to none. -/
theorem isNamed_within (element : Element) (name : String) : isNamed name (element.within space) = false := by
  cases element
  rfl

theorem child?_within (element : Element) (name : String) : (element.within space).child? name = none := by
  cases element with
  | mk own text children =>
    rw [within, child?, withinAll_eq_map, List.find?_eq_none]
    intro child member
    obtain ⟨original, -, rfl⟩ := List.mem_map.mp member
    rw [isNamed_within]
    exact Bool.false_ne_true

end Element

/-! Scopes. -/

namespace Scope

variable {scope : Scope} {attributes : List Attribute}

/-- A name that is no declaration and bears no empty prefix. -/
def IsPlain (name : QName) : Prop := declared? name = none ∧ name.lead ≠ some []

/-- The declaration of the namespace of names without a prefix. -/
def declaration (space : List Char) : Attribute := ⟨⟨none, declarationPrefix⟩, space⟩

theorem find?_cons_nil (nonempty : space ≠ []) : find? (([], space) :: scope) [] = some space := by
  rw [find?, List.lookup_cons_self]
  simpa using nonempty

theorem find?_cons_of_ne {lead : List Char} (ne : lead ≠ []) :
    find? (([], space) :: scope) lead = scope.find? lead := by
  rw [find?, List.lookup_cons, beq_false_of_ne ne, find?]

theorem extend_of_isPlain (scope : Scope) (plain : ∀ given ∈ attributes, IsPlain given.name) :
    scope.extend attributes = some scope := by
  induction attributes with
  | nil => rfl
  | cons given rest ih =>
    obtain ⟨here, there⟩ := List.forall_mem_cons.mp plain
    rw [extend, here.1]
    exact ih there

theorem resolveAttribute?_cons {name : QName} (plain : IsPlain name) :
    resolveAttribute? (([], space) :: scope) name = scope.resolveAttribute? name := by
  obtain ⟨lead, base⟩ := name
  cases lead with
  | none => rfl
  | some lead =>
    have ne : lead ≠ [] := fun empty => plain.2 (congrArg some empty)
    rw [resolveAttribute?, resolveAttribute?]
    dsimp only
    rw [resolve?, resolve?]
    dsimp only
    rw [find?_cons_of_ne ne]

theorem meanings?_cons {names : List QName} (plain : ∀ name ∈ names, IsPlain name) :
    meanings? (([], space) :: scope) names = scope.meanings? names := by
  have kept : (names.filter fun name => (declared? name).isNone) = names := List.filter_eq_self.mpr
    fun name member => Option.isNone_iff_eq_none.mpr (plain name member).1
  rw [meanings?, meanings?, kept]
  clear kept
  induction names with
  | nil => rfl
  | cons name rest ih =>
    obtain ⟨here, there⟩ := List.forall_mem_cons.mp plain
    rw [List.mapM_cons, List.mapM_cons, resolveAttribute?_cons here, ih there]

theorem meanings?_declaration (scope : Scope) (names : List QName) :
    scope.meanings? ((declaration space).name :: names) = scope.meanings? names := rfl

theorem admits_cons (plain : ∀ given ∈ attributes, IsPlain given.name) :
    admits (([], space) :: scope) attributes = scope.admits attributes := by
  rw [admits, admits, meanings?_cons (List.forall_mem_map.mpr plain)]

theorem admits_declaration (plain : ∀ given ∈ attributes, IsPlain given.name) :
    scope.admits (declaration space :: attributes) = scope.admits attributes := by
  have absent : (declaration space).name ∉ attributes.map (·.name) := fun member =>
    Option.some_ne_none _ (List.forall_mem_map.mpr plain _ member).1
  simp only [admits, List.map_cons, List.nodup_cons, absent, not_false_eq_true, true_and, meanings?_declaration]

/-- The scope in a tag that declares the namespace of names without a prefix. -/
theorem extend_declaration (plain : ∀ given ∈ attributes, IsPlain given.name) (may : mayBind [] space = true) :
    scope.extend (declaration space :: attributes) = some (([], space) :: scope) := by
  have declares : declared? (declaration space).name = some [] := rfl
  rw [declaration] at declares ⊢
  rw [extend, declares]
  dsimp only
  rw [may]
  exact extend_of_isPlain _ plain

end Scope

/-! Drafts. -/

def OpenElement.within (space : List Char) (opened : OpenElement) : OpenElement :=
  { opened with
    name := ⟨some space, opened.name.base⟩
    scope := ([], space) :: opened.scope
    children := opened.children.map (Element.within space) }

theorem OpenElement.close_within (opened : OpenElement) :
    (opened.within space).close = opened.close.within space := by
  rw [close, close, Element.within, Element.withinAll_eq_map, List.map_reverse]
  rfl

theorem OpenElement.addText_within (opened : OpenElement) (text : List Char) :
    (opened.within space).addText text = (opened.addText text).within space := by
  have same : (opened.within space).children.isEmpty = opened.children.isEmpty := by
    rw [within, List.isEmpty_map]
  rw [addText, addText, same]
  split <;> rfl

namespace Draft

def within (space : List Char) (draft : Draft) : Draft :=
  { draft with
    opened := draft.opened.map (OpenElement.within space)
    root := draft.root.map (Element.within space) }

variable {draft draft' : Draft} {token : Token}

theorem addElement_within (draft : Draft) (element : Element) :
    (draft.within space).addElement (element.within space) = (draft.addElement element).within space := by
  obtain ⟨opened, root, hasDoctype⟩ := draft
  cases opened <;> rfl

/-- Places an element of which the start tag has been met. -/
def place (draft : Draft) (opened : OpenElement) (closed : Bool) : Draft :=
  if closed then draft.addElement opened.close else { draft with opened := opened :: draft.opened }

theorem place_within (draft : Draft) (opened : OpenElement) (closed : Bool) :
    (draft.within space).place (opened.within space) closed = (draft.place opened closed).within space := by
  cases closed with
  | false => rfl
  | true => exact (congrArg _ opened.close_within).trans (draft.addElement_within _)

theorem addOpening_eq {scope : Scope} {written : QName} {attributes : List Attribute} (plain : written.lead = none)
    (extended : draft.scope.extend attributes = some scope) (closed : Bool) :
    draft.addOpening written attributes closed =
      if draft.root.isNone = true ∧ scope.admits attributes = true then
        some (draft.place { written, name := ⟨scope.find? [], written.base⟩, scope } closed)
      else none := by
  have resolves : scope.resolve? written = some ⟨scope.find? [], written.base⟩ := by rw [Scope.resolve?, plain]
  rw [addOpening, extended]
  dsimp only [Option.bind_eq_bind, Option.bind_some]
  rw [resolves]
  generalize scope.admits attributes = admitted
  cases draft.root.isNone with
  | false => rfl
  | true => cases admitted <;> cases closed <;> rfl

/-- A start tag that leads into the namespace. -/
theorem addOpening_within (draft : Draft) {written : QName} {attributes attributes' : List Attribute}
    (nonempty : space ≠ []) (plain : written.lead = none)
    (extended : draft.scope.extend attributes = some draft.scope)
    (extended' : (draft.within space).scope.extend attributes' = some (([], space) :: draft.scope))
    (admits : Scope.admits (([], space) :: draft.scope) attributes' = draft.scope.admits attributes) (closed : Bool) :
    (draft.within space).addOpening written attributes' closed =
      (draft.addOpening written attributes closed).map (within space) := by
  have root : (draft.within space).root.isNone = draft.root.isNone := Option.isNone_map
  rw [addOpening_eq plain extended, addOpening_eq plain extended', admits, root, Scope.find?_cons_nil nonempty]
  split
  · exact congrArg some (draft.place_within ⟨written, ⟨_, written.base⟩, draft.scope, [], []⟩ closed)
  · rfl

theorem addClosing_within (written : QName) :
    (draft.within space).addClosing written = (draft.addClosing written).map (within space) := by
  obtain ⟨opened, root, hasDoctype⟩ := draft
  cases opened with
  | nil => rfl
  | cons innermost outer =>
    change (if innermost.written = written then some (addElement _ (innermost.within space).close) else none) =
      Option.map _ (if innermost.written = written then _ else _)
    split
    · rw [innermost.close_within]
      exact congrArg some (addElement_within ⟨outer, root, hasDoctype⟩ innermost.close)
    · rfl

theorem addCharacters_within (raw : List Char) :
    (draft.within space).addCharacters raw = (draft.addCharacters raw).map (within space) := by
  obtain ⟨opened, root, hasDoctype⟩ := draft
  cases opened with
  | nil =>
    change (if raw.all isSpace then _ else none) = Option.map _ (if raw.all isSpace then _ else none)
    split <;> rfl
  | cons parent outer =>
    change (guard _ >>= fun _ => Token.expand? raw >>= fun text => some (Draft.mk
        ((parent.within space).addText text :: outer.map (OpenElement.within space)) _ _)) =
      Option.map _ (guard _ >>= fun _ => Token.expand? raw >>= _)
    cases clean : (Token.cutAt [']', ']', '>'] raw).isNone with
    | false => rfl
    | true =>
      cases Token.expand? raw with
      | none => rfl
      | some text =>
        change some (Draft.mk ((parent.within space).addText text :: _) _ _) = _
        rw [parent.addText_within]
        rfl

theorem addLiteral_within (text : List Char) :
    (draft.within space).addLiteral text = (draft.addLiteral text).map (within space) := by
  obtain ⟨opened, root, hasDoctype⟩ := draft
  cases opened with
  | nil => rfl
  | cons parent outer =>
    change some (Draft.mk ((parent.within space).addText text :: outer.map (OpenElement.within space)) _ _) = _
    rw [parent.addText_within]
    rfl

/-- A token that bears no prefix and declares no namespace. -/
def IsPlain : Token → Prop
  | .opening name attributes _ => name.lead = none ∧ ∀ given ∈ attributes, Scope.IsPlain given.name
  | _ => True

theorem scope_within (inside : draft.opened ≠ []) : (draft.within space).scope = ([], space) :: draft.scope := by
  obtain ⟨opened, root, hasDoctype⟩ := draft
  cases opened with
  | nil => exact absurd rfl inside
  | cons parent outer => rfl

theorem addOpening_of_root (ended : draft.root.isNone = false) (written : QName) (attributes : List Attribute)
    (closed : Bool) : draft.addOpening written attributes closed = none := by
  rw [addOpening, ended]
  rfl

/-- What a token does behind the first tag is the same in a namespace. -/
theorem add_within (nonempty : space ≠ []) (started : draft.isBefore = false) (plain : IsPlain token) :
    (draft.within space).add token = (draft.add token).map (within space) := by
  cases token with
  | opening written attributes closed =>
    obtain ⟨noPrefix, plain⟩ := plain
    by_cases inside : draft.opened = []
    · have ended : draft.root.isNone = false := by simpa [isBefore, inside] using started
      have ended' : (draft.within space).root.isNone = false := Option.isNone_map.trans ended
      rw [add, add, addOpening_of_root ended, addOpening_of_root ended', Option.map_none]
    · refine addOpening_within draft nonempty noPrefix (Scope.extend_of_isPlain _ plain) ?_
        (Scope.admits_cons plain) closed
      rw [Scope.extend_of_isPlain _ plain, scope_within inside]
  | closing written => exact addClosing_within written
  | characters raw => exact addCharacters_within raw
  | literal text => exact addLiteral_within text
  | doctype =>
    have started' : (draft.within space).isBefore = false := by
      rwa [isBefore, within, List.isEmpty_map, Option.isNone_map]
    rw [add, add, started, started']
    rfl
  | remark => rfl

theorem isBefore_addElement (draft : Draft) (element : Element) : (draft.addElement element).isBefore = false := by
  obtain ⟨opened, root, hasDoctype⟩ := draft
  cases opened <;> rfl

theorem isBefore_addOpening {written : QName} {attributes : List Attribute} {closed : Bool}
    (added : draft.addOpening written attributes closed = some draft') : draft'.isBefore = false := by
  obtain ⟨-, -, extended⟩ := Option.bind_eq_some_iff.mp added
  obtain ⟨scope, -, admitted⟩ := Option.bind_eq_some_iff.mp extended
  obtain ⟨-, -, resolved⟩ := Option.bind_eq_some_iff.mp admitted
  obtain ⟨name, -, placed⟩ := Option.bind_eq_some_iff.mp resolved
  split at placed
  · cases placed
    exact isBefore_addElement _ _
  · cases placed
    rfl

theorem isBefore_addCharacters {raw : List Char} (started : draft.isBefore = false)
    (added : draft.addCharacters raw = some draft') : draft'.isBefore = false := by
  obtain ⟨opened, root, hasDoctype⟩ := draft
  cases opened with
  | nil =>
    change (if raw.all isSpace then some _ else none) = some draft' at added
    split at added
    · cases added
      exact started
    · cases added
  | cons parent outer =>
    obtain ⟨-, -, expanded⟩ := Option.bind_eq_some_iff.mp added
    obtain ⟨text, -, ⟨⟩⟩ := Option.bind_eq_some_iff.mp expanded
    rfl

/-- Nothing leads back in front of the first tag. -/
theorem isBefore_add (started : draft.isBefore = false) (added : draft.add token = some draft') :
    draft'.isBefore = false := by
  cases token with
  | opening written attributes closed => exact isBefore_addOpening added
  | closing written =>
    rw [add, addClosing] at added
    split at added
    · cases added
    · split at added
      · cases added
        exact isBefore_addElement _ _
      · cases added
  | characters raw => exact isBefore_addCharacters started added
  | literal text =>
    rw [add, addLiteral] at added
    split at added
    · cases added
    · cases added
      rfl
  | doctype =>
    rw [add, started] at added
    cases added
  | remark =>
    cases added
    exact started

theorem addAll_within (nonempty : space ≠ []) {tokens : List Token} (started : draft.isBefore = false)
    (plain : ∀ token ∈ tokens, IsPlain token) :
    (draft.within space).addAll tokens = (draft.addAll tokens).map (within space) := by
  induction tokens generalizing draft with
  | nil => rfl
  | cons token rest ih =>
    obtain ⟨here, there⟩ := List.forall_mem_cons.mp plain
    rw [addAll, addAll, add_within nonempty started here]
    cases added : draft.add token with
    | none => rfl
    | some next => exact ih (isBefore_add started added) there

/-- The tokens of a document with a declaration in its first tag. -/
def declare (space : List Char) : List Token → List Token
  | [] => []
  | .opening name attributes closed :: rest => .opening name (Scope.declaration space :: attributes) closed :: rest
  | token :: rest => token :: declare space rest

/-- In front of the first tag a draft is the same in a namespace, and the first tag leads into it. -/
theorem addAll_declare (nonempty : space ≠ []) (may : Scope.mayBind [] space = true) {tokens : List Token}
    (plain : ∀ token ∈ tokens, IsPlain token) (hasDoctype : Bool) :
    (Draft.mk [] none hasDoctype).addAll (declare space tokens) =
      ((Draft.mk [] none hasDoctype).addAll tokens).map (within space) := by
  induction tokens generalizing hasDoctype with
  | nil => rfl
  | cons token rest ih =>
    obtain ⟨here, there⟩ := List.forall_mem_cons.mp plain
    cases token with
    | opening written attributes closed =>
      obtain ⟨noPrefix, plain⟩ := here
      have admits : Scope.admits (([], space) :: Scope.initial) (Scope.declaration space :: attributes) =
          Scope.initial.admits attributes := by
        rw [Scope.admits_declaration plain, Scope.admits_cons plain]
      have opened := addOpening_within ⟨[], none, hasDoctype⟩ nonempty noPrefix
        (Scope.extend_of_isPlain _ plain) (Scope.extend_declaration plain may) admits closed
      rw [declare, addAll, addAll, add, add]
      change (addOpening (within space ⟨[], none, hasDoctype⟩) _ _ _ >>= _) = _
      rw [opened]
      cases added : addOpening ⟨[], none, hasDoctype⟩ written attributes closed with
      | none => rfl
      | some next => exact addAll_within nonempty (isBefore_addOpening added) there
    | closing written => rfl
    | characters raw =>
      change ((if raw.all isSpace then _ else none) >>= _) =
        Option.map _ ((if raw.all isSpace then _ else none) >>= _)
      split
      · exact ih there hasDoctype
      · rfl
    | literal text => rfl
    | doctype =>
      cases hasDoctype with
      | false => exact ih there true
      | true => rfl
    | remark => exact ih there hasDoctype

end Draft

namespace Element

/-- A declaration in the first tag puts all elements of a document into its namespace. -/
theorem ofTokens?_declare (nonempty : space ≠ []) (may : Scope.mayBind [] space = true) {tokens : List Token}
    (plain : ∀ token ∈ tokens, Draft.IsPlain token) :
    ofTokens? (Draft.declare space tokens) = (ofTokens? tokens).map (within space) := by
  rw [ofTokens?, ofTokens?, Draft.addAll_declare nonempty may plain false]
  cases Draft.addAll {} tokens with
  | none => rfl
  | some draft =>
    obtain ⟨opened, root, hasDoctype⟩ := draft
    cases opened <;> rfl

end Element

/-! What documents say. -/

theorem metadata_ofElement_within (root : Element) : Metadata.ofElement (root.within space) = {} := by
  rw [Metadata.ofElement, root.child?_within]
  rfl

/-- A declaration in the first tag of a document puts its elements into a namespace. POMs and settings say there
what they say in none; metadata say the same only if they say nothing. -/
theorem ofElement_within (root : Element) (space : List Char) :
    (∀ tokens, (∀ token ∈ tokens, Draft.IsPlain token) → space ≠ [] → Scope.mayBind [] space = true →
        Element.ofTokens? tokens = some root →
          Element.ofTokens? (Draft.declare space tokens) = some (root.within space)) ∧
      (∀ sourcePath repository,
        Pom.ofElement (root.within space) sourcePath repository = Pom.ofElement root sourcePath repository) ∧
      (∀ environment, Settings.ofElement environment (root.within space) = Settings.ofElement environment root) ∧
      (Metadata.ofElement (root.within space) = Metadata.ofElement root ↔ Metadata.ofElement root = {}) := by
  refine ⟨?_, ?_, ?_, ?_⟩
  · intro tokens plain nonempty may read
    rw [Element.ofTokens?_declare nonempty may plain, read, Option.map_some]
  · intro sourcePath repository
    rw [Pom.ofElement, root.withoutSpaces_within, ← Pom.ofElement]
  · intro environment
    rw [Settings.ofElement, root.withoutSpaces_within, ← Settings.ofElement]
  · rw [metadata_ofElement_within]
    exact eq_comm

theorem ofElement_within_project :
    Element.ofTokens? [.opening ⟨none, "project".toList⟩ [Scope.declaration "urn:p".toList] false,
        .opening ⟨none, "artifactId".toList⟩ [] false, .characters ['a'], .closing ⟨none, "artifactId".toList⟩,
        .closing ⟨none, "project".toList⟩] =
      some (Element.within "urn:p".toList
        (.mk ⟨none, "project".toList⟩ [] [.mk ⟨none, "artifactId".toList⟩ ['a'] []])) :=
  (ofElement_within _ "urn:p".toList).1
    [.opening ⟨none, "project".toList⟩ [] false, .opening ⟨none, "artifactId".toList⟩ [] false,
      .characters ['a'], .closing ⟨none, "artifactId".toList⟩, .closing ⟨none, "project".toList⟩]
    (by simp [Draft.IsPlain]) (by decide) (by decide) rfl

/-- Metadata that name a version name none in a namespace. -/
theorem exists_metadata_within :
    Metadata.read (.text "<metadata><versioning><release>1</release></versioning></metadata>".toList) =
        .ok { release := some "1" } ∧
      Metadata.read (.text
        "<metadata xmlns='urn:m'><versioning><release>1</release></versioning></metadata>".toList) = .ok {} := by
  constructor
  · exact eq_ok_of_toOption (by decide +kernel)
  · exact eq_ok_of_toOption (by decide +kernel)

end MavenResolution.Xml
