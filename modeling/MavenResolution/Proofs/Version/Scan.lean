import MavenResolution.Proofs.Outcome
import MavenResolution.Proofs.Version.Borders
import MavenResolution.Proofs.Version.Exchange
import MavenResolution.Proofs.Version.Runs

/-! Version texts read from the left, one character after the other. Items are added to the list that was opened
last; a hyphen, and a border between digits and letters, open another list in it. Behind the last character the
lists lose the items at their ends that say nothing, the innermost list first. What is left is the item tree of the
text, and every list in it is in normal form. -/
namespace MavenResolution.Version

open Text

/-- What has been read of a text. -/
structure Scan where
  /-- The lists around the one that was opened last, the innermost first, each as far as the next one in it. -/
  outer : List (List Item) := []
  /-- The list that was opened last. -/
  items : List Item := []
  /-- The characters of the next item. -/
  run : List Char := []
  /-- The last character that was no separator is a digit. -/
  digits : Bool := false

namespace Scan

/-- The item that is read; without any characters it is zero. -/
def pending (scan : Scan) (beforeDigit : Bool) : Except NumeralError Item :=
  if scan.run.isEmpty then .ok (.number 0)
  else if scan.digits then .number <$> readNumeral scan.run
  else .ok (.qualifier (qualifierOf scan.run beforeDigit))

def put (scan : Scan) (item : Item) : Scan := { scan with items := scan.items ++ [item], run := [] }

/-- Opens a list in the last one. -/
def nest (scan : Scan) : Scan := { scan with outer := scan.items :: scan.outer, items := [] }

def step (scan : Scan) (c : Char) : Except NumeralError Scan :=
  if c == '.' then scan.put <$> scan.pending false
  else if c == '-' then (fun item => (scan.put item).nest) <$> scan.pending false
  else if scan.run.isEmpty || scan.digits == isDigit c then
    .ok { scan with run := scan.run ++ [c], digits := isDigit c }
  else (fun item => { (scan.put item).nest with run := [c], digits := isDigit c }) <$> scan.pending true

def finish (scan : Scan) : Except NumeralError Scan :=
  if scan.run.isEmpty then .ok scan else scan.put <$> scan.pending false

def ofChars (text : List Char) : Except NumeralError Scan := text.foldlM step {} >>= finish

/-- A list, backwards, without the items that say nothing, up to the first number or qualifier that says something. -/
def dropNull : List Item → List Item
  | [] => []
  | item :: rest =>
    if item.isNull then dropNull rest else if item.isNested then item :: dropNull rest else item :: rest

def normalize (items : List Item) : List Item := (dropNull items.reverse).reverse

/-- The lists put into one another, each in normal form before it is put into the next. -/
def close : (outer : List (List Item)) → List Item → List Item
  | [], items => normalize items
  | frame :: outer, items => close outer (frame ++ [.nested (normalize items)])

def tree (scan : Scan) : List Item := close scan.outer scan.items

end Scan

/-! Lists in normal form. -/

variable {item : Item} {items inner frame list : List Item} {outer : List (List Item)}

/-- A number, or a qualifier by the name that stands for all its spellings. -/
def Item.IsPlain : Item → Prop
  | .number _ => True
  | .qualifier name => canonicalName name = name
  | .nested _ => False

/-- Numbers and qualifiers, and at most one list, which stands last and is not empty. The last number or qualifier is
neither zero nor a name of the release. -/
structure IsNormal (items : List Item) : Prop where
  parts : ∃ flat nested, items = flat ++ nested ∧ (∀ item ∈ flat, item.isNested = false) ∧
    (nested = [] ∨ ∃ inner, inner ≠ [] ∧ nested = [.nested inner]) ∧
    ∀ last ∈ flat.getLast?, last ≠ .number 0 ∧ ∀ name, canonicalName name = "" → last ≠ .qualifier name

/-- The lists of a tree: the whole one and those nested in it. -/
inductive Within : List Item → List Item → Prop
  | whole {items : List Item} : Within items items
  | nested {list inner items : List Item} : .nested inner ∈ items → Within list inner → Within list items

theorem Item.IsPlain.isNested_eq (plain : item.IsPlain) : item.isNested = false := by
  cases item with
  | number | qualifier => rfl
  | nested => cases plain

theorem flat_of_plain (plain : ∀ item ∈ frame, item.IsPlain) : ∀ item ∈ frame, item.isNested = false :=
  fun item member => (plain item member).isNested_eq

theorem canonicalName_canonicalName (name : String) : canonicalName (canonicalName name) = canonicalName name := by
  by_cases release : canonicalName name = ""
  · rw [release]
    rfl
  · unfold canonicalName at *
    split_ifs at * <;> simp_all

theorem isPlain_qualifierOf (word : List Char) (beforeDigit : Bool) :
    Item.IsPlain (.qualifier (qualifierOf word beforeDigit)) :=
  canonicalName_canonicalName _

namespace Scan

/-! Numbers and qualifiers at the end that say nothing. -/

theorem dropNull_reverse_append_singleton (flat : item.isNested = false) :
    (dropNull (items ++ [item]).reverse).reverse =
      if item.isNull then (dropNull items.reverse).reverse else items ++ [item] := by
  rw [List.reverse_append, List.reverse_singleton, List.singleton_append, dropNull, flat]
  split <;> simp

/-- What is left of numbers and qualifiers ends with one that says something. -/
theorem normalize_flat (flat : ∀ item ∈ frame, item.isNested = false) :
    normalize frame <+: frame ∧ ∀ last ∈ (normalize frame).getLast?, last.isNull = false := by
  induction frame using List.reverseRecOn with
  | nil => exact ⟨List.prefix_rfl, nofun⟩
  | append_singleton front last ih =>
    rw [List.forall_mem_append] at flat
    rw [normalize, dropNull_reverse_append_singleton (flat.2 last (List.mem_singleton_self last))]
    obtain ⟨starts, ends⟩ := ih flat.1
    split
    · exact ⟨starts.trans (List.prefix_append _ _), ends⟩
    · rename_i telling
      refine ⟨List.prefix_rfl, fun other same => ?_⟩
      rw [List.getLast?_concat, Option.mem_some_iff] at same
      rw [← same]
      exact Bool.eq_false_iff.mpr telling

theorem normalize_nested (frame inner : List Item) :
    normalize (frame ++ [.nested inner]) = normalize frame ++ enclose inner := by
  rw [normalize, normalize, List.reverse_append, List.reverse_singleton, List.singleton_append, dropNull]
  cases inner with
  | nil => simp [Item.isNull, enclose]
  | cons first rest => simp [Item.isNull, Item.isNested, enclose]

end Scan

theorem Item.IsPlain.ne_of_isNull_eq (plain : item.IsPlain) (telling : item.isNull = false) :
    item ≠ .number 0 ∧ ∀ name, canonicalName name = "" → item ≠ .qualifier name := by
  constructor
  · rintro rfl
    cases telling
  · rintro name release rfl
    have empty : name = "" := Eq.trans plain.symm release
    rw [empty] at telling
    exact absurd telling (by decide)

theorem isNormal_of_frame (plain : ∀ item ∈ frame, item.IsPlain) (inner : List Item) :
    IsNormal (Scan.normalize frame ++ enclose inner) := by
  have flat := flat_of_plain plain
  obtain ⟨starts, ends⟩ := Scan.normalize_flat flat
  refine ⟨_, _, rfl, fun item member => flat item (starts.subset member), ?_, fun last same => ?_⟩
  · cases inner with
    | nil => exact .inl rfl
    | cons first rest => exact .inr ⟨_, List.cons_ne_nil first rest, rfl⟩
  · exact (plain last (starts.subset (List.mem_of_mem_getLast? same))).ne_of_isNull_eq (ends last same)

theorem isNormal_of_within (plain : ∀ item ∈ frame, item.IsPlain) (normal : ∀ list, Within list inner → IsNormal list)
    (within : Within list (Scan.normalize frame ++ enclose inner)) : IsNormal list := by
  cases within with
  | whole => exact isNormal_of_frame plain inner
  | nested member deeper =>
    obtain first | last := List.mem_append.mp member
    · have flat := flat_of_plain plain
      exact absurd (flat _ ((Scan.normalize_flat flat).1.subset first)) (by simp [Item.isNested])
    · cases inner with
      | nil => cases last
      | cons item rest =>
        cases List.mem_singleton.mp last
        exact normal list deeper

theorem within_nil (within : Within list []) : IsNormal list := by
  cases within with
  | whole => exact ⟨[], [], rfl, nofun, .inl rfl, nofun⟩
  | nested member => cases member

namespace Scan

/-- Every list is in normal form when it is put into the next one, and stays so. -/
theorem isNormal_of_within_close (plain : ∀ frame ∈ outer, ∀ item ∈ frame, item.IsPlain)
    (normal : ∀ list, Within list (normalize items) → IsNormal list) (within : Within list (close outer items)) :
    IsNormal list := by
  induction outer generalizing items with
  | nil => exact normal list within
  | cons frame outer ih =>
    obtain ⟨plainFrame, plain⟩ := List.forall_mem_cons.mp plain
    refine ih plain (fun deeper inside => ?_) within
    rw [normalize_nested] at inside
    exact isNormal_of_within plainFrame normal inside

/-! What is read of a text. -/

/-- Characters of the kind that the run is made of. -/
def kind (scan : Scan) : Char → Bool := if scan.digits then isDigit else isLetter

/-- The lists hold numbers and qualifiers by their proper names, and the run characters of one kind. -/
structure Proper (scan : Scan) : Prop where
  items : ∀ item ∈ scan.items, item.IsPlain
  outer : ∀ frame ∈ scan.outer, ∀ item ∈ frame, item.IsPlain
  run : ∀ c ∈ scan.run, scan.kind c = true

variable {scan next : Scan} {c : Char} {text : List Char} {beforeDigit : Bool}

theorem Proper.start : Proper {} := ⟨nofun, nofun, nofun⟩

theorem Proper.put (proper : scan.Proper) (plain : item.IsPlain) : (scan.put item).Proper where
  items := List.forall_mem_append.mpr ⟨proper.items, List.forall_mem_singleton.mpr plain⟩
  outer := proper.outer
  run := nofun

theorem Proper.nest (proper : scan.Proper) : scan.nest.Proper where
  items := nofun
  outer := List.forall_mem_cons.mpr ⟨proper.items, proper.outer⟩
  run := proper.run

theorem kind_of_not_separator (dot : c ≠ '.') (hyphen : c ≠ '-') :
    (if isDigit c then isDigit else isLetter) c = true := by
  obtain same | same | digit | letter := kinds c
  · exact absurd same dot
  · exact absurd same hyphen
  · rw [if_pos digit, digit]
  · rw [(isLetter_iff.mp letter).2, if_neg Bool.false_ne_true, letter]

theorem Proper.withRun (proper : scan.Proper) {run : List Char} {digits : Bool}
    (alike : ∀ c ∈ run, (if digits then isDigit else isLetter) c = true) :
    Proper { scan with run, digits } where
  items := proper.items
  outer := proper.outer
  run := alike

theorem isPlain_of_pending (read : scan.pending beforeDigit = .ok item) : item.IsPlain := by
  unfold pending at read
  split at read
  · cases read
    trivial
  · split at read
    · obtain ⟨value, -, rfl⟩ := map_eq_ok_iff.mp read
      trivial
    · cases read
      exact isPlain_qualifierOf ..

theorem Proper.step (proper : scan.Proper) (stepped : scan.step c = .ok next) : next.Proper := by
  unfold Scan.step at stepped
  split at stepped
  · obtain ⟨item, read, rfl⟩ := map_eq_ok_iff.mp stepped
    exact proper.put (isPlain_of_pending read)
  · split at stepped
    · obtain ⟨item, read, rfl⟩ := map_eq_ok_iff.mp stepped
      exact (proper.put (isPlain_of_pending read)).nest
    · rename_i dot hyphen
      have own := kind_of_not_separator (by simpa using dot) (by simpa using hyphen)
      split at stepped
      · rename_i goesOn
        cases stepped
        refine proper.withRun (List.forall_mem_append.mpr ⟨fun d member => ?_, List.forall_mem_singleton.mpr own⟩)
        rw [Bool.or_eq_true, List.isEmpty_iff, beq_iff_eq] at goesOn
        obtain empty | same := goesOn
        · rw [empty] at member
          cases member
        · rw [← same]
          exact proper.run d member
      · obtain ⟨item, read, rfl⟩ := map_eq_ok_iff.mp stepped
        exact ((proper.put (isPlain_of_pending read)).nest).withRun (List.forall_mem_singleton.mpr own)

theorem Proper.finish (proper : scan.Proper) (finished : scan.finish = .ok next) : next.Proper := by
  unfold Scan.finish at finished
  split at finished
  · cases finished
    exact proper
  · obtain ⟨item, read, rfl⟩ := map_eq_ok_iff.mp finished
    exact proper.put (isPlain_of_pending read)

theorem Proper.foldlM_step (proper : scan.Proper) (stepped : text.foldlM Scan.step scan = .ok next) :
    next.Proper := by
  induction text generalizing scan with
  | nil =>
    cases stepped
    exact proper
  | cons c text ih =>
    rw [List.foldlM_cons] at stepped
    obtain ⟨after, first, rest⟩ := bind_eq_ok_iff.mp stepped
    exact ih (proper.step first) rest

theorem proper_of_ofChars (read : ofChars text = .ok scan) : scan.Proper := by
  obtain ⟨last, stepped, finished⟩ := bind_eq_ok_iff.mp read
  exact (Proper.start.foldlM_step stepped).finish finished

theorem Proper.isNormal_of_within (proper : scan.Proper) (within : Within list scan.tree) : IsNormal list := by
  refine isNormal_of_within_close proper.outer (fun deeper inside => ?_) within
  have alone : normalize scan.items ++ enclose [] = normalize scan.items := List.append_nil _
  rw [← alone] at inside
  exact Version.isNormal_of_within proper.items (fun _ => within_nil) inside

/-! What comes out is what the lexemes denote. -/

theorem foldr_prepend_of_not_startsNested (flat : ∀ item ∈ frame, item.isNested = false)
    (telling : startsNested items = false) : frame.foldr prepend items = frame ++ items := by
  induction frame with
  | nil => rfl
  | cons item rest ih =>
    obtain ⟨first, others⟩ := List.forall_mem_cons.mp flat
    rw [List.foldr_cons, ih others, prepend]
    have apart : startsNested (rest ++ items) = false := by
      cases rest with
      | nil => exact telling
      | cons next rest => exact others next List.mem_cons_self
    rw [apart, Bool.and_false, if_neg Bool.false_ne_true]
    rfl

theorem foldr_prepend (flat : ∀ item ∈ frame, item.isNested = false) (silent : startsNested items = true) :
    frame.foldr prepend items = normalize frame ++ items := by
  induction frame using List.reverseRecOn with
  | nil => rfl
  | append_singleton front last ih =>
    rw [List.forall_mem_append] at flat
    have flatLast := flat.2 last (List.mem_singleton_self last)
    rw [List.foldr_append, List.foldr_cons, List.foldr_nil, normalize, dropNull_reverse_append_singleton flatLast,
      prepend, silent, Bool.and_true]
    split
    · exact ih flat.1
    · have telling : startsNested (last :: items) = false := flatLast
      rw [foldr_prepend_of_not_startsNested flat.1 telling, List.append_assoc, List.singleton_append]

/-- What the lists come to when they end in the given items. -/
def enclosing : (outer : List (List Item)) → List Item → List Item
  | [], items => items
  | frame :: outer, items => enclosing outer (frame.foldr prepend (enclose items))

def closed (scan : Scan) (rest : List Item) : List Item := enclosing scan.outer (scan.items.foldr prepend rest)

theorem startsNested_enclose (items : List Item) : startsNested (enclose items) = true := by
  cases items <;> rfl

theorem close_eq_enclosing (plain : ∀ frame ∈ outer, ∀ item ∈ frame, item.IsPlain) (items : List Item) :
    close outer items = enclosing outer (normalize items) := by
  induction outer generalizing items with
  | nil => rfl
  | cons frame outer ih =>
    obtain ⟨plainFrame, plain⟩ := List.forall_mem_cons.mp plain
    have flat := flat_of_plain plainFrame
    rw [close, ih plain, normalize_nested, enclosing, foldr_prepend flat (startsNested_enclose _)]

theorem Proper.tree_eq (proper : scan.Proper) : scan.tree = scan.closed [] := by
  have flat := flat_of_plain proper.items
  rw [tree, close_eq_enclosing proper.outer, closed, foldr_prepend flat rfl, List.append_nil]

theorem closed_put (scan : Scan) (item : Item) (rest : List Item) :
    (scan.put item).closed rest = scan.closed (prepend item rest) := by
  rw [closed, closed, put, List.foldr_append]
  rfl

theorem map_closed_put_nest (scan : Scan) (item : Item) (result : Except NumeralError (List Item)) :
    (scan.put item).nest.closed <$> result =
      (fun rest => scan.closed (prepend item rest)) <$> enclose <$> result := by
  rw [Functor.map_map]
  exact congrArg (· <$> result) (funext fun rest => scan.closed_put item (enclose rest))

/-- A run that no character of its kind follows is read as one item. -/
theorem Proper.itemsOf_run (proper : scan.Proper) (filled : scan.run ≠ [])
    (ended : ∀ c ∈ text.head?, scan.kind c = false) : itemsOf (lexemes (scan.run ++ text)) =
      scan.pending (startsRun (lexemes text)) >>= fun item => prepend item <$> itemsBehind (lexemes text) := by
  have alike := proper.run
  have begun : scan.run.isEmpty = false := List.isEmpty_eq_false_iff.mpr filled
  unfold kind at alike ended
  unfold pending
  rw [begun, if_neg Bool.false_ne_true]
  cases digits : scan.digits with
  | true =>
    rw [digits] at alike ended
    have ending : Lexeme.startsDigits (lexemes text) = false := by
      cases text with
      | nil => rfl
      | cons c rest => rw [startsDigits_lexemes]; exact ended c rfl
    rw [lexemes_digits_append alike filled ending, itemsOf_digits, if_pos rfl, map_eq_pure_bind, bind_assoc]
    rfl
  | false =>
    rw [digits] at alike ended
    have ending : Lexeme.startsWord (lexemes text) = false := by
      cases text with
      | nil => rfl
      | cons c rest => rw [startsWord_lexemes]; exact ended c rfl
    rw [lexemes_word_append alike filled ending, itemsOf_word]
    rfl

/-- Where a character ends the item before it, the lexemes denote that item and what stands behind. -/
theorem Proper.itemsOf_pending (proper : scan.Proper) (empty : scan.run = [] → c = '.' ∨ c = '-')
    (ended : scan.kind c = false) (text : List Char) : itemsOf (lexemes (scan.run ++ c :: text)) =
      scan.pending (startsRun (lexemes (c :: text))) >>= fun item =>
        prepend item <$> itemsBehind (lexemes (c :: text)) := by
  by_cases filled : scan.run = []
  · have zero (beforeDigit : Bool) : scan.pending beforeDigit = .ok (.number 0) := by
      rw [pending, filled]
      rfl
    rw [filled, zero]
    obtain rfl | rfl := empty filled
    · exact itemsOf_dot (lexemes text)
    · exact itemsOf_hyphen (lexemes text)
  · refine proper.itemsOf_run filled fun d first => ?_
    cases first
    exact ended

/-- A character that ends an item, and the text behind it. -/
theorem Proper.tree_cons (proper : scan.Proper) {after : Item → Scan} {behind : Except NumeralError (List Item)}
    (stepped : scan.step c = after <$> scan.pending beforeDigit)
    (later : ∀ item, (after item).Proper → tree <$> (text.foldlM Scan.step (after item) >>= Scan.finish) =
      (fun rest => scan.closed (prepend item rest)) <$> behind) :
    tree <$> ((c :: text).foldlM Scan.step scan >>= Scan.finish) =
      scan.closed <$> (scan.pending beforeDigit >>= fun item => prepend item <$> behind) := by
  rw [List.foldlM_cons]
  cases read : scan.pending beforeDigit with
  | error fault =>
    rw [stepped, read]
    rfl
  | ok item =>
    rw [read] at stepped
    rw [stepped]
    exact (later item (proper.step stepped)).trans (Functor.map_map ..).symm

theorem kind_of_separator (scan : Scan) (separator : c = '.' ∨ c = '-') : scan.kind c = false := by
  unfold kind
  obtain rfl | rfl := separator <;> split <;> decide

theorem kind_of_other (different : scan.digits ≠ isDigit c) : scan.kind c = false := by
  unfold kind
  cases digits : scan.digits with
  | true =>
    rw [digits] at different
    simpa using different.symm
  | false =>
    rw [digits] at different
    have digit : isDigit c = true := by simpa using different.symm
    simpa using isLetter_of_isDigit digit

theorem startsRun_of_not_separator (dot : c ≠ '.') (hyphen : c ≠ '-') (text : List Char) :
    startsRun (lexemes (c :: text)) = true := by
  obtain same | same | digit | letter := kinds c
  · exact absurd same dot
  · exact absurd same hyphen
  · exact startsRun_lexemes (.inl digit) text
  · exact startsRun_lexemes (.inr letter) text

theorem step_of_not_separator (scan : Scan) (dot : c ≠ '.') (hyphen : c ≠ '-') : scan.step c =
    if scan.run.isEmpty || scan.digits == isDigit c then .ok { scan with run := scan.run ++ [c], digits := isDigit c }
    else (fun item => { (scan.put item).nest with run := [c], digits := isDigit c }) <$> scan.pending true := by
  rw [Scan.step, if_neg (by simpa using dot), if_neg (by simpa using hyphen)]

/-- What is read of a text to its end, put behind what has been read before. -/
theorem Proper.tree_foldlM (proper : scan.Proper) (text : List Char) :
    tree <$> (text.foldlM Scan.step scan >>= Scan.finish) = scan.closed <$> itemsOf (lexemes (scan.run ++ text)) := by
  -- The run that is not ended belongs to the lexemes of what follows, so it stands in front of them all along.
  induction text generalizing scan with
  | nil =>
    rw [List.foldlM_nil, pure_bind, Scan.finish]
    split
    · rename_i empty
      rw [List.isEmpty_iff.mp empty]
      exact congrArg Except.ok proper.tree_eq
    · rename_i filled
      rw [proper.itemsOf_run (by simpa using filled) (fun _ first => by cases first)]
      change tree <$> scan.put <$> scan.pending false = scan.closed <$> (scan.pending false >>= _)
      cases read : scan.pending false with
      | error fault => rfl
      | ok item =>
        have whole := (proper.put (isPlain_of_pending read)).tree_eq
        rw [closed_put] at whole
        exact congrArg Except.ok whole
  | cons c text ih =>
    by_cases dot : c = '.'
    · subst dot
      have separator : '.' = '.' ∨ '.' = '-' := .inl rfl
      rw [proper.itemsOf_pending (fun _ => separator) (scan.kind_of_separator separator)]
      refine proper.tree_cons rfl fun item next => (ih next).trans ?_
      exact congrArg (· <$> itemsOf (lexemes text)) (funext (scan.closed_put item))
    by_cases hyphen : c = '-'
    · subst hyphen
      have separator : '-' = '.' ∨ '-' = '-' := .inr rfl
      rw [proper.itemsOf_pending (fun _ => separator) (scan.kind_of_separator separator)]
      refine proper.tree_cons rfl fun item next => (ih next).trans ?_
      exact scan.map_closed_put_nest item (itemsOf (lexemes text))
    have stepped := scan.step_of_not_separator dot hyphen
    by_cases goesOn : (scan.run.isEmpty || scan.digits == isDigit c) = true
    · rw [if_pos goesOn] at stepped
      rw [List.foldlM_cons, stepped]
      refine (ih (proper.step stepped)).trans ?_
      rw [List.append_assoc]
      rfl
    · rw [if_neg goesOn] at stepped
      rw [Bool.or_eq_true, not_or, List.isEmpty_iff, beq_iff_eq] at goesOn
      have run := startsRun_of_not_separator dot hyphen text
      rw [proper.itemsOf_pending (fun empty => absurd empty goesOn.1) (kind_of_other goesOn.2), run,
        itemsBehind_of_startsRun run]
      refine proper.tree_cons stepped fun item next => (ih next).trans ?_
      exact scan.map_closed_put_nest item (itemsOf (lexemes (c :: text)))

end Scan

/-- The items of a text are the lists that it is read into, each in normal form. -/
theorem parse_eq_tree (text : String) : parse text = Scan.tree <$> Scan.ofChars (lowercase text.toList) :=
  ((Scan.Proper.start.tree_foldlM _).trans (id_map _)).symm

/-- The tree of a version text is what the text is read into from the left, and all of its lists are in normal
form. -/
theorem parse_normal {text : String} {items : List Item} (read : parse text = .ok items) :
    (∃ scan, Scan.ofChars (lowercase text.toList) = .ok scan ∧ items = scan.tree) ∧
      ∀ list, Within list items → IsNormal list := by
  rw [parse_eq_tree] at read
  obtain ⟨scan, scanned, rfl⟩ := map_eq_ok_iff.mp read
  exact ⟨⟨scan, scanned, rfl⟩, fun list => (Scan.proper_of_ofChars scanned).isNormal_of_within⟩

/-- Zeros and releases in front of lists, and a list that loses all of its items. -/
theorem parse_normal_nested :
    let candidate : List Item := [.qualifier "rc", .nested [.number 1]]
    let items : List Item := [.number 1, .nested [.number 2, .nested candidate]]
    parse "1.0.GA-2.0-RC1.0-final" = .ok items ∧
      (∃ scan, Scan.ofChars (lowercase "1.0.GA-2.0-RC1.0-final".toList) = .ok scan ∧ scan.outer.length = 4 ∧
        items = scan.tree) ∧
      IsNormal candidate := by
  intro candidate items
  have read : parse "1.0.GA-2.0-RC1.0-final" = .ok items := rfl
  obtain ⟨⟨scan, scanned, tree⟩, normal⟩ := parse_normal read
  have deep : Within candidate [.number 2, .nested candidate] := .nested (.tail _ (.head _)) .whole
  refine ⟨read, ⟨scan, scanned, ?_, tree⟩, normal candidate (.nested (.tail _ (.head _)) deep)⟩
  cases scanned
  rfl

end MavenResolution.Version
