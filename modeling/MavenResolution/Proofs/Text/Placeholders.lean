import Mathlib.Data.List.Infix
import MavenResolution.Text.Placeholder

/-! Texts in which every placeholder is whole, and what they come to when each placeholder with a value gives way to its
value and that to what it comes to in turn. Looking for placeholders again and again comes to the same if no chain of
names, each one in the value of the one before, is longer than the number of times. -/
namespace MavenResolution.Text.Placeholder

def opening : List Char := ['$', '\x7b']

/-- A character with which placeholders are written. -/
def isMark (c : Char) : Bool := c == '$' || c == '\x7b' || c == '\x7d'

structure IsName (name : List Char) : Prop where
  filled : name ≠ []
  unmarked : ∀ c ∈ name, isMark c = false

/-- A part of a text: a character that belongs to no placeholder, or a placeholder. -/
inductive Part where
  | plain (c : Char) (unmarked : isMark c = false)
  | placeholder (name : List Char) (isName : IsName name)

def Part.text : Part → List Char
  | .plain c _ => [c]
  | .placeholder name _ => opening ++ name ++ ['\x7d']

def written (parts : List Part) : List Char := parts.flatMap Part.text

/-- The text holds the placeholder of a name. -/
def Mentions (text name : List Char) : Prop := ∃ isName, (Part.placeholder name isName).text <:+: text

section

variable (value? : List Char → Option (List Char))

/-- What a part gives way to. -/
def Part.replaced : Part → List Char
  | .plain c _ => [c]
  | .placeholder name isName => (value? name).getD (Part.placeholder name isName).text

/-- The text is what the parts come to when every placeholder whose name has a value gives way to what that comes
to. -/
inductive Expands : List Part → List Char → Prop
  | nil : Expands [] []
  | plain {c : Char} {unmarked : isMark c = false} {rest : List Part} {tail : List Char} (later : Expands rest tail) :
    Expands (.plain c unmarked :: rest) (c :: tail)
  | known {name : List Char} {isName : IsName name} {inner rest : List Part} {text tail : List Char}
    (found : value? name = some (written inner)) (within : Expands inner text) (later : Expands rest tail) :
    Expands (.placeholder name isName :: rest) (text ++ tail)
  | unknown {name : List Char} {isName : IsName name} {rest : List Part} {tail : List Char}
    (missing : value? name = none) (later : Expands rest tail) :
    Expands (.placeholder name isName :: rest) ((Part.placeholder name isName).text ++ tail)

/-- Names that have values, the first one mentioned in a text and each other one in the value of the one before. -/
inductive Chain : List Char → List (List Char) → Prop
  | nil {text : List Char} : Chain text []
  | cons {text name value : List Char} {names : List (List Char)} (mentioned : Mentions text name)
    (found : value? name = some value) (behind : Chain value names) : Chain text (name :: names)

/-- No chain that begins in a text is longer than `n`. -/
def Shallow (n : Nat) (text : List Char) : Prop := ∀ names, Chain value? text names → names.length ≤ n

/-- The parts that others become when their names give way to their values. -/
inductive Pass : List Part → List Part → Prop
  | nil : Pass [] []
  | plain {c : Char} {unmarked : isMark c = false} {rest others : List Part} (later : Pass rest others) :
    Pass (.plain c unmarked :: rest) (.plain c unmarked :: others)
  | known {name : List Char} {isName : IsName name} {inner rest others : List Part}
    (found : value? name = some (written inner)) (later : Pass rest others) :
    Pass (.placeholder name isName :: rest) (inner ++ others)
  | unknown {name : List Char} {isName : IsName name} {rest others : List Part} (missing : value? name = none)
    (later : Pass rest others) : Pass (.placeholder name isName :: rest) (.placeholder name isName :: others)

end

section

variable {parts others rest : List Part} {name text tail : List Char}

theorem written_plain {c : Char} (unmarked : isMark c = false) :
    written (.plain c unmarked :: rest) = c :: written rest := rfl

theorem written_placeholder (isName : IsName name) :
    written (.placeholder name isName :: rest) = '$' :: '\x7b' :: (name ++ '\x7d' :: written rest) := by
  simp [written, Part.text, opening]

theorem written_append (parts others : List Part) : written (parts ++ others) = written parts ++ written others :=
  List.flatMap_append

theorem unmarked_of_any {text : List Char} (unmarked : text.any isMark = false) : ∀ c ∈ text, isMark c = false :=
  fun c member => Bool.eq_false_iff.mpr (List.any_eq_false.mp unmarked c member)

theorem ne_of_isMark {c d : Char} (plain : isMark c = false) (mark : isMark d = true) : c ≠ d := by
  rintro rfl
  rw [plain] at mark
  cases mark

theorem IsName.not_mem (isName : IsName name) {mark : Char} (marks : isMark mark = true) : mark ∉ name :=
  fun member => ne_of_isMark (isName.unmarked mark member) marks rfl

/-- A name ends where its brace stands. -/
theorem IsName.append_inj {other : List Char} (isName : IsName name) (isName' : IsName other)
    (same : name ++ '\x7d' :: text = other ++ '\x7d' :: tail) : name = other ∧ text = tail := by
  have brace : '\x7d' ∉ name := isName.not_mem (by decide)
  have brace' : '\x7d' ∉ other := isName'.not_mem (by decide)
  rcases List.append_eq_append_iff.mp same with ⟨more, rfl, tails⟩ | ⟨more, rfl, tails⟩
  · cases more with
    | nil => simpa using tails
    | cons c more =>
      injection tails with first
      exact absurd (List.mem_append_right _ (first ▸ List.mem_cons_self)) brace'
  · cases more with
    | nil => simpa using tails.symm
    | cons c more =>
      injection tails with first
      exact absurd (List.mem_append_right _ (first ▸ List.mem_cons_self)) brace

/-- The parts of a text can be read off it. -/
theorem written_inj : written parts = written others ↔ parts = others := by
  refine ⟨fun same => ?_, congrArg _⟩
  induction parts generalizing others with
  | nil =>
    cases others with
    | nil => rfl
    | cons part rest =>
      cases part with
      | plain c unmarked => cases same
      | placeholder name isName => rw [written_placeholder] at same; cases same
  | cons part rest ih =>
    cases others with
    | nil =>
      cases part with
      | plain c unmarked => cases same
      | placeholder name isName => rw [written_placeholder] at same; cases same
    | cons other rest' =>
      cases part with
      | plain c unmarked =>
        cases other with
        | plain d unmarked' =>
          injection same with first later
          subst first
          rw [ih later]
        | placeholder name isName =>
          rw [written_plain, written_placeholder] at same
          injection same with first
          exact absurd first (ne_of_isMark unmarked (by decide))
      | placeholder name isName =>
        rw [written_placeholder] at same
        cases other with
        | plain d unmarked =>
          injection same with first
          exact absurd first.symm (ne_of_isMark unmarked (by decide))
        | placeholder other isName' =>
          rw [written_placeholder] at same
          injection same with _ same
          injection same with _ same
          obtain ⟨rfl, later⟩ := isName.append_inj isName' same
          rw [ih later]

theorem Mentions.behind_plain {c : Char} (mentions : Mentions (c :: text) name) (unmarked : isMark c = false) :
    Mentions text name := by
  obtain ⟨isName, front, back, whole⟩ := mentions
  rw [List.append_assoc] at whole
  cases front with
  | nil =>
    injection whole with first
    exact absurd first.symm (ne_of_isMark unmarked (by decide))
  | cons d front =>
    injection whole with _ later
    exact ⟨isName, front, back, (List.append_assoc ..).trans later⟩

/-- What is mentioned is the first placeholder, or begins behind it: there is no dollar sign inside. -/
theorem Mentions.behind_placeholder {other : List Char} (isName' : IsName other)
    (mentions : Mentions ('$' :: '\x7b' :: (other ++ '\x7d' :: text)) name) : name = other ∨ Mentions text name := by
  obtain ⟨isName, front, back, whole⟩ := mentions
  have opened : (Part.placeholder name isName).text ++ back = '$' :: '\x7b' :: (name ++ '\x7d' :: back) := by
    simp [Part.text, opening]
  rw [List.append_assoc, opened] at whole
  match front with
  | [] =>
    injection whole with _ whole
    injection whole with _ whole
    exact .inl (isName.append_inj isName' whole).1
  | [_] =>
    injection whole with _ whole
    injection whole with first
    exact absurd first (by decide)
  | _ :: _ :: inner =>
    injection whole with _ whole
    injection whole with _ whole
    rcases List.append_eq_append_iff.mp whole.symm with ⟨more, _, tails⟩ | ⟨more, rfl, tails⟩
    · cases more with
      | nil => injection tails with first; exact absurd first (by decide)
      | cons c more =>
        injection tails with _ later
        exact .inr ⟨isName, more, back, by rw [List.append_assoc, opened]; exact later.symm⟩
    · cases more with
      | nil => injection tails with first; exact absurd first (by decide)
      | cons c more =>
        injection tails with first
        have unmarked : '$' ∉ _ := isName'.not_mem (by decide)
        exact absurd (List.mem_append_right _ (first ▸ List.mem_cons_self)) unmarked

/-- A text mentions the names of its placeholders, and no other ones. -/
theorem mentions_written_iff :
    Mentions (written parts) name ↔ ∃ isName, Part.placeholder name isName ∈ parts := by
  constructor
  · intro mentions
    refine ⟨mentions.1, ?_⟩
    induction parts with
    | nil =>
      obtain ⟨isName, front, back, whole⟩ := mentions
      simp [written, Part.text, opening] at whole
    | cons part rest ih =>
      cases part with
      | plain c unmarked => exact List.mem_cons_of_mem _ (ih (mentions.behind_plain unmarked))
      | placeholder other isName' =>
        rw [written_placeholder] at mentions
        rcases mentions.behind_placeholder isName' with rfl | later
        · exact List.mem_cons_self
        · exact List.mem_cons_of_mem _ (ih later)
  · rintro ⟨isName, member⟩
    obtain ⟨front, back, rfl⟩ := List.append_of_mem member
    refine ⟨isName, written front, written back, ?_⟩
    rw [List.append_assoc, written_append]
    rfl

/-! Looking for placeholders once. -/

variable {value? : List Char → Option (List Char)}

theorem expandFrom_plain {c : Char} (unmarked : isMark c = false) :
    expandFrom opening value? 0 none (c :: text) = c :: expandFrom opening value? 0 none text := by
  have apart : ('$' == c) = false := beq_false_of_ne (ne_of_isMark unmarked (by decide)).symm
  have other : opening.isPrefixOf (c :: text) = false := by simp [opening, List.isPrefixOf, apart]
  rw [expandFrom, other]
  rfl

theorem expandFrom_inside (read : List Char) (unmarked : ∀ c ∈ name, isMark c = false) :
    expandFrom opening value? 0 (some read) (name ++ tail) =
      expandFrom opening value? 0 (some (read ++ name)) tail := by
  induction name generalizing read with
  | nil => simp
  | cons c rest ih =>
    have inside : (c == '\x7d') = false := by
      simpa using ne_of_isMark (unmarked c List.mem_cons_self) (d := '\x7d') (by decide)
    rw [List.cons_append, expandFrom, inside, if_neg Bool.false_ne_true,
      ih _ fun d member => unmarked d (List.mem_cons_of_mem _ member), List.append_assoc, List.singleton_append]

theorem expandFrom_placeholder (isName : IsName name) :
    expandFrom opening value? 0 none ((Part.placeholder name isName).text ++ tail) =
      (value? name).getD (Part.placeholder name isName).text ++ expandFrom opening value? 0 none tail := by
  have begins : (Part.placeholder name isName).text ++ tail = '$' :: '\x7b' :: (name ++ '\x7d' :: tail) := by
    simp [Part.text, opening]
  have opens : opening.isPrefixOf ('$' :: '\x7b' :: (name ++ '\x7d' :: tail)) = true := by simp [opening]
  have filled : name.isEmpty = false := by simpa using isName.filled
  rw [begins, expandFrom, opens, if_pos rfl]
  change expandFrom opening value? 0 (some []) (name ++ '\x7d' :: tail) = _
  rw [expandFrom_inside [] isName.unmarked, List.nil_append, expandFrom]
  simp [filled, Part.text]

/-- Placeholders are found where they are, and each one gives way to the value of its name. -/
theorem expand_written (parts : List Part) :
    expand opening value? (written parts) = parts.flatMap (Part.replaced value?) := by
  unfold expand
  induction parts with
  | nil => rfl
  | cons part rest ih =>
    cases part with
    | plain c unmarked => rw [written_plain, expandFrom_plain unmarked, ih]; rfl
    | placeholder name isName =>
      rw [written, List.flatMap_cons, expandFrom_placeholder]
      exact congrArg _ ih

/-! Looking for placeholders in what has come of them. -/

theorem Expands.unique {text' : List Char} (expands : Expands value? parts text)
    (expands' : Expands value? parts text') : text = text' := by
  induction expands generalizing text' with
  | nil => cases expands'; rfl
  | plain later ih =>
    cases expands' with
    | plain later' => rw [ih later']
  | known found within later ihWithin ihLater =>
    cases expands' with
    | known found' within' later' =>
      obtain rfl := written_inj.mp (Option.some.inj (found.symm.trans found'))
      rw [ihWithin within', ihLater later']
    | unknown missing' later' => cases found.symm.trans missing'
  | unknown missing later ih =>
    cases expands' with
    | known found' within' later' => cases missing.symm.trans found'
    | unknown missing' later' => rw [ih later']

theorem expands_append_iff :
    Expands value? (parts ++ others) text ↔
      ∃ front back, Expands value? parts front ∧ Expands value? others back ∧ text = front ++ back := by
  induction parts generalizing text with
  | nil =>
    refine ⟨fun expands => ⟨[], text, .nil, expands, rfl⟩, ?_⟩
    rintro ⟨front, back, ⟨⟩, expands, rfl⟩
    exact expands
  | cons part rest ih =>
    constructor
    · intro expands
      cases expands with
      | plain later =>
        obtain ⟨front, back, first, second, rfl⟩ := ih.mp later
        exact ⟨_, back, .plain first, second, rfl⟩
      | known found within later =>
        obtain ⟨front, back, first, second, rfl⟩ := ih.mp later
        exact ⟨_, back, .known found within first, second, (List.append_assoc ..).symm⟩
      | unknown missing later =>
        obtain ⟨front, back, first, second, rfl⟩ := ih.mp later
        exact ⟨_, back, .unknown missing first, second, (List.append_assoc ..).symm⟩
    · rintro ⟨front, back, first, second, rfl⟩
      cases first with
      | plain later => exact .plain (ih.mpr ⟨_, back, later, second, rfl⟩)
      | known found within later =>
        rw [List.append_assoc]
        exact .known found within (ih.mpr ⟨_, back, later, second, rfl⟩)
      | unknown missing later =>
        rw [List.append_assoc]
        exact .unknown missing (ih.mpr ⟨_, back, later, second, rfl⟩)

theorem Shallow.of_mentioned {n : Nat} {value : List Char} (shallow : Shallow value? (n + 1) text)
    (mentioned : Mentions text name) (found : value? name = some value) : Shallow value? n value := fun names chain =>
  Nat.le_of_succ_le_succ (shallow (name :: names) (.cons mentioned found chain))

theorem Shallow.unknown (shallow : Shallow value? 0 text) (mentioned : Mentions text name) : value? name = none := by
  cases found : value? name with
  | none => rfl
  | some value => cases shallow [name] (.cons mentioned found .nil)

theorem Shallow.of_part {n : Nat} {part : Part} (shallow : Shallow value? n (written (part :: rest))) :
    Shallow value? n (written rest) := by
  intro names chain
  cases chain with
  | nil => exact Nat.zero_le _
  | cons mentioned found behind =>
    obtain ⟨isName, member⟩ := mentions_written_iff.mp mentioned
    exact shallow _ (.cons (mentions_written_iff.mpr ⟨isName, List.mem_cons_of_mem _ member⟩) found behind)

/-- Chains are as long as those in the values of the names allow, and one name longer. -/
theorem shallow_succ {n : Nat} (inner : ∀ name isName value, Part.placeholder name isName ∈ parts →
    value? name = some value → Shallow value? n value) : Shallow value? (n + 1) (written parts) := by
  intro names chain
  cases chain with
  | nil => exact Nat.zero_le _
  | cons mentioned found behind =>
    obtain ⟨isName, member⟩ := mentions_written_iff.mp mentioned
    exact Nat.succ_le_succ (inner _ isName _ member found _ behind)

/-- Parts without names that have values come to themselves. -/
theorem expands_of_shallow (shallow : Shallow value? 0 (written parts)) : Expands value? parts (written parts) := by
  induction parts with
  | nil => exact .nil
  | cons part rest ih =>
    have later := ih shallow.of_part
    cases part with
    | plain c unmarked => exact .plain later
    | placeholder name isName =>
      exact .unknown (shallow.unknown (mentions_written_iff.mpr ⟨isName, List.mem_cons_self⟩)) later

theorem exists_pass (whole : ∀ name value, value? name = some value → ∃ inner, value = written inner)
    (parts : List Part) : ∃ others, Pass value? parts others := by
  induction parts with
  | nil => exact ⟨[], .nil⟩
  | cons part rest ih =>
    obtain ⟨others, later⟩ := ih
    cases part with
    | plain c unmarked => exact ⟨_, .plain later⟩
    | placeholder name isName =>
      cases found : value? name with
      | none => exact ⟨_, .unknown found later⟩
      | some value =>
        obtain ⟨inner, rfl⟩ := whole name value found
        exact ⟨_, .known found later⟩

namespace Pass

variable (pass : Pass value? parts others)

include pass

theorem expand_eq : expand opening value? (written parts) = written others := by
  rw [expand_written]
  induction pass with
  | nil => rfl
  | plain later ih => rw [List.flatMap_cons, ih]; rfl
  | known found later ih => rw [List.flatMap_cons, ih, written_append, Part.replaced, found]; rfl
  | unknown missing later ih => rw [List.flatMap_cons, ih, Part.replaced, missing]; rfl

theorem expands (expands : Expands value? others text) : Expands value? parts text := by
  induction pass generalizing text with
  | nil => exact expands
  | plain later ih =>
    cases expands with
    | plain inner => exact .plain (ih inner)
  | known found later ih =>
    obtain ⟨front, back, within, behind, rfl⟩ := expands_append_iff.mp expands
    exact .known found within (ih behind)
  | unknown missing later ih =>
    cases expands with
    | known found inner behind => cases missing.symm.trans found
    | unknown _ inner => exact .unknown missing (ih inner)

/-- A name that is mentioned afterwards and has a value was mentioned in a value. -/
theorem mentioned {value : List Char} (found : value? name = some value) (mentioned : Mentions (written others) name) :
    ∃ first inner, Mentions (written parts) first ∧ value? first = some (written inner) ∧
      Mentions (written inner) name := by
  obtain ⟨isName, member⟩ := mentions_written_iff.mp mentioned
  suffices ∃ first isName' inner, Part.placeholder first isName' ∈ parts ∧ value? first = some (written inner) ∧
      Part.placeholder name isName ∈ inner by
    obtain ⟨first, isName', inner, there, value, inside⟩ := this
    exact ⟨first, inner, mentions_written_iff.mpr ⟨isName', there⟩, value, mentions_written_iff.mpr ⟨isName, inside⟩⟩
  clear mentioned
  induction pass with
  | nil => cases member
  | plain later ih =>
    have behind := (List.mem_cons.mp member).resolve_left nofun
    obtain ⟨first, isName', inner, there, rest⟩ := ih behind
    exact ⟨first, isName', inner, List.mem_cons_of_mem _ there, rest⟩
  | known value later ih =>
    rcases List.mem_append.mp member with inside | behind
    · exact ⟨_, _, _, List.mem_cons_self, value, inside⟩
    · obtain ⟨first, isName', inner, there, rest⟩ := ih behind
      exact ⟨first, isName', inner, List.mem_cons_of_mem _ there, rest⟩
  | unknown missing later ih =>
    rcases List.mem_cons.mp member with same | behind
    · injection same with same
      subst same
      cases missing.symm.trans found
    · obtain ⟨first, isName', inner, there, rest⟩ := ih behind
      exact ⟨first, isName', inner, List.mem_cons_of_mem _ there, rest⟩

/-- Every chain has become shorter by its first name. -/
theorem shallow {n : Nat} (shallow : Shallow value? (n + 1) (written parts)) : Shallow value? n (written others) := by
  intro names chain
  cases chain with
  | nil => exact Nat.zero_le _
  | cons mentioned found behind =>
    obtain ⟨first, inner, there, value, inside⟩ := pass.mentioned found mentioned
    exact shallow.of_mentioned there value _ (.cons inside found behind)

end Pass

/-- Parts that stay the same have no names with values. -/
theorem Pass.shallow_self {n : Nat} (pass : Pass value? parts parts) (shallow : Shallow value? n (written parts)) :
    Shallow value? 0 (written parts) := by
  induction n with
  | zero => exact shallow
  | succ n ih => exact ih (pass.shallow shallow)

section

variable (whole : ∀ name value, value? name = some value → ∃ inner, value = written inner)

include whole

/-- As many times as the longest chain has names are enough. -/
theorem expandUpTo_expands {n : Nat} (shallow : Shallow value? n (written parts)) :
    ∃ last, expandUpTo opening value? n (written parts) = written last ∧ Expands value? parts (written last) ∧
      Shallow value? 0 (written last) := by
  induction n generalizing parts with
  | zero => exact ⟨parts, rfl, expands_of_shallow shallow, shallow⟩
  | succ n ih =>
    obtain ⟨others, pass⟩ := exists_pass whole parts
    rw [expandUpTo, pass.expand_eq]
    split
    · rename_i same
      obtain rfl := written_inj.mp same
      have settled := pass.shallow_self shallow
      exact ⟨others, rfl, expands_of_shallow settled, settled⟩
    · obtain ⟨last, result, expands, settled⟩ := ih (pass.shallow shallow)
      exact ⟨last, result, pass.expands expands, settled⟩

theorem expandUpTo_of_settled (n : Nat) (settled : Shallow value? 0 (written parts)) :
    expandUpTo opening value? n (written parts) = written parts := by
  have shallow : Shallow value? n (written parts) := fun names chain => (settled names chain).trans (Nat.zero_le n)
  obtain ⟨last, result, expands, -⟩ := expandUpTo_expands whole shallow
  rw [result]
  exact expands.unique (expands_of_shallow settled)

end

end

end MavenResolution.Text.Placeholder
