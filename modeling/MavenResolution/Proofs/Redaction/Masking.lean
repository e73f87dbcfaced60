import Mathlib.Data.List.Forall2
import Mathlib.Data.List.TakeDrop
import MavenResolution.Proofs.Text.Caseless
import MavenResolution.Redaction

/-! Texts with markers for the values given to sensitive words. A text is masked from the left: each value
that a sensitive word is given at a word's start is left out for the marker, and what is left gives no
sensitive word any other value. -/
namespace MavenResolution.Redaction

open Text

variable {word text front value rest shown gap lead tail : List Char} {c d sign : Char}
variable {assignment : Assignment} {inWord : Bool}

/-! Characters of sensitive words, and those that stand around them. -/

/-- What is read for a character of a sensitive word is a word character. -/
theorem isWord_of_sameCaseless {sensitive : String} (listed : sensitive ∈ sensitiveWords)
    (member : c ∈ sensitive.toList) (same : sameCaseless c d = true) : isWord d = true := by
  have each : (sensitiveWords.all fun sensitive =>
      sensitive.toList.all fun c => (caselessForms c).all isWord) = true := by
    decide +kernel
  simp only [List.all_eq_true] at each
  exact each sensitive listed c member d (mem_caselessForms same)

theorem exists_of_mem_alike (alike : List.Forall₂ (sameCaseless · ·) word text) (member : d ∈ text) :
    ∃ c ∈ word, sameCaseless c d = true := by
  induction alike with
  | nil => cases member
  | cons same _ ih =>
    rcases List.mem_cons.mp member with rfl | later
    · exact ⟨_, List.mem_cons_self, same⟩
    · obtain ⟨c, inside, same⟩ := ih later
      exact ⟨c, List.mem_cons_of_mem _ inside, same⟩

theorem not_isWord_of_isBlank (blank : isBlank c = true) : isWord c = false := by
  by_cases narrow : c.toNat < 128
  · have each : ∀ code < 128, isBlank (Char.ofNat code) = true → isWord (Char.ofNat code) = false := by
      decide +kernel
    simpa [blank] using each c.toNat narrow
  · have apart : ∀ range ∈ wideBlanks, ∀ letters ∈ wideWordCharacters, range.2 < letters.1 ∨ letters.2 < range.1 := by
      decide +kernel
    rw [isBlank, if_neg narrow, inRanges, List.any_eq_true] at blank
    obtain ⟨range, blanks, inside⟩ := blank
    rw [isWord, if_neg narrow, inRanges, List.any_eq_false]
    intro letters listed
    have := apart range blanks letters listed
    simp only [Bool.and_eq_true, decide_eq_true_eq] at inside ⊢
    omega

theorem not_isWord_of_isSign (signs : isSign c = true) : isWord c = false := by
  rw [isSign, Bool.or_eq_true, beq_iff_eq, beq_iff_eq] at signs
  rcases signs with rfl | rfl <;> decide

theorem not_isBlank_of_isSign (signs : isSign c = true) : isBlank c = false := by
  rw [isSign, Bool.or_eq_true, beq_iff_eq, beq_iff_eq] at signs
  rcases signs with rfl | rfl <;> decide

theorem isValueChar_of_isSign (signs : isSign c = true) : isValueChar c = true := by
  rw [isSign, Bool.or_eq_true, beq_iff_eq, beq_iff_eq] at signs
  rcases signs with rfl | rfl <;> decide

theorem not_isWord_of_not_isValueChar (ends : isValueChar c = false) : isWord c = false := by
  simp only [isValueChar, Bool.and_eq_false_iff, Bool.not_eq_false', bne_eq_false_iff_eq] at ends
  rcases ends with ((blank | rfl) | rfl) | rfl
  · exact not_isWord_of_isBlank blank
  all_goals decide

/-! Words and values at the start of a text. -/

/-- What follows the first sensitive word that a text begins with. -/
def afterWord (text : List Char) : Option (List Char) :=
  sensitiveWords.findSome? fun word => dropWord word.toList text

/-- A sensitive word and blanks: what stands in front of a sign. -/
def IsName (lead : List Char) : Prop := ∃ gap, afterWord lead = some gap ∧ ∀ c ∈ gap, isBlank c = true

/-- Blanks and a value: what stands behind a sign. -/
def OpensValue (text : List Char) : Prop := ((text.dropWhile isBlank).head?.map isValueChar).getD false = true

instance : Decidable (OpensValue text) := inferInstanceAs (Decidable (_ = true))

theorem dropWord_eq_some : dropWord word text = some rest ↔
    ∃ name, List.Forall₂ (sameCaseless · ·) word name ∧ text = name ++ rest := by
  induction word generalizing text with
  | nil =>
    rw [dropWord, Option.some_inj]
    constructor
    · rintro rfl
      exact ⟨[], .nil, rfl⟩
    · rintro ⟨_, ⟨⟩, whole⟩
      exact whole
  | cons w word ih =>
    cases text with
    | nil => simp [dropWord]
    | cons c text =>
      rw [dropWord]
      split
      · rename_i same
        rw [ih]
        constructor
        · rintro ⟨name, alike, rfl⟩
          exact ⟨c :: name, .cons same alike, rfl⟩
        · rintro ⟨_, alike | ⟨here, alike⟩, whole⟩
          obtain ⟨-, rfl⟩ := List.cons.inj whole
          exact ⟨_, alike, rfl⟩
      · rename_i differs
        refine iff_of_false (by simp) ?_
        rintro ⟨_, alike | ⟨here, alike⟩, whole⟩
        obtain ⟨rfl, -⟩ := List.cons.inj whole
        exact differs here

theorem dropWord_append_sign (apart : ∀ w ∈ word, sameCaseless w sign = false) :
    dropWord word (lead ++ sign :: tail) = (dropWord word lead).map (· ++ sign :: tail) := by
  induction word generalizing lead with
  | nil => rfl
  | cons w word ih =>
    obtain ⟨differs, others⟩ := List.forall_mem_cons.mp apart
    cases lead with
    | nil => simp [dropWord, differs]
    | cons c lead =>
      rw [List.cons_append, dropWord, dropWord]
      split
      · exact ih others
      · rfl

/-- No sensitive word reaches over a sign. -/
theorem afterWord_append_sign (signs : isSign sign = true) :
    afterWord (lead ++ sign :: tail) = (afterWord lead).map (· ++ sign :: tail) := by
  have each {sensitive : String} (listed : sensitive ∈ sensitiveWords) :
      dropWord sensitive.toList (lead ++ sign :: tail) =
        (dropWord sensitive.toList lead).map (· ++ sign :: tail) := by
    refine dropWord_append_sign fun w member => ?_
    by_contra same
    have inside := isWord_of_sameCaseless listed member (Bool.of_not_eq_false same)
    rw [not_isWord_of_isSign signs] at inside
    cases inside
  unfold afterWord
  rw [List.map_findSome?]
  generalize sensitiveWords = words at each ⊢
  induction words with
  | nil => rfl
  | cons first others ih =>
    rw [List.findSome?_cons, List.findSome?_cons, each List.mem_cons_self, Function.comp_apply,
      ih fun listed => each (List.mem_cons_of_mem _ listed)]

theorem exists_of_afterWord (found : afterWord text = some rest) : ∃ sensitive ∈ sensitiveWords,
    ∃ name, List.Forall₂ (sameCaseless · ·) sensitive.toList name ∧ text = name ++ rest := by
  obtain ⟨sensitive, listed, dropped⟩ := List.exists_of_findSome?_eq_some found
  exact ⟨sensitive, listed, dropWord_eq_some.mp dropped⟩

theorem valueAfterSign_append_sign (unsigned : ∀ c ∈ gap, isSign c = false) (signs : isSign sign = true) :
    valueAfterSign (gap ++ sign :: tail) = some value ↔
      (∀ c ∈ gap, isBlank c = true) ∧ OpensValue tail ∧ value = tail.dropWhile isBlank := by
  have solid : isBlank sign = false := not_isBlank_of_isSign signs
  by_cases hollow : ∀ c ∈ gap, isBlank c = true
  · have dropped : (gap ++ sign :: tail).dropWhile isBlank = sign :: tail := by
      rw [List.dropWhile_append_of_pos hollow, List.dropWhile_cons, solid]
      rfl
    rw [valueAfterSign, dropped]
    dsimp only
    rw [if_pos signs]
    change (if OpensValue tail then _ else _) = _ ↔ _
    split
    · rename_i opens
      rw [Option.some_inj]
      exact ⟨fun same => ⟨hollow, opens, same.symm⟩, fun given => given.2.2.symm⟩
    · rename_i closed
      exact iff_of_false (by simp) fun given => closed given.2.1
  · have dropped : ∃ c others, isSign c = false ∧ (gap ++ sign :: tail).dropWhile isBlank = c :: others := by
      have left : (gap.dropWhile isBlank).isEmpty = false := by
        rw [List.isEmpty_eq_false_iff]
        exact fun empty => hollow (List.dropWhile_eq_nil_iff.mp empty)
      rw [List.dropWhile_append, left, if_neg Bool.false_ne_true]
      cases kept : gap.dropWhile isBlank with
      | nil => rw [kept] at left; cases left
      | cons c others =>
        have member : c ∈ gap := (List.dropWhile_suffix isBlank).subset (kept ▸ List.mem_cons_self)
        exact ⟨c, _, unsigned c member, rfl⟩
    obtain ⟨c, others, noSign, dropped⟩ := dropped
    rw [valueAfterSign, dropped]
    simp [noSign, hollow]

/-- A text with a first sign gives a value if a name stands in front of the sign and a value behind it. -/
theorem assignment?_append_sign (unsigned : ∀ c ∈ lead, isSign c = false) (signs : isSign sign = true) :
    assignment? (lead ++ sign :: tail) = some assignment ↔ IsName lead ∧ OpensValue tail ∧
      assignment = ⟨(lead ++ sign :: tail.takeWhile isBlank).length,
        ((tail.dropWhile isBlank).takeWhile isValueChar).length⟩ := by
  change (afterWord (lead ++ sign :: tail)).bind (fun rest => (valueAfterSign rest).bind fun value =>
    some (⟨(lead ++ sign :: tail).length - value.length, (value.takeWhile isValueChar).length⟩ : Assignment)) =
      some assignment ↔ _
  rw [afterWord_append_sign signs]
  have lengths := congrArg List.length (List.takeWhile_append_dropWhile (p := isBlank) (l := tail))
  have kept : (lead ++ sign :: tail).length - (tail.dropWhile isBlank).length =
      (lead ++ sign :: tail.takeWhile isBlank).length := by
    simp only [List.length_append, List.length_cons] at lengths ⊢
    omega
  unfold IsName
  cases found : afterWord lead with
  | none => simp
  | some gap =>
    have inside : ∀ c ∈ gap, isSign c = false := by
      obtain ⟨_, _, name, -, rfl⟩ := exists_of_afterWord found
      exact fun c member => unsigned c (List.mem_append_right _ member)
    simp only [Option.map_some, Option.bind_some, Option.bind_eq_some_iff, Option.some_inj,
      valueAfterSign_append_sign inside signs]
    constructor
    · rintro ⟨_, ⟨hollow, opens, rfl⟩, rfl⟩
      exact ⟨⟨gap, rfl, hollow⟩, opens, by rw [kept]⟩
    · rintro ⟨⟨_, rfl, hollow⟩, opens, rfl⟩
      exact ⟨_, ⟨hollow, opens, rfl⟩, by rw [kept]⟩

theorem assignment?_of_unsigned (unsigned : ∀ c ∈ text, isSign c = false) : assignment? text = none := by
  change (afterWord text).bind (fun rest => (valueAfterSign rest).bind fun value =>
    some (⟨text.length - value.length, (value.takeWhile isValueChar).length⟩ : Assignment)) = none
  cases found : afterWord text with
  | none => rfl
  | some gap =>
    obtain ⟨_, _, name, -, rfl⟩ := exists_of_afterWord found
    have valueless : valueAfterSign gap = none := by
      rw [valueAfterSign]
      cases kept : gap.dropWhile isBlank with
      | nil => rfl
      | cons c others =>
        have member : c ∈ gap := (List.dropWhile_suffix isBlank).subset (kept ▸ List.mem_cons_self)
        simp [unsigned c (List.mem_append_right _ member)]
    rw [Option.bind_some, valueless]
    rfl

/-- What stands in front of a value: a name, a sign and blanks. -/
def Announces (front : List Char) : Prop :=
  ∃ lead sign gap, front = lead ++ sign :: gap ∧ IsName lead ∧ (∀ c ∈ lead, isSign c = false) ∧
    isSign sign = true ∧ ∀ c ∈ gap, isBlank c = true

/-- A value from its first character to its last. -/
structure IsValue (value rest : List Char) : Prop where
  filled : value ≠ []
  inside : ∀ c ∈ value, isValueChar c = true
  ended : ∀ c ∈ rest.head?, isValueChar c = false

theorem not_isBlank_of_isValueChar (valued : isValueChar c = true) : isBlank c = false := by
  simp only [isValueChar, Bool.and_eq_true, Bool.not_eq_true'] at valued
  exact valued.1.1.1

theorem IsValue.takeWhile_eq (isValue : IsValue value rest) :
    (value ++ rest).takeWhile isValueChar = value := by
  rw [List.takeWhile_append_of_pos isValue.inside]
  cases rest with
  | nil => simp
  | cons c rest => simp [isValue.ended c rfl]

theorem IsValue.dropBlanks_eq (isValue : IsValue value rest) (hollow : ∀ c ∈ gap, isBlank c = true) :
    (gap ++ (value ++ rest)).takeWhile isBlank = gap ∧ (gap ++ (value ++ rest)).dropWhile isBlank = value ++ rest := by
  rw [List.takeWhile_append_of_pos hollow, List.dropWhile_append_of_pos hollow]
  cases value with
  | nil => exact absurd rfl isValue.filled
  | cons c value =>
    have solid : isBlank c = false := not_isBlank_of_isValueChar (isValue.inside c List.mem_cons_self)
    simp [solid]

theorem assignment?_append (announces : Announces front) (isValue : IsValue value rest) :
    assignment? (front ++ (value ++ rest)) = some ⟨front.length, value.length⟩ := by
  obtain ⟨lead, sign, gap, rfl, name, unsigned, signs, hollow⟩ := announces
  obtain ⟨blanks, left⟩ := isValue.dropBlanks_eq hollow
  rw [List.append_assoc, List.cons_append, assignment?_append_sign unsigned signs, blanks, left,
    isValue.takeWhile_eq]
  refine ⟨name, ?_, rfl⟩
  rw [OpensValue, left]
  cases value with
  | nil => exact absurd rfl isValue.filled
  | cons c value => exact isValue.inside c List.mem_cons_self

theorem exists_of_assignment? (found : assignment? text = some assignment) : ∃ front value rest,
    text = front ++ (value ++ rest) ∧ Announces front ∧ IsValue value rest ∧
      assignment = ⟨front.length, value.length⟩ := by
  cases first : text.find? isSign with
  | none =>
    have unsigned : ∀ c ∈ text, isSign c = false := by simpa using List.find?_eq_none.mp first
    rw [assignment?_of_unsigned unsigned] at found
    cases found
  | some sign =>
    obtain ⟨signs, lead, tail, rfl, before⟩ := List.find?_eq_some_iff_append.mp first
    have unsigned : ∀ c ∈ lead, isSign c = false := by simpa using before
    obtain ⟨name, opens, rfl⟩ := (assignment?_append_sign unsigned signs).mp found
    have hollow : ∀ c ∈ tail.takeWhile isBlank, isBlank c = true := fun c member => List.mem_takeWhile_imp member
    refine ⟨lead ++ sign :: tail.takeWhile isBlank, (tail.dropWhile isBlank).takeWhile isValueChar,
      (tail.dropWhile isBlank).dropWhile isValueChar, by simp, ⟨lead, sign, _, rfl, name, unsigned, signs, hollow⟩,
      ⟨?_, fun c member => List.mem_takeWhile_imp member, ?_⟩, rfl⟩
    · rw [OpensValue] at opens
      cases left : tail.dropWhile isBlank with
      | nil => rw [left] at opens; cases opens
      | cons c rest =>
        rw [left] at opens
        have valued : isValueChar c = true := opens
        simp [valued]
    · intro c member
      have := List.head?_dropWhile_not isValueChar (tail.dropWhile isBlank)
      rw [Option.mem_def.mp member] at this
      exact this

/-! Names. -/

theorem IsName.exists_cons (name : IsName lead) : ∃ word gap, lead = word ++ gap ∧ word ≠ [] ∧
    (∀ c ∈ word, isWord c = true) ∧ ∀ c ∈ gap, isBlank c = true := by
  obtain ⟨gap, found, hollow⟩ := name
  obtain ⟨sensitive, listed, word, alike, rfl⟩ := exists_of_afterWord found
  refine ⟨word, gap, rfl, ?_, fun c member => ?_, hollow⟩
  · rintro rfl
    have filled : ∀ sensitive ∈ sensitiveWords, sensitive.toList ≠ [] := by decide +kernel
    exact filled sensitive listed (List.forall₂_nil_right_iff.mp alike)
  · obtain ⟨w, inside, same⟩ := exists_of_mem_alike alike member
    exact isWord_of_sameCaseless listed inside same

/-! Masking from the left. -/

/-- Whether a word character stands in front of what follows a text. -/
def endsInWord (inWord : Bool) (text : List Char) : Bool := text.foldl (fun _ c => isWord c) inWord

theorem endsInWord_of_ne_nil (filled : text ≠ []) (inWord inWord' : Bool) :
    endsInWord inWord text = endsInWord inWord' text := by
  cases text with
  | nil => exact absurd rfl filled
  | cons c rest => rfl

theorem endsInWord_append (inWord : Bool) (text rest : List Char) :
    endsInWord inWord (text ++ rest) = endsInWord (endsInWord inWord text) rest :=
  List.foldl_append

theorem endsInWord_of_all (filled : text ≠ []) (all : ∀ c ∈ text, isWord c = true) (inWord : Bool) :
    endsInWord inWord text = true := by
  obtain rfl | ⟨others, last, rfl⟩ := List.eq_nil_or_concat text
  · exact absurd rfl filled
  · rw [List.concat_eq_append, endsInWord_append]
    exact all last (by simp)

/-- The text as it is shown: from the left, the values given to sensitive words at a word's start are left
out for the marker. -/
inductive Masks : Bool → List Char → List Char → Prop
  | done {inWord : Bool} : Masks inWord [] []
  | pass {inWord : Bool} {c : Char} {text shown : List Char}
      (free : inWord = false → assignment? (c :: text) = none) (others : Masks (isWord c) text shown) :
      Masks inWord (c :: text) (c :: shown)
  | mask {front value rest shown : List Char} (announces : Announces front) (isValue : IsValue value rest)
      (others : Masks (endsInWord false value) rest shown) :
      Masks false (front ++ (value ++ rest)) (front ++ (marker ++ shown))

theorem redactFrom_hidden (inWord : Bool) (value rest : List Char) :
    redactFrom inWord 0 value.length (value ++ rest) = redactFrom (endsInWord inWord value) 0 0 rest := by
  induction value generalizing inWord with
  | nil => rfl
  | cons c value ih => exact ih (isWord c)

theorem redactFrom_kept (inWord : Bool) (filled : front ≠ []) {hidden : Nat} (positive : 0 < hidden)
    (text : List Char) : redactFrom inWord front.length hidden (front ++ text) =
      front ++ (marker ++ redactFrom (endsInWord inWord front) 0 hidden text) := by
  induction front generalizing inWord with
  | nil => exact absurd rfl filled
  | cons c others ih =>
    cases others with
    | nil =>
      rw [List.length_singleton, List.singleton_append, redactFrom]
      simp [positive, endsInWord]
    | cons d others =>
      rw [List.length_cons, List.cons_append, redactFrom, ih (isWord c) (List.cons_ne_nil _ _)]
      simp [endsInWord]

/-- A name has a first character, and another sign stands behind it. -/
theorem Announces.exists_cons (announces : Announces front) : ∃ c others, front = c :: others ∧ others ≠ [] := by
  obtain ⟨lead, sign, gap, rfl, name, -⟩ := announces
  obtain ⟨word, blanks, rfl, filled, -⟩ := name.exists_cons
  cases word with
  | nil => exact absurd rfl filled
  | cons c word => exact ⟨c, word ++ blanks ++ sign :: gap, by simp, by simp⟩

/-- A value that is given is left out for the marker. -/
theorem redactFrom_mask (announces : Announces front) (isValue : IsValue value rest) :
    redactFrom false 0 0 (front ++ (value ++ rest)) =
      front ++ (marker ++ redactFrom (endsInWord false value) 0 0 rest) := by
  have found := assignment?_append announces isValue
  have positive : 0 < value.length := List.length_pos_of_ne_nil isValue.filled
  obtain ⟨c, others, rfl, filled⟩ := announces.exists_cons
  rw [List.cons_append] at found ⊢
  rw [redactFrom]
  simp only [Bool.false_eq_true, if_false, found, List.length_cons]
  rw [redactFrom_kept _ filled positive, redactFrom_hidden, endsInWord_of_ne_nil isValue.filled _ false]
  rfl

theorem masks_redactFrom (inWord : Bool) (text : List Char) : Masks inWord text (redactFrom inWord 0 0 text) := by
  induction length : text.length using Nat.strong_induction_on generalizing inWord text with
  | _ bound ih =>
    cases text with
    | nil => exact .done
    | cons c rest =>
      have passed (free : inWord = false → assignment? (c :: rest) = none)
          (same : redactFrom inWord 0 0 (c :: rest) = c :: redactFrom (isWord c) 0 0 rest) :
          Masks inWord (c :: rest) (redactFrom inWord 0 0 (c :: rest)) :=
        same ▸ .pass free (ih rest.length (length ▸ Nat.lt_succ_self _) _ _ rfl)
      cases inWord with
      | true => exact passed nofun rfl
      | false =>
        cases found : assignment? (c :: rest) with
        | none => exact passed (fun _ => found) (by simp [redactFrom, found])
        | some assignment =>
          obtain ⟨front, value, behind, whole, announces, isValue, rfl⟩ := exists_of_assignment? found
          have shorter : behind.length < bound := by
            have positive : 0 < value.length := List.length_pos_of_ne_nil isValue.filled
            rw [whole, List.length_append, List.length_append] at length
            omega
          rw [whole, redactFrom_mask announces isValue]
          exact .mask announces isValue (ih behind.length shorter _ _ rfl)

/-! What is shown. -/

/-- Sensitive words begin with word characters, and none with the letter that the marker begins with. -/
theorem isWord_of_assignment? (found : assignment? (c :: text) = some assignment) : isWord c = true ∧ c ≠ 'R' := by
  obtain ⟨front, value, rest, whole, ⟨lead, sign, gap, rfl, ⟨blanks, named, -⟩, -⟩, -⟩ := exists_of_assignment? found
  obtain ⟨sensitive, listed, name, alike, rfl⟩ := exists_of_afterWord named
  have heads : ∀ sensitive ∈ sensitiveWords, sensitive.toList ≠ [] ∧
      (sensitive.toList.head?.any fun w => sameCaseless w 'R') = false := by
    decide +kernel
  obtain ⟨filled, apart⟩ := heads sensitive listed
  cases letters : sensitive.toList with
  | nil => exact absurd letters filled
  | cons w others =>
    have member : w ∈ sensitive.toList := by simp [letters]
    rw [letters] at alike apart
    obtain ⟨d, name, same, -, rfl⟩ := List.forall₂_cons_left_iff.mp alike
    obtain ⟨rfl, -⟩ := List.cons.inj whole
    refine ⟨isWord_of_sameCaseless listed member same, ?_⟩
    rintro rfl
    exact absurd same (Bool.eq_false_iff.mp apart)

/-- What is shown begins as the text does, up to a value behind a sign. -/
theorem Masks.alike (masks : Masks inWord text shown) : shown = text ∨ ∃ front value value',
    text = front ++ value ∧ shown = front ++ value' ∧ (∃ sign ∈ front, isSign sign = true) ∧
      (∃ c ∈ value.head?, isValueChar c = true) ∧ ∃ c ∈ value'.head?, isValueChar c = true := by
  induction masks with
  | done => exact .inl rfl
  | pass _ _ ih =>
    rcases ih with rfl | ⟨front, value, value', rfl, rfl, ⟨sign, member, signs⟩, opens, opens'⟩
    · exact .inl rfl
    · exact .inr ⟨_ :: front, value, value', rfl, rfl, ⟨sign, List.mem_cons_of_mem _ member, signs⟩, opens, opens'⟩
  | @mask front value rest shown announces isValue =>
    obtain ⟨lead, sign, gap, rfl, -, -, signs, -⟩ := announces
    refine .inr ⟨_, _, _, rfl, rfl, ⟨sign, by simp, signs⟩, ?_, '[', rfl, by decide⟩
    cases value with
    | nil => exact absurd rfl isValue.filled
    | cons c value => exact ⟨c, rfl, isValue.inside c List.mem_cons_self⟩

/-- Behind a sign it matters that a value follows, not which. -/
theorem OpensValue.congr {value value' : List Char} (opens : OpensValue (gap ++ value))
    (opens' : ∃ c ∈ value'.head?, isValueChar c = true) : OpensValue (gap ++ value') := by
  unfold OpensValue at *
  by_cases hollow : ∀ c ∈ gap, isBlank c = true
  · obtain ⟨c, head, valued⟩ := opens'
    cases value' with
    | nil => cases head
    | cons d rest =>
      obtain rfl : d = c := by simpa using head
      have solid : isBlank d = false := not_isBlank_of_isValueChar valued
      rw [List.dropWhile_append_of_pos hollow]
      simp [solid, valued]
  · cases left : gap.dropWhile isBlank with
    | nil => exact absurd (List.dropWhile_eq_nil_iff.mp left) hollow
    | cons d others => simpa [List.dropWhile_append, left] using opens

theorem exists_assignment?_congr {value value' : List Char} (signed : ∃ sign ∈ front, isSign sign = true)
    (opens' : ∃ c ∈ value'.head?, isValueChar c = true) (found : assignment? (front ++ value) = some assignment) :
    ∃ assignment', assignment? (front ++ value') = some assignment' := by
  obtain ⟨sign, first⟩ := Option.isSome_iff_exists.mp (List.find?_isSome.mpr signed)
  obtain ⟨signs, lead, gap, rfl, before⟩ := List.find?_eq_some_iff_append.mp first
  have unsigned : ∀ c ∈ lead, isSign c = false := by simpa using before
  rw [List.append_assoc, List.cons_append] at found ⊢
  obtain ⟨name, opens, -⟩ := (assignment?_append_sign unsigned signs).mp found
  exact ⟨_, (assignment?_append_sign unsigned signs).mpr ⟨name, opens.congr opens', rfl⟩⟩

/-- What is shown gives a value where the text does. -/
theorem Masks.exists_assignment? (masks : Masks inWord text shown)
    (found : assignment? (c :: shown) = some assignment) :
    ∃ assignment', assignment? (c :: text) = some assignment' := by
  rcases masks.alike with rfl | ⟨front, value, value', rfl, rfl, ⟨sign, member, signs⟩, opens, -⟩
  · exact ⟨_, found⟩
  · rw [← List.cons_append] at found ⊢
    exact exists_assignment?_congr ⟨sign, List.mem_cons_of_mem _ member, signs⟩ opens found

theorem Masks.head?_eq (masks : Masks inWord text shown) : shown.head? = text.head? := by
  cases masks with
  | done => rfl
  | pass => rfl
  | mask announces =>
    obtain ⟨c, others, rfl, -⟩ := announces.exists_cons
    rfl

/-- Wherever a word starts, the values given to sensitive words are the marker. -/
def Spent (inWord : Bool) (text : List Char) : Prop :=
  ∀ front rest assignment, text = front ++ rest → endsInWord inWord front = false →
    assignment? rest = some assignment → (rest.drop assignment.kept).take assignment.hidden = marker

/-- Where a name has begun, no word starts in front of the value. -/
theorem Announces.endsInWord_front (announces : Announces (front ++ c :: rest)) (filled : front ≠ [])
    (inside : isWord c = true) (inWord : Bool) : endsInWord inWord front = true := by
  obtain ⟨lead, sign, gap, whole, name, -, signs, hollow⟩ := announces
  obtain ⟨word, blanks, rfl, -, named, blank⟩ := name.exists_cons
  have outside : ∀ d ∈ blanks ++ sign :: gap, isWord d = false := by
    intro d member
    rcases List.mem_append.mp member with front | behind
    · exact not_isWord_of_isBlank (blank d front)
    · rcases List.mem_cons.mp behind with rfl | later
      · exact not_isWord_of_isSign signs
      · exact not_isWord_of_isBlank (hollow d later)
  rw [List.append_assoc] at whole
  rcases List.append_eq_append_iff.mp whole with ⟨further, rfl, -⟩ | ⟨further, -, behind⟩
  · exact endsInWord_of_all filled (fun d member => named d (List.mem_append_left _ member)) inWord
  · have member : c ∈ blanks ++ sign :: gap := behind ▸ List.mem_append_right _ List.mem_cons_self
    rw [outside c member] at inside
    cases inside

/-- Nor does one start within the marker, but for the letter that it begins with. -/
theorem endsInWord_marker (whole : marker = front ++ c :: rest) (inside : isWord c = true) (other : c ≠ 'R')
    (inWord : Bool) : endsInWord inWord front = true := by
  have each : ∀ k < marker.length, isWord (marker.getD k 'R') = true → marker.getD k 'R' ≠ 'R' →
      ∀ inWord, endsInWord inWord (marker.take k) = true := by
    decide +kernel
  have bound : front.length < marker.length := by
    rw [whole, List.length_append, List.length_cons]
    omega
  have here : marker.getD front.length 'R' = c := by simp [whole]
  have start : marker.take front.length = front := by simp [whole]
  simpa only [start] using each front.length bound (here.symm ▸ inside) (here.symm ▸ other) inWord

theorem isValue_marker (ended : ∀ c ∈ rest.head?, isValueChar c = false) : IsValue marker rest :=
  ⟨by decide, List.all_eq_true.mp (by decide), ended⟩

theorem assignment?_of_ended (ended : ∀ c ∈ text.head?, isValueChar c = false) : assignment? text = none := by
  cases text with
  | nil => rfl
  | cons c text =>
    cases found : assignment? (c :: text) with
    | none => rfl
    | some assignment =>
      have outside := not_isWord_of_not_isValueChar (ended c rfl)
      rw [(isWord_of_assignment? found).1] at outside
      cases outside

theorem Spent.pass (spent : Spent (isWord c) shown) (others : Masks (isWord c) text shown)
    (free : inWord = false → assignment? (c :: text) = none) : Spent inWord (c :: shown) := by
  intro front rest assignment whole starts found
  cases front with
  | nil =>
    rw [List.nil_append] at whole
    rw [← whole] at found
    obtain ⟨assignment', given⟩ := others.exists_assignment? found
    rw [free starts] at given
    cases given
  | cons d front =>
    obtain ⟨rfl, rfl⟩ := List.cons.inj whole
    exact spent front rest assignment rfl starts found

/-- In front of a text, the marker gives no value to anything. -/
theorem Spent.behind_marker {earlier : Bool} (spent : Spent earlier shown)
    (ended : ∀ c ∈ shown.head?, isValueChar c = false) : Spent inWord (marker ++ shown) := by
  have nothing := assignment?_of_ended ended
  intro front rest assignment whole starts found
  rcases List.append_eq_append_iff.mp whole with ⟨last, rfl, rfl⟩ | ⟨last, split, rfl⟩
  · cases last with
    | nil =>
      rw [List.nil_append] at nothing
      rw [nothing] at found
      cases found
    | cons c last =>
      rw [endsInWord_append] at starts
      exact spent (c :: last) rest assignment rfl starts found
  · cases last with
    | nil =>
      rw [List.nil_append, nothing] at found
      cases found
    | cons c last =>
      obtain ⟨inside, other⟩ := isWord_of_assignment? found
      rw [endsInWord_marker split inside other] at starts
      cases starts

theorem Spent.behind_mask {earlier : Bool} (spent : Spent earlier shown)
    (ended : ∀ c ∈ shown.head?, isValueChar c = false) (announces : Announces front) :
    Spent inWord (front ++ (marker ++ shown)) := by
  intro before rest assignment whole starts found
  rcases List.append_eq_append_iff.mp whole with ⟨further, rfl, behind⟩ | ⟨further, rfl, rfl⟩
  · rw [endsInWord_append] at starts
    exact spent.behind_marker ended further rest assignment behind starts found
  · cases further with
    | nil =>
      have bracket : isWord '[' = true := (isWord_of_assignment? found).1
      exact absurd bracket (by decide)
    | cons c further =>
      cases before with
      | nil =>
        have given := assignment?_append announces (isValue_marker ended)
        rw [List.nil_append] at given
        rw [given, Option.some_inj] at found
        subst found
        simp
      | cons d before =>
        have inside := (isWord_of_assignment? found).1
        rw [announces.endsInWord_front (List.cons_ne_nil _ _) inside] at starts
        cases starts

theorem Masks.spent (masks : Masks inWord text shown) : Spent inWord shown := by
  induction masks with
  | done =>
    intro front rest assignment whole _ found
    obtain ⟨rfl, rfl⟩ := List.append_eq_nil_iff.mp whole.symm
    cases found
  | pass free others spent => exact spent.pass others free
  | mask announces isValue others spent => exact spent.behind_mask (others.head?_eq ▸ isValue.ended) announces

theorem Spent.of_cons (spent : Spent inWord (c :: text)) : Spent (isWord c) text :=
  fun front rest assignment whole starts => spent (c :: front) rest assignment (congrArg (c :: ·) whole) starts

/-- What is shown of a text in which the marker is the only value given is the text. -/
theorem Masks.eq_of_spent (masks : Masks inWord text shown) (spent : Spent inWord text) : shown = text := by
  induction masks with
  | done => rfl
  | pass _ _ ih => rw [ih spent.of_cons]
  | @mask front value rest shown announces isValue _ ih =>
    have marked : value = marker := by
      have given := spent [] _ _ rfl rfl (assignment?_append announces isValue)
      simpa using given
    have behind : Spent (endsInWord false value) rest := by
      intro further back assignment whole starts
      refine spent (front ++ (value ++ further)) back assignment (by simp [whole]) ?_
      rwa [endsInWord_append, endsInWord_append, endsInWord_of_ne_nil isValue.filled _ false]
    rw [ih behind, marked]

/-- What is shown of a text that gives no value is the text. -/
theorem Masks.eq_of_free (masks : Masks inWord text shown)
    (free : ∀ front rest, text = front ++ rest → endsInWord inWord front = false → assignment? rest = none) :
    shown = text := by
  refine masks.eq_of_spent fun front rest assignment whole starts found => ?_
  rw [free front rest whole starts] at found
  cases found

end MavenResolution.Redaction
