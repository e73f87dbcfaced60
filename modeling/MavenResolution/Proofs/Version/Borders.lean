import MavenResolution.Proofs.Version.Exchange
import MavenResolution.Proofs.Version.Runs

/-! Borders between digits and letters. A border opens a nested list just as a hyphen does, so that a hyphen may
be written there. Only a letter that abbreviates a qualifier does so at the border alone. -/
namespace MavenResolution.Version

open Text

variable {c d : Char} {kind : Char → Bool} {run text front back : List Char} {rest : List Lexeme}

/-- A digit and a letter stand side by side where the texts meet. -/
def Border (front back : List Char) : Prop :=
  ∃ c ∈ front.getLast?, ∃ d ∈ back.head?,
    isDigit c = true ∧ isLetter d = true ∨ isLetter c = true ∧ isDigit d = true

/-- The words that abbreviate a qualifier in front of a digit. -/
def abbreviations : List (List Char) := [['a'], ['b'], ['m']]

/-- The letters in front of a digit are one that abbreviates a qualifier, in either case. -/
def Abbreviates (front back : List Char) : Prop :=
  (∃ d ∈ back.head?, isDigit d = true) ∧ (front.rtakeWhile isLetter).map Char.toLower ∈ abbreviations

/-! The case of letters. -/

theorem toLower_of_not_isAlpha (other : c.isAlpha = false) : c.toLower = c := by
  refine dif_neg fun upper => ?_
  have bounds : 65 ≤ c.toNat ∧ c.toNat ≤ 90 := upper
  rw [isAlpha_iff_toNat.mpr (.inl bounds)] at other
  cases other

/-- Small letters are letters, and what has no small letter stays as it is. -/
theorem kind_toLower (c : Char) :
    isDigit c.toLower = isDigit c ∧ isLetter c.toLower = isLetter c := by
  cases alpha : c.isAlpha with
  | false => rw [toLower_of_not_isAlpha alpha]; exact ⟨rfl, rfl⟩
  | true =>
    have letter := isLetter_of_isAlpha alpha
    have small : isLetter c.toLower = true :=
      isLetter_of_isAlpha (isAlpha_iff_toNat.mpr (.inr (toNat_toLower_of_isAlpha alpha)))
    rw [letter, small, (isLetter_iff.mp letter).2, (isLetter_iff.mp small).2]
    exact ⟨rfl, rfl⟩

theorem rtakeWhile_map {f : Char → Char} (kept : ∀ c, kind (f c) = kind c) (text : List Char) :
    (text.map f).rtakeWhile kind = (text.rtakeWhile kind).map f := by
  induction text using List.reverseRecOn with
  | nil => rfl
  | append_singleton text c ih =>
    rw [List.map_append, List.map_singleton, List.rtakeWhile_concat, List.rtakeWhile_concat, kept c, ih]
    cases kind c with
    | true => simp
    | false => rfl

theorem Border.map_toLower (border : Border front back) :
    Border (front.map Char.toLower) (back.map Char.toLower) := by
  obtain ⟨c, last, d, first, kinds⟩ := border
  refine ⟨c.toLower, by simp_all, d.toLower, by simp_all, ?_⟩
  rwa [(kind_toLower c).1, (kind_toLower c).2, (kind_toLower d).1, (kind_toLower d).2]

/-! Lexemes on both sides. -/

theorem startsRun_lexemes (kind : isDigit d = true ∨ isLetter d = true) (rest : List Char) :
    startsRun (lexemes (d :: rest)) = true := by
  have starts (lexemes : List Lexeme) :
      startsRun lexemes = (Lexeme.startsDigits lexemes || Lexeme.startsWord lexemes) := by
    match lexemes with
    | [] | .digits _ :: _ | .word _ :: _ | .dot :: _ | .hyphen :: _ => rfl
  rwa [starts, startsDigits_lexemes, startsWord_lexemes, Bool.or_eq_true]

theorem Border.startsRun (border : Border front back) : startsRun (lexemes back) = true := by
  obtain ⟨c, -, d, first, kinds⟩ := border
  obtain ⟨rest, rfl⟩ := List.head?_eq_some_iff.mp first
  exact startsRun_lexemes (kinds.symm.imp And.right And.right) rest

theorem Border.parted (border : Border front back) : Parted front back := by
  obtain ⟨c, last, d, first, kinds⟩ := border
  intro c' last' d' first'
  cases last.symm.trans last'
  cases first.symm.trans first'
  obtain ⟨digit, letter⟩ | ⟨letter, digit⟩ := kinds
  · rw [inOneRun_of_isLetter letter, isLetter_of_isDigit digit]
  · rw [inOneRun_of_isDigit digit, (isLetter_iff.mp letter).2]

/-! A hyphen at a border. -/

theorem itemsBehind_hyphen (starts : startsRun rest = true) :
    itemsBehind (.hyphen :: rest) = itemsBehind rest :=
  (itemsBehind_of_startsRun starts).symm

theorem exchange_digits (starts : startsRun rest = true) (run : List Char) :
    Exchange Eq (.digits run :: .hyphen :: rest) (.digits run :: rest) := by
  refine .of_startsRun outlasting_eq rfl rfl (exceptRel_eq_iff.mpr ?_)
  rw [itemsOf_digits, itemsOf_digits, itemsBehind_hyphen starts]

theorem qualifierOf_eq_of_not_mem (full : run ∉ abbreviations) :
    qualifierOf run false = qualifierOf run true := by
  have other : ∀ short ∈ abbreviations, String.ofList run ≠ String.ofList short := by
    intro short member same
    rw [String.ofList_injective same] at full
    exact full member
  have same : abbreviated (String.ofList run) = String.ofList run := by
    rw [abbreviated, if_neg (other ['a'] (by decide)), if_neg (other ['b'] (by decide)),
      if_neg (other ['m'] (by decide))]
  simp only [qualifierOf, same, ite_self]

theorem exchange_word (starts : startsRun rest = true) (full : run ∉ abbreviations) :
    Exchange Eq (.word run :: .hyphen :: rest) (.word run :: rest) := by
  have full := qualifierOf_eq_of_not_mem full
  refine .of_startsRun outlasting_eq rfl rfl (exceptRel_eq_iff.mpr ?_)
  rw [itemsOf_word, itemsOf_word, itemsBehind_hyphen starts, starts, ← full]
  rfl

/-- Different lists that take the same items in front of them. -/
structure ToldApart (left right : List Item) : Prop where
  different : left ≠ right
  starts : startsNested left = startsNested right

theorem outlasting_toldApart : Outlasting ToldApart where
  prepend := by
    rintro item left right ⟨different, starts⟩
    unfold prepend
    rw [starts]
    split
    · exact ⟨different, starts⟩
    · exact ⟨fun same => different (List.cons.inj same).2, rfl⟩
  enclose := by
    rintro left right ⟨different, -⟩
    unfold enclose
    cases left with
    | nil =>
      cases right with
      | nil => exact absurd rfl different
      | cons => exact ⟨List.cons_ne_nil _ _ ∘ Eq.symm, rfl⟩
    | cons =>
      cases right with
      | nil => exact ⟨List.cons_ne_nil _ _, rfl⟩
      | cons => exact ⟨fun same => different (by simpa using same), rfl⟩

theorem exchange_abbreviation (starts : startsRun rest = true) (short : run ∈ abbreviations) :
    Exchange ToldApart (.word run :: .hyphen :: rest) (.word run :: rest) := by
  have kept : ∀ beforeDigit, (Item.qualifier (qualifierOf run beforeDigit)).isNull = false := by
    revert run
    decide
  have apart : qualifierOf run false ≠ qualifierOf run true := by
    revert run
    decide
  refine .of_startsRun outlasting_toldApart rfl rfl ?_
  rw [itemsOf_word, itemsOf_word, itemsBehind_hyphen starts, starts]
  refine exceptRel_map (exceptRel_eq_iff.mpr rfl) ?_
  rintro items _ rfl
  simp only [prepend, startsRun, kept, Bool.false_and, Bool.false_eq_true, if_false]
  exact ⟨fun same => apart (by simpa using same), rfl⟩

/-! Whole texts. -/

theorem Border.lexemes_append (border : Border front back) :
    lexemes (front ++ back) = lexemes front ++ lexemes back ∧
      lexemes (front ++ '-' :: back) = lexemes front ++ .hyphen :: lexemes back :=
  ⟨Version.lexemes_append border.parted, Version.lexemes_append (parted_of_separator (.inr rfl) front back)⟩

theorem itemsOf_insert_hyphen (border : Border front back)
    (full : (∃ d ∈ back.head?, isDigit d = true) → front.rtakeWhile isLetter ∉ abbreviations) :
    itemsOf (lexemes (front ++ '-' :: back)) = itemsOf (lexemes (front ++ back)) := by
  have starts := border.startsRun
  obtain ⟨together, apart⟩ := border.lexemes_append
  rw [together, apart]
  obtain ⟨c, last, d, first, ⟨digit, -⟩ | ⟨letter, digit⟩⟩ := border
  · rw [lexemes_of_last_digit ⟨c, last, digit⟩, List.append_assoc, List.append_assoc]
    exact (exchange_digits starts _).itemsOf_append_eq _
  · rw [lexemes_of_last_letter ⟨c, last, letter⟩, List.append_assoc, List.append_assoc]
    exact (exchange_word starts (full ⟨d, first, digit⟩)).itemsOf_append_eq _

/-- In front of a digit, a letter that abbreviates a qualifier is told apart from the same one in front of a
hyphen, by whatever stands around it. -/
theorem itemsOf_insert_hyphen_abbreviation (border : Border front back)
    (short : front.rtakeWhile isLetter ∈ abbreviations) : ExceptRel Eq ToldApart
      (itemsOf (lexemes (front ++ '-' :: back))) (itemsOf (lexemes (front ++ back))) := by
  have letter : ∃ c ∈ front.getLast?, isLetter c = true := by
    by_contra other
    have none : front.rtakeWhile isLetter = [] :=
      List.rtakeWhile_eq_nil_iff.mpr fun nonempty letter =>
        other ⟨_, List.getLast?_eq_some_getLast nonempty, letter⟩
    rw [none] at short
    exact absurd short (by decide)
  obtain ⟨together, apart⟩ := border.lexemes_append
  rw [together, apart, lexemes_of_last_letter letter, List.append_assoc, List.append_assoc]
  exact ((exchange_abbreviation border.startsRun short).append outlasting_toldApart _).items

/-- A hyphen written at a border between digits and letters leaves the items of a version as they are, and what
cannot be read unreadable. There is one exception: a letter alone in front of a digit, if it abbreviates a
qualifier there. -/
theorem parse_insert_hyphen (ascii : ∀ c ∈ front ++ back, c.toNat < 128) (border : Border front back) :
    ExceptRel Eq (fun hyphened plain => hyphened = plain ↔ ¬Abbreviates front back)
      (parse (String.ofList (front ++ '-' :: back))) (parse (String.ofList (front ++ back))) := by
  have small := border.map_toLower
  have hyphened : ∀ c ∈ front ++ '-' :: back, c.toNat < 128 := by
    simp only [List.forall_mem_append, List.forall_mem_cons] at ascii ⊢
    exact ⟨ascii.1, by decide, ascii.2⟩
  have run := rtakeWhile_map (fun c => (kind_toLower c).2) front
  have digit : (∃ d ∈ (back.map Char.toLower).head?, isDigit d = true) ↔
      ∃ d ∈ back.head?, isDigit d = true := by
    cases back with
    | nil => simp
    | cons d rest => simp [(kind_toLower d).1]
  rw [parse, parse, String.toList_ofList, String.toList_ofList, lowercase_of_ascii hyphened,
    lowercase_of_ascii ascii, List.map_append, List.map_append, List.map_cons]
  by_cases abbreviates : Abbreviates front back
  · refine exceptRel_imp (itemsOf_insert_hyphen_abbreviation small (run ▸ abbreviates.2)) ?_
    exact fun _ _ apart => iff_of_false apart.different (not_not.mpr abbreviates)
  · have same := itemsOf_insert_hyphen small fun first short => abbreviates ⟨digit.mp first, run ▸ short⟩
    refine exceptRel_imp (exceptRel_eq_iff.mpr same) ?_
    exact fun _ _ same => iff_of_true same abbreviates

/-- A candidate with its number may be written either way, an alpha may not. -/
theorem parse_insert_hyphen_qualifiers :
    (parse "1.0rc-2" = parse "1.0rc2" ∧ ¬Abbreviates "1.0rc".toList ['2'] ∧
      ExceptRel Eq (fun hyphened plain => hyphened = plain ↔ ¬Abbreviates "1.0rc".toList ['2'])
        (parse "1.0rc-2") (parse "1.0rc2")) ∧
    parse "1.0A-2" ≠ parse "1.0A2" ∧ Abbreviates "1.0A".toList ['2'] ∧
      ExceptRel Eq (fun hyphened plain => hyphened = plain ↔ ¬Abbreviates "1.0A".toList ['2'])
        (parse "1.0A-2") (parse "1.0A2") := by
  have candidate : Border "1.0rc".toList ['2'] := ⟨'c', rfl, '2', rfl, .inr ⟨by decide, by decide⟩⟩
  have alpha : Border "1.0A".toList ['2'] := ⟨'A', rfl, '2', rfl, .inr ⟨by decide, by decide⟩⟩
  have hyphened : parse "1.0A-2" = .ok [.number 1, .nested [.qualifier "a", .nested [.number 2]]] := rfl
  have plain : parse "1.0A2" = .ok [.number 1, .nested [.qualifier "alpha", .nested [.number 2]]] := rfl
  refine ⟨⟨rfl, fun short => absurd short.2 (by decide), parse_insert_hyphen (by simp) candidate⟩, ?_,
    ⟨⟨'2', rfl, by decide⟩, by decide⟩, parse_insert_hyphen (by simp) alpha⟩
  rw [hyphened, plain]
  simp

end MavenResolution.Version
