import Mathlib.Computability.StateTransition
import MavenResolution.Proofs.Pattern.Ends
import MavenResolution.Proofs.Requirement.Spacing
import MavenResolution.Proofs.Text.Blank

/-! Tokens found one after the other. Every turn takes the longest match of a pattern, which is white space and
the mark or the version behind it. There are turns as long as anything but white space is left of the text, and
they come to an end on every text. -/
namespace MavenResolution.Requirement

open Text

variable {text : List Char} {column : Nat} {symbol : Symbol} {c : Char}

/-! Marks and versions. -/

/-- The characters that are tokens by themselves. -/
def marks : List Char := ['[', ']', '(', ')', ',']

def Symbol.isVersion : Symbol → Bool
  | .version _ => true
  | _ => false

/-- A version has characters, none of them white space or a mark, and any other token is a mark. -/
inductive Symbol.Formed : Symbol → Prop
  | version {name : String} (nonempty : name ≠ "")
      (plain : ∀ c ∈ name.toList, isBlank c = false ∧ c ∉ marks) : Formed (.version name)
  | mark {c : Char} {symbol : Symbol} (listed : c ∈ marks) (single : symbol.text.toList = [c])
      (denoted : punctuation? c = some symbol) : Formed symbol

theorem punctuation?_eq_none_iff : punctuation? c = none ↔ c ∉ marks := by
  unfold punctuation? marks
  grind

theorem isVersionChar_iff : isVersionChar c = true ↔ isBlank c = false ∧ c ∉ marks := by
  rw [isVersionChar, Bool.and_eq_true, Bool.not_eq_true', Option.isNone_iff_eq_none,
    punctuation?_eq_none_iff]

theorem mem_marks_of_punctuation (denoted : punctuation? c = some symbol) : c ∈ marks := by
  by_contra unlisted
  rw [punctuation?_eq_none_iff.mpr unlisted] at denoted
  cases denoted

theorem toList_text_of_punctuation (denoted : punctuation? c = some symbol) :
    symbol.text.toList = [c] := by
  have spelled : marks.all (fun c => (punctuation? c).map (·.text.toList) == some [c]) = true := by decide
  have single := List.all_eq_true.mp spelled c (mem_marks_of_punctuation denoted)
  rw [denoted] at single
  exact Option.some.inj (eq_of_beq single)

theorem formed_of_punctuation (denoted : punctuation? c = some symbol) : symbol.Formed :=
  .mark (mem_marks_of_punctuation denoted) (toList_text_of_punctuation denoted) denoted

theorem formed_of_isVersionChar {run : List Char} (nonempty : run ≠ [])
    (version : ∀ c ∈ run, isVersionChar c = true) : (Symbol.version (String.ofList run)).Formed := by
  refine .version (by simpa using nonempty) fun c member => ?_
  rw [String.toList_ofList] at member
  exact isVersionChar_iff.mp (version c member)

theorem exists_punctuation (listed : c ∈ marks) : ∃ symbol, punctuation? c = some symbol := by
  rw [← Option.ne_none_iff_exists']
  exact fun none => punctuation?_eq_none_iff.mp none listed

theorem isVersion_of_punctuation (denoted : punctuation? c = some symbol) : symbol.isVersion = false := by
  unfold punctuation? at denoted
  grind [Symbol.isVersion]

namespace Symbol.Formed

theorem text_ne_nil (formed : symbol.Formed) : symbol.text.toList ≠ [] := by
  cases formed with
  | version nonempty => simpa [Symbol.text, String.toList_eq_nil_iff] using nonempty
  | mark _ single => simp [single]

theorem not_isBlank (formed : symbol.Formed) : ∀ c ∈ symbol.text.toList, isBlank c = false := by
  cases formed with
  | version _ plain => exact fun c member => (plain c member).1
  | mark listed single =>
    have visible : marks.all (!isBlank ·) = true := by decide
    simpa [single] using List.all_eq_true.mp visible _ listed

theorem dropBlanks_text (formed : symbol.Formed) : dropBlanks symbol.text.toList = symbol.text.toList := by
  obtain ⟨c, others, spelled⟩ := List.exists_cons_of_ne_nil formed.text_ne_nil
  have visible := formed.not_isBlank c (by simp [spelled])
  rw [spelled, dropBlanks, List.dropWhile_cons_of_neg (by simp [visible])]

theorem isVersionChar (formed : symbol.Formed) (version : symbol.isVersion = true) :
    ∀ c ∈ symbol.text.toList, Requirement.isVersionChar c = true := by
  cases formed with
  | version _ plain => exact fun c member => isVersionChar_iff.mpr (plain c member)
  | mark _ _ denoted =>
    rw [isVersion_of_punctuation denoted] at version
    cases version

/-- A version that another character of versions follows is a part of a longer one. -/
theorem exists_longer (formed : symbol.Formed) (version : symbol.isVersion = true)
    (more : Requirement.isVersionChar c = true) :
    ∃ longer : Symbol, longer.Formed ∧ longer.text.toList = symbol.text.toList ++ [c] := by
  refine ⟨.version (String.ofList (symbol.text.toList ++ [c])), formed_of_isVersionChar (by simp) ?_,
    String.toList_ofList⟩
  exact List.forall_mem_append.mpr ⟨formed.isVersionChar version, List.forall_mem_singleton.mpr more⟩

end Symbol.Formed

/-- The symbol is all that can be read in front of such a text: no version goes on there. -/
structure Symbol.EndsAt (symbol : Symbol) (rest : List Char) : Prop where
  formed : symbol.Formed
  whole : symbol.isVersion = true → ∀ c ∈ rest.head?, isVersionChar c = false

/-! Turns. -/

/-- White space, and behind it a mark or some characters of a version. -/
def tokenPattern : Pattern.Node :=
  .sequence [.repeated 0 none (.oneOf false false [.category .blank false]),
    .choice [.oneOf false false (marks.map .char),
      .repeated 1 none (.oneOf true false (.category .blank false :: marks.map .char))]]

/-- How far a text has been read, and the tokens in front of there. -/
structure Progress where
  column : Nat
  found : List Token

/-- What some characters are as a token. -/
def symbolOf (run : List Char) : Symbol :=
  match run.head?.bind punctuation? with
  | some mark => mark
  | none => .version (String.ofList run)

/-- A turn takes the longest match from where the last one ended, as repetitions go on while they can. The token
is what the match has behind its white space. Without a match there is no turn. -/
def Progress.turn? (text : List Char) (progress : Progress) : Option Progress :=
  (tokenPattern.ends text progress.column).max?.map fun stop =>
    let run := dropBlanks ((text.take stop).drop progress.column)
    ⟨stop, progress.found ++ [⟨symbolOf run, stop - run.length⟩]⟩

theorem symbolOf_text (formed : symbol.Formed) : symbolOf symbol.text.toList = symbol := by
  cases formed with
  | @version name nonempty plain =>
    have unmarked : name.toList.head?.bind punctuation? = none := by
      rw [Option.bind_eq_none_iff]
      exact fun c head => punctuation?_eq_none_iff.mpr (plain c (List.mem_of_mem_head? head)).2
    rw [symbolOf, Symbol.text, unmarked, String.ofList_toList]
  | mark _ single denoted => simp [symbolOf, single, denoted]

/-- Any character but white space is a token, if perhaps a part of a longer one. -/
theorem exists_formed (visible : isBlank c = false) :
    ∃ symbol : Symbol, symbol.Formed ∧ symbol.text.toList = [c] := by
  cases denoted : punctuation? c with
  | some mark => exact ⟨mark, formed_of_punctuation denoted, toList_text_of_punctuation denoted⟩
  | none =>
    refine ⟨.version (String.singleton c), .version (by simp) ?_, by simp [Symbol.text]⟩
    simpa using ⟨visible, punctuation?_eq_none_iff.mp denoted⟩

section

open Pattern

theorem accepted_blank : accepted false false [.category .blank false] = isBlank := by
  funext c
  simp [accepted, Member.holds, Category.holds]

theorem accepted_marks_iff : accepted false false (marks.map .char) c = true ↔ c ∈ marks := by
  simp [accepted, Member.holds]

theorem accepted_version :
    accepted true false (.category .blank false :: marks.map .char) = isVersionChar := by
  funext c
  rw [Bool.eq_iff_iff, isVersionChar_iff]
  simp [accepted, Member.holds, Category.holds, List.forall_mem_ne]

/-- A match of the pattern is white space and a token behind it, or some of a token. -/
theorem mem_ends_tokenPattern {stop : Nat} : stop ∈ tokenPattern.ends text column ↔
    ∃ blanks symbol, (∀ c ∈ blanks, isBlank c = true) ∧ Symbol.Formed symbol ∧
      blanks ++ symbol.text.toList <+: text.drop column ∧
      stop = column + blanks.length + symbol.text.toList.length := by
  simp only [tokenPattern, mem_ends_choice_cons, mem_ends_sequence_cons, mem_ends_sequence_nil,
    not_mem_ends_choice_nil, mem_ends_repeated_iff, ends_oneOf, mem_step_iff, or_false, exists_eq_right',
    accepted_blank, accepted_version]
  constructor
  · rintro ⟨_, ⟨blanks, ⟨here, blank⟩, -, rfl⟩, ⟨c, ⟨there, mark⟩, rfl⟩ |
      ⟨run, ⟨there, version⟩, some, rfl⟩⟩
    · obtain ⟨symbol, denoted⟩ := exists_punctuation (accepted_marks_iff.mp (mark c List.mem_cons_self))
      have single := toList_text_of_punctuation denoted
      refine ⟨blanks, symbol, blank, formed_of_punctuation denoted, ?_, by rw [single]; rfl⟩
      rw [single]
      exact append_prefix_drop_iff.mpr ⟨here, there⟩
    · have spelled : (Symbol.version (String.ofList run)).text.toList = run := String.toList_ofList
      have formed := formed_of_isVersionChar (List.length_pos_iff.mp some) version
      refine ⟨blanks, .version (String.ofList run), blank, formed, ?_, by rw [spelled]⟩
      rw [spelled]
      exact append_prefix_drop_iff.mpr ⟨here, there⟩
  · rintro ⟨blanks, symbol, blank, formed, whole, rfl⟩
    obtain ⟨here, there⟩ := append_prefix_drop_iff.mp whole
    refine ⟨_, ⟨blanks, ⟨here, blank⟩, Nat.zero_le _, rfl⟩, ?_⟩
    cases formed with
    | version nonempty plain =>
      refine .inr ⟨_, ⟨there, fun c member => isVersionChar_iff.mpr (plain c member)⟩, ?_, rfl⟩
      exact List.length_pos_iff.mpr (mt String.toList_eq_nil_iff.mp nonempty)
    | @mark c _ listed single denoted =>
      rw [single] at there ⊢
      refine .inl ⟨c, ⟨there, ?_⟩, rfl⟩
      exact List.forall_mem_singleton.mpr (accepted_marks_iff.mpr listed)

end

namespace Progress

variable {progress next : Progress}

/-- What a turn does: it takes white space and a symbol that ends there, and the token stands where the symbol
begins. -/
theorem exists_of_turn (turn : progress.turn? text = some next) :
    ∃ blanks symbol rest, text.drop progress.column = blanks ++ (symbol.text.toList ++ rest) ∧
      (∀ c ∈ blanks, isBlank c = true) ∧ symbol.EndsAt rest ∧
      next = ⟨progress.column + blanks.length + symbol.text.toList.length,
        progress.found ++ [⟨symbol, progress.column + blanks.length⟩]⟩ := by
  obtain ⟨stop, greatest, rfl⟩ := Option.map_eq_some_iff.mp turn
  obtain ⟨ends, longest⟩ := List.max?_eq_some_iff.mp greatest
  obtain ⟨blanks, symbol, blank, formed, ⟨rest, left⟩, rfl⟩ := mem_ends_tokenPattern.mp ends
  refine ⟨blanks, symbol, rest, ?_, blank, ⟨formed, fun version c head => ?_⟩, ?_⟩
  · rw [← left, List.append_assoc]
  · by_contra more
    obtain ⟨others, rfl⟩ := List.head?_eq_some_iff.mp head
    obtain ⟨longer, formedToo, spelled⟩ := formed.exists_longer version (Bool.of_not_eq_false more)
    have matched : _ ∈ tokenPattern.ends text progress.column := mem_ends_tokenPattern.mpr
      ⟨blanks, longer, blank, formedToo, ⟨others, by rw [spelled, ← left]; simp⟩, rfl⟩
    have within := longest _ matched
    rw [spelled, List.length_append, List.length_singleton] at within
    omega
  · have taken : (text.take (progress.column + blanks.length + symbol.text.toList.length)).drop
        progress.column = blanks ++ symbol.text.toList := by
      rw [List.drop_take, ← left, Nat.add_assoc, Nat.add_sub_cancel_left, ← List.length_append, List.take_left]
    dsimp only
    rw [taken, dropBlanks_append blank, formed.dropBlanks_text, symbolOf_text formed, Nat.add_sub_cancel]

/-- There are turns as long as anything but white space is left. -/
theorem isBlank_of_turn_none (none : progress.turn? text = none) :
    ∀ c ∈ text.drop progress.column, isBlank c = true := by
  have unmatched := List.max?_eq_none_iff.mp (Option.map_eq_none_iff.mp none)
  by_contra visible
  have behind : dropBlanks (text.drop progress.column) ≠ [] := mt List.dropWhile_eq_nil_iff.mp visible
  obtain ⟨c, rest, shown⟩ := List.exists_cons_of_ne_nil behind
  have solid : isBlank c = false :=
    not_of_mem_head?_dropWhile isBlank (text.drop progress.column) c (List.head?_eq_some_iff.mpr ⟨rest, shown⟩)
  obtain ⟨symbol, formed, single⟩ := exists_formed solid
  have left : (text.drop progress.column).takeWhile isBlank ++ symbol.text.toList ++ rest =
      text.drop progress.column := by
    rw [single, List.append_assoc, List.singleton_append, ← shown, dropBlanks, List.takeWhile_append_dropWhile]
  have matched : _ ∈ tokenPattern.ends text progress.column := mem_ends_tokenPattern.mpr
    ⟨_, symbol, fun c member => List.mem_takeWhile_imp member, formed, ⟨rest, left⟩, rfl⟩
  rw [unmatched] at matched
  cases matched

end Progress

/-! Runs. -/

/-- The tokens that a text is made of from a column on, with white space in front of each of them and behind the
last. -/
inductive Composed (text : List Char) : (column : Nat) → List Token → Prop
  | blank {column : Nat} (blank : ∀ c ∈ text.drop column, isBlank c = true) : Composed text column []
  | token {column : Nat} {blanks rest : List Char} {symbol : Symbol} {others : List Token}
      (left : text.drop column = blanks ++ (symbol.text.toList ++ rest))
      (blank : ∀ c ∈ blanks, isBlank c = true) (ends : symbol.EndsAt rest)
      (composed : Composed text (column + blanks.length + symbol.text.toList.length) others) :
      Composed text column (⟨symbol, column + blanks.length⟩ :: others)

/-- Wherever it begins, a run of turns comes to an end, where it has found the tokens that the text is made of from
there on and leaves nothing but white space. -/
theorem exists_composed (text : List Char) (progress : Progress) :
    ∃ last others, Composed text progress.column others ∧
      ⟨last, progress.found ++ others⟩ ∈ StateTransition.eval (Progress.turn? text) progress ∧
      ∀ c ∈ text.drop last, isBlank c = true := by
  -- Every turn takes a symbol, so that less of the text is left.
  induction size : (text.drop progress.column).length using Nat.strongRecOn generalizing progress with
  | ind bound ih =>
    cases turn : progress.turn? text with
    | none =>
      have blank := Progress.isBlank_of_turn_none turn
      refine ⟨progress.column, [], .blank blank, ?_, blank⟩
      rw [List.append_nil]
      exact StateTransition.mem_eval.mpr ⟨.refl, turn⟩
    | some next =>
      obtain ⟨blanks, symbol, rest, left, blank, ends, rfl⟩ := Progress.exists_of_turn turn
      have shorter : (text.drop (progress.column + blanks.length + symbol.text.toList.length)).length < bound := by
        have taken := List.length_pos_iff.mpr ends.formed.text_ne_nil
        have whole := congrArg List.length left
        simp only [List.length_append, List.length_drop] at whole size ⊢
        omega
      obtain ⟨last, others, composed, run, done⟩ := ih _ shorter ⟨_, progress.found ++ [_]⟩ rfl
      refine ⟨last, _, .token left blank ends composed, ?_, done⟩
      rw [StateTransition.reaches_eval (.single turn)]
      rwa [List.append_assoc] at run

end MavenResolution.Requirement
