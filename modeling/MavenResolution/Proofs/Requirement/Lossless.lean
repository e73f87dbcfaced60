import MavenResolution.Proofs.Requirement.Printing
import MavenResolution.Proofs.Requirement.Matches

/-! Nothing but white space is lost where a text is read as tokens. The tokens are those that the turns find, each
of them stands where it says, and in a row they are the text without its white space. -/
namespace MavenResolution.Requirement

open Text

variable {text blanks rest : List Char} {column : Nat} {symbol : Symbol} {found : List Token}

def Token.chars (token : Token) : List Char := token.symbol.text.toList

/-- White space, and nothing else, stands between two tokens of a text. -/
def Separated (text : List Char) (first second : Token) : Prop :=
  ∃ blanks, blanks ≠ [] ∧ (∀ c ∈ blanks, isBlank c = true) ∧
    text.drop first.column = first.chars ++ (blanks ++ text.drop second.column)

/-- All of a text but its white space is found in the tokens, at the places that they tell. -/
structure Lossless (text : List Char) (tokens : List Token) : Prop where
  joined : tokens.flatMap Token.chars = text.filter (!isBlank ·)
  placed : ∀ token ∈ tokens, token.chars <+: text.drop token.column
  increasing : tokens.Pairwise (·.column < ·.column)
  formed : ∀ token ∈ tokens, token.symbol.Formed
  apart : tokens.IsChain fun first second =>
    first.symbol.isVersion = true → second.symbol.isVersion = true → Separated text first second

/-! What is read. -/

theorem tokensFrom_blanks (blank : ∀ c ∈ blanks, isBlank c = true) (column : Nat) (rest : List Char) :
    tokensFrom column [] (blanks ++ rest) = tokensFrom (column + blanks.length) [] rest := by
  induction blanks generalizing column with
  | nil => rfl
  | cons c others ih =>
    obtain ⟨here, there⟩ := List.forall_mem_cons.mp blank
    rw [List.cons_append, tokensFrom, if_pos here, ih there, List.length_cons, Nat.add_right_comm]
    rfl

theorem tokensFrom_symbol (ends : symbol.EndsAt rest) (column : Nat) :
    tokensFrom column [] (symbol.text.toList ++ rest) =
      ⟨symbol, column⟩ :: tokensFrom (column + symbol.text.toList.length) [] rest := by
  cases ends.formed with
  | version nonempty plain =>
    have version := tokensFrom_version column []
      (fun c member => isVersionChar_iff.mpr (plain c member)) (ends.whole rfl)
    simpa [Symbol.text, versionToken, nonempty] using version
  | mark _ single denoted =>
    have visible := not_isBlank_of_punctuation denoted
    simp [single, tokensFrom, visible, denoted, versionToken]

/-- What stands behind the front of what is left. -/
theorem drop_of_left {front : List Char} (left : text.drop column = front ++ rest) :
    text.drop (column + front.length) = rest := by
  rw [← List.drop_drop, left, List.drop_left]

namespace Composed

/-- A text is read as the tokens that it is made of. -/
theorem tokensFrom_eq (composed : Composed text column found) :
    tokensFrom column [] (text.drop column) = found := by
  induction composed with
  | @blank column blank =>
    have read := tokensFrom_blanks blank column []
    rwa [List.append_nil] at read
  | token left blank ends _ ih =>
    rw [drop_of_left (drop_of_left left)] at ih
    rw [left, tokensFrom_blanks blank, tokensFrom_symbol ends, ih]

/-! The tokens that a text is made of lose nothing. -/

theorem joined (composed : Composed text column found) :
    found.flatMap Token.chars = (text.drop column).filter (!isBlank ·) := by
  induction composed with
  | blank blank =>
    refine (List.filter_eq_nil_iff.mpr fun c member => ?_).symm
    simp [blank c member]
  | @token column blanks rest symbol others left blank ends _ ih =>
    have passed : blanks.filter (!isBlank ·) = [] :=
      List.filter_eq_nil_iff.mpr fun c member => by simp [blank c member]
    have kept : symbol.text.toList.filter (!isBlank ·) = symbol.text.toList :=
      List.filter_eq_self.mpr fun c member => by simp [ends.formed.not_isBlank c member]
    rw [drop_of_left (drop_of_left left)] at ih
    rw [List.flatMap_cons, ih, left, List.filter_append, List.filter_append, passed, kept]
    rfl

theorem placed (composed : Composed text column found) :
    ∀ token ∈ found, token.chars <+: text.drop token.column := by
  induction composed with
  | blank => simp
  | token left _ _ _ ih =>
    refine List.forall_mem_cons.mpr ⟨?_, ih⟩
    rw [drop_of_left left]
    exact List.prefix_append _ _

theorem column_le (composed : Composed text column found) : ∀ token ∈ found, column ≤ token.column := by
  induction composed with
  | blank => simp
  | token _ _ _ _ ih =>
    refine List.forall_mem_cons.mpr ⟨Nat.le_add_right _ _, fun token member => ?_⟩
    have later := ih token member
    omega

theorem increasing (composed : Composed text column found) : found.Pairwise (·.column < ·.column) := by
  induction composed with
  | blank => exact .nil
  | token _ _ ends others ih =>
    refine .cons (fun token member => ?_) ih
    have later := others.column_le token member
    have taken := List.length_pos_iff.mpr ends.formed.text_ne_nil
    dsimp only
    omega

theorem formed (composed : Composed text column found) : ∀ token ∈ found, token.symbol.Formed := by
  induction composed with
  | blank => simp
  | token _ _ ends _ ih => exact List.forall_mem_cons.mpr ⟨ends.formed, ih⟩

/-- A version in front of another one would go on there if nothing stood between them. -/
theorem ne_nil_of_version {next : Symbol} (ends : symbol.EndsAt (blanks ++ (next.text.toList ++ rest)))
    (version : symbol.isVersion = true) (formed : next.Formed) (versionToo : next.isVersion = true) :
    blanks ≠ [] := by
  rintro rfl
  obtain ⟨c, others, spelled⟩ := List.exists_cons_of_ne_nil formed.text_ne_nil
  have broken := ends.whole version c (by simp [spelled])
  rw [formed.isVersionChar versionToo c (by simp [spelled])] at broken
  cases broken

theorem apart (composed : Composed text column found) : found.IsChain fun first second =>
    first.symbol.isVersion = true → second.symbol.isVersion = true → Separated text first second := by
  induction composed with
  | blank => exact .nil
  | token left blank ends others ih =>
    refine List.isChain_cons.mpr ⟨fun second next version versionToo => ?_, ih⟩
    cases others with
    | blank => cases next
    | token left' blank' ends' others =>
      obtain rfl := Option.some.inj next
      have behind := drop_of_left (drop_of_left left)
      rw [behind] at left'
      subst left'
      refine ⟨_, ne_nil_of_version ends version ends'.formed versionToo, blank', ?_⟩
      rw [drop_of_left left, drop_of_left behind]
      rfl

end Composed

/-- Every text is read as tokens that lose nothing of it but its white space. They are those that turns from its
beginning on find, which come to an end and leave nothing but white space behind. -/
theorem tokens_lossless (text : List Char) : Lossless text (tokens text) ∧
    ∃ last, StateTransition.eval (Progress.turn? text) ⟨0, []⟩ = Part.some ⟨last, tokens text⟩ ∧
      ∀ c ∈ text.drop last, isBlank c = true := by
  obtain ⟨last, found, composed, run, done⟩ := exists_composed text ⟨0, []⟩
  have read : tokens text = found := composed.tokensFrom_eq
  rw [read]
  exact ⟨⟨composed.joined, composed.placed, composed.increasing, composed.formed, composed.apart⟩,
    last, Part.eq_some_iff.mpr run, done⟩

/-- Without a comma, white space keeps two versions apart. -/
example : tokens "[1, 2 3)".toList =
    [⟨.opening true, 0⟩, ⟨.version "1", 1⟩, ⟨.comma, 2⟩, ⟨.version "2", 4⟩, ⟨.version "3", 6⟩,
      ⟨.closing false, 7⟩] := by decide

end MavenResolution.Requirement
