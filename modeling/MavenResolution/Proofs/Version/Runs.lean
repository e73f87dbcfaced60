import Mathlib.Data.List.DropRight
import MavenResolution.Proofs.Version.Reading

/-! Runs of a text and its lexemes. Where two texts meet at characters that make no run, their lexemes are put
together as well; so the digits among the lexemes of a text are its maximal runs of digits. -/
namespace MavenResolution.Version

open Text

variable {c d : Char} {kind : Char → Bool} {run text front back : List Char}

/-- Two characters that belong to one run where they stand side by side. -/
def inOneRun (c d : Char) : Bool := isDigit c && isDigit d || isLetter c && isLetter d

/-- Two texts that meet at no run. -/
def Parted (front back : List Char) : Prop :=
  ∀ c ∈ front.getLast?, ∀ d ∈ back.head?, inOneRun c d = false

/-- A stretch of characters of one kind that none of the kind stands beside. -/
structure MaximalRun (kind : Char → Bool) (run text : List Char) : Prop where
  nonempty : run ≠ []
  alike : ∀ c ∈ run, kind c = true
  bounded : ∃ before after, text = before ++ run ++ after ∧
    (∀ c ∈ before.getLast?, kind c = false) ∧ ∀ c ∈ after.head?, kind c = false

/-! Kinds of characters. -/

theorem kinds (c : Char) : c = '.' ∨ c = '-' ∨ isDigit c = true ∨ isLetter c = true := by
  by_cases digit : isDigit c = true
  · exact .inr (.inr (.inl digit))
  · simp only [isLetter, digit, Bool.or_false, Bool.not_or, Bool.and_eq_true, Bool.not_eq_true',
      beq_eq_false_iff_ne]
    tauto

theorem isLetter_of_isDigit (digit : isDigit c = true) : isLetter c = false := by
  simp [isLetter, digit]

theorem inOneRun_of_isDigit (digit : isDigit d = true) : inOneRun c d = isDigit c := by
  simp [inOneRun, digit, isLetter_of_isDigit digit]

theorem inOneRun_of_isLetter (letter : isLetter d = true) : inOneRun c d = isLetter c := by
  obtain ⟨-, digit⟩ := isLetter_iff.mp letter
  simp [inOneRun, digit, letter]

theorem inOneRun_of_separator (separator : d = '.' ∨ d = '-') : inOneRun c d = false := by
  have dot : isDigit '.' = false ∧ isLetter '.' = false := by decide
  have hyphen : isDigit '-' = false ∧ isLetter '-' = false := by decide
  obtain rfl | rfl := separator
  · simp [inOneRun, dot]
  · simp [inOneRun, hyphen]

theorem inOneRun_comm (c d : Char) : inOneRun c d = inOneRun d c := by
  simp only [inOneRun, Bool.and_comm]

/-! What the lexemes of a text begin with. -/

namespace Lexeme

theorem exists_cons_digit (digit : isDigit c = true) (rest : List Lexeme) :
    ∃ run others, Lexeme.cons c rest = .digits run :: others := by
  match rest with
  | .digits run :: others => exact ⟨_, _, cons_digit_digits digit run others⟩
  | [] | .word _ :: _ | .dot :: _ | .hyphen :: _ => exact ⟨_, _, cons_digit digit rfl⟩

theorem exists_cons_letter (letter : isLetter c = true) (rest : List Lexeme) :
    ∃ run others, Lexeme.cons c rest = .word run :: others := by
  match rest with
  | .word run :: others => exact ⟨_, _, cons_letter_word letter run others⟩
  | [] | .digits _ :: _ | .dot :: _ | .hyphen :: _ => exact ⟨_, _, cons_letter letter rfl⟩

/-- What is put in front joins the first lexeme at most. -/
theorem cons_append {first : List Lexeme} (nonempty : first ≠ []) (c : Char) (more : List Lexeme) :
    Lexeme.cons c (first ++ more) = Lexeme.cons c first ++ more := by
  cases first with
  | nil => contradiction
  | cons lexeme others =>
    obtain rfl | rfl | digit | letter := kinds c
    · rfl
    · rfl
    · cases lexeme with
      | digits run => rw [List.cons_append, cons_digit_digits digit, cons_digit_digits digit]; rfl
      | word | dot | hyphen => rw [List.cons_append, cons_digit digit rfl, cons_digit digit rfl]; rfl
    · cases lexeme with
      | word run => rw [List.cons_append, cons_letter_word letter, cons_letter_word letter]; rfl
      | digits | dot | hyphen => rw [List.cons_append, cons_letter letter rfl, cons_letter letter rfl]; rfl

end Lexeme

theorem startsDigits_lexemes (c : Char) (rest : List Char) :
    Lexeme.startsDigits (lexemes (c :: rest)) = isDigit c := by
  rw [lexemes]
  obtain rfl | rfl | digit | letter := kinds c
  · rfl
  · rfl
  · obtain ⟨run, others, same⟩ := Lexeme.exists_cons_digit digit (lexemes rest)
    rw [same, digit]
    rfl
  · obtain ⟨run, others, same⟩ := Lexeme.exists_cons_letter letter (lexemes rest)
    rw [same, (isLetter_iff.mp letter).2]
    rfl

theorem startsWord_lexemes (c : Char) (rest : List Char) :
    Lexeme.startsWord (lexemes (c :: rest)) = isLetter c := by
  rw [lexemes]
  obtain rfl | rfl | digit | letter := kinds c
  · rfl
  · rfl
  · obtain ⟨run, others, same⟩ := Lexeme.exists_cons_digit digit (lexemes rest)
    rw [same, isLetter_of_isDigit digit]
    rfl
  · obtain ⟨run, others, same⟩ := Lexeme.exists_cons_letter letter (lexemes rest)
    rw [same, letter]
    rfl

/-! Texts that meet at no run. -/

theorem parted_of_separator (separator : d = '.' ∨ d = '-') (front rest : List Char) :
    Parted front (d :: rest) := by
  intro c _ first same
  cases same
  exact inOneRun_of_separator separator

theorem lexemes_ne_nil (nonempty : text ≠ []) : lexemes text ≠ [] := by
  intro empty
  have lost := flatMap_text_lexemes text
  rw [empty, List.flatMap_nil] at lost
  exact nonempty lost.symm

theorem lexemes_cons_of_parted (parted : Parted [c] back) :
    lexemes (c :: back) = lexemes [c] ++ lexemes back := by
  have apart : ∀ d ∈ back.head?, inOneRun d c = false := by
    intro d first
    rw [inOneRun_comm, parted c rfl d first]
  obtain rfl | rfl | digit | letter := kinds c
  · rfl
  · rfl
  · have ending : Lexeme.startsDigits (lexemes back) = false := by
      cases back with
      | nil => rfl
      | cons d rest => rw [startsDigits_lexemes, ← inOneRun_of_isDigit digit, apart d rfl]
    have alone : lexemes [c] = [.digits [c]] := Lexeme.cons_digit digit rfl
    rw [alone]
    exact Lexeme.cons_digit digit ending
  · have ending : Lexeme.startsWord (lexemes back) = false := by
      cases back with
      | nil => rfl
      | cons d rest => rw [startsWord_lexemes, ← inOneRun_of_isLetter letter, apart d rfl]
    have alone : lexemes [c] = [.word [c]] := Lexeme.cons_letter letter rfl
    rw [alone]
    exact Lexeme.cons_letter letter ending

/-- No lexeme reaches across the place where the texts meet. -/
theorem lexemes_append (parted : Parted front back) :
    lexemes (front ++ back) = lexemes front ++ lexemes back := by
  induction front with
  | nil => rfl
  | cons c rest ih =>
    cases rest with
    | nil => exact lexemes_cons_of_parted parted
    | cons next others =>
      have behind : Parted (next :: others) back := by
        intro last
        simpa only [List.getLast?_cons_cons] using parted last
      rw [List.cons_append, lexemes, ih behind, Lexeme.cons_append (lexemes_ne_nil (List.cons_ne_nil _ _))]
      rfl

/-! What the lexemes of a text end with. -/

/-- Characters that make one run with those of a kind are of the kind themselves. -/
def IsRunKind (kind : Char → Bool) : Prop := ∀ c d, kind d = true → inOneRun c d = kind c

theorem parted_rdropWhile (runs : IsRunKind kind) (text : List Char) :
    Parted (text.rdropWhile kind) (text.rtakeWhile kind) := by
  intro c last d first
  obtain ⟨nonempty, rfl⟩ := List.mem_getLast?_eq_getLast last
  rw [runs _ d (List.mem_rtakeWhile_imp (List.mem_of_head? first)), ← Bool.not_eq_true]
  exact List.rdropWhile_last_not kind text nonempty

theorem rtakeWhile_ne_nil (ends : ∃ c ∈ text.getLast?, kind c = true) : text.rtakeWhile kind ≠ [] := by
  obtain ⟨c, last, same⟩ := ends
  obtain ⟨nonempty, rfl⟩ := List.mem_getLast?_eq_getLast last
  rw [Ne, List.rtakeWhile_eq_nil_iff]
  exact fun other => other nonempty same

theorem lexemes_of_last_digit (ends : ∃ c ∈ text.getLast?, isDigit c = true) :
    lexemes text = lexemes (text.rdropWhile isDigit) ++ [.digits (text.rtakeWhile isDigit)] := by
  rw [← lexemes_digits (fun c => List.mem_rtakeWhile_imp) (rtakeWhile_ne_nil ends),
    ← lexemes_append (parted_rdropWhile (fun _ _ => inOneRun_of_isDigit) text),
    List.rdropWhile_append_rtakeWhile]

theorem lexemes_of_last_letter (ends : ∃ c ∈ text.getLast?, isLetter c = true) :
    lexemes text = lexemes (text.rdropWhile isLetter) ++ [.word (text.rtakeWhile isLetter)] := by
  rw [← lexemes_word (fun c => List.mem_rtakeWhile_imp) (rtakeWhile_ne_nil ends),
    ← lexemes_append (parted_rdropWhile (fun _ _ => inOneRun_of_isLetter) text),
    List.rdropWhile_append_rtakeWhile]

/-- The last lexeme of a text is a separator, or a run that goes back as far as it can. -/
theorem exists_last (nonempty : text ≠ []) : ∃ rest lexeme, text = rest ++ lexeme.text ∧
    lexemes text = lexemes rest ++ [lexeme] ∧ Parted rest lexeme.text ∧ lexeme.text ≠ [] ∧
    ∀ run, lexeme = .digits run → ∀ c ∈ run, isDigit c = true := by
  obtain ⟨rest, c, rfl⟩ := (List.eq_nil_or_concat' text).resolve_left nonempty
  have last : c ∈ (rest ++ [c]).getLast? := List.getLast?_concat
  obtain rfl | rfl | digit | letter := kinds c
  · have parted := parted_of_separator (.inl rfl) rest []
    exact ⟨rest, .dot, rfl, lexemes_append parted, parted, List.cons_ne_nil _ _, nofun⟩
  · have parted := parted_of_separator (.inr rfl) rest []
    exact ⟨rest, .hyphen, rfl, lexemes_append parted, parted, List.cons_ne_nil _ _, nofun⟩
  · refine ⟨_, _, List.rdropWhile_append_rtakeWhile.symm, lexemes_of_last_digit ⟨c, last, digit⟩,
      parted_rdropWhile (fun _ _ => inOneRun_of_isDigit) _, rtakeWhile_ne_nil ⟨c, last, digit⟩, ?_⟩
    rintro run same c member
    cases same
    exact List.mem_rtakeWhile_imp member
  · exact ⟨_, _, List.rdropWhile_append_rtakeWhile.symm, lexemes_of_last_letter ⟨c, last, letter⟩,
      parted_rdropWhile (fun _ _ => inOneRun_of_isLetter) _, rtakeWhile_ne_nil ⟨c, last, letter⟩, nofun⟩

/-! Maximal runs. -/

theorem MaximalRun.append (runs : IsRunKind kind) (maximal : MaximalRun kind run front)
    (parted : Parted front back) : MaximalRun kind run (front ++ back) := by
  obtain ⟨nonempty, alike, before, after, rfl, opens, closes⟩ := maximal
  refine ⟨nonempty, alike, before, after ++ back, by rw [List.append_assoc], opens, ?_⟩
  intro d first
  cases after with
  | cons e others => exact closes d first
  | nil =>
    -- The run is what the first text ends with, so that the second one begins with no character of its kind.
    have last : (before ++ run ++ []).getLast? = some (run.getLast nonempty) := by
      rw [List.append_nil, List.getLast?_append_of_ne_nil _ nonempty, List.getLast?_eq_some_getLast]
    have apart : inOneRun (run.getLast nonempty) d = false := parted _ last d first
    rwa [inOneRun_comm, runs d _ (alike _ (List.getLast_mem nonempty))] at apart

theorem digits_mem_lexemes_of_maximalRun (maximal : MaximalRun isDigit run text) :
    .digits run ∈ lexemes text := by
  obtain ⟨nonempty, alike, before, after, rfl, opens, closes⟩ := maximal
  have apart : Parted before (run ++ after) := by
    intro c last d first
    rw [List.head?_append_of_ne_nil _ nonempty] at first
    rw [inOneRun_of_isDigit (alike d (List.mem_of_head? first)), opens c last]
  have ending : Lexeme.startsDigits (lexemes after) = false := by
    cases after with
    | nil => rfl
    | cons d others => rw [startsDigits_lexemes, closes d rfl]
  rw [List.append_assoc, lexemes_append apart, lexemes_digits_append alike nonempty ending]
  simp

theorem maximalRun_of_digits_mem_lexemes (member : .digits run ∈ lexemes text) :
    MaximalRun isDigit run text := by
  -- The last run is cut off, so that the induction is on the length.
  induction size : text.length using Nat.strongRecOn generalizing text with
  | ind length ih =>
    have nonempty : text ≠ [] := by
      rintro rfl
      cases member
    obtain ⟨rest, lexeme, rfl, same, parted, solid, digits⟩ := exists_last nonempty
    rw [same, List.mem_append, List.mem_singleton] at member
    obtain earlier | rfl := member
    · have shorter : rest.length < length := by
        rw [← size, List.length_append]
        exact Nat.lt_add_of_pos_right (List.length_pos_of_ne_nil solid)
      exact (ih _ shorter earlier rfl).append (fun _ _ => inOneRun_of_isDigit) parted
    · refine ⟨solid, digits run rfl, rest, [], (List.append_nil _).symm, fun c last => ?_, nofun⟩
      have first : run.head solid ∈ run.head? := List.head?_eq_some_head solid
      exact (inOneRun_of_isDigit (digits run rfl _ (List.head_mem solid))).symm.trans (parted c last _ first)

/-- The digits among the lexemes of a text are its maximal runs of digits. -/
theorem digits_mem_lexemes_iff : .digits run ∈ lexemes text ↔ MaximalRun isDigit run text :=
  ⟨maximalRun_of_digits_mem_lexemes, digits_mem_lexemes_of_maximalRun⟩

end MavenResolution.Version
