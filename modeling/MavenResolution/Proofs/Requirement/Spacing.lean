import MavenResolution.Requirement.Parse

/-! White space between the tokens of a range set. Wherever no version is cut in two by it, the text
consists of the same symbols without it. -/
namespace MavenResolution.Requirement

open Text

/-- The symbols that a text consists of. -/
def symbolsOf (text : List Char) : List Symbol := (tokens text).map Token.symbol

/-- The character may be a part of a version. -/
def isVersionChar (c : Char) : Bool := !isBlank c && (punctuation? c).isNone

theorem map_symbol_versionToken (column column' : Nat) (run : List Char) :
    (versionToken column run).map Token.symbol = (versionToken column' run).map Token.symbol := by
  unfold versionToken
  split <;> rfl

/-- Where a text stands makes no difference to its symbols. -/
theorem map_symbol_tokensFrom (column column' : Nat) (run text : List Char) :
    (tokensFrom column run text).map Token.symbol = (tokensFrom column' run text).map Token.symbol := by
  induction text generalizing column column' run with
  | nil => exact map_symbol_versionToken column column' run
  | cons c rest ih =>
    have here := map_symbol_versionToken column column' run
    rw [tokensFrom, tokensFrom]
    split
    · rw [List.map_append, List.map_append, here, ih]
    · split
      · rw [List.map_append, List.map_append, here, List.map_cons, List.map_cons, ih]
      · exact ih _ _ _

/-- A version ends where no more of it can follow. -/
theorem tokensFrom_of_break (column : Nat) (run : List Char) {text : List Char}
    (breaks : ∀ c ∈ text.head?, isVersionChar c = false) :
    tokensFrom column run text = versionToken column run ++ tokensFrom column [] text := by
  cases text with
  | nil => simp [tokensFrom, versionToken]
  | cons c rest =>
    have broken : isVersionChar c = false := breaks c rfl
    rw [tokensFrom, tokensFrom]
    cases blank : isBlank c with
    | true => rfl
    | false =>
      cases symbol : punctuation? c with
      | none =>
        simp only [isVersionChar, blank, symbol] at broken
        cases broken
      | some symbol => rfl

theorem map_symbol_tokensFrom_of_break (column : Nat) (run : List Char) {text : List Char}
    (breaks : ∀ c ∈ text.head?, isVersionChar c = false) :
    (tokensFrom column run text).map Token.symbol =
      (versionToken column run).map Token.symbol ++ symbolsOf text := by
  rw [tokensFrom_of_break column run breaks, List.map_append, map_symbol_tokensFrom column 0 [] text]
  rfl

theorem symbolsOf_blank {c : Char} (blank : isBlank c = true) (text : List Char) :
    symbolsOf (c :: text) = symbolsOf text := by
  rw [symbolsOf, tokens, tokensFrom, if_pos blank]
  exact map_symbol_tokensFrom _ _ [] text

theorem symbolsOf_blanks {blanks : List Char} (blank : ∀ c ∈ blanks, isBlank c = true)
    (text : List Char) : symbolsOf (blanks ++ text) = symbolsOf text := by
  induction blanks with
  | nil => rfl
  | cons c rest ih =>
    obtain ⟨here, there⟩ := List.forall_mem_cons.mp blank
    rw [List.cons_append, symbolsOf_blank here, ih there]

/-- Nothing that stands at the place is a version that goes on there. -/
def BetweenTokens (front back : List Char) : Prop :=
  (∀ c ∈ front.getLast?, isVersionChar c = false) ∨ ∀ c ∈ back.head?, isVersionChar c = false

/-- White space between tokens makes no difference to the symbols, whatever was read before. -/
theorem map_symbol_tokensFrom_blanks (column : Nat) (run : List Char) {front blanks back : List Char}
    (blank : ∀ c ∈ blanks, isBlank c = true)
    (apart : (front = [] → run = []) ∧ (∀ c ∈ front.getLast?, isVersionChar c = false) ∨
      ∀ c ∈ back.head?, isVersionChar c = false) :
    (tokensFrom column run (front ++ (blanks ++ back))).map Token.symbol =
      (tokensFrom column run (front ++ back)).map Token.symbol := by
  induction front generalizing column run with
  | nil =>
    rw [List.nil_append, List.nil_append]
    rcases apart with ⟨unread, -⟩ | breaks
    · rw [unread rfl]
      refine (map_symbol_tokensFrom column 0 [] _).trans ((symbolsOf_blanks blank back).trans ?_)
      exact map_symbol_tokensFrom 0 column [] back
    · rw [map_symbol_tokensFrom_of_break column run breaks, map_symbol_tokensFrom_of_break,
        symbolsOf_blanks blank]
      intro c first
      cases blanks with
      | nil => exact breaks c first
      | cons d others =>
        obtain rfl := Option.some.inj first
        simp [isVersionChar, blank d List.mem_cons_self]
  | cons c rest ih =>
    -- What is read of a version here can only go on if this character is a part of it.
    have onward : ∀ run' : List Char, (isVersionChar c = false → run' = []) →
        (rest = [] → run' = []) ∧ (∀ c ∈ rest.getLast?, isVersionChar c = false) ∨
          ∀ c ∈ back.head?, isVersionChar c = false := by
      intro run' ended
      refine apart.imp_left fun ⟨_, last⟩ => ⟨?_, fun d member => last d ?_⟩
      · rintro rfl
        exact ended (last c rfl)
      · rw [List.getLast?_cons, Option.mem_def.mp member]
        rfl
    rw [List.cons_append, List.cons_append, tokensFrom, tokensFrom]
    split
    · rw [List.map_append, List.map_append, ih _ _ (onward [] fun _ => rfl)]
    · rename_i visible
      split
      · rw [List.map_append, List.map_append, List.map_cons, List.map_cons,
          ih _ _ (onward [] fun _ => rfl)]
      · rename_i plain
        refine ih _ _ (onward _ fun broken => ?_)
        simp [isVersionChar, visible, plain] at broken

/-- White space between tokens makes no difference, also where a closing bracket is put behind them. -/
theorem symbolsOf_closed_blanks {front blanks back : List Char}
    (blank : ∀ c ∈ blanks, isBlank c = true) (apart : BetweenTokens front back) :
    symbolsOf (closed (front ++ (blanks ++ back))) = symbolsOf (closed (front ++ back)) := by
  have absent (bracket : Char) (visible : isBlank bracket = false) : blanks.contains bracket = false := by
    rw [List.contains_eq_mem, decide_eq_false_iff_not]
    intro member
    rw [blank bracket member] at visible
    cases visible
  have square := absent ']' (by decide)
  have round := absent ')' (by decide)
  have unread {back : List Char} (apart : BetweenTokens front back) :
      symbolsOf (front ++ (blanks ++ back)) = symbolsOf (front ++ back) :=
    map_symbol_tokensFrom_blanks 0 [] blank (apart.imp_left fun last => ⟨fun _ => rfl, last⟩)
  simp only [closed, List.contains_append, square, round, Bool.false_or]
  split
  · exact unread apart
  · rw [List.append_assoc, List.append_assoc, List.append_assoc]
    refine unread (apart.imp_right fun first => ?_)
    cases back with
    | nil =>
      rintro c ⟨⟩
      decide
    | cons c rest => exact first

end MavenResolution.Requirement
