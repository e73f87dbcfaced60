import MavenResolution.Text.Pieces

/-! The pieces of a text hold no mark, and what stands behind the last mark is in the last piece. -/
namespace MavenResolution.Text

variable {mark : Char} {tail : List Char}

theorem pieces_of_not_mem (unmarked : mark ∉ tail) : pieces mark tail = [tail] := by
  induction tail with
  | nil => rfl
  | cons c rest ih =>
    rw [List.mem_cons, not_or] at unmarked
    have other : (c == mark) = false := by simpa using Ne.symm unmarked.1
    rw [pieces, other, ih unmarked.2]
    rfl

/-- What stands behind the last mark belongs to the last piece. -/
theorem exists_pieces_append (front : List Char) (unmarked : mark ∉ tail) :
    ∃ pieces' last, pieces mark (front ++ tail) = pieces' ++ [last ++ tail] := by
  induction front with
  | nil => exact ⟨[], [], pieces_of_not_mem unmarked⟩
  | cons c rest ih =>
    obtain ⟨before, last, same⟩ := ih
    cases marked : c == mark with
    | true => exact ⟨[] :: before, last, by simp [pieces, marked, same]⟩
    | false =>
      cases before with
      | nil => exact ⟨[], c :: last, by simp [pieces, marked, same]⟩
      | cons first others => exact ⟨(c :: first) :: others, last, by simp [pieces, marked, same]⟩

theorem mem_of_mem_pieces {text piece : List Char} (member : piece ∈ pieces mark text) {c : Char}
    (inside : c ∈ piece) : c ∈ text ∧ c ≠ mark := by
  induction text generalizing piece with
  | nil =>
    rw [pieces, List.mem_singleton] at member
    rw [member] at inside
    cases inside
  | cons first rest ih =>
    cases marked : first == mark with
    | true =>
      simp only [pieces, marked, if_true, List.mem_cons] at member
      rcases member with rfl | later
      · cases inside
      · exact (ih later inside).imp_left (List.mem_cons_of_mem _)
    | false =>
      have apart : first ≠ mark := by simpa using marked
      simp only [pieces, marked, Bool.false_eq_true, if_false] at member
      cases cut : pieces mark rest with
      | nil =>
        rw [cut, List.mem_singleton] at member
        rw [member, List.mem_singleton] at inside
        exact ⟨by simp [inside], inside ▸ apart⟩
      | cons start others =>
        rw [cut] at ih member
        rcases List.mem_cons.mp member with rfl | later
        · rcases List.mem_cons.mp inside with rfl | behind
          · exact ⟨List.mem_cons_self, apart⟩
          · exact (ih List.mem_cons_self behind).imp_left (List.mem_cons_of_mem _)
        · exact (ih (List.mem_cons_of_mem _ later) inside).imp_left (List.mem_cons_of_mem _)

theorem pieces_eq_splitOn (mark : Char) (text : List Char) : pieces mark text = text.splitOn mark := by
  induction text with
  | nil => rfl
  | cons c rest ih =>
    rw [pieces, ih, List.splitOn, List.splitOn, List.splitOnP_cons_eq_if_modifyHead]
    split
    · rfl
    · cases cut : rest.splitOnP (· == mark) with
      | nil => exact absurd cut (List.splitOnP_ne_nil _ rest)
      | cons piece others => rfl

end MavenResolution.Text
