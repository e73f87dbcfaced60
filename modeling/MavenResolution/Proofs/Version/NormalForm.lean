import MavenResolution.Proofs.Outcome
import MavenResolution.Version.Basic

/-! The item lists that version texts denote. Numbers and qualifiers come first, and the last of
them says something; a nested list can only be the last item, and is not empty. -/
namespace MavenResolution.Version

inductive NormalList : List Item → Prop where
  | nil : NormalList []
  | nested {inner} : inner ≠ [] → NormalList inner → NormalList [.nested inner]
  | cons {item rest} : item.isNested = false → (item.isNull = true → startsNested rest = false) →
      NormalList rest → NormalList (item :: rest)

namespace NormalList

variable {item : Item} {rest inner : List Item}

theorem prepend (flat : item.isNested = false) (normal : NormalList rest) :
    NormalList (Version.prepend item rest) := by
  unfold Version.prepend
  split
  · exact normal
  · rename_i kept
    refine .cons flat (fun null => ?_) normal
    simpa [null] using kept

theorem enclose (normal : NormalList inner) : NormalList (Version.enclose inner) := by
  cases inner with
  | nil => exact .nil
  | cons item rest => exact .nested (List.cons_ne_nil _ _) normal

/-- Nothing stands behind a nested list. -/
theorem tail_of_isNested (normal : NormalList (item :: rest)) (nested : item.isNested = true) :
    rest = [] := by
  cases normal with
  | nested => rfl
  | cons flat => simp [nested] at flat

theorem tail (normal : NormalList (item :: rest)) : NormalList rest := by
  cases normal with
  | nested => exact .nil
  | cons _ _ normal => exact normal

theorem of_nested (normal : NormalList (.nested inner :: rest)) : NormalList inner := by
  cases normal with
  | nested _ normal => exact normal
  | cons flat => simp [Item.isNested] at flat

end NormalList

theorem itemsOf_normal {lexemes : List Lexeme} {items : List Item}
    (read : itemsOf lexemes = .ok items) : NormalList items := by
  fun_induction itemsOf lexemes generalizing items with
  | case1 =>
    cases read
    exact .nil
  | case2 rest ih =>
    obtain ⟨others, readOthers, same⟩ := bind_eq_ok_iff.mp read
    cases same
    exact (ih readOthers).prepend rfl
  | case3 rest ih =>
    obtain ⟨others, readOthers, same⟩ := bind_eq_ok_iff.mp read
    cases same
    exact (ih readOthers).enclose.prepend rfl
  | case4 run =>
    obtain ⟨value, _, same⟩ := bind_eq_ok_iff.mp read
    cases same
    exact NormalList.nil.prepend rfl
  | case5 run rest ih =>
    obtain ⟨value, _, read⟩ := bind_eq_ok_iff.mp read
    obtain ⟨others, readOthers, same⟩ := bind_eq_ok_iff.mp read
    cases same
    exact (ih readOthers).prepend rfl
  | case6 run rest ih =>
    obtain ⟨value, _, read⟩ := bind_eq_ok_iff.mp read
    obtain ⟨others, readOthers, same⟩ := bind_eq_ok_iff.mp read
    cases same
    exact (ih readOthers).enclose.prepend rfl
  | case7 run next rest _ _ ih =>
    obtain ⟨value, _, read⟩ := bind_eq_ok_iff.mp read
    obtain ⟨others, readOthers, same⟩ := bind_eq_ok_iff.mp read
    cases same
    exact (ih readOthers).enclose.prepend rfl
  | case8 run =>
    cases read
    exact NormalList.nil.prepend rfl
  | case9 run rest ih =>
    obtain ⟨others, readOthers, same⟩ := bind_eq_ok_iff.mp read
    cases same
    exact (ih readOthers).prepend rfl
  | case10 run rest ih =>
    obtain ⟨others, readOthers, same⟩ := bind_eq_ok_iff.mp read
    cases same
    exact (ih readOthers).enclose.prepend rfl
  | case11 run next rest _ _ ih =>
    obtain ⟨others, readOthers, same⟩ := bind_eq_ok_iff.mp read
    cases same
    exact (ih readOthers).enclose.prepend rfl

theorem parse_of_ofText {text : String} {version : Version} (read : ofText text = .ok version) :
    parse text = .ok version.items := by
  obtain ⟨items, readItems, same⟩ := bind_eq_ok_iff.mp read
  cases same
  exact readItems

theorem ofText_of_parse {text : String} {items : List Item} (read : parse text = .ok items) :
    ofText text = .ok ⟨text, items⟩ := by
  rw [ofText, read]
  rfl

theorem ofText_normal {text : String} {version : Version} (read : ofText text = .ok version) :
    NormalList version.items := by
  obtain ⟨items, readItems, same⟩ := bind_eq_ok_iff.mp read
  cases same
  exact itemsOf_normal readItems

end MavenResolution.Version
