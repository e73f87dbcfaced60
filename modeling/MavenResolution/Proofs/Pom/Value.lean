import MavenResolution.Pom
import MavenResolution.Proofs.Text.Placeholders

/-! The value of a text in a POM: what it comes to when every name that the POM knows gives way to its value, as
deep as these refer to one another. Ten passes are enough for ten names in one another's values. -/
namespace MavenResolution.Pom

open Text Placeholder

variable {pom : Pom} {name value : List Char}

/-- The value of a name: the property, or else the coordinate of the POM that it stands for. -/
def values (pom : Pom) (name : List Char) : Option (List Char) :=
  (pom.properties.lookup (String.ofList name) <|> pom.builtIn? (String.ofList name)).map String.toList

theorem toList_value (pom : Pom) (text : String) :
    (pom.value text).toList = expandUpTo opening pom.values 10 text.toList :=
  String.toList_ofList

def IsTemplate (text : String) : Prop := ∃ parts, text.toList = Placeholder.written parts

/-- Every placeholder is whole in the properties and the coordinates of a POM. -/
structure Templated (pom : Pom) : Prop where
  properties : ∀ property ∈ pom.properties, IsTemplate property.2
  group : IsTemplate pom.coordinate.group
  artifact : IsTemplate pom.coordinate.artifact
  version : IsTemplate pom.coordinate.version
  parentGroup : ∀ parent ∈ pom.parent, ∀ group ∈ parent.group, IsTemplate group
  parentVersion : ∀ parent ∈ pom.parent, ∀ version ∈ parent.version, IsTemplate version

theorem Templated.builtIn (templated : pom.Templated) {name text : String} (found : pom.builtIn? name = some text) :
    IsTemplate text := by
  unfold builtIn? at found
  split at found
  · exact Option.some.inj found ▸ templated.group
  · exact Option.some.inj found ▸ templated.artifact
  · exact Option.some.inj found ▸ templated.version
  · exact Option.some.inj found ▸ templated.group
  · exact Option.some.inj found ▸ templated.artifact
  · exact Option.some.inj found ▸ templated.version
  · obtain ⟨parent, declared, group⟩ := Option.bind_eq_some_iff.mp found
    exact templated.parentGroup parent declared text group
  · obtain ⟨parent, declared, version⟩ := Option.bind_eq_some_iff.mp found
    exact templated.parentVersion parent declared text version
  · cases found

theorem Templated.values (templated : pom.Templated) (name value : List Char) (found : pom.values name = some value) :
    ∃ parts, value = Placeholder.written parts := by
  obtain ⟨text, known, rfl⟩ := Option.map_eq_some_iff.mp found
  cases declared : pom.properties.lookup (String.ofList name) with
  | some property =>
    rw [declared] at known
    cases known
    obtain ⟨front, back, split, -⟩ := List.lookup_eq_some_iff.mp declared
    exact templated.properties (_, text) (split ▸ List.mem_append_right _ List.mem_cons_self)
  | none =>
    rw [declared] at known
    exact templated.builtIn known

/-- With whole placeholders, and no more than ten names in one another's values, the value of a text is what the text
comes to. No name that has a value is left in it, and its own value is itself. -/
theorem value_expands (pom : Pom) (text : String) (parts : List Part) (whole : text.toList = Placeholder.written parts)
    (templated : pom.Templated) (shallow : Shallow pom.values 10 text.toList) :
    (∀ full, Expands pom.values parts full ↔ full = (pom.value text).toList) ∧
      (∀ name value, pom.values name = some value → ¬Mentions (pom.value text).toList name) ∧
      pom.value (pom.value text) = pom.value text := by
  rw [whole] at shallow
  obtain ⟨last, result, expands, settled⟩ := expandUpTo_expands templated.values shallow
  rw [← whole, ← toList_value] at result
  rw [← result] at expands
  refine ⟨fun full => ⟨fun other => other.unique expands, ?_⟩, ?_, ?_⟩
  · rintro rfl
    exact expands
  · intro name value found mentioned
    rw [result] at mentioned
    cases found.symm.trans (settled.unknown mentioned)
  · rw [← String.toList_inj, toList_value, result]
    exact expandUpTo_of_settled templated.values 10 settled

/-- Names that are used twice, a coordinate behind a property of its name, and a name without a value. -/
theorem value_expands_shared :
    let pom : Pom :=
      { coordinate := ⟨none, "org", "lib", "1", none⟩
        properties := [("a", "$\x7bb\x7d$\x7bb\x7d"), ("b", "$\x7bproject.version\x7d$\x7bc\x7d"),
          ("project.version", "2")] }
    pom.value "$\x7ba\x7d" = "2$\x7bc\x7d2$\x7bc\x7d" ∧
      pom.Templated ∧ Shallow pom.values 10 "$\x7ba\x7d".toList ∧
      pom.value (pom.value "$\x7ba\x7d") = pom.value "$\x7ba\x7d" := by
  intro pom
  let part (name : Char) (unmarked : [name].any isMark = false) : Part :=
    .placeholder [name] ⟨List.cons_ne_nil _ _, unmarked_of_any unmarked⟩
  let version : Part := .placeholder "project.version".toList ⟨by decide, unmarked_of_any (by decide)⟩
  let plain (text : List Char) (unmarked : text.any isMark = false) : List Part :=
    text.attach.map fun c => .plain c.1 (unmarked_of_any unmarked c.1 c.2)
  have whole : "$\x7ba\x7d".toList = Placeholder.written [part 'a' (by decide)] := by decide
  have templated : pom.Templated := by
    refine ⟨?_, ⟨plain "org".toList (by decide), by decide⟩, ⟨plain "lib".toList (by decide), by decide⟩,
      ⟨plain "1".toList (by decide), by decide⟩, nofun, nofun⟩
    intro property member
    simp only [pom, List.mem_cons, List.not_mem_nil, or_false] at member
    rcases member with rfl | rfl | rfl
    · exact ⟨[part 'b' (by decide), part 'b' (by decide)], by decide⟩
    · exact ⟨[version, part 'c' (by decide)], by decide⟩
    · exact ⟨plain "2".toList (by decide), by decide⟩
  have shallow : Shallow pom.values 10 "$\x7ba\x7d".toList := by
    rw [whole]
    refine shallow_succ fun _ _ value member found => ?_
    cases List.mem_singleton.mp member
    have twice : pom.values ['a'] = some (Placeholder.written [part 'b' (by decide), part 'b' (by decide)]) := by decide
    cases found.symm.trans twice
    refine shallow_succ fun _ _ value member found => ?_
    cases (List.mem_cons.mp member).elim id List.mem_singleton.mp
    have combined : pom.values ['b'] = some (Placeholder.written [version, part 'c' (by decide)]) := by decide
    cases found.symm.trans combined
    refine shallow_succ fun name isName value member found => ?_
    rcases List.mem_cons.mp member with same | last
    · obtain rfl : name = "project.version".toList := Part.placeholder.inj same
      cases found.symm.trans (show _ = some (Placeholder.written (plain ['2'] (by decide))) by decide)
      exact shallow_succ fun _ _ _ member _ => nomatch List.mem_singleton.mp member
    · cases List.mem_singleton.mp last
      cases found.symm.trans (show pom.values ['c'] = none by decide)
  exact ⟨by decide, templated, shallow, (value_expands pom _ _ whole templated shallow).2.2⟩

end MavenResolution.Pom
