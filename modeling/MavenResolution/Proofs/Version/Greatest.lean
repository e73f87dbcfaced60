import MavenResolution.Proofs.Version.Order
import MavenResolution.Version.Basic

/-! What the search for a greatest version finds. It keeps one version and goes on to each that
exceeds it. The order has loops, and where it runs into one it can leave a version behind that
exceeds the one it ends with; without loops none is left behind. -/
namespace MavenResolution.Version

variable {a b c version best : Version} {versions all seen rest : List Version}

theorem compare_swap (left right : Version) : right.compare left = (left.compare right).swap :=
  compareItems_swap left.items right.items

theorem compare_self (version : Version) : version.compare version = .eq :=
  compareItems_self version.items

/-- Two steps up from a version lead to one that does not exceed it. -/
structure Loop (a b c : Version) : Prop where
  first : b.compare a = .gt
  second : c.compare b = .gt
  back : c.compare a ≠ .gt

def Straight (versions : List Version) : Prop :=
  ∀ a ∈ versions, ∀ b ∈ versions, ∀ c ∈ versions, ¬Loop a b c

def Unexceeded (version : Version) (versions : List Version) : Prop :=
  ∀ other ∈ versions, other.compare version ≠ .gt

theorem greatest_mem : greatest best rest ∈ best :: rest := by
  induction rest generalizing best with
  | nil => exact List.mem_singleton_self best
  | cons version rest ih =>
    rw [greatest]
    split
    · exact List.mem_cons_of_mem _ ih
    · have stays : greatest best rest ∈ best :: rest := ih
      obtain same | member := List.mem_cons.mp stays
      · rw [same]
        exact List.mem_cons_self
      · exact List.mem_cons_of_mem _ (List.mem_cons_of_mem _ member)

/-- A version that exceeds one that none exceeds is not exceeded either. -/
theorem Unexceeded.step (unexceeded : best.Unexceeded seen) (greater : version.compare best = .gt)
    (straight : ∀ other ∈ seen, ¬Loop best version other) : version.Unexceeded seen := by
  intro other member exceeds
  exact straight other member ⟨greater, exceeds, unexceeded other member⟩

theorem unexceeded_greatest (straight : Straight all) (within : rest ⊆ all) (seenWithin : seen ⊆ all)
    (member : best ∈ seen) (unexceeded : best.Unexceeded seen) :
    (greatest best rest).Unexceeded (seen ++ rest) := by
  induction rest generalizing best seen with
  | nil => simpa [greatest] using unexceeded
  | cons version rest ih =>
    obtain ⟨versionWithin, restWithin⟩ := List.cons_subset.mp within
    have reached : seen ++ [version] ⊆ all :=
      List.append_subset.mpr ⟨seenWithin, List.cons_subset.mpr ⟨versionWithin, List.nil_subset _⟩⟩
    rw [greatest, List.append_cons]
    split
    · rename_i greater
      have stays : version.Unexceeded seen := unexceeded.step greater fun other otherSeen =>
        straight best (seenWithin member) version versionWithin other (seenWithin otherSeen)
      refine ih restWithin reached (List.mem_append_right _ (List.mem_singleton_self _)) ?_
      intro other otherSeen
      obtain earlier | same := List.mem_append.mp otherSeen
      · exact stays other earlier
      · rw [List.mem_singleton.mp same, compare_self]
        decide
    · rename_i least
      refine ih restWithin reached (List.mem_append_left _ member) ?_
      intro other otherSeen
      obtain earlier | same := List.mem_append.mp otherSeen
      · exact unexceeded other earlier
      · rwa [List.mem_singleton.mp same]

theorem max?_eq_none : max? versions = none ↔ versions = [] := by
  cases versions <;> simp [max?]

theorem max?_mem (found : max? versions = some best) : best ∈ versions := by
  cases versions with
  | nil => cases found
  | cons version rest =>
    cases found
    exact greatest_mem

/-- Where no versions make a loop none of them exceeds the one that is found. -/
theorem max?_unexceeded (straight : Straight versions) (found : max? versions = some best) :
    best.Unexceeded versions := by
  cases versions with
  | nil => cases found
  | cons version rest =>
    cases found
    have itself : version.Unexceeded [version] := by
      intro other same
      rw [List.mem_singleton.mp same, compare_self]
      decide
    exact unexceeded_greatest straight (List.subset_cons_self _ _)
      (List.cons_subset.mpr ⟨List.mem_cons_self, List.nil_subset _⟩) (List.mem_singleton_self _) itself

/-- In a loop there is an order in which the search leaves a greater version behind. -/
theorem Loop.max? (loop : Loop a b c) : Version.max? [a, c, b] = some b := by
  simp [Version.max?, greatest, loop.back, loop.first]

end MavenResolution.Version
