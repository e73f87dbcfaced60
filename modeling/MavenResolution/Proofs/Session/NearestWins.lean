import MavenResolution.Proofs.Requirement.Interleaving
import MavenResolution.Proofs.Requirement.Nearest
import MavenResolution.Proofs.Session.Frame

/-! The nearest declaration wins, however a chain was declared. It decides how the version of the chain is
found; metadata are asked for once if the version is to be chosen, and otherwise not at all. -/
namespace MavenResolution

open Declarations Text
open Version (ofText)

variable {session : Session} {added : Added} {requirements : List Requirement}

namespace Session

/-- What comes of a selection. Nothing is left of it but a line in the log, if it finds no version. -/
def concluded (added : Added) (selection : Except NumeralError (Option String)) (state : State) :
    Except Failure (Option String) × State :=
  match selection with
  | .error fault => (.error (.numeral fault), state)
  | .ok selected => (.ok selected, { state with
      log := state.log ++ selectionLog (added.declarations.ownerOf added.handle)
        (added.declarations.describe added.handle) selected })

theorem run_selectFrom (added : Added) (chain : Chain) (available : List String) (state : State) :
    (selectFrom chain (selectionLog (added.declarations.ownerOf added.handle)
      (added.declarations.describe added.handle)) available).run state =
        concluded added (chain.select available) state := by
  unfold selectFrom
  cases chain.select available <;> rfl

/-- A version that is to be chosen is chosen among those that metadata list, which are asked for once. -/
theorem run_select_of_needsAvailable (repositories : List Repository) (state : State)
    (choosing : (added.declarations.chainOf added.handle).needsAvailable = true) :
    (session.select added repositories).run state =
      match (session.metadata (.ofModule (added.declarations.ownerOf added.handle)) repositories).run state with
      | (.error failure, after) => (.error failure, after)
      | (.ok known, after) =>
        concluded added ((added.declarations.chainOf added.handle).select known.metadata.versions) after := by
  unfold Session.select
  dsimp only
  rw [if_pos choosing, run_bind_apply]
  cases (session.metadata (.ofModule (added.declarations.ownerOf added.handle)) repositories).run state with
  | mk result after =>
    cases result with
    | error failure => rfl
    | ok known => exact run_selectFrom added _ _ after

theorem run_select_of_not_needsAvailable (repositories : List Repository) (state : State)
    (written : (added.declarations.chainOf added.handle).needsAvailable = false) :
    (session.select added repositories).run state =
      concluded added ((added.declarations.chainOf added.handle).select []) state := by
  unfold Session.select
  dsimp only
  rw [if_neg (by simp [written]), run_bind_apply]
  exact run_selectFrom added _ _ state

end Session

/-- The last of some requirements, which is the one nearest to the root, decides for all of them what is
selected for a declaration, and whether metadata are asked for. -/
structure NearestWins (session : Session) (added : Added) (requirements : List Requirement) : Prop where
  nonempty : requirements ≠ []
  exact : ∀ version, requirements.getLast? = some (.exact version) →
    let chain := added.declarations.chainOf added.handle
    chain.mode = .exact ∧ chain.nearestVersion = some version ∧
      (∀ available, chain.select available = .ok (some version)) ∧
      ∀ repositories state, (session.select added repositories).run state = (.ok (some version), state)
  dynamic : ∀ kind, requirements.getLast? = some (.dynamic kind) →
    let chain := added.declarations.chainOf added.handle
    chain.mode = .dynamic ∧ ∀ available, chain.select available = Chain.select [.dynamic kind] available
  ranges : (∀ requirement ∈ requirements, requirement.isRanges = true) →
    let chain := added.declarations.chainOf added.handle
    chain.mode = .range ∧ ∀ available best, chain.select available = .ok (some best) →
      best ∈ available ∧ ∃ version, ofText best = .ok version ∧
        ∀ set, .ranges set ∈ requirements → set.contains version = .ok true
  mixed : ∀ set, requirements.getLast? = some (.ranges set) →
    (∃ requirement ∈ requirements, requirement.isRanges = false) →
    let chain := added.declarations.chainOf added.handle
    chain.mode = .exact ∧ (∀ available, chain.select available = .ok none) ∧
      ∀ repositories state, (session.select added repositories).run state =
        Session.concluded added (.ok none) state
  asked : (added.declarations.chainOf added.handle).mode ≠ .exact → ∀ repositories state,
    (session.select added repositories).run state =
      match (session.metadata (.ofModule (added.declarations.ownerOf added.handle)) repositories).run state with
      | (.error failure, after) => (.error failure, after)
      | (.ok known, after) => Session.concluded added
          ((added.declarations.chainOf added.handle).select known.metadata.versions) after
  unasked : (added.declarations.chainOf added.handle).mode = .exact → ∀ available repositories state,
    (session.select added repositories).run state =
      Session.concluded added ((added.declarations.chainOf added.handle).select available) state

theorem nearestWins_of_chainOf (session : Session) (nonempty : requirements ≠ [])
    (chainOf : added.declarations.chainOf added.handle = requirements) :
    NearestWins session added requirements := by
  -- Both cases in which the mode is exact need this field.
  have unasked : (added.declarations.chainOf added.handle).mode = .exact → ∀ available repositories state,
      (session.select added repositories).run state =
        Session.concluded added ((added.declarations.chainOf added.handle).select available) state := by
    intro mode available repositories state
    rw [Chain.select_of_mode_exact mode available []]
    refine Session.run_select_of_not_needsAvailable repositories state ?_
    rw [Bool.eq_false_iff, Ne, Chain.needsAvailable_iff, Classical.not_not]
    exact mode
  refine ⟨nonempty, fun version root => ?_, fun kind root => ?_, fun ranges => ?_, fun set root other => ?_,
    fun mode repositories state => ?_, unasked⟩
  · rw [← chainOf] at root
    refine ⟨Chain.mode_of_exact root, Chain.nearestVersion_of_exact root, Chain.select_of_exact root, ?_⟩
    intro repositories state
    rw [unasked (Chain.mode_of_exact root) [], Chain.select_of_exact root]
    simp [Session.concluded, selectionLog]
  · rw [← chainOf] at root
    exact ⟨Chain.mode_of_dynamic root, Chain.select_of_dynamic root⟩
  · rw [← chainOf, ← Chain.isRange_iff] at ranges
    refine ⟨Chain.mode_of_isRange ranges, fun available best selected => ?_⟩
    rw [← chainOf]
    exact Chain.select_within ranges selected
  · have isRange : (added.declarations.chainOf added.handle).isRange = false := by
      obtain ⟨requirement, member, differs⟩ := other
      rw [Bool.eq_false_iff, Ne, Chain.isRange_iff, chainOf]
      intro ranges
      rw [ranges requirement member] at differs
      cases differs
    rw [← chainOf] at root
    have mode := Chain.mode_of_mixed root rfl isRange
    have none := Chain.select_of_mixed root rfl isRange
    refine ⟨mode, none, fun repositories state => ?_⟩
    rw [unasked mode [], none]
  · exact Session.run_select_of_needsAvailable repositories state (Chain.needsAvailable_iff.mpr mode)

/-- The nearest declaration wins in every chain, whether it was declared at once or in steps with other calls
in between. -/
theorem nearest_wins (session : Session) :
    (∀ id calls handle lineage faults, Linked ((Shared.empty id).run calls).links handle lineage →
      NearestWins session ⟨handle, ((Shared.empty id).run calls).declarations, faults⟩
        (lineage.map (stated ·.requested))) ∧
    ∀ (declarations : Declarations) owner constraints added,
      declarations.chain owner constraints = .ok added →
        NearestWins session added (constraints.map stated).reverse := by
  refine ⟨fun id calls handle lineage faults linked => ?_,
    fun declarations owner constraints added chained => ?_⟩
  · have recorded := ((Shared.Lawful.empty id).run calls).1.recorded
    refine nearestWins_of_chainOf session ?_ ?_
    · cases linked <;> simp
    · dsimp only
      rw [chainOf, recorded.walk_eq linked, List.map_map]
      rfl
  · cases constraints with
    | nil => cases chained
    | cons requested rest =>
      obtain ⟨_, same, ends⟩ := chain_ends declarations owner (List.cons_ne_nil requested rest)
      cases chained.symm.trans same
      exact nearestWins_of_chainOf session (by simp) ends.chain

/-- A version in front of a range, declared at once; and two ranges, declared with something else in between. -/
theorem nearest_wins_declared :
    let lib : ModuleId := ⟨"org.example", "lib"⟩
    let calls := [Call.chain lib ["[1.0,3.0)", "[2.0,4.0)"], .add ⟨"org.example", "other"⟩ "LATEST" none,
      .resume 0]
    let shared := (Shared.empty 0).run calls
    (∃ added, Declarations.chain {} lib ["1.0", "[1.0,2.0)"] = .ok added ∧
      ∀ (session : Session) repositories state,
        (session.select added repositories).run state = (.ok (some "1.0"), state)) ∧
    ∃ lineage, Linked shared.links ⟨0, 2⟩ lineage ∧
      lineage.map (·.requested) = ["[2.0,4.0)", "[1.0,3.0)"] ∧
      (shared.declarations.chainOf ⟨0, 2⟩).mode = .range := by
  intro lib calls shared
  have first : ⟨⟨0, 0⟩, lib, "[1.0,3.0)", none⟩ ∈ shared.links := by decide +kernel
  have second : ⟨⟨0, 2⟩, lib, "[2.0,4.0)", some ⟨0, 0⟩⟩ ∈ shared.links := by decide +kernel
  have linked := Linked.behind second rfl (.root first rfl)
  obtain ⟨added, chained, -⟩ := chain_ends {} lib (List.cons_ne_nil "1.0" ["[1.0,2.0)"])
  refine ⟨⟨added, chained, fun session repositories state => ?_⟩, _, linked, rfl, ?_⟩
  · have wins := (nearest_wins session).2 {} lib _ added chained
    exact (wins.exact "1.0" (by decide +kernel)).2.2.2 repositories state
  · let session : Session := {
      transport := Http.Transport.ofConfiguration {}
      server := fun _ _ => .ok { status := 404 } }
    have wins := (nearest_wins session).1 0 calls ⟨0, 2⟩ _ [] linked
    exact (wins.ranges (by decide +kernel)).1

end MavenResolution
