import MavenResolution.Proofs.Outcome
import MavenResolution.Requirement.Selection

/-! Chains that are declared in an arena. A chain reads back as its constraints, whatever was declared
before it and is declared after it. -/
namespace MavenResolution.Declarations

variable {declarations : Declarations} {owner : ModuleId}

/-- What is declared later does not bear on a walk, since links point backwards. -/
theorem walkFrom_append (nodes more : List Declaration) {index : Nat}
    (inside : index < nodes.length) : walkFrom (nodes ++ more) index = walkFrom nodes index := by
  induction index using Nat.strongRecOn with
  | ind index ih =>
    rw [walkFrom, walkFrom.eq_def nodes, List.getElem?_append_left inside]
    cases nodes[index]? with
    | none => rfl
    | some node =>
      dsimp only
      cases node.nearer with
      | none => rfl
      | some nearer =>
        dsimp only
        split
        · rename_i backwards
          rw [ih nearer backwards (Nat.lt_trans backwards inside)]
        · rfl

/-- The handle is that of a declaration for the module, and its chain is the given one. -/
structure Ends (added : Added) (owner : ModuleId) (chain : Chain) : Prop where
  pass : added.handle.pass = added.declarations.id
  owner : ∃ node, added.declarations.nodes[added.handle.index]? = some node ∧ node.owner = owner
  chain : added.declarations.chainOf added.handle = chain

/-- The requirement that a constraint states. -/
def stated (requested : String) : Requirement := (Requirement.parse requested).1

/-- The declarations from the one that a link leads to. -/
def walkLink (nodes : List Declaration) : Option Nat → List Declaration
  | none => []
  | some nearer => if nearer < nodes.length then walkFrom nodes nearer else []

theorem walkFrom_last (nodes : List Declaration) (node : Declaration) :
    walkFrom (nodes ++ [node]) nodes.length = node :: walkLink nodes node.nearer := by
  rw [walkFrom, List.getElem?_concat_length]
  dsimp only
  congr 1
  cases node.nearer with
  | none => rfl
  | some nearer =>
    dsimp only [walkLink]
    split
    · rename_i inside
      exact walkFrom_append nodes [node] inside
    · rfl

/-- What adding a declaration with a given link gives. -/
def appended (declarations : Declarations) (owner : ModuleId) (requested : String)
    (nearer : Option Nat) : Added where
  handle := ⟨declarations.id, declarations.nodes.length⟩
  declarations := { declarations with
    nodes := declarations.nodes ++ [⟨owner, nearer, stated requested, requested⟩] }
  faults := (Requirement.parse requested).2.toList

theorem add_eq_appended {nearer : Option Handle} {link : Option Nat} (requested : String)
    (linked : declarations.checkNearer owner nearer = .ok link) :
    declarations.add owner requested nearer = .ok (declarations.appended owner requested link) := by
  rw [Declarations.add, linked, appended, stated]
  cases Requirement.parse requested
  rfl

theorem ends_appended (requested : String) {nearer : Option Nat} {chain : Chain}
    (rest : (walkLink declarations.nodes nearer).map (·.requirement) = chain) :
    Ends (declarations.appended owner requested nearer) owner (stated requested :: chain) where
  pass := rfl
  owner := ⟨_, List.getElem?_concat_length, rfl⟩
  chain := by
    rw [chainOf, walk, appended, walkFrom_last, List.map_cons, rest]

theorem add_root (declarations : Declarations) (owner : ModuleId) (requested : String) :
    ∃ added, declarations.add owner requested none = .ok added ∧
      Ends added owner [stated requested] :=
  ⟨_, add_eq_appended requested rfl, ends_appended requested rfl⟩

theorem Ends.add {added : Added} {chain : Chain} (ends : Ends added owner chain)
    (requested : String) :
    ∃ next, added.declarations.add owner requested (some added.handle) = .ok next ∧
      Ends next owner (stated requested :: chain) := by
  obtain ⟨node, found, same⟩ := ends.owner
  have link : added.declarations.checkNearer owner (some added.handle) =
      .ok (some added.handle.index) := by
    simp [checkNearer, ends.pass, found, same]
  have inside : added.handle.index < added.declarations.nodes.length :=
    (List.getElem?_eq_some_iff.mp found).1
  refine ⟨_, add_eq_appended requested link, ends_appended requested ?_⟩
  rw [walkLink, if_pos inside]
  exact ends.chain

theorem Ends.extend {added : Added} {chain : Chain} (ends : Ends added owner chain)
    (constraints : List String) :
    ∃ last, Declarations.extend owner added constraints = .ok last ∧
      Ends last owner ((constraints.map stated).reverse ++ chain) := by
  induction constraints generalizing added chain with
  | nil => exact ⟨added, rfl, by simpa using ends⟩
  | cons requested rest ih =>
    obtain ⟨next, declared, endsNow⟩ := ends.add requested
    have onward : Ends { next with faults := added.faults ++ next.faults } owner
        (stated requested :: chain) := ⟨endsNow.pass, endsNow.owner, endsNow.chain⟩
    obtain ⟨last, extended, endsThen⟩ := ih onward
    refine ⟨last, ?_, by simpa using endsThen⟩
    rw [Declarations.extend, declared]
    exact extended

/-- The requirements of a chain are those that its constraints state, the farthest one first. -/
theorem chain_ends (declarations : Declarations) (owner : ModuleId) {constraints : List String}
    (nonempty : constraints ≠ []) :
    ∃ added, declarations.chain owner constraints = .ok added ∧
      Ends added owner (constraints.map stated).reverse := by
  cases constraints with
  | nil => contradiction
  | cons requested rest =>
    obtain ⟨root, declared, ends⟩ := add_root declarations owner requested
    obtain ⟨added, extended, endsNow⟩ := ends.extend rest
    refine ⟨added, ?_, by simpa using endsNow⟩
    rw [chain, declared]
    exact extended

theorem Ends.ownerOf {added : Added} {chain : Chain} (ends : Ends added owner chain) :
    added.declarations.ownerOf added.handle = owner := by
  obtain ⟨node, found, same⟩ := ends.owner
  simp [Declarations.ownerOf, found, same]

end MavenResolution.Declarations
