import MavenResolution.Proofs.Requirement.Declared

/-! Arenas that several callers share. Chains are declared one constraint after another, with other calls in
between, and calls may be refused. Whatever the callers do, links lead backwards within one module, what has
been declared stays as it is, and a walk from a handle finds what was linked for it. -/
namespace MavenResolution.Declarations

variable {declarations : Declarations} {owner : ModuleId} {requested : String} {nearer : Option Handle}
  {handle : Handle}

/-! Single declarations. -/

/-- What is to be declared may be linked to a handle of this arena for the same module, or to none. -/
def Linkable (declarations : Declarations) (owner : ModuleId) (nearer : Option Handle) : Prop :=
  ∀ handle ∈ nearer, handle.pass = declarations.id ∧
    ∃ node, declarations.nodes[handle.index]? = some node ∧ node.owner = owner

theorem checkNearer_of_linkable (linkable : declarations.Linkable owner nearer) :
    declarations.checkNearer owner nearer = .ok (nearer.map (·.index)) := by
  cases nearer with
  | none => rfl
  | some handle =>
    obtain ⟨same, node, found, owned⟩ := linkable handle rfl
    simp [checkNearer, same, found, owned]

theorem linkable_of_checkNearer {link : Option Nat}
    (linked : declarations.checkNearer owner nearer = .ok link) : declarations.Linkable owner nearer := by
  rintro handle same
  obtain rfl : nearer = some handle := same
  rw [checkNearer] at linked
  split at linked
  · cases linked
  · rename_i here
    split at linked
    · cases linked
    · rename_i node found
      split at linked
      · rename_i owned
        exact ⟨Decidable.not_not.mp here, node, found, owned⟩
      · cases linked

theorem add_of_linkable (requested : String) (linkable : declarations.Linkable owner nearer) :
    declarations.add owner requested nearer =
      .ok (declarations.appended owner requested (nearer.map (·.index))) :=
  add_eq_appended requested (checkNearer_of_linkable linkable)

theorem linkable_of_add {added : Added} (declared : declarations.add owner requested nearer = .ok added) :
    declarations.Linkable owner nearer := by
  obtain ⟨link, linked, _⟩ := bind_eq_ok_iff.mp declared
  exact linkable_of_checkNearer linked

/-- From a declaration to the nearer ones, wherever the links lead, until there is none. -/
inductive Walks (nodes : List Declaration) : Nat → List Declaration → Prop where
  | root {index : Nat} {node : Declaration} (found : nodes[index]? = some node)
      (unlinked : node.nearer = none) : Walks nodes index [node]
  | onward {index nearer : Nat} {node : Declaration} {rest : List Declaration}
      (found : nodes[index]? = some node) (linked : node.nearer = some nearer)
      (others : Walks nodes nearer rest) : Walks nodes index (node :: rest)

/-! Calls, and what the callers know. -/

/-- A declaration as the caller knows it, who got the handle for it. -/
structure Link where
  handle : Handle
  owner : ModuleId
  requested : String
  nearer : Option Handle
  deriving DecidableEq, Repr

/-- The declaration that stands for a link in the arena. -/
def Link.node (link : Link) : Declaration :=
  ⟨link.owner, link.nearer.map (·.index), stated link.requested, link.requested⟩

/-- The declarations that were linked for a handle, from its own to the root. -/
inductive Linked (links : List Link) : Handle → List Link → Prop where
  | root {link : Link} (given : link ∈ links) (first : link.nearer = none) :
      Linked links link.handle [link]
  | behind {link : Link} {nearer : Handle} {lineage : List Link} (given : link ∈ links)
      (linked : link.nearer = some nearer) (others : Linked links nearer lineage) :
      Linked links link.handle (link :: lineage)

/-- A chain of which some constraints have been declared. -/
structure Underway where
  owner : ModuleId
  constraints : List String
  declared : Nat
  last : Handle
  deriving DecidableEq, Repr

/-- An arena, the handles that have been given for it, and the chains that have been begun. -/
structure Shared where
  declarations : Declarations
  links : List Link := []
  chains : List Underway := []
  deriving DecidableEq, Repr

/-- A call, or a part of one: a chain is begun with its first constraint, and goes on with the next one when
its caller comes to that. -/
inductive Call where
  | add (owner : ModuleId) (requested : String) (nearer : Option Handle)
  | chain (owner : ModuleId) (constraints : List String)
  | resume (number : Nat)
  deriving DecidableEq, Repr

namespace Shared

def empty (id : Nat) : Shared := { declarations := { id } }

/-- Declares something, and gives the handle for it. -/
def link (shared : Shared) (owner : ModuleId) (requested : String) (nearer : Option Handle) :
    Except Fault (Handle × Shared) := do
  let added ← shared.declarations.add owner requested nearer
  return (added.handle, { shared with
    declarations := added.declarations
    links := shared.links ++ [⟨added.handle, owner, requested, nearer⟩] })

def call (shared : Shared) : Call → Except Fault Shared
  | .add owner requested nearer => do
    let (_, next) ← shared.link owner requested nearer
    return next
  | .chain owner [] => .error (.noConstraints owner)
  | .chain owner (requested :: rest) => do
    let (handle, next) ← shared.link owner requested none
    return { next with chains := next.chains ++ [⟨owner, requested :: rest, 1, handle⟩] }
  | .resume number =>
    match shared.chains[number]? with
    | none => .ok shared
    | some chain =>
      match chain.constraints[chain.declared]? with
      | none => .ok shared
      | some requested => do
        let (handle, next) ← shared.link chain.owner requested (some chain.last)
        let chain := { chain with declared := chain.declared + 1, last := handle }
        return { next with chains := next.chains.set number chain }

/-- The arena after a call. What is refused leaves it as it was. -/
def after (shared : Shared) (call : Call) : Shared :=
  match shared.call call with
  | .ok next => next
  | .error _ => shared

def run (shared : Shared) (calls : List Call) : Shared := calls.foldl after shared

end Shared

/-- Nothing may be linked to the handle of another arena or module, and a chain has a constraint. -/
def Call.Refused (shared : Shared) : Call → Prop
  | .add owner _ nearer => ∃ handle ∈ nearer, handle.pass ≠ shared.declarations.id ∨
      ∀ link ∈ shared.links, link.handle = handle → link.owner ≠ owner
  | .chain _ constraints => constraints = []
  | .resume _ => False

/-! What the arena holds is what the callers know. -/

variable {shared : Shared} {links : List Link} {lineage : List Link}

/-- The links of an arena, in the order of its declarations. Each one leads back to one of the same module. -/
structure Shared.Recorded (shared : Shared) : Prop where
  nodes : shared.declarations.nodes = shared.links.map Link.node
  numbered : ∀ (index : Nat) (link : Link), shared.links[index]? = some link →
    link.handle = ⟨shared.declarations.id, index⟩
  backwards : ∀ (index : Nat) (link : Link), shared.links[index]? = some link →
    ∀ nearer ∈ link.nearer, nearer.index < index ∧
      ∃ other ∈ shared.links, other.handle = nearer ∧ other.owner = link.owner

theorem Linked.mono {more : List Link} (linked : Linked links handle lineage) (kept : links ⊆ more) :
    Linked more handle lineage := by
  induction linked with
  | root given first => exact .root (kept given) first
  | behind given behind _ ih => exact .behind (kept given) behind ih

namespace Shared.Recorded

theorem getElem?_of_mem (recorded : shared.Recorded) {link : Link} (given : link ∈ shared.links) :
    shared.links[link.handle.index]? = some link := by
  obtain ⟨index, found⟩ := List.mem_iff_getElem?.mp given
  rw [recorded.numbered index link found]
  exact found

theorem node_of_mem (recorded : shared.Recorded) {link : Link} (given : link ∈ shared.links) :
    shared.declarations.nodes[link.handle.index]? = some link.node := by
  rw [recorded.nodes, List.getElem?_map, recorded.getElem?_of_mem given]
  rfl

/-- Handles that may be linked to are those that have been given for the module. -/
theorem linkable_iff (recorded : shared.Recorded) : shared.declarations.Linkable owner nearer ↔
    ∀ handle ∈ nearer, ∃ link ∈ shared.links, link.handle = handle ∧ link.owner = owner := by
  refine forall₂_congr fun handle _ => ⟨?_, ?_⟩
  · rintro ⟨same, node, found, owned⟩
    rw [recorded.nodes, List.getElem?_map, Option.map_eq_some_iff] at found
    obtain ⟨link, found, rfl⟩ := found
    refine ⟨link, List.mem_of_getElem? found, ?_, owned⟩
    rw [recorded.numbered _ link found, ← same]
  · rintro ⟨link, given, rfl, owned⟩
    obtain ⟨index, found⟩ := List.mem_iff_getElem?.mp given
    exact ⟨by rw [recorded.numbered index link found], link.node, recorded.node_of_mem given, owned⟩

/-- Walking back from a handle meets what was linked for it. -/
theorem walks (recorded : shared.Recorded) (linked : Linked shared.links handle lineage) :
    Walks shared.declarations.nodes handle.index (lineage.map Link.node) := by
  induction linked with
  | root given first =>
    refine .root (recorded.node_of_mem given) ?_
    rw [Link.node, first]
    rfl
  | @behind link nearer _ given behind _ ih =>
    have onward : link.node.nearer = some nearer.index := by
      rw [Link.node, behind]
      rfl
    exact .onward (recorded.node_of_mem given) onward ih

end Shared.Recorded

/-- Links that lead backwards are all followed. -/
theorem walkFrom_of_walks {nodes : List Declaration} {index : Nat} {found : List Declaration}
    (backwards : ∀ (index : Nat) (node : Declaration), nodes[index]? = some node →
      ∀ nearer ∈ node.nearer, nearer < index)
    (walks : Walks nodes index found) : walkFrom nodes index = found := by
  induction walks with
  | root found unlinked =>
    rw [walkFrom, found]
    dsimp only
    rw [unlinked]
  | onward found linked _ ih =>
    rw [walkFrom, found]
    dsimp only
    rw [linked]
    dsimp only
    rw [if_pos (backwards _ _ found _ linked), ih]

namespace Shared.Recorded

/-- Links lead backwards, to declarations of the same module. -/
theorem nodes_backwards (recorded : shared.Recorded) {index : Nat} {node : Declaration}
    (found : shared.declarations.nodes[index]? = some node) {nearer : Nat}
    (linked : nearer ∈ node.nearer) : nearer < index ∧
      ∃ other, shared.declarations.nodes[nearer]? = some other ∧ other.owner = node.owner := by
  rw [recorded.nodes, List.getElem?_map, Option.map_eq_some_iff] at found
  obtain ⟨link, found, rfl⟩ := found
  obtain ⟨handle, behind, rfl⟩ := Option.map_eq_some_iff.mp linked
  obtain ⟨less, other, given, rfl, owned⟩ := recorded.backwards index link found handle behind
  exact ⟨less, other.node, recorded.node_of_mem given, owned⟩

theorem walk_eq (recorded : shared.Recorded) (linked : Linked shared.links handle lineage) :
    shared.declarations.walk handle = lineage.map Link.node :=
  walkFrom_of_walks (fun _ _ found _ linked => (recorded.nodes_backwards found linked).1)
    (recorded.walks linked)

theorem exists_linked (recorded : shared.Recorded) {link : Link} (given : link ∈ shared.links) :
    ∃ lineage, Linked shared.links link.handle lineage := by
  obtain ⟨index, found⟩ := List.mem_iff_getElem?.mp given
  -- Links lead backwards, so that the induction is on the index and not on the list.
  induction index using Nat.strongRecOn generalizing link with
  | ind index ih =>
    cases behind : link.nearer with
    | none => exact ⟨_, .root given behind⟩
    | some nearer =>
      obtain ⟨less, other, givenToo, rfl, _⟩ := recorded.backwards index link found nearer behind
      obtain ⟨lineage, linked⟩ := ih _ less givenToo (recorded.getElem?_of_mem givenToo)
      exact ⟨_, .behind given behind linked⟩

end Shared.Recorded

/-- The handle that an arena gives next. -/
def Shared.nextHandle (shared : Shared) : Handle :=
  ⟨shared.declarations.id, shared.declarations.nodes.length⟩

/-- The arena with one more declaration. -/
def Shared.extended (shared : Shared) (owner : ModuleId) (requested : String) (nearer : Option Handle) :
    Shared :=
  { shared with
    declarations := (shared.declarations.appended owner requested (nearer.map (·.index))).declarations
    links := shared.links ++ [⟨shared.nextHandle, owner, requested, nearer⟩] }

theorem Shared.link_of_linkable (requested : String)
    (linkable : shared.declarations.Linkable owner nearer) : shared.link owner requested nearer =
      .ok (shared.nextHandle, shared.extended owner requested nearer) := by
  rw [Shared.link, add_of_linkable requested linkable]
  rfl

theorem Shared.Recorded.extended (recorded : shared.Recorded) (requested : String)
    (linkable : shared.declarations.Linkable owner nearer) :
    (shared.extended owner requested nearer).Recorded := by
  have long : shared.declarations.nodes.length = shared.links.length := by
    rw [recorded.nodes, List.length_map]
  let last : Link := ⟨shared.nextHandle, owner, requested, nearer⟩
  have cases {index : Nat} {link : Link} (found : (shared.links ++ [last])[index]? = some link) :
      shared.links[index]? = some link ∨ index = shared.links.length ∧ link = last := by
    rcases Nat.lt_or_ge index shared.links.length with inside | behind
    · rw [List.getElem?_append_left inside] at found
      exact .inl found
    · rw [List.getElem?_append_right behind, List.getElem?_singleton] at found
      split at found
      · exact .inr ⟨by omega, (Option.some.inj found).symm⟩
      · cases found
  refine ⟨?_, fun index link found => ?_, fun index link found other behind => ?_⟩
  · simp only [Shared.extended, appended, List.map_append, recorded.nodes]
    rfl
  · obtain before | ⟨rfl, rfl⟩ := cases found
    · exact recorded.numbered index link before
    · exact congrArg (Handle.mk _) long
  · obtain before | ⟨rfl, rfl⟩ := cases found
    · obtain ⟨less, first, given, rest⟩ := recorded.backwards index link before other behind
      exact ⟨less, first, List.mem_append_left _ given, rest⟩
    · obtain ⟨first, given, rfl, owned⟩ := recorded.linkable_iff.mp linkable other behind
      refine ⟨?_, first, List.mem_append_left _ given, rfl, owned⟩
      exact (List.getElem?_eq_some_iff.mp (recorded.getElem?_of_mem given)).1

end MavenResolution.Declarations
