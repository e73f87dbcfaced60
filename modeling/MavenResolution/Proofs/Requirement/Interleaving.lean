import MavenResolution.Proofs.Requirement.Sharing

/-! Runs of calls on a shared arena. Chains that are declared at the same time do not get in each other's way:
each is walked as its constraints were given, and a chain that nothing comes between is the one that is declared
at once. -/
namespace MavenResolution.Declarations

variable {owner : ModuleId} {requested : String} {nearer : Option Handle} {handle : Handle}
  {shared : Shared} {links : List Link} {lineage : List Link} {chain : Underway}

/-- What has been declared of a chain leads from its last handle back to its first constraint. -/
def Underway.Begun (links : List Link) (chain : Underway) : Prop :=
  ∃ lineage, Linked links chain.last lineage ∧
    lineage.map (·.requested) = (chain.constraints.take chain.declared).reverse ∧
    ∃ link ∈ links, link.handle = chain.last ∧ link.owner = chain.owner

theorem Underway.Begun.mono {more : List Link} (begun : chain.Begun links) (kept : links ⊆ more) :
    chain.Begun more := by
  obtain ⟨lineage, linked, texts, link, given, rest⟩ := begun
  exact ⟨lineage, linked.mono kept, texts, link, kept given, rest⟩

/-- The arena holds what its callers know, and the chains under way lead back to their beginnings. -/
structure Shared.Lawful (shared : Shared) : Prop where
  recorded : shared.Recorded
  begun : ∀ chain ∈ shared.chains, chain.Begun shared.links

/-- The same arena later on: whatever had been linked still is. -/
structure Shared.Continues (shared next : Shared) : Prop where
  pass : next.declarations.id = shared.declarations.id
  links : shared.links <+: next.links

theorem Shared.Continues.refl (shared : Shared) : shared.Continues shared := ⟨rfl, List.prefix_rfl⟩

theorem Shared.Continues.trans {next last : Shared} (first : shared.Continues next)
    (second : next.Continues last) : shared.Continues last :=
  ⟨second.pass.trans first.pass, first.links.trans second.links⟩

theorem Shared.Recorded.nodes_prefix {later : Shared} (recorded : shared.Recorded)
    (recordedLater : later.Recorded) (continues : shared.Continues later) :
    shared.declarations.nodes <+: later.declarations.nodes := by
  rw [recorded.nodes, recordedLater.nodes]
  exact continues.links.map _

/-! One call. -/

theorem Shared.Recorded.refused_add_iff (recorded : shared.Recorded) :
    (Call.add owner requested nearer).Refused shared ↔ ¬shared.declarations.Linkable owner nearer := by
  rw [recorded.linkable_iff]
  constructor
  · rintro ⟨handle, member, foreign | other⟩ linkable
    · obtain ⟨link, given, rfl, _⟩ := linkable handle member
      obtain ⟨index, found⟩ := List.mem_iff_getElem?.mp given
      exact foreign (by rw [recorded.numbered index link found])
    · obtain ⟨link, given, same, owned⟩ := linkable handle member
      exact other link given same owned
  · intro unlinkable
    obtain ⟨handle, unlinked⟩ := Classical.not_forall.mp unlinkable
    obtain ⟨member, ungiven⟩ := Classical.not_imp.mp unlinked
    exact ⟨handle, member, .inr fun link given same owned => ungiven ⟨link, given, same, owned⟩⟩

/-- The arena when a chain has been begun. -/
def Shared.begun (shared : Shared) (owner : ModuleId) (requested : String) (rest : List String) : Shared :=
  let next := shared.extended owner requested none
  { next with chains := next.chains ++ [⟨owner, requested :: rest, 1, shared.nextHandle⟩] }

/-- The arena when the next constraint of a chain has been declared. -/
def Shared.resumed (shared : Shared) (number : Nat) (chain : Underway) (requested : String) : Shared :=
  let next := shared.extended chain.owner requested (some chain.last)
  let chain := { chain with declared := chain.declared + 1, last := shared.nextHandle }
  { next with chains := next.chains.set number chain }

theorem Shared.call_chain (shared : Shared) (owner : ModuleId) (requested : String) (rest : List String) :
    shared.call (.chain owner (requested :: rest)) = .ok (shared.begun owner requested rest) := by
  rw [Shared.call, Shared.link_of_linkable requested (by simp [Linkable])]
  rfl

theorem Shared.call_resume {number : Nat} (found : shared.chains[number]? = some chain)
    (next : chain.constraints[chain.declared]? = some requested)
    (linkable : shared.declarations.Linkable chain.owner (some chain.last)) :
    shared.call (.resume number) = .ok (shared.resumed number chain requested) := by
  simp only [Shared.call, found, next, Shared.link_of_linkable requested linkable]
  rfl

namespace Shared.Lawful

theorem empty (id : Nat) : (Shared.empty id).Lawful where
  recorded := ⟨rfl, by simp [Shared.empty], by simp [Shared.empty]⟩
  begun := by simp [Shared.empty]

theorem extended (lawful : shared.Lawful) (requested : String)
    (linkable : shared.declarations.Linkable owner nearer) :
    (shared.extended owner requested nearer).Lawful where
  recorded := lawful.recorded.extended requested linkable
  begun chain member := (lawful.begun chain member).mono (List.subset_append_left _ _)

/-- A chain begins with its first constraint, which is linked to nothing. -/
theorem of_begun (lawful : shared.Lawful) (owner : ModuleId) (requested : String) (rest : List String) :
    (shared.begun owner requested rest).Lawful := by
  have first : shared.declarations.Linkable owner none := by simp [Linkable]
  have next := lawful.extended requested first
  refine ⟨⟨next.recorded.nodes, next.recorded.numbered, next.recorded.backwards⟩, fun chain member => ?_⟩
  obtain before | new := List.mem_append.mp member
  · exact next.begun chain before
  · obtain rfl := List.mem_singleton.mp new
    let link : Link := ⟨shared.nextHandle, owner, requested, none⟩
    have given : link ∈ (shared.begun owner requested rest).links :=
      List.mem_append_right _ (List.mem_singleton_self link)
    exact ⟨[link], .root given rfl, rfl, link, given, rfl, rfl⟩

/-- The last handle of a chain may be linked to. -/
theorem linkable_last (lawful : shared.Lawful) (member : chain ∈ shared.chains) :
    shared.declarations.Linkable chain.owner (some chain.last) := by
  obtain ⟨_, _, _, last, given, here, owned⟩ := lawful.begun chain member
  rw [lawful.recorded.linkable_iff]
  rintro _ ⟨⟩
  exact ⟨last, given, here, owned⟩

/-- A chain goes on with its next constraint, which is linked to the last one. -/
theorem of_resumed (lawful : shared.Lawful) {number : Nat} (found : shared.chains[number]? = some chain)
    (next : chain.constraints[chain.declared]? = some requested) :
    (shared.resumed number chain requested).Lawful := by
  have member := List.mem_of_getElem? found
  obtain ⟨lineage, linked, texts, -⟩ := lawful.begun chain member
  have extended := lawful.extended requested (lawful.linkable_last member)
  refine ⟨⟨extended.recorded.nodes, extended.recorded.numbered, extended.recorded.backwards⟩, ?_⟩
  intro other memberNow
  obtain before | rfl := List.mem_or_eq_of_mem_set memberNow
  · exact extended.begun other before
  · let link : Link := ⟨shared.nextHandle, chain.owner, requested, some chain.last⟩
    have given : link ∈ (shared.resumed number chain requested).links :=
      List.mem_append_right _ (List.mem_singleton_self link)
    refine ⟨link :: lineage, .behind given rfl (linked.mono (List.subset_append_left _ _)), ?_, link, given,
      rfl, rfl⟩
    rw [List.map_cons, texts, List.take_add_one, next]
    simp [link]

/-- A call is refused for the stated reasons only, and otherwise leads to an arena that goes on from this one. -/
theorem call_cases (lawful : shared.Lawful) (call : Call) :
    (call.Refused shared ∧ ∃ fault, shared.call call = .error fault) ∨
      ¬call.Refused shared ∧ ∃ next, shared.call call = .ok next ∧ next.Lawful ∧ shared.Continues next := by
  cases call with
  | add owner requested nearer =>
    rw [lawful.recorded.refused_add_iff, Classical.not_not]
    by_cases linkable : shared.declarations.Linkable owner nearer
    · refine .inr ⟨linkable, shared.extended owner requested nearer, ?_,
        lawful.extended requested linkable, rfl, List.prefix_append _ _⟩
      rw [Shared.call, Shared.link_of_linkable requested linkable]
      rfl
    · refine .inl ⟨linkable, ?_⟩
      cases declared : shared.declarations.add owner requested nearer with
      | ok added => exact absurd (linkable_of_add declared) linkable
      | error fault =>
        refine ⟨fault, ?_⟩
        rw [Shared.call, Shared.link, declared]
        rfl
  | chain owner constraints =>
    cases constraints with
    | nil => exact .inl ⟨rfl, _, rfl⟩
    | cons requested rest =>
      refine .inr ⟨List.cons_ne_nil _ _, shared.begun owner requested rest, ?_,
        lawful.of_begun owner requested rest, rfl, List.prefix_append _ _⟩
      exact Shared.call_chain shared owner requested rest
  | resume number =>
    refine .inr ⟨fun refused => refused, ?_⟩
    cases found : shared.chains[number]? with
    | none => exact ⟨shared, by simp only [Shared.call, found], lawful, .refl shared⟩
    | some chain =>
      cases next : chain.constraints[chain.declared]? with
      | none => exact ⟨shared, by simp only [Shared.call, found, next], lawful, .refl shared⟩
      | some requested =>
        exact ⟨shared.resumed number chain requested,
          Shared.call_resume found next (lawful.linkable_last (List.mem_of_getElem? found)),
          lawful.of_resumed found next, rfl, List.prefix_append _ _⟩

theorem after (lawful : shared.Lawful) (call : Call) :
    (shared.after call).Lawful ∧ shared.Continues (shared.after call) := by
  obtain ⟨_, fault, refused⟩ | ⟨_, next, called, lawfulNext, continues⟩ := lawful.call_cases call
  · rw [Shared.after, refused]
    exact ⟨lawful, .refl shared⟩
  · rw [Shared.after, called]
    exact ⟨lawfulNext, continues⟩

/-- Whatever is called, the arena stays lawful and keeps what has been linked in it. -/
theorem run (lawful : shared.Lawful) (calls : List Call) :
    (shared.run calls).Lawful ∧ shared.Continues (shared.run calls) := by
  induction calls generalizing shared with
  | nil => exact ⟨lawful, .refl shared⟩
  | cons call rest ih =>
    obtain ⟨lawfulNext, continues⟩ := lawful.after call
    obtain ⟨lawfulLast, onward⟩ := ih lawfulNext
    exact ⟨lawfulLast, continues.trans onward⟩

end Shared.Lawful

/-! Descriptions. -/

theorem Shared.Recorded.describe_eq (recorded : shared.Recorded)
    (linked : Linked shared.links handle lineage) :
    shared.declarations.describe handle = " <- ".intercalate (lineage.map (·.requested)) := by
  rw [describe, recorded.walk_eq linked, List.map_map]
  rfl

/-- A chain under way is described by the constraints of it that have been declared, the last one first. -/
theorem Shared.Lawful.describe_last (lawful : shared.Lawful) (begun : chain.Begun shared.links) :
    shared.declarations.describe chain.last =
      " <- ".intercalate (chain.constraints.take chain.declared).reverse := by
  obtain ⟨lineage, linked, texts, -⟩ := begun
  rw [lawful.recorded.describe_eq linked, texts]

/-! Chains that nothing comes between. -/

/-- A chain goes on as the one that is extended at once. -/
theorem Shared.run_resume (chain : Underway) {number remaining : Nat} {added last : Added}
    (found : shared.chains[number]? = some chain) (same : shared.declarations = added.declarations)
    (here : chain.last = added.handle) (remains : chain.constraints.length = chain.declared + remaining)
    (extended : Declarations.extend chain.owner added (chain.constraints.drop chain.declared) = .ok last) :
    let ran := shared.run (List.replicate remaining (.resume number))
    ran.declarations = last.declarations ∧ ran.chains[number]? =
      some { chain with declared := chain.constraints.length, last := last.handle } := by
  -- On what is left of the chain. The arena and the last handle stay those of the extension so far; only its
  -- faults are not kept here.
  induction remaining generalizing shared added chain with
  | zero =>
    rw [List.drop_eq_nil_of_le (by omega)] at extended
    cases extended
    refine ⟨same, found.trans ?_⟩
    rw [remains, ← here]
    rfl
  | succ remaining ih =>
    have inside : chain.declared < chain.constraints.length := by omega
    rw [List.drop_eq_getElem_cons inside] at extended
    obtain ⟨next, declared, extendedNext⟩ := bind_eq_ok_iff.mp extended
    rw [← same, ← here] at declared
    have linkable := linkable_of_add declared
    rw [add_of_linkable _ linkable] at declared
    cases declared
    have called := Shared.call_resume found (List.getElem?_eq_getElem inside) linkable
    have within : number < shared.chains.length := (List.getElem?_eq_some_iff.mp found).1
    rw [List.replicate_succ, Shared.run, List.foldl_cons, Shared.after, called]
    refine ih { chain with declared := chain.declared + 1, last := shared.nextHandle }
      (List.getElem?_set_self within) ?_ ?_ (by dsimp only; omega) extendedNext
    · rfl
    · rfl

/-- A chain that is declared at once is begun and goes on to its end with nothing in between. -/
theorem Shared.run_chain (shared : Shared) (owner : ModuleId) (requested : String) (rest : List String) :
    let ran := shared.run (.chain owner (requested :: rest) ::
      List.replicate rest.length (.resume shared.chains.length))
    ∃ added, shared.declarations.chain owner (requested :: rest) = .ok added ∧
      ran.declarations = added.declarations ∧ ran.chains[shared.chains.length]? =
        some ⟨owner, requested :: rest, rest.length + 1, added.handle⟩ := by
  intro ran
  obtain ⟨last, chained, -⟩ := chain_ends shared.declarations owner (List.cons_ne_nil requested rest)
  refine ⟨last, chained, ?_⟩
  obtain ⟨first, declared, extended⟩ := bind_eq_ok_iff.mp chained
  rw [add_of_linkable requested (by simp [Linkable])] at declared
  cases declared
  have called := Shared.call_chain shared owner requested rest
  have found : (shared.begun owner requested rest).chains[shared.chains.length]? =
      some ⟨owner, requested :: rest, 1, shared.nextHandle⟩ := List.getElem?_concat_length
  simp only [ran, Shared.run, List.foldl_cons, Shared.after, called]
  exact Shared.run_resume _ found rfl rfl (by simp; omega) extended

/-- Whatever is called on an arena, links lead backwards within one module, just the calls that link to a foreign
handle or have no constraint are refused and change nothing, and what has been declared stays as it is. The
declarations that a walk from a handle meets, then and later, are those that were linked for it; so a chain is
described by its constraints whatever is called in between, and is the one that is declared at once if nothing
is. -/
theorem Shared.run_walks_linked (id : Nat) (calls more : List Call) :
    let shared := (Shared.empty id).run calls
    let later := shared.run more
    (∀ (index : Nat) (node : Declaration), shared.declarations.nodes[index]? = some node →
      ∀ nearer ∈ node.nearer, nearer < index ∧
        ∃ other, shared.declarations.nodes[nearer]? = some other ∧ other.owner = node.owner) ∧
    (∀ call : Call, ((∃ fault, shared.call call = .error fault) ↔ call.Refused shared) ∧
      (call.Refused shared → shared.after call = shared)) ∧
    shared.declarations.nodes <+: later.declarations.nodes ∧
    (∀ link ∈ shared.links, ∃ lineage, Linked shared.links link.handle lineage) ∧
    (∀ handle lineage, Linked shared.links handle lineage →
      Walks later.declarations.nodes handle.index (lineage.map Link.node) ∧
      later.declarations.walk handle = lineage.map Link.node ∧
      later.declarations.describe handle = " <- ".intercalate (lineage.map (·.requested))) ∧
    (∀ chain ∈ shared.chains, later.declarations.describe chain.last =
      " <- ".intercalate (chain.constraints.take chain.declared).reverse) ∧
    ∀ owner requested rest, ∃ added, shared.declarations.chain owner (requested :: rest) = .ok added ∧
      let ran := shared.run (.chain owner (requested :: rest) ::
        List.replicate rest.length (.resume shared.chains.length))
      ran.declarations = added.declarations ∧ ran.chains[shared.chains.length]? =
        some ⟨owner, requested :: rest, rest.length + 1, added.handle⟩ := by
  intro shared later
  have lawful : shared.Lawful := ((Lawful.empty id).run calls).1
  obtain ⟨lawfulLater, continues⟩ : later.Lawful ∧ shared.Continues later := lawful.run more
  refine ⟨fun index node found nearer linked => lawful.recorded.nodes_backwards found linked,
    fun call => ?_, lawful.recorded.nodes_prefix lawfulLater.recorded continues,
    fun link given => lawful.recorded.exists_linked given, fun handle lineage linked => ?_,
    fun chain member => ?_, shared.run_chain⟩
  · obtain ⟨refused, fault, failed⟩ | ⟨unrefused, next, called, _⟩ := lawful.call_cases call
    · exact ⟨⟨fun _ => refused, fun _ => ⟨fault, failed⟩⟩, fun _ => by rw [Shared.after, failed]⟩
    · refine ⟨⟨fun ⟨fault, failed⟩ => ?_, fun refused => absurd refused unrefused⟩,
        fun refused => absurd refused unrefused⟩
      rw [called] at failed
      cases failed
  · have linkedLater := linked.mono continues.links.subset
    exact ⟨lawfulLater.recorded.walks linkedLater, lawfulLater.recorded.walk_eq linkedLater,
      lawfulLater.recorded.describe_eq linkedLater⟩
  · exact lawfulLater.describe_last ((lawful.begun chain member).mono continues.links.subset)

/-- Two chains of one module that go on in turns, and a call behind them that is refused. -/
theorem Shared.run_walks_linked_in_turns :
    let lib : ModuleId := ⟨"org.example", "lib"⟩
    let foreign := Call.add ⟨"org.example", "other"⟩ "3.0" (some ⟨0, 0⟩)
    let shared := (Shared.empty 0).run
      [.chain lib ["1.0", "[1.0,2.0)"], .chain lib ["LATEST", "2.0"], .resume 1, .resume 0]
    let later := shared.run [foreign]
    shared.after foreign = shared ∧ later.declarations.describe ⟨0, 2⟩ = "2.0 <- LATEST" ∧
      later.declarations.describe ⟨0, 3⟩ = "[1.0,2.0) <- 1.0" := by
  intro lib foreign shared later
  obtain ⟨-, refusals, -, -, -, described, -⟩ := Shared.run_walks_linked 0
    [.chain lib ["1.0", "[1.0,2.0)"], .chain lib ["LATEST", "2.0"], .resume 1, .resume 0] [foreign]
  have refused : foreign.Refused shared := ⟨⟨0, 0⟩, rfl, .inr (by decide +kernel)⟩
  have first : ⟨lib, ["1.0", "[1.0,2.0)"], 2, ⟨0, 3⟩⟩ ∈ shared.chains := by decide +kernel
  have second : ⟨lib, ["LATEST", "2.0"], 2, ⟨0, 2⟩⟩ ∈ shared.chains := by decide +kernel
  exact ⟨(refusals foreign).2 refused, (described _ second).trans (by decide),
    (described _ first).trans (by decide)⟩

end MavenResolution.Declarations
