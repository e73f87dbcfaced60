import Mathlib.Data.List.Induction
import MavenResolution.Configuration.Load
import MavenResolution.Proofs.Configuration.Overriding

/-! Settings after documents were loaded one after another. The last document that changes a setting says what it
is, and no document changes more than the settings it names; only a number out of bounds ends the loading, and
leaves the settings behind it as they were. -/
namespace MavenResolution.Configuration

open Yaml

/-- What loading depends on beside the settings so far. -/
structure Call (α : Type) where
  safeLoad : Reader α
  files : Files
  places : Places
  path : Option String

variable {α : Type} [Object α]

namespace Call

/-- The entries of the first document there is, and what the log says of it. -/
def document (call : Call α) : Except LoadFault (List (Data α × Data α) × List Log.Entry) :=
  match (candidates call.places call.path).find? (isDocument call.files) with
  | none => .ok ([], [])
  | some path => readDocument call.safeLoad call.files path

def load (call : Call α) (configuration : Configuration) : Loaded α :=
  loadWith call.safeLoad configuration call.files call.places call.path

/-- The value that a call gives to a setting. -/
def gives (key : Key) (call : Call α) : Option Setting :=
  match call.document with
  | .error _ => none
  | .ok (entries, _) => if key ∈ reached entries Key.all then (outcome entries key).change? else none

variable {call : Call α} {entries : List (Data α × Data α)} {opening : List Log.Entry} {fault : LoadFault}

theorem load_of_unread (configuration : Configuration) (unread : call.document = .error fault) :
    call.load configuration = ⟨.error fault, configuration, []⟩ := by
  unfold document at unread
  unfold load loadWith
  cases found : (candidates call.places call.path).find? (isDocument call.files) with
  | none =>
    rw [found] at unread
    cases unread
  | some path =>
    rw [found] at unread
    dsimp only at unread ⊢
    rw [unread]

/-- Where there is no document, loading does what it does with one that has no entries. -/
theorem load_of_read (configuration : Configuration) (read : call.document = .ok (entries, opening)) :
    call.load configuration = {
      entries := match (configuration.apply entries).fault with
        | none => .ok entries
        | some fault => .error (.value fault)
      configuration := (configuration.apply entries).configuration
      log := opening ++ (configuration.apply entries).log } := by
  unfold document at read
  unfold load loadWith
  cases found : (candidates call.places call.path).find? (isDocument call.files) with
  | none =>
    rw [found] at read
    cases read
    rfl
  | some path =>
    rw [found] at read
    dsimp only at read ⊢
    cases document : readDocument call.safeLoad call.files path with
    | error fault => cases document.symm.trans read
    | ok result =>
      cases document.symm.trans read
      rfl

theorem get_load (call : Call α) (configuration : Configuration) (key : Key) :
    (call.load configuration).configuration.get key = (call.gives key).getD (configuration.get key) := by
  unfold gives
  cases read : call.document with
  | error fault =>
    rw [load_of_unread configuration read]
    rfl
  | ok result =>
    obtain ⟨entries, opening⟩ := result
    rw [load_of_read configuration read]
    dsimp only
    rw [apply, (overrides_applyKeys entries Key.all configuration).get]
    split <;> rfl

end Call

/-- The settings after some calls, whether they ended well or not. -/
def after (initial : Configuration) (calls : List (Call α)) : Configuration :=
  calls.foldl (fun configuration call => (call.load configuration).configuration) initial

theorem after_concat (initial : Configuration) (earlier : List (Call α)) (call : Call α) :
    after initial (earlier ++ [call]) = (call.load (after initial earlier)).configuration :=
  List.foldl_append ..

/-- A setting is what the last call that gives it a value made of it. -/
theorem get_after (initial : Configuration) (calls : List (Call α)) (key : Key) :
    (after initial calls).get key = (calls.reverse.findSome? (Call.gives key)).getD (initial.get key) := by
  induction calls using List.reverseRecOn with
  | nil => rfl
  | append_singleton earlier call ih =>
    rw [after_concat, Call.get_load, ih, List.reverse_append, List.reverse_singleton, List.singleton_append,
      List.findSome?_cons]
    cases call.gives key <;> rfl

/-- A document is honoured: the call returns its entries, every setting that it sets is as it says and the others
are as before, and the log has one warning for each value that does not suit. -/
structure Honours (entries : List (Data α × Data α)) (opening : List Log.Entry) (before : Configuration)
    (loaded : Loaded α) : Prop where
  returns : loaded.entries = .ok entries
  changed : ∀ key value, Sets entries key value → loaded.configuration.get key = value
  kept : ∀ key, (∀ value, ¬ Sets entries key value) → loaded.configuration.get key = before.get key
  warned : ∃ refused : List (Key × Data α), (refused.map Prod.fst).Sublist Key.all ∧
    (∀ key value, (key, value) ∈ refused ↔ Refuses entries key value) ∧
    loaded.log = opening ++ refused.map fun (key, value) => ignored key value

variable {call : Call α} {entries : List (Data α × Data α)} {opening : List Log.Entry} {before : Configuration}

/-- The values of a document that do not suit, in the order of the settings. -/
def refusals (entries : List (Data α × Data α)) : List (Key × Data α) :=
  Key.all.filterMap fun key => (outcome entries key).refused?.map (key, ·)

theorem mem_refusals {key : Key} {value : Data α} : (key, value) ∈ refusals entries ↔ Refuses entries key value := by
  simp [refusals, mem_all, refused?_outcome]

theorem refusals_sublist : ((refusals entries).map Prod.fst).Sublist Key.all := by
  have kept : (refusals entries).map Prod.fst = Key.all.filter fun key => (outcome entries key).refused?.isSome := by
    rw [refusals, List.map_filterMap, ← List.filterMap_eq_filter]
    congr 1
    funext key
    cases refused : (outcome entries key).refused? <;> simp [refused, Option.guard]
  rw [kept]
  exact List.filter_sublist

theorem log_of_withinBounds (within : WithinBounds entries) :
    (before.apply entries).log = (refusals entries).map fun (key, value) => ignored key value := by
  rw [apply, (overrides_applyKeys entries Key.all before).log, within.reached, refusals, List.map_filterMap]
  congr 1
  funext key
  cases (outcome entries key).refused? <;> rfl

/-- A document is honoured if its numbers are within bounds, and only then. -/
theorem honours_iff (read : call.document = .ok (entries, opening)) :
    Honours entries opening before (call.load before) ↔ WithinBounds entries := by
  have overrides := overrides_applyKeys entries Key.all before
  have loaded := Call.load_of_read before read
  constructor
  · intro honours
    by_contra beyond
    obtain ⟨fault, broken⟩ := exists_fault_of_not_withinBounds beyond
    have returns := honours.returns
    rw [loaded, apply, overrides.fault, broken] at returns
    cases returns
  · intro within
    have faultless : (before.apply entries).fault = none :=
      overrides.fault.trans (List.findSome?_eq_none_iff.mpr fun key _ => within.fault? key)
    have get (key : Key) : (call.load before).configuration.get key =
        (outcome entries key).change?.getD (before.get key) := by
      rw [loaded, apply, overrides.get, within.reached, if_pos (mem_all key)]
    refine ⟨?_, fun key value sets => ?_, fun key unset => ?_, refusals entries, refusals_sublist,
      fun _ _ => mem_refusals, ?_⟩
    · rw [loaded, faultless]
    · rw [get, change?_outcome.mpr sets, Option.getD_some]
    · have unchanged : (outcome entries key).change? = none :=
        Option.eq_none_iff_forall_ne_some.mpr fun value changes => unset value (change?_outcome.mp changes)
      rw [get, unchanged, Option.getD_none]
    · rw [loaded, log_of_withinBounds within]

/-- What a call makes of the settings so far. One whose document has a number out of bounds ends there: the settings
in front of it are as the document says, and the others are as before. -/
structure Loading (before : Configuration) (call : Call α) (loaded : Loaded α) : Prop where
  holds : ∀ key : Key, key.kind.Holds (loaded.configuration.get key)
  unread : ∀ fault, call.document = .error fault → loaded = ⟨.error fault, before, []⟩
  honours : ∀ entries opening, call.document = .ok (entries, opening) →
    (Honours entries opening before loaded ↔ WithinBounds entries)
  breaks : ∀ entries opening, call.document = .ok (entries, opening) → ¬ WithinBounds entries →
    (∃ fault, loaded.entries = .error (.value fault)) ∧
    ∀ key, loaded.configuration.get key =
      if key ∈ reached entries Key.all then (outcome entries key).change?.getD (before.get key) else before.get key

theorem loading_load (before : Configuration) (call : Call α) : Loading before call (call.load before) := by
  refine ⟨fun key => holds_get _ key, fun fault => Call.load_of_unread before, fun entries opening => honours_iff,
    fun entries opening read beyond => ?_⟩
  have overrides := overrides_applyKeys entries Key.all before
  obtain ⟨fault, broken⟩ := exists_fault_of_not_withinBounds beyond
  rw [Call.load_of_read before read]
  dsimp only
  rw [apply, overrides.fault, broken]
  exact ⟨⟨fault, rfl⟩, overrides.get⟩

/-- Calls of `load_config` one after another: what the calls so far have made of the settings, and what one more
makes of them. It is so with every `safe_load`, and with values of all types that it gives. -/
theorem settings_of_calls (initial : Configuration) (earlier : List (Call α)) (call : Call α) :
    (∀ key : Key, (after initial earlier).get key =
      (earlier.reverse.findSome? (Call.gives key)).getD (initial.get key)) ∧
    Loading (after initial earlier) call (call.load (after initial earlier)) :=
  ⟨get_after initial earlier, loading_load (after initial earlier) call⟩

/-- A call that reads a plain document. -/
def Call.ofText (text : String) : Call Empty where
  safeLoad := Yaml.read
  files := Files.add {} (Path.ofText "settings.yml") text.toUTF8.toList
  places := { working := "/", home := "/" }
  path := some "settings.yml"

/-- Behind a document that sets the workers, one that sets the timeout and says nothing useful of `http_retry_max`. -/
theorem settings_of_calls_refused :
    Honours [(.text "request_timeout", .text "5"), (.text "http_retry_max", .number .nan)]
        [Log.debug .configuration "Loaded config from settings.yml"] (after {} [.ofText "max_workers: 2\n"])
        ((Call.ofText "request_timeout: '5'\nhttp_retry_max: .nan\n").load
          (after {} [.ofText "max_workers: 2\n"])) ∧
      (after {} [.ofText "max_workers: 2\n"]).get .maxWorkers = .integer 2 := by
  obtain ⟨earlier, loading⟩ := settings_of_calls {} [.ofText "max_workers: 2\n"]
    (.ofText "request_timeout: '5'\nhttp_retry_max: .nan\n")
  constructor
  · refine (loading.honours _ _ (eq_ok_of_toOption (by decide +kernel))).mpr fun key => ?_
    cases key <;> simp [Data.entry?, Key.name, Key.kind, Kind.Exceeds]
  · rw [earlier]
    decide +kernel

/-- A call that reads a document with an infinite `http_retry_max`. -/
def Call.endless : Call Empty := .ofText "request_timeout: 5\nhttp_retry_max: .inf\nmax_workers: 2\n"

/-- The call fails. The timeout, in front of the endless number, is changed, and the number of workers, behind it,
is not, although the document sets both. -/
theorem exists_settings_half_changed : ∃ entries opening, Call.endless.document = .ok (entries, opening) ∧
    Sets entries .requestTimeout (.integer 5) ∧ Sets entries .maxWorkers (.integer 2) ∧
    (Call.endless.load {}).entries = .error (.value .infinite) ∧
    (Call.endless.load {}).configuration = { requestTimeout := 5 } ∧
    ¬ Honours entries opening {} (Call.endless.load {}) := by
  have read : Call.endless.document =
      .ok ([(.text "request_timeout", .integer 5), (.text "http_retry_max", .number (.infinite false)),
        (.text "max_workers", .integer 2)], [Log.debug .configuration "Loaded config from settings.yml"]) :=
    eq_ok_of_toOption (by decide +kernel)
  have broken : (({} : Configuration).apply ([(.text "request_timeout", .integer 5),
      (.text "http_retry_max", .number (.infinite false)), (.text "max_workers", .integer 2)] :
      List (Value × Value))).fault = some .infinite := by
    decide +kernel
  have fails : (Call.endless.load {}).entries = .error (.value .infinite) := by
    rw [Call.load_of_read {} read, broken]
  refine ⟨_, _, read, ⟨.integer 5, by decide +kernel, nofun, rfl⟩, ⟨.integer 2, by decide +kernel, nofun, rfl⟩,
    fails, by decide +kernel, fun honours => ?_⟩
  have returns := honours.returns
  rw [fails] at returns
  cases returns

end MavenResolution.Configuration
