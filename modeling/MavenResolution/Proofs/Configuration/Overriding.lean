import Mathlib.Data.List.TakeWhile
import MavenResolution.Configuration.Basic
import MavenResolution.Proofs.Decimal.Overflow
import MavenResolution.Proofs.Outcome

/-! Settings that a document overrides. What becomes of a setting is told by the value that the document has for
it and by nothing else, until a number is out of bounds. -/
namespace MavenResolution.Configuration

open Yaml

/-! Settings as values. -/

/-- The value of a setting. -/
inductive Setting where
  | integer (value : Int)
  | number (value : Decimal.Binary64)
  | text (value : String)
  deriving DecidableEq, Repr

variable {α : Type} [Object α] {key : Key} {value : Data α} {converted : Setting} {fault : ConversionFault}
  {entries : List (Data α × Data α)}

/-- What a setting holds. -/
inductive Kind where
  | integer
  | number
  | text
  deriving DecidableEq, Repr

def Key.kind : Key → Kind
  | .requestTimeout | .retryMax | .maxWorkers => .integer
  | .retryDelay => .number
  | .centralUri => .text

/-- The value is of a kind. -/
def Kind.Holds : Kind → Setting → Prop
  | .integer, value => ∃ n, value = .integer n
  | .number, value => ∃ x, value = .number x
  | .text, value => ∃ s, value = .text s

/-- The value of a kind that another value is turned into. -/
def Kind.convert : Kind → Data α → Except ConversionFault Setting
  | .integer, value => .integer <$> toInteger value
  | .number, value => .number <$> toNumber value
  | .text, value => .text <$> toText value

def get (configuration : Configuration) : Key → Setting
  | .requestTimeout => .integer configuration.requestTimeout
  | .retryMax => .integer configuration.retryMax
  | .retryDelay => .number configuration.retryDelay
  | .maxWorkers => .integer configuration.maxWorkers
  | .centralUri => .text configuration.centralUri

theorem holds_get (configuration : Configuration) (key : Key) : key.kind.Holds (configuration.get key) := by
  cases key <;> exact ⟨_, rfl⟩

theorem set_of_convert (configuration : Configuration) (converts : key.kind.convert value = .ok converted) :
    ∃ changed, configuration.set key value = .ok changed ∧
      ∀ other, changed.get other = if other = key then converted else configuration.get other := by
  cases key
  all_goals
    obtain ⟨inner, read, rfl⟩ := map_eq_ok_iff.mp converts
    refine ⟨_, by rw [set, read]; rfl, fun other => ?_⟩
    cases other <;> rfl

theorem set_of_fault (configuration : Configuration) (fails : key.kind.convert value = .error fault) :
    configuration.set key value = .error fault := by
  cases key
  all_goals
    rw [set, map_eq_error_iff.mp fails]
    rfl

/-! What becomes of a setting. -/

inductive Outcome (α : Type) where
  /-- The document says nothing about it. -/
  | kept
  | changed (value : Setting)
  /-- What the document says does not suit. -/
  | refused (value : Data α)
  /-- What the document says is out of bounds. -/
  | broken (fault : ConversionFault)

def Key.outcome (key : Key) : Option (Data α) → Outcome α
  | none | some .null => .kept
  | some value =>
    match key.kind.convert value with
    | .ok converted => .changed converted
    | .error .unsuitable => .refused value
    | .error fault => .broken fault

/-- What a document makes of a setting. -/
def outcome (entries : List (Data α × Data α)) (key : Key) : Outcome α :=
  key.outcome (Data.entry? key.name entries)

namespace Outcome

def change? : Outcome α → Option Setting
  | .changed value => some value
  | _ => none

def fault? : Outcome α → Option ConversionFault
  | .broken fault => some fault
  | _ => none

def refused? : Outcome α → Option (Data α)
  | .refused value => some value
  | _ => none

end Outcome

/-- A document has a value for a setting that can be turned into one of its kind. -/
def Sets (entries : List (Data α × Data α)) (key : Key) (converted : Setting) : Prop :=
  ∃ value, Data.entry? key.name entries = some value ∧ value ≠ .null ∧ key.kind.convert value = .ok converted

/-- A document has a value for a setting that does not suit. -/
def Refuses (entries : List (Data α × Data α)) (key : Key) (value : Data α) : Prop :=
  Data.entry? key.name entries = some value ∧ value ≠ .null ∧ key.kind.convert value = .error .unsuitable

/-- The settings in front of the first one whose number is out of bounds. -/
def reached (entries : List (Data α × Data α)) (keys : List Key) : List Key :=
  keys.takeWhile fun key => (outcome entries key).fault?.isNone

section

variable (silent : ∀ value ∈ Data.entry? key.name entries, value = .null)

include silent

theorem outcome_of_silent : outcome entries key = .kept := by
  unfold outcome
  cases found : Data.entry? key.name entries with
  | none => rfl
  | some value => rw [silent value found, Key.outcome]

theorem not_sets_of_silent : ¬ Sets entries key converted := by
  rintro ⟨value, found, told, -⟩
  exact told (silent value found)

theorem not_refuses_of_silent : ¬ Refuses entries key value :=
  fun ⟨found, told, _⟩ => told (silent value found)

theorem applyKeys_of_silent (keys : List Key) (configuration : Configuration) :
    applyKeys entries (key :: keys) configuration = applyKeys entries keys configuration := by
  rw [applyKeys]
  cases found : Data.entry? key.name entries with
  | none => rfl
  | some value => rw [silent value found]

end

section

variable (found : Data.entry? key.name entries = some value) (told : value ≠ .null)

include found told

theorem outcome_of_entry : outcome entries key = match key.kind.convert value with
    | .ok converted => .changed converted
    | .error .unsuitable => .refused value
    | .error fault => .broken fault := by
  rw [outcome, found]
  unfold Key.outcome
  split <;> simp_all

theorem sets_iff_of_entry : Sets entries key converted ↔ key.kind.convert value = .ok converted := by
  constructor
  · rintro ⟨other, again, -, converts⟩
    rwa [← Option.some.inj (found.symm.trans again)] at converts
  · exact fun converts => ⟨value, found, told, converts⟩

theorem refuses_iff_of_entry {other : Data α} :
    Refuses entries key other ↔ other = value ∧ key.kind.convert value = .error .unsuitable := by
  constructor
  · rintro ⟨again, -, fails⟩
    obtain rfl := Option.some.inj (found.symm.trans again)
    exact ⟨rfl, fails⟩
  · rintro ⟨rfl, fails⟩
    exact ⟨found, told, fails⟩

theorem applyKeys_of_entry (keys : List Key) (configuration : Configuration) :
    applyKeys entries (key :: keys) configuration = match configuration.set key value with
      | .ok changed => applyKeys entries keys changed
      | .error .unsuitable => { applyKeys entries keys configuration with
          log := ignored key value :: (applyKeys entries keys configuration).log }
      | .error fault => { configuration, fault := some fault } := by
  rw [applyKeys, found]
  split
  · rename_i absent
    cases absent
  · rename_i same
    exact absurd (Option.some_inj.mp same) told
  · rename_i same
    cases same
    rfl

end

omit [Object α] in
/-- Settings of which a document says nothing, and those for which it has a value. -/
theorem silent_or_entry (entries : List (Data α × Data α)) (key : Key) :
    (∀ value ∈ Data.entry? key.name entries, value = .null) ∨
      ∃ value, Data.entry? key.name entries = some value ∧ value ≠ .null := by
  by_cases silent : ∀ value ∈ Data.entry? key.name entries, value = .null
  · exact .inl silent
  · exact .inr (by simpa using silent)

theorem change?_outcome : (outcome entries key).change? = some converted ↔ Sets entries key converted := by
  rcases silent_or_entry entries key with silent | ⟨value, found, told⟩
  · rw [outcome_of_silent silent]
    exact iff_of_false nofun (not_sets_of_silent silent)
  · rw [outcome_of_entry found told, sets_iff_of_entry found told]
    cases key.kind.convert value with
    | ok other => exact ⟨fun same => congrArg _ (Option.some.inj same), fun same => congrArg _ (Except.ok.inj same)⟩
    | error fault => exact iff_of_false (by cases fault <;> exact nofun) nofun

theorem refused?_outcome : (outcome entries key).refused? = some value ↔ Refuses entries key value := by
  rcases silent_or_entry entries key with silent | ⟨entry, found, told⟩
  · rw [outcome_of_silent silent]
    exact iff_of_false nofun (not_refuses_of_silent silent)
  · rw [outcome_of_entry found told, refuses_iff_of_entry found told]
    cases key.kind.convert entry with
    | ok converted => exact iff_of_false nofun nofun
    | error fault =>
      cases fault with
      | unsuitable => exact ⟨fun same => ⟨(Option.some.inj same).symm, rfl⟩, fun ⟨same, _⟩ => congrArg some same.symm⟩
      | infinite => exact iff_of_false nofun nofun
      | tooLarge => exact iff_of_false nofun nofun

/-- A setting's turn: it becomes what its value makes of it, or everything ends. -/
theorem applyKeys_cons (entries : List (Data α × Data α)) (key : Key) (keys : List Key)
    (configuration : Configuration) :
    ((outcome entries key).fault? = none ∧ ∃ changed : Configuration,
      (∀ other, changed.get other = if other = key then (outcome entries key).change?.getD (configuration.get key)
        else configuration.get other) ∧
      applyKeys entries (key :: keys) configuration = { applyKeys entries keys changed with
        log := ((outcome entries key).refused?.map (ignored key)).toList ++ (applyKeys entries keys changed).log }) ∨
    ∃ fault, (outcome entries key).fault? = some fault ∧
      applyKeys entries (key :: keys) configuration = { configuration, fault := some fault } := by
  have still (other : Key) : configuration.get other =
      if other = key then configuration.get key else configuration.get other := by
    split
    · rename_i same
      rw [same]
    · rfl
  rcases silent_or_entry entries key with silent | ⟨value, found, told⟩
  · rw [outcome_of_silent silent, applyKeys_of_silent silent]
    exact .inl ⟨rfl, configuration, still, rfl⟩
  · rw [outcome_of_entry found told, applyKeys_of_entry found told]
    cases converts : key.kind.convert value with
    | ok converted =>
      obtain ⟨changed, given, get⟩ := configuration.set_of_convert converts
      rw [given]
      exact .inl ⟨rfl, changed, get, rfl⟩
    | error fault =>
      rw [configuration.set_of_fault converts]
      cases fault with
      | unsuitable => exact .inl ⟨rfl, configuration, still, rfl⟩
      | infinite => exact .inr ⟨_, rfl, rfl⟩
      | tooLarge => exact .inr ⟨_, rfl, rfl⟩

/-- What changing settings one after another gives: every setting that is reached becomes what its own value
makes of it, and the log has a warning for each value that does not suit. -/
structure Overrides (entries : List (Data α × Data α)) (keys : List Key) (before : Configuration)
    (applied : Applied) : Prop where
  fault : applied.fault = keys.findSome? fun key => (outcome entries key).fault?
  log : applied.log = (reached entries keys).filterMap fun key => (outcome entries key).refused?.map (ignored key)
  get : ∀ key, applied.configuration.get key =
    if key ∈ reached entries keys then (outcome entries key).change?.getD (before.get key) else before.get key

theorem overrides_applyKeys (entries : List (Data α × Data α)) (keys : List Key) (configuration : Configuration) :
    Overrides entries keys configuration (applyKeys entries keys configuration) := by
  induction keys generalizing configuration with
  | nil => exact ⟨rfl, rfl, fun key => rfl⟩
  | cons key keys ih =>
    rcases applyKeys_cons entries key keys configuration with ⟨passes, changed, get, same⟩ | ⟨fault, broken, same⟩
    · have later := ih changed
      have first : reached entries (key :: keys) = key :: reached entries keys := by
        simp [reached, passes]
      rw [same]
      refine ⟨?_, ?_, fun other => ?_⟩
      · rw [later.fault, List.findSome?_cons, passes]
      · rw [later.log, first, List.filterMap_cons]
        cases (outcome entries key).refused? <;> rfl
      · rw [later.get, first, get]
        by_cases here : other = key
        · subst here
          cases (outcome entries other).change? <;> simp
        · simp [here]
    · have none_reached : reached entries (key :: keys) = [] := by
        simp [reached, broken]
      rw [same]
      refine ⟨?_, ?_, fun other => ?_⟩
      · rw [List.findSome?_cons, broken]
      · rw [none_reached]
        rfl
      · rw [none_reached, if_neg List.not_mem_nil]

/-! Numbers out of bounds. -/

/-- A setting has no such value: a whole number without end, or a number of double precision that is too large. -/
def Kind.Exceeds : Kind → Data α → Prop
  | .integer, value => ∃ negative, value = .number (.infinite negative)
  | .number, value => ∃ n : Int, value = .integer n ∧ Decimal.Binary64.overflowBound ≤ n.natAbs
  | .text, _ => False

/-- What a reading that may give nothing tells of its value never is out of bounds. -/
theorem unsuitable_of_getD {β : Type} {read : Option β}
    (fails : (read.map .ok).getD (.error .unsuitable) = Except.error fault) : fault = .unsuitable := by
  cases read with
  | none => exact (Except.error.inj fails).symm
  | some value => cases fails

theorem toInteger_error_iff (severe : fault ≠ .unsuitable) :
    toInteger value = .error fault ↔ fault = .infinite ∧ ∃ negative, value = .number (.infinite negative) := by
  constructor
  · intro fails
    cases value with
    | number value =>
      cases value with
      | infinite negative => exact ⟨(Except.error.inj fails).symm, negative, rfl⟩
      | finite => cases fails
      | nan => exact absurd (Except.error.inj fails).symm severe
    | text | object => exact absurd (unsuitable_of_getD fails) severe
    | boolean value => cases fails
    | integer value => cases fails
    | null | moment _ | sequence _ | mapping _ => exact absurd (Except.error.inj fails).symm severe
  · rintro ⟨rfl, negative, rfl⟩
    rfl

theorem toNumber_error_iff (severe : fault ≠ .unsuitable) :
    toNumber value = .error fault ↔ fault = .tooLarge ∧
      ∃ n : Int, value = .integer n ∧ Decimal.Binary64.overflowBound ≤ n.natAbs := by
  constructor
  · intro fails
    cases value with
    | integer n =>
      rw [toNumber] at fails
      split at fails
      · rename_i sign infinite
        exact ⟨(Except.error.inj fails).symm, n, rfl, Decimal.Binary64.ofRatio_infinite_iff.mp ⟨sign, infinite⟩⟩
      · cases fails
    | text | object => exact absurd (unsuitable_of_getD fails) severe
    | boolean value => cases fails
    | number value => cases fails
    | null | moment _ | sequence _ | mapping _ => exact absurd (Except.error.inj fails).symm severe
  · rintro ⟨rfl, n, rfl, large⟩
    obtain ⟨sign, infinite⟩ := (@Decimal.Binary64.ofRatio_infinite_iff n.natAbs (n < 0)).mpr large
    rw [toNumber, Decimal.Binary64.ofInt, infinite]

theorem toText_error (fails : toText value = .error fault) : fault = .unsuitable := by
  cases value with
  | text | moment => cases fails
  | _ =>
    simp only [toText] at fails
    split at fails
    · cases fails
    · exact (Except.error.inj fails).symm

theorem exceeds_iff {kind : Kind} :
    kind.Exceeds value ↔ ∃ fault, kind.convert value = .error fault ∧ fault ≠ .unsuitable := by
  cases kind with
  | integer =>
    constructor
    · rintro ⟨negative, rfl⟩
      exact ⟨.infinite, rfl, nofun⟩
    · rintro ⟨fault, fails, severe⟩
      exact ((toInteger_error_iff severe).mp (map_eq_error_iff.mp fails)).2
  | number =>
    constructor
    · intro large
      have fails : toNumber value = .error .tooLarge := (toNumber_error_iff (by decide)).mpr ⟨rfl, large⟩
      exact ⟨.tooLarge, by rw [Kind.convert, fails]; rfl, nofun⟩
    · rintro ⟨fault, fails, severe⟩
      exact ((toNumber_error_iff severe).mp (map_eq_error_iff.mp fails)).2
  | text => exact iff_of_false id fun ⟨fault, fails, severe⟩ => severe (toText_error (map_eq_error_iff.mp fails))

omit [Object α] in
theorem not_exceeds_null {kind : Kind} : ¬ kind.Exceeds (.null : Data α) := by
  cases kind with
  | integer => exact nofun
  | number => exact nofun
  | text => exact id

theorem fault?_outcome : (∃ fault, (outcome entries key).fault? = some fault) ↔
    ∃ value ∈ Data.entry? key.name entries, key.kind.Exceeds value := by
  rcases silent_or_entry entries key with silent | ⟨value, found, told⟩
  · rw [outcome_of_silent silent]
    refine iff_of_false nofun ?_
    rintro ⟨value, found, exceeds⟩
    rw [silent value found] at exceeds
    exact not_exceeds_null exceeds
  · have only : (∃ value ∈ Data.entry? key.name entries, key.kind.Exceeds value) ↔ key.kind.Exceeds value := by
      simp [found]
    rw [outcome_of_entry found told, only, exceeds_iff]
    cases key.kind.convert value with
    | ok converted => exact iff_of_false nofun nofun
    | error fault =>
      cases fault with
      | unsuitable => exact iff_of_false nofun fun ⟨_, same, severe⟩ => severe (Except.error.inj same).symm
      | infinite => exact iff_of_true ⟨_, rfl⟩ ⟨_, rfl, nofun⟩
      | tooLarge => exact iff_of_true ⟨_, rfl⟩ ⟨_, rfl, nofun⟩

/-- What a document says of the settings is within bounds. -/
def WithinBounds (entries : List (Data α × Data α)) : Prop :=
  ∀ key : Key, ∀ value ∈ Data.entry? key.name entries, ¬ key.kind.Exceeds value

theorem WithinBounds.fault? (within : WithinBounds entries) (key : Key) : (outcome entries key).fault? = none :=
  Option.eq_none_iff_forall_ne_some.mpr fun _ broken =>
    have ⟨value, found, exceeds⟩ := fault?_outcome.mp ⟨_, broken⟩
    within key value found exceeds

theorem WithinBounds.reached (within : WithinBounds entries) (keys : List Key) :
    Configuration.reached entries keys = keys :=
  List.takeWhile_eq_self_iff.mpr fun key _ => by rw [within.fault?, Option.isNone_none]

theorem mem_all (key : Key) : key ∈ Key.all := by
  cases key <;> decide

theorem exists_fault_of_not_withinBounds (beyond : ¬ WithinBounds entries) :
    ∃ fault, (Key.all.findSome? fun key => (outcome entries key).fault?) = some fault := by
  obtain ⟨key, value, found, exceeds⟩ :
      ∃ key : Key, ∃ value ∈ Data.entry? key.name entries, key.kind.Exceeds value := by
    simpa [WithinBounds] using beyond
  obtain ⟨fault, broken⟩ := fault?_outcome.mpr ⟨value, found, exceeds⟩
  have found : (outcome entries key).fault?.isSome := by rw [broken, Option.isSome_some]
  exact Option.isSome_iff_exists.mp (List.findSome?_isSome_iff.mpr ⟨key, mem_all key, found⟩)

end MavenResolution.Configuration
