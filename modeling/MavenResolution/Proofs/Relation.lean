import Mathlib.Data.List.Forall2

/-! Relations between the data of two runs: from relations between parts to relations between wholes, and
what is found by alike keys. -/
namespace MavenResolution

variable {α β γ δ : Type}

/-- Equal keys on one side stand for equal keys on the other. -/
def OneToOne (keys : α → α → Prop) : Prop :=
  ∀ ⦃key key' other other'⦄, keys key key' → keys other other' → (key = other ↔ key' = other')

/-- Both fail, or both succeed, with results that are related. -/
inductive ExceptRel (errors : α → β → Prop) (values : γ → δ → Prop) :
    Except α γ → Except β δ → Prop
  | error {fault : α} {fault' : β} (related : errors fault fault') :
      ExceptRel errors values (.error fault) (.error fault')
  | ok {value : γ} {value' : δ} (related : values value value') :
      ExceptRel errors values (.ok value) (.ok value')

/-- Both parts of the pairs are related. -/
def PairRel (first : α → β → Prop) (second : γ → δ → Prop) (pair : α × γ) (pair' : β × δ) : Prop :=
  first pair.1 pair'.1 ∧ second pair.2 pair'.2

theorem option_rel_eq_iff {first second : Option α} : Option.Rel Eq first second ↔ first = second := by
  constructor
  · intro related
    cases related with
    | none => rfl
    | some same => rw [same]
  · rintro rfl
    cases first with
    | none => exact .none
    | some value => exact .some rfl

section

variable {relates : α → β → Prop} {first : Option α} {second : Option β}
  (related : Option.Rel relates first second)

include related

theorem option_rel_bind {values : γ → δ → Prop} {f : α → Option γ} {g : β → Option δ}
    (next : ∀ a b, relates a b → Option.Rel values (f a) (g b)) :
    Option.Rel values (first >>= f) (second >>= g) := by
  cases related with
  | none => exact .none
  | some alike => exact next _ _ alike

theorem option_rel_map {values : γ → δ → Prop} {f : α → γ} {g : β → δ}
    (next : ∀ a b, relates a b → values (f a) (g b)) :
    Option.Rel values (first.map f) (second.map g) := by
  cases related with
  | none => exact .none
  | some alike => exact .some (next _ _ alike)

theorem option_rel_orElse {other : Option α} {other' : Option β}
    (others : Option.Rel relates other other') :
    Option.Rel relates (first <|> other) (second <|> other') := by
  cases related with
  | none => exact others
  | some alike => exact .some alike

end

theorem exceptRel_eq_iff {first second : Except α γ} : ExceptRel Eq Eq first second ↔ first = second := by
  constructor
  · intro related
    cases related with
    | error same => rw [same]
    | ok same => rw [same]
  · rintro rfl
    cases first with
    | error fault => exact .error rfl
    | ok value => exact .ok rfl

theorem exceptRel_map {errors : α → β → Prop} {before : γ → δ → Prop} {ε ζ : Type} {after : ε → ζ → Prop}
    {first : Except α γ} {second : Except β δ} {f : γ → ε} {g : δ → ζ}
    (related : ExceptRel errors before first second)
    (next : ∀ a b, before a b → after (f a) (g b)) : ExceptRel errors after (f <$> first) (g <$> second) := by
  cases related with
  | error alike => exact .error alike
  | ok alike => exact .ok (next _ _ alike)

theorem exceptRel_imp {errors : α → β → Prop} {before after : γ → δ → Prop} {first : Except α γ}
    {second : Except β δ} (related : ExceptRel errors before first second)
    (weaker : ∀ a b, before a b → after a b) : ExceptRel errors after first second := by
  simpa only [id_map] using exceptRel_map (f := id) (g := id) related weaker

namespace OneToOne

theorem eq : OneToOne (Eq : α → α → Prop) := by
  rintro key _ other _ rfl rfl
  rfl

variable {keys : α → α → Prop} (oneToOne : OneToOne keys)

include oneToOne

theorem beq_eq [BEq α] [LawfulBEq α] {key key' other other' : α} (alike : keys key key')
    (others : keys other other') : (key == other) = (key' == other') := by
  rw [Bool.eq_iff_iff, beq_iff_eq, beq_iff_eq]
  exact oneToOne alike others

theorem option : OneToOne (Option.Rel keys) := by
  intro first first' other other' alike others
  cases alike with
  | none => cases others <;> simp
  | some related =>
    cases others with
    | none => simp
    | some relatedOthers => simpa using oneToOne related relatedOthers

theorem pair {second : β → β → Prop} (seconds : OneToOne second) : OneToOne (PairRel keys second) := by
  rintro ⟨key, value⟩ ⟨key', value'⟩ ⟨other, otherValue⟩ ⟨other', otherValue'⟩ ⟨alike, values⟩
    ⟨others, otherValues⟩
  rw [Prod.mk.injEq, Prod.mk.injEq, oneToOne alike others, seconds values otherValues]

end OneToOne

/-- The first hits among related elements are related, if related elements are hits alike. -/
theorem find?_rel {relates : α → β → Prop} {p : α → Bool} {q : β → Bool} {list : List α}
    {list' : List β} (same : ∀ a b, relates a b → p a = q b) (alike : List.Forall₂ relates list list') :
    Option.Rel relates (list.find? p) (list'.find? q) := by
  induction alike with
  | nil => exact .none
  | @cons a b _ _ first _ ih =>
    rw [List.find?_cons, List.find?_cons, same a b first]
    cases q b with
    | true => exact .some first
    | false => exact ih

theorem lookup_rel {keys : α → α → Prop} {values : β → γ → Prop} [BEq α] [LawfulBEq α]
    (oneToOne : OneToOne keys) {entries : List (α × β)} {entries' : List (α × γ)}
    (alike : List.Forall₂ (PairRel keys values) entries entries') {key key' : α} (asked : keys key key') :
    Option.Rel values (entries.lookup key) (entries'.lookup key') := by
  induction alike with
  | nil => exact .none
  | @cons entry entry' _ _ first _ ih =>
    rw [List.lookup_cons, List.lookup_cons, oneToOne.beq_eq asked first.1]
    cases key' == entry'.1 with
    | true => exact .some first.2
    | false => exact ih

end MavenResolution
