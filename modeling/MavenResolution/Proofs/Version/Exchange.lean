import MavenResolution.Proofs.Relation
import MavenResolution.Version.Basic

/-! The end of a sequence of lexemes exchanged for another one. What stands in front reaches the items only
through what it puts before them and around them, so that a relation which outlasts both holds between the
items of the whole sequences if it holds between those of the ends. -/
namespace MavenResolution.Version

open Text

variable {lexeme : Lexeme} {old new rest : List Lexeme} {related : List Item → List Item → Prop}

/-! One item, and what stands behind it. -/

/-- The lexemes begin with a run, so that one in front of them borders on it. -/
def startsRun : List Lexeme → Bool
  | .digits _ :: _ | .word _ :: _ => true
  | _ => false

/-- The items behind one whose lexeme stands in front of the given ones: in the same list behind a dot, in a
nested one behind a hyphen or a border. -/
def itemsBehind : List Lexeme → Except NumeralError (List Item)
  | [] => .ok []
  | .dot :: rest => itemsOf rest
  | .hyphen :: rest => enclose <$> itemsOf rest
  | .digits run :: rest => enclose <$> itemsOf (.digits run :: rest)
  | .word run :: rest => enclose <$> itemsOf (.word run :: rest)

theorem itemsBehind_of_startsRun (starts : startsRun rest = true) :
    itemsBehind rest = enclose <$> itemsOf rest := by
  match rest with
  | .digits _ :: _ | .word _ :: _ => rfl
  | [] | .dot :: _ | .hyphen :: _ => cases starts

theorem itemsOf_dot (rest : List Lexeme) :
    itemsOf (.dot :: rest) = prepend (.number 0) <$> itemsBehind (.dot :: rest) := by
  rw [itemsOf, itemsBehind, map_eq_pure_bind]

theorem itemsOf_hyphen (rest : List Lexeme) :
    itemsOf (.hyphen :: rest) = prepend (.number 0) <$> itemsBehind (.hyphen :: rest) := by
  rw [itemsOf, itemsBehind, Functor.map_map, map_eq_pure_bind]

theorem itemsOf_digits (run : List Char) (rest : List Lexeme) : itemsOf (.digits run :: rest) =
    readNumeral run >>= fun value => prepend (.number value) <$> itemsBehind rest := by
  match rest with
  | [] => rfl
  | .dot :: _ | .hyphen :: _ | .digits _ :: _ | .word _ :: _ =>
    simp only [itemsOf, itemsBehind, map_eq_pure_bind, bind_assoc, pure_bind]

theorem itemsOf_word (run : List Char) (rest : List Lexeme) : itemsOf (.word run :: rest) =
    prepend (.qualifier (qualifierOf run (startsRun rest))) <$> itemsBehind rest := by
  match rest with
  | [] => rfl
  | .dot :: _ | .hyphen :: _ | .digits _ :: _ | .word _ :: _ =>
    simp only [itemsOf, itemsBehind, startsRun, map_eq_pure_bind, bind_assoc, pure_bind]

/-! One end for another. -/

/-- Lists that are related stay so with an item put in front of both, and nested in others. -/
structure Outlasting (related : List Item → List Item → Prop) : Prop where
  prepend : ∀ item {left right}, related left right → related (prepend item left) (prepend item right)
  enclose : ∀ {left right}, related left right → related (enclose left) (enclose right)

/-- Neither can be read, or the items of both are related, whether they begin a list or stand behind an item. -/
structure Exchange (related : List Item → List Item → Prop) (old new : List Lexeme) : Prop where
  items : ExceptRel Eq related (itemsOf old) (itemsOf new)
  behind : ExceptRel Eq related (itemsBehind old) (itemsBehind new)
  border : startsRun old = startsRun new

namespace Exchange

variable (outlasting : Outlasting related)

include outlasting

/-- Of ends that begin with runs the items say everything. -/
theorem of_startsRun (startsOld : startsRun old = true) (startsNew : startsRun new = true)
    (items : ExceptRel Eq related (itemsOf old) (itemsOf new)) : Exchange related old new := by
  refine ⟨items, ?_, startsOld.trans startsNew.symm⟩
  rw [itemsBehind_of_startsRun startsOld, itemsBehind_of_startsRun startsNew]
  exact exceptRel_map items fun _ _ => outlasting.enclose

theorem cons (exchange : Exchange related old new) (lexeme : Lexeme) :
    Exchange related (lexeme :: old) (lexeme :: new) := by
  have prepended (item : Item) {left right : Except NumeralError (List Item)}
      (alike : ExceptRel Eq related left right) :
      ExceptRel Eq related (Version.prepend item <$> left) (Version.prepend item <$> right) :=
    exceptRel_map alike fun _ _ => outlasting.prepend item
  cases lexeme with
  | dot =>
    refine ⟨?_, exchange.items, rfl⟩
    rw [itemsOf_dot, itemsOf_dot]
    exact prepended _ exchange.items
  | hyphen =>
    have enclosed := exceptRel_map exchange.items fun _ _ => outlasting.enclose
    refine ⟨?_, enclosed, rfl⟩
    rw [itemsOf_hyphen, itemsOf_hyphen]
    exact prepended _ enclosed
  | digits run =>
    refine of_startsRun outlasting rfl rfl ?_
    rw [itemsOf_digits, itemsOf_digits]
    cases readNumeral run with
    | error fault => exact .error rfl
    | ok value => exact prepended _ exchange.behind
  | word run =>
    refine of_startsRun outlasting rfl rfl ?_
    rw [itemsOf_word, itemsOf_word, exchange.border]
    exact prepended _ exchange.behind

/-- The ends may be exchanged behind any lexemes. -/
theorem append (exchange : Exchange related old new) (front : List Lexeme) :
    Exchange related (front ++ old) (front ++ new) := by
  induction front with
  | nil => exact exchange
  | cons lexeme _ ih => exact ih.cons outlasting lexeme

end Exchange

theorem outlasting_eq : Outlasting Eq := ⟨fun item _ _ => congrArg (prepend item), congrArg enclose⟩

/-- Ends that stand for the same items make no difference. -/
theorem Exchange.itemsOf_append_eq (exchange : Exchange Eq old new) (front : List Lexeme) :
    itemsOf (front ++ old) = itemsOf (front ++ new) :=
  exceptRel_eq_iff.mp (exchange.append outlasting_eq front).items

end MavenResolution.Version
