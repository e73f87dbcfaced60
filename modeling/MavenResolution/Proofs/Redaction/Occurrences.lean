import MavenResolution.Proofs.Redaction.Masking

/-! Sensitive words wherever they stand in a text. A text falls into what is kept of it and the values that are
left out for the marker. Each word that is given a value either has that value left out, or stands in a value
that is. -/
namespace MavenResolution.Redaction

open Text

variable {word other name name' gap rest text : List Char} {listed listed' : String} {c : Char} {inWord : Bool}

/-! Sensitive words differ before either of them ends. -/

theorem exists_peer_of_mem_zip (alike : List.Forall₂ (sameCaseless · ·) word name)
    (alike' : List.Forall₂ (sameCaseless · ·) other name') (same : name ++ gap = name' ++ rest) :
    ∀ pair ∈ word.zip other, ∃ small ∈ caselessPeers (lowerChar pair.1), small ∈ caselessPeers (lowerChar pair.2) := by
  induction alike generalizing other name' with
  | nil => nofun
  | cons first _ ih =>
    cases alike' with
    | nil => nofun
    | cons first' alike' =>
      rw [List.cons_append, List.cons_append, List.cons.injEq] at same
      obtain ⟨rfl, same⟩ := same
      intro pair member
      obtain rfl | later := List.mem_cons.mp member
      · exact ⟨_, List.contains_iff_mem.mp first, List.contains_iff_mem.mp first'⟩
      · exact ih alike' same pair later

/-- No text begins with two sensitive words. -/
theorem sensitive_unique (sensitive : listed ∈ sensitiveWords) (sensitive' : listed' ∈ sensitiveWords)
    (alike : List.Forall₂ (sameCaseless · ·) listed.toList name)
    (alike' : List.Forall₂ (sameCaseless · ·) listed'.toList name') (same : name ++ gap = name' ++ rest) :
    listed = listed' := by
  have apart : ∀ listed ∈ sensitiveWords, ∀ listed' ∈ sensitiveWords, listed = listed' ∨
      (listed.toList.zip listed'.toList).any (fun pair =>
        (caselessPeers (lowerChar pair.1)).all (!(caselessPeers (lowerChar pair.2)).contains ·)) = true := by
    decide +kernel
  obtain equal | differs := apart listed sensitive listed' sensitive'
  · exact equal
  · obtain ⟨pair, member, foreign⟩ := List.any_eq_true.mp differs
    obtain ⟨small, peer, peer'⟩ := exists_peer_of_mem_zip alike alike' same pair member
    have absent := List.all_eq_true.mp foreign small peer
    rw [List.contains_iff_mem.mpr peer'] at absent
    cases absent

theorem afterWord_append (sensitive : listed ∈ sensitiveWords)
    (alike : List.Forall₂ (sameCaseless · ·) listed.toList name) (rest : List Char) :
    afterWord (name ++ rest) = some rest := by
  have here : dropWord listed.toList (name ++ rest) = some rest := dropWord_eq_some.mpr ⟨name, alike, rfl⟩
  cases found : afterWord (name ++ rest) with
  | none =>
    have nowhere := List.findSome?_eq_none_iff.mp found listed sensitive
    rw [here] at nowhere
    cases nowhere
  | some left =>
    obtain ⟨listed', sensitive', name', alike', whole⟩ := exists_of_afterWord found
    obtain rfl := sensitive_unique sensitive sensitive' alike alike' whole
    have sizes : name.length = name'.length := alike.length_eq.symm.trans alike'.length_eq
    rw [(List.append_inj whole sizes).2]

/-! Words that are given values. -/

/-- A sensitive word where a word may start, a sign, and a value up to its last character. Blanks may stand around
the sign. -/
structure Occurrence (inWord : Bool) (text : List Char) where
  before : List Char
  word : List Char
  gap : List Char
  sign : Char
  space : List Char
  value : List Char
  behind : List Char
  whole : text = before ++ (word ++ (gap ++ sign :: space) ++ (value ++ behind))
  starts : endsInWord inWord before = false
  sensitive : ∃ listed ∈ sensitiveWords, List.Forall₂ (sameCaseless · ·) listed.toList word
  hollow : ∀ c ∈ gap, isBlank c = true
  signs : isSign sign = true
  hollowSpace : ∀ c ∈ space, isBlank c = true
  isValue : IsValue value behind

namespace Occurrence

/-- What stands in front of the value. -/
def front (occurrence : Occurrence inWord text) : List Char :=
  occurrence.word ++ (occurrence.gap ++ occurrence.sign :: occurrence.space)

variable (occurrence : Occurrence inWord text)

theorem word_ne_nil : occurrence.word ≠ [] := by
  obtain ⟨listed, sensitive, alike⟩ := occurrence.sensitive
  have filled : ∀ listed ∈ sensitiveWords, listed.toList ≠ [] := by decide +kernel
  intro empty
  rw [empty] at alike
  exact filled listed sensitive (List.forall₂_nil_right_iff.mp alike)

theorem isWord_of_mem (member : c ∈ occurrence.word) : isWord c = true := by
  obtain ⟨listed, sensitive, alike⟩ := occurrence.sensitive
  obtain ⟨w, inside, same⟩ := exists_of_mem_alike alike member
  exact isWord_of_sameCaseless sensitive inside same

theorem isValueChar_of_mem (member : c ∈ occurrence.word) : isValueChar c = true := by
  by_contra ends
  have outside := not_isWord_of_not_isValueChar (Bool.eq_false_iff.mpr ends)
  rw [occurrence.isWord_of_mem member] at outside
  cases outside

theorem announces : Announces occurrence.front := by
  obtain ⟨listed, sensitive, alike⟩ := occurrence.sensitive
  refine ⟨occurrence.word ++ occurrence.gap, occurrence.sign, occurrence.space, by simp [front],
    ⟨occurrence.gap, afterWord_append sensitive alike _, occurrence.hollow⟩, fun c member => ?_,
    occurrence.signs, occurrence.hollowSpace⟩
  by_contra sign
  have signs : isSign c = true := Bool.of_not_eq_false sign
  obtain inside | blank := List.mem_append.mp member
  · have outside := not_isWord_of_isSign signs
    rw [occurrence.isWord_of_mem inside] at outside
    cases outside
  · have solid := not_isBlank_of_isSign signs
    rw [occurrence.hollow c blank] at solid
    cases solid

theorem given : assignment? (occurrence.front ++ (occurrence.value ++ occurrence.behind)) =
    some ⟨occurrence.front.length, occurrence.value.length⟩ :=
  assignment?_append occurrence.announces occurrence.isValue

end Occurrence

theorem exists_occurrence {before front value : List Char} (starts : endsInWord inWord before = false)
    (announces : Announces front) (isValue : IsValue value rest)
    (whole : text = before ++ (front ++ (value ++ rest))) : ∃ occurrence : Occurrence inWord text,
      occurrence.before = before ∧ occurrence.front = front ∧ occurrence.value = value := by
  obtain ⟨lead, sign, space, rfl, ⟨gap, named, hollow⟩, -, signs, hollowSpace⟩ := announces
  obtain ⟨listed, sensitive, word, alike, rfl⟩ := exists_of_afterWord named
  rw [List.append_assoc word] at whole
  exact ⟨⟨before, word, gap, sign, space, value, rest, whole, starts, ⟨listed, sensitive, alike⟩, hollow, signs,
    hollowSpace, isValue⟩, rfl, (List.append_assoc ..).symm, rfl⟩

namespace Occurrence

/-- An occurrence, with more text in front of it. -/
def further (ahead : List Char) (occurrence : Occurrence (endsInWord inWord ahead) text) :
    Occurrence inWord (ahead ++ text) :=
  { occurrence with
    before := ahead ++ occurrence.before
    whole := by rw [List.append_assoc, ← occurrence.whole]
    starts := (endsInWord_append ..).trans occurrence.starts }

theorem exists_further {ahead before : List Char} (occurrence : Occurrence inWord (ahead ++ text))
    (behind : occurrence.before = ahead ++ before) :
    ∃ other : Occurrence (endsInWord inWord ahead) text, occurrence = other.further ahead := by
  obtain ⟨_, word, gap, sign, space, value, rest, whole, starts, sensitive, hollow, signs, hollowSpace, isValue⟩ :=
    occurrence
  subst behind
  rw [List.append_assoc] at whole
  rw [endsInWord_append] at starts
  exact ⟨⟨before, word, gap, sign, space, value, rest, List.append_cancel_left whole, starts, sensitive, hollow,
    signs, hollowSpace, isValue⟩, rfl⟩

variable (occurrence : Occurrence inWord text) {front value : List Char}

/-- None begins within what stands in front of a value. -/
theorem before_cases (announces : Announces front) (whole : text = front ++ rest) :
    occurrence.before = [] ∨ ∃ ahead, occurrence.before = front ++ ahead := by
  obtain ⟨ahead, same, -⟩ | ⟨more, rfl, within⟩ := List.append_eq_append_iff.mp (whole.symm.trans occurrence.whole)
  · exact .inr ⟨ahead, same⟩
  · cases more with
    | nil => exact .inr ⟨[], by simp⟩
    | cons c more =>
      refine .inl (by_contra fun filled => ?_)
      have inside : isWord c = true := by
        obtain ⟨first, others, letters⟩ := List.exists_cons_of_ne_nil occurrence.word_ne_nil
        rw [letters] at within
        obtain ⟨rfl, -⟩ := List.cons.inj within
        exact occurrence.isWord_of_mem (letters ▸ List.mem_cons_self)
      have late := announces.endsInWord_front filled inside inWord
      rw [occurrence.starts] at late
      cases late

/-- The one at the start of a text is what a value is left out for. -/
theorem eq_of_before_nil (announces : Announces front) (isValue : IsValue value rest)
    (whole : text = front ++ (value ++ rest)) (first : occurrence.before = []) :
    occurrence.front = front ∧ occurrence.value = value := by
  have own : front ++ (value ++ rest) = occurrence.front ++ (occurrence.value ++ occurrence.behind) := by
    have own := occurrence.whole
    rw [first] at own
    exact whole.symm.trans own
  have same : some (⟨_, _⟩ : Assignment) = some ⟨_, _⟩ :=
    (assignment?_append announces isValue).symm.trans ((congrArg assignment? own).trans occurrence.given)
  rw [Option.some_inj, Assignment.mk.injEq] at same
  obtain ⟨kept, hidden⟩ := same
  obtain ⟨frontSame, behind⟩ := List.append_inj own kept
  exact ⟨frontSame.symm, (List.append_inj behind hidden).1.symm⟩

/-- One that begins in a value has its word there, and its own value unless blanks stand around the sign. -/
theorem within_or_behind {ahead : List Char} (isValue : IsValue value rest)
    (whole : value ++ rest = ahead ++ (occurrence.front ++ (occurrence.value ++ occurrence.behind))) :
    (∃ back, value = ahead ++ (occurrence.word ++ back) ∧
      (occurrence.gap = [] → occurrence.space = [] → back = occurrence.sign :: occurrence.value)) ∨
    ∃ before, ahead = value ++ before := by
  obtain ⟨before, same, -⟩ | ⟨last, rfl, within⟩ := List.append_eq_append_iff.mp whole
  · exact .inr ⟨before, same⟩
  · cases last with
    | nil => exact .inr ⟨[], by simp⟩
    | cons c last =>
      have tailValue : IsValue (c :: last) rest :=
        ⟨List.cons_ne_nil _ _, fun d member => isValue.inside d (List.mem_append_right _ member), isValue.ended⟩
      -- The value goes on as long as it can, and no character of the word ends it.
      have taken := tailValue.takeWhile_eq
      rw [← within, Occurrence.front, List.append_assoc,
        List.takeWhile_append_of_pos fun d => occurrence.isValueChar_of_mem] at taken
      refine .inl ⟨_, congrArg (ahead ++ ·) taken.symm, fun gap space => ?_⟩
      have valued : isValueChar occurrence.sign = true := isValueChar_of_isSign occurrence.signs
      rw [gap, space, List.nil_append, List.cons_append, List.nil_append, List.takeWhile_cons, valued, if_pos rfl,
        occurrence.isValue.takeWhile_eq]

end Occurrence

/-! What is kept, and what is left out. -/

/-- A stretch of a text that is kept, or a value that the marker stands for. -/
inductive Piece where
  | kept (text : List Char)
  | hidden (value : List Char)

namespace Piece

def original : Piece → List Char
  | kept text => text
  | hidden value => value

def shown : Piece → List Char
  | kept text => text
  | hidden _ => marker

end Piece

namespace Occurrence

variable (occurrence : Occurrence inWord text) (pieces : List Piece)

/-- The pieces end where the value begins, and what stands in front of the value is kept. -/
def FrontKept : Prop :=
  ∃ earlier, pieces = earlier ++ [.kept occurrence.front] ∧ earlier.flatMap Piece.original = occurrence.before

/-- The word is kept and the marker stands for its value. -/
def Replaced : Prop :=
  ∃ earlier later, pieces = earlier ++ .hidden occurrence.value :: later ∧ occurrence.FrontKept earlier

/-- The word stands in a value that the marker stands for, and its own value with it, unless blanks stand around the
sign. -/
def Covered : Prop :=
  ∃ earlier ahead back later, pieces = earlier ++ .hidden (ahead ++ (occurrence.word ++ back)) :: later ∧
    earlier.flatMap Piece.original ++ ahead = occurrence.before ∧
      (occurrence.gap = [] → occurrence.space = [] → back = occurrence.sign :: occurrence.value)

variable {occurrence pieces} {ahead : List Char} {lead : List Piece}
  {inner : Occurrence (endsInWord inWord ahead) text}

theorem FrontKept.further (kept : inner.FrontKept pieces) (same : lead.flatMap Piece.original = ahead) :
    (inner.further ahead).FrontKept (lead ++ pieces) := by
  obtain ⟨earlier, rfl, place⟩ := kept
  refine ⟨lead ++ earlier, (List.append_assoc ..).symm, ?_⟩
  rw [List.flatMap_append, same, place]
  rfl

theorem Replaced.further (replaced : inner.Replaced pieces) (same : lead.flatMap Piece.original = ahead) :
    (inner.further ahead).Replaced (lead ++ pieces) := by
  obtain ⟨earlier, later, rfl, kept⟩ := replaced
  exact ⟨lead ++ earlier, later, (List.append_assoc ..).symm, kept.further same⟩

theorem Covered.further (covered : inner.Covered pieces) (same : lead.flatMap Piece.original = ahead) :
    (inner.further ahead).Covered (lead ++ pieces) := by
  obtain ⟨earlier, within, back, later, rfl, place, whole⟩ := covered
  refine ⟨lead ++ earlier, within, back, later, (List.append_assoc ..).symm, ?_, whole⟩
  rw [List.flatMap_append, same, List.append_assoc, place]
  rfl

end Occurrence

/-- The pieces of a text and of what is shown of it: what is left out is given to sensitive words, and all that is
given to them is left out, or the word is. -/
structure Cut (inWord : Bool) (text shown : List Char) (pieces : List Piece) : Prop where
  original : text = pieces.flatMap Piece.original
  shown : shown = pieces.flatMap Piece.shown
  given : ∀ earlier value later, pieces = earlier ++ .hidden value :: later →
    ∃ occurrence : Occurrence inWord text, occurrence.value = value ∧ occurrence.FrontKept earlier
  complete : ∀ occurrence : Occurrence inWord text, occurrence.Replaced pieces ∨ occurrence.Covered pieces

namespace Cut

variable {shown : List Char} {pieces : List Piece}

theorem nil : Cut inWord [] [] [] where
  original := rfl
  shown := rfl
  given _ _ _ empty := absurd empty.symm (by simp)
  complete occurrence := by
    have empty := congrArg List.length occurrence.whole
    simp at empty

/-- More text in front, whose pieces are known. -/
theorem further {ahead : List Char} {lead : List Piece} (cut : Cut (endsInWord inWord ahead) text shown pieces)
    (same : lead.flatMap Piece.original = ahead)
    (given : ∀ earlier value later, lead = earlier ++ .hidden value :: later →
      ∃ occurrence : Occurrence inWord (ahead ++ text), occurrence.value = value ∧ occurrence.FrontKept earlier)
    (complete : ∀ occurrence : Occurrence inWord (ahead ++ text),
      (∃ before, occurrence.before = ahead ++ before) ∨ occurrence.Replaced (lead ++ pieces) ∨
        occurrence.Covered (lead ++ pieces)) :
    Cut inWord (ahead ++ text) (lead.flatMap Piece.shown ++ shown) (lead ++ pieces) where
  original := by rw [List.flatMap_append, same, ← cut.original]
  shown := by rw [List.flatMap_append, ← cut.shown]
  given earlier value later whole := by
    obtain ⟨more, rfl, rest⟩ | ⟨more, rfl, rest⟩ := List.append_eq_append_iff.mp whole
    · obtain ⟨inner, sameValue, kept⟩ := cut.given more value later rest
      exact ⟨inner.further ahead, sameValue, kept.further same⟩
    · cases more with
      | nil =>
        obtain ⟨inner, sameValue, kept⟩ := cut.given [] value later rest.symm
        rw [← List.append_nil earlier]
        exact ⟨inner.further ahead, sameValue, kept.further (List.append_nil earlier ▸ same)⟩
      | cons piece more =>
        obtain ⟨rfl, rfl⟩ := List.cons.inj rest
        exact given earlier value more rfl
  complete occurrence := by
    obtain ⟨before, behind⟩ | here := complete occurrence
    · obtain ⟨inner, rfl⟩ := occurrence.exists_further behind
      exact (cut.complete inner).imp (·.further same) (·.further same)
    · exact here

theorem pass {c : Char} (cut : Cut (isWord c) text shown pieces)
    (free : inWord = false → assignment? (c :: text) = none) :
    Cut inWord (c :: text) (c :: shown) (.kept [c] :: pieces) := by
  have piece : [Piece.kept [c]].flatMap Piece.original = [c] := rfl
  have behind : Cut (endsInWord inWord [c]) text shown pieces := cut
  refine further behind piece ?_ fun occurrence => .inl ?_
  · intro earlier value later whole
    cases earlier <;> simp at whole
  · have whole := occurrence.whole
    cases first : occurrence.before with
    | nil =>
      have starts := occurrence.starts
      rw [first] at starts whole
      have given := (free starts).symm.trans ((congrArg assignment? whole).trans occurrence.given)
      cases given
    | cons d before =>
      rw [first] at whole
      obtain ⟨rfl, -⟩ := List.cons.inj whole
      exact ⟨before, rfl⟩

theorem mask {front value rest : List Char} (cut : Cut (endsInWord false value) rest shown pieces)
    (announces : Announces front) (isValue : IsValue value rest) :
    Cut false (front ++ (value ++ rest)) (front ++ (marker ++ shown)) (.kept front :: .hidden value :: pieces) := by
  have same : [Piece.kept front, .hidden value].flatMap Piece.original = front ++ value := by
    simp [Piece.original]
  have behind : Cut (endsInWord false (front ++ value)) rest shown pieces := by
    rwa [endsInWord_append, endsInWord_of_ne_nil isValue.filled _ false]
  have cut := further behind same ?_ ?_
  · simpa [Piece.shown] using cut
  · intro earlier hidden later whole
    cases earlier with
    | nil => cases whole
    | cons first earlier =>
      obtain ⟨rfl, same⟩ := List.cons.inj whole
      cases earlier with
      | nil =>
        cases same
        have starts : endsInWord false [] = false := rfl
        have whole : front ++ value ++ rest = [] ++ (front ++ (value ++ rest)) := List.append_assoc ..
        obtain ⟨occurrence, first, frontSame, valueSame⟩ := exists_occurrence starts announces isValue whole
        exact ⟨occurrence, valueSame, [], by rw [frontSame]; rfl, first.symm⟩
      | cons second earlier =>
        obtain ⟨-, nothing⟩ := List.cons.inj same
        exact absurd nothing (by simp)
  · intro occurrence
    have whole := List.append_assoc front value rest
    obtain first | ⟨ahead, first⟩ := occurrence.before_cases announces whole
    · obtain ⟨frontSame, valueSame⟩ := occurrence.eq_of_before_nil announces isValue whole first
      exact .inr (.inl ⟨[.kept front], pieces, by rw [valueSame]; rfl, [], by rw [frontSame]; rfl, first.symm⟩)
    · have own := whole.symm.trans occurrence.whole
      rw [first, List.append_assoc] at own
      obtain ⟨back, covered, ends⟩ | ⟨before, rfl⟩ := occurrence.within_or_behind isValue (List.append_cancel_left own)
      · refine .inr (.inr ⟨[.kept front], ahead, back, pieces, ?_, ?_, ends⟩)
        · rw [← covered]
          rfl
        · rw [first]
          simp [Piece.original]
      · exact .inl ⟨before, by rw [first, List.append_assoc]⟩

end Cut

theorem Masks.exists_cut {shown : List Char} (masks : Masks inWord text shown) :
    ∃ pieces, Cut inWord text shown pieces := by
  induction masks with
  | done => exact ⟨[], .nil⟩
  | pass free _ ih =>
    obtain ⟨pieces, cut⟩ := ih
    exact ⟨_, cut.pass free⟩
  | mask announces isValue _ ih =>
    obtain ⟨pieces, cut⟩ := ih
    exact ⟨_, cut.mask announces isValue⟩

theorem redactChars_redactChars (text : List Char) : redactChars (redactChars text) = redactChars text :=
  (masks_redactFrom false (redactChars text)).eq_of_spent (masks_redactFrom false text).spent

/-- A second pass changes nothing. What is shown of a text is the text but for values that sensitive words are
given, each with the marker in its place; and each sensitive word that is given a value has that value left out, or
stands in a value that is. -/
theorem redact_complete (text : String) :
    redact (redact text) = redact text ∧
    ∃ pieces : List Piece,
      text.toList = pieces.flatMap Piece.original ∧ (redact text).toList = pieces.flatMap Piece.shown ∧
      (∀ earlier value later, pieces = earlier ++ .hidden value :: later →
        ∃ occurrence : Occurrence false text.toList, occurrence.value = value ∧ occurrence.FrontKept earlier) ∧
      ∀ occurrence : Occurrence false text.toList, occurrence.Replaced pieces ∨ occurrence.Covered pieces := by
  constructor
  · simp only [redact, String.toList_ofList, redactChars_redactChars]
  · obtain ⟨pieces, cut⟩ := (masks_redactFrom false text.toList).exists_cut
    exact ⟨pieces, cut.original, String.toList_ofList.trans cut.shown, cut.given, cut.complete⟩

/-- Values that begin with a sensitive word: what the word is given goes with it unless a blank stands in between. -/
example : redact "key=token = abc, key: token=y" = "key=[REDACTED] = abc, key: [REDACTED]" := by decide +kernel

end MavenResolution.Redaction
