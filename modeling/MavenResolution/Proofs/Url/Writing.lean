import MavenResolution.Proofs.Url.User

/-! URLs that are put together again. Who looks for the query behind the question mark finds it; who looks
for the authority behind the first two slashes finds the URL's own, or one that stands in the path or the
fragment of a URL without authority. -/
namespace MavenResolution.Url

open Text

variable {rules : Rules} {text front rest : List Char} {url : Url} {mark c : Char}

/-- What follows the first two slashes of a text. -/
def behindSlashes : List Char → Option (List Char)
  | '/' :: '/' :: rest => some rest
  | _ :: rest => behindSlashes rest
  | [] => none

/-- The text up to where an authority ends. -/
def authorityStart (text : List Char) : List Char := text.takeWhile (!isAuthorityEnd ·)

/-- What stands in a text where a URL has its authority. -/
def authorityOf (text : List Char) : List Char := authorityStart ((behindSlashes text).getD [])

/-- What stands in a text where a URL has its query. -/
def queryOf (text : List Char) : List Char := (cutAt '?' (cutAt '#' text).1).2

/-! Slashes. -/

theorem behindSlashes_cons (apart : c = '/' → ∀ d ∈ rest.head?, d ≠ '/') :
    behindSlashes (c :: rest) = behindSlashes rest := by
  rw [behindSlashes.eq_def]
  split
  · rename_i same
    obtain ⟨rfl, rfl⟩ := List.cons.inj same
    exact absurd rfl (apart rfl '/' rfl)
  · rename_i same
    obtain ⟨rfl, rfl⟩ := List.cons.inj same
    rfl
  · rename_i same
    cases same

theorem behindSlashes_append_of_not_mem (closed : '/' ∉ front) (rest : List Char) :
    behindSlashes (front ++ rest) = behindSlashes rest := by
  induction front with
  | nil => rfl
  | cons c front ih =>
    rw [List.mem_cons, not_or] at closed
    rw [List.cons_append, behindSlashes_cons fun same => absurd same (Ne.symm closed.1), ih closed.2]

/-- No two slashes reach over a mark of another kind. -/
theorem behindSlashes_append (front : List Char) (apart : ∀ c ∈ rest.head?, c ≠ '/') :
    behindSlashes (front ++ rest) = ((behindSlashes front).map (· ++ rest)).or (behindSlashes rest) := by
  fun_induction behindSlashes front with
  | case1 tail => rfl
  | case2 c tail single ih =>
    rw [List.cons_append, behindSlashes_cons, ih]
    rintro rfl d head rfl
    cases tail with
    | nil => exact apart '/' head rfl
    | cons e tail =>
      obtain rfl : e = '/' := by simpa using head
      exact single tail rfl rfl
  | case3 => rfl

/-! Starts of authorities. -/

/-- No authority reaches over a mark that ends it. -/
theorem authorityStart_append (front : List Char) (ended : ∀ c ∈ rest.head?, isAuthorityEnd c = true) :
    authorityStart (front ++ rest) = authorityStart front := by
  induction front with
  | nil =>
    cases rest with
    | nil => rfl
    | cons c rest => simp [authorityStart, ended c rfl]
  | cons c front ih =>
    unfold authorityStart at ih ⊢
    rw [List.cons_append, List.takeWhile_cons, List.takeWhile_cons, ih]

theorem authorityStart_of_closed (closed : ∀ c ∈ text, isAuthorityEnd c = false) : authorityStart text = text :=
  List.takeWhile_eq_self_iff.mpr fun c member => by simp [closed c member]

/-! Parts of URLs. -/

theorem cutAt_append (unmarked : mark ∉ front) (marked : ∀ c ∈ rest.head?, c = mark) :
    cutAt mark (front ++ rest) = (front, rest.drop 1) := by
  have passed : ∀ c ∈ front, (c == mark) = false := by
    intro c member
    rw [beq_eq_false_iff_ne]
    rintro rfl
    exact unmarked member
  rw [cutAt, before_append passed fun c head => by simp [marked c head]]

theorem mem_cutAt_fst (member : c ∈ (cutAt mark text).1) : c ∈ text ∧ c ≠ mark := by
  rw [cutAt, before, List.span_eq_takeWhile_dropWhile] at member
  exact ⟨(List.takeWhile_prefix _).subset member, by simpa using List.mem_takeWhile_imp member⟩

theorem mem_of_mem_cutAt_snd (member : c ∈ (cutAt mark text).2) : c ∈ text := by
  rw [cutAt, before, List.span_eq_takeWhile_dropWhile] at member
  exact (List.dropWhile_suffix _).subset (List.mem_of_mem_drop member)

/-- No part holds a mark that ends it. -/
structure Parted (url : Url) : Prop where
  scheme : ∀ c ∈ url.scheme, isSchemeChar c = true
  authority : ∀ c ∈ url.authority, isAuthorityEnd c = false
  path : ∀ c ∈ url.path, c ≠ '?' ∧ c ≠ '#'
  query : ∀ c ∈ url.query, c ≠ '#'

theorem isSchemeChar_toLower (named : isSchemeChar c = true) : c.toNat < 128 ∧ isSchemeChar c.toLower = true := by
  have ascii : c.toNat < 128 := by
    simp only [isSchemeChar, Char.isAlphanum, Bool.or_eq_true, beq_iff_eq] at named
    rcases named with (((letter | digit) | rfl) | rfl) | rfl
    · rw [isAlpha_iff_toNat] at letter
      omega
    · rw [isDigit_iff_toNat] at digit
      omega
    all_goals decide
  have each : ∀ code < 128, isSchemeChar (Char.ofNat code) = true →
      isSchemeChar (Char.ofNat code).toLower = true := by
    decide +kernel
  exact ⟨ascii, by simpa [named] using each c.toNat ascii⟩

theorem isSchemeChar_of_cutScheme (member : c ∈ (cutScheme text).1) : isSchemeChar c = true := by
  unfold cutScheme at member
  split at member
  · rename_i letter name rest _
    split at member
    · rename_i named
      have inside : ∀ d ∈ letter :: name, isSchemeChar d = true := by
        rw [Bool.and_eq_true, List.all_eq_true] at named
        refine List.forall_mem_cons.mpr ⟨?_, named.2⟩
        have alphabetic : letter.isAlpha = true := named.1
        simp [isSchemeChar, Char.isAlphanum, alphabetic]
      rw [lowercase_of_ascii fun d member => (isSchemeChar_toLower (inside d member)).1] at member
      obtain ⟨d, within, rfl⟩ := List.mem_map.mp member
      exact (isSchemeChar_toLower (inside d within)).2
    · cases member
  · cases member

theorem isAuthorityEnd_of_cutAuthority (member : c ∈ (cutAuthority text).1) : isAuthorityEnd c = false := by
  unfold cutAuthority at member
  split at member
  · rw [before, List.span_eq_takeWhile_dropWhile] at member
    simpa using List.mem_takeWhile_imp member
  · cases member

theorem parted_of_ofChars? (cut : ofChars? text rules = some url) : Parted url := by
  unfold ofChars? at cut
  dsimp only at cut
  split at cut
  · obtain rfl := Option.some_inj.mp cut
    exact
      { scheme := fun c member => isSchemeChar_of_cutScheme member
        authority := fun c member => isAuthorityEnd_of_cutAuthority member
        path := fun c member =>
          ⟨(mem_cutAt_fst member).2, (mem_cutAt_fst (mem_cutAt_fst member).1).2⟩
        query := fun c member => (mem_cutAt_fst (mem_of_mem_cutAt_snd member)).2 }
  · cases cut

/-! URLs put together. -/

theorem mem_head?_append (head : c ∈ (front ++ rest).head?) : c ∈ front.head? ∨ c ∈ rest.head? := by
  cases front with
  | nil => exact .inr head
  | cons => exact .inl head

/-- A part behind its mark, if there is one. -/
def marked (mark : Char) (part : List Char) : List Char := if part.isEmpty then [] else mark :: part

theorem head?_marked (mark : Char) (part : List Char) : ∀ c ∈ (marked mark part).head?, c = mark := by
  cases part <;> simp [marked]

theorem drop_marked (mark : Char) (part : List Char) : (marked mark part).drop 1 = part := by
  cases part <;> rfl

theorem mem_marked {part : List Char} (member : c ∈ marked mark part) : c = mark ∨ c ∈ part := by
  unfold marked at member
  split at member
  · cases member
  · exact List.mem_cons.mp member

theorem behindSlashes_marked {mark : Char} (other : mark ≠ '/') (part : List Char) :
    behindSlashes (marked mark part) = behindSlashes part := by
  cases part with
  | nil => rfl
  | cons c part => exact behindSlashes_cons fun same => absurd same other

/-- What is written in front of the path. -/
def opening (url : Url) : List Char := if url.scheme.isEmpty then [] else url.scheme ++ [':']

/-- Path and authority as they are written. -/
def location (url : Url) (rules : Rules) : List Char :=
  if url.hasAuthority rules then '/' :: '/' :: url.authority ++ rooted url.path else url.path

theorem toChars_eq (url : Url) (rules : Rules) :
    url.toChars rules = url.opening ++ (url.location rules ++ (marked '?' url.query ++ marked '#' url.fragment)) := by
  simp only [toChars, opening, location, marked, List.append_assoc]

/-- Query and fragment stand behind the marks that end an authority. -/
theorem head?_ending (url : Url) : ∀ c ∈ (marked '?' url.query ++ marked '#' url.fragment).head?,
    isAuthorityEnd c = true ∧ c ≠ '/' := by
  intro c head
  rcases mem_head?_append head with query | fragment
  · rw [head?_marked _ _ c query]
    decide
  · rw [head?_marked _ _ c fragment]
    decide

theorem rooted_eq (path : List Char) : rooted path = path ∨ rooted path = '/' :: path := by
  unfold rooted
  split
  · exact .inl rfl
  · exact .inl rfl
  · exact .inr rfl

theorem head?_rooted (path : List Char) : ∀ c ∈ (rooted path).head?, c = '/' := by
  unfold rooted
  split <;> simp

section

variable (parted : Parted url)

include parted

theorem mem_opening (member : c ∈ url.opening) : isAuthorityEnd c = false := by
  unfold opening at member
  split at member
  · cases member
  · rcases List.mem_append.mp member with scheme | colon
    · have named := parted.scheme c scheme
      simp [isAuthorityEnd, isSchemeChar_ne (d := '/') named (by decide), isSchemeChar_ne (d := '?') named (by decide),
        isSchemeChar_ne (d := '#') named (by decide)]
    · rw [List.mem_singleton.mp colon]
      rfl

theorem mem_location (member : c ∈ url.location rules) : c ≠ '?' ∧ c ≠ '#' := by
  have slash : '/' ≠ '?' ∧ '/' ≠ '#' := by decide
  unfold location at member
  split at member
  · simp only [List.cons_append, List.mem_cons, List.mem_append] at member
    rcases member with rfl | rfl | authority | path
    · exact slash
    · exact slash
    · have inside := parted.authority c authority
      constructor <;> rintro rfl <;> cases inside
    · rcases rooted_eq url.path with same | same
      · exact parted.path c (same ▸ path)
      · rw [same] at path
        rcases List.mem_cons.mp path with rfl | path
        · exact slash
        · exact parted.path c path
  · exact parted.path c member

theorem mem_front (member : c ∈ url.opening ++ url.location rules) : c ≠ '?' ∧ c ≠ '#' := by
  rcases List.mem_append.mp member with opening | location
  · have inside := mem_opening parted opening
    constructor <;> rintro rfl <;> cases inside
  · exact mem_location parted location

/-- The query that is read is the one that was written. -/
theorem queryOf_toChars : queryOf (url.toChars rules) = url.query := by
  have unmarked : '#' ∉ url.opening ++ url.location rules ++ marked '?' url.query := by
    intro member
    rcases List.mem_append.mp member with front | query
    · exact (mem_front parted front).2 rfl
    · rcases mem_marked query with mark | query
      · cases mark
      · exact parted.query '#' query rfl
  have unasked : '?' ∉ url.opening ++ url.location rules := fun member => (mem_front parted member).1 rfl
  rw [toChars_eq, ← List.append_assoc, ← List.append_assoc, queryOf, cutAt_append unmarked (head?_marked _ _),
    cutAt_append unasked (head?_marked _ _), drop_marked]

theorem authorityOf_toChars (present : url.hasAuthority rules = true) :
    authorityOf (url.toChars rules) = url.authority := by
  have closed : '/' ∉ url.opening := fun member => by cases mem_opening parted member
  have ended : ∀ c ∈ (rooted url.path ++ (marked '?' url.query ++ marked '#' url.fragment)).head?,
      isAuthorityEnd c = true := by
    intro c head
    rcases mem_head?_append head with path | ending
    · rw [head?_rooted _ c path]
      rfl
    · exact (head?_ending url c ending).1
  rw [authorityOf, toChars_eq, behindSlashes_append_of_not_mem closed, location, if_pos present]
  simp only [List.cons_append, List.append_assoc, behindSlashes, Option.getD_some]
  rw [authorityStart_append _ ended, authorityStart_of_closed parted.authority]

/-- Without authority the first two slashes are the path's or the fragment's. -/
theorem authorityOf_toChars_of_absent (absent : url.hasAuthority rules = false) (unslashed : '/' ∉ url.query) :
    authorityOf (url.toChars rules) =
      authorityStart (((behindSlashes url.path).or (behindSlashes url.fragment)).getD []) := by
  have closed : '/' ∉ url.opening := fun member => by cases mem_opening parted member
  have tail : behindSlashes (marked '?' url.query ++ marked '#' url.fragment) = behindSlashes url.fragment := by
    have apart : '/' ∉ marked '?' url.query := by
      intro member
      rcases mem_marked member with mark | query
      · cases mark
      · exact unslashed query
    rw [behindSlashes_append_of_not_mem apart, behindSlashes_marked (by decide)]
  have ended := head?_ending url
  rw [authorityOf, toChars_eq, behindSlashes_append_of_not_mem closed, location, absent, if_neg Bool.false_ne_true,
    behindSlashes_append _ fun c head => (ended c head).2, tail]
  cases behindSlashes url.path with
  | none => rfl
  | some start => exact authorityStart_append start fun c head => (ended c head).1

end

end MavenResolution.Url
