import Mathlib.Data.List.TakeDrop
import MavenResolution.Layout
import MavenResolution.Proofs.Text.Ascii
import MavenResolution.Redaction
import MavenResolution.Repository.Mirror

/-! User info in URLs. Two URLs that differ in the user info in front of the host are the same without it, and so
are the URLs of the files below them. -/
namespace MavenResolution

open Text

/-- Small letters hide no sign that is its own small letter. -/
theorem Text.mem_lowercase_of_mem {c : Char} (small : lowerChar c = c) (sigma : c ≠ 'Σ')
    (dotted : c ≠ 'İ') {text : List Char} (member : c ∈ text) : c ∈ lowercase text := by
  have memberAfter (before : List Char) : c ∈ lowercaseAfter before text := by
    induction text generalizing before with
    | nil => cases member
    | cons d rest ih =>
      rw [lowercaseAfter]
      rcases List.mem_cons.mp member with rfl | later
      · simp [small, sigma, dotted]
      · exact List.mem_append_right _ (ih later _)
  exact memberAfter []

namespace Url

/-- The text without what counts nowhere in a URL. -/
def kept (text : List Char) : List Char := text.filter (!isIgnored ·)

theorem mem_of_mem_kept {c : Char} {text : List Char} (member : c ∈ kept text) : c ∈ text :=
  (List.mem_filter.mp member).1

theorem kept_append (text rest : List Char) : kept (text ++ rest) = kept text ++ kept rest :=
  List.filter_append ..

theorem before_append {stop : Char → Bool} {front rest : List Char}
    (passed : ∀ c ∈ front, stop c = false) (stopped : ∀ c ∈ rest.head?, stop c = true) :
    before stop (front ++ rest) = (front, rest) := by
  have goes : ∀ c ∈ front, (!stop c) = true := fun c member => by simp [passed c member]
  rw [before, List.span_eq_takeWhile_dropWhile, List.takeWhile_append_of_pos goes,
    List.dropWhile_append_of_pos goes]
  cases rest with
  | nil => simp
  | cons c rest => simp [stopped c rfl]

/-- Only what follows the last mark bears on what follows the last mark. -/
theorem afterLast_append_cons (mark : Char) (front rest : List Char) :
    afterLast mark (front ++ mark :: rest) = afterLast mark rest := by
  simp only [afterLast, List.reverse_append, List.reverse_cons, List.append_assoc,
    List.takeWhile_append, List.singleton_append]
  split
  · rename_i whole
    have all : rest.reverse.takeWhile (· != mark) = rest.reverse :=
      (List.takeWhile_prefix _).eq_of_length whole
    simp [all]
  · rfl

theorem isSchemeChar_ne {c d : Char} (named : isSchemeChar c = true)
    (other : isSchemeChar d = false) : c ≠ d := by
  rintro rfl
  rw [named] at other
  cases other

theorem isIgnored_of_isSchemeChar {c : Char} (named : isSchemeChar c = true) :
    isIgnored c = false := by
  have tab := isSchemeChar_ne (d := '\t') named (by decide)
  have back := isSchemeChar_ne (d := '\r') named (by decide)
  have line := isSchemeChar_ne (d := '\n') named (by decide)
  simp [isIgnored, tab, back, line]

theorem isIgnored_of_isAuthorityEnd {c : Char} (ends : isAuthorityEnd c = true) :
    isIgnored c = false := by
  simp only [isAuthorityEnd, Bool.or_eq_true, beq_iff_eq] at ends
  rcases ends with (rfl | rfl) | rfl <;> decide

theorem closed_of_all {text : List Char} (all : text.all (!isAuthorityEnd ·) = true) :
    ∀ c ∈ text, isAuthorityEnd c = false := fun c member => by
  simpa using List.all_eq_true.mp all c member

/-- A URL but for its user info: a scheme, a host, and what follows the host. -/
structure Site where
  letter : Char
  name : List Char
  host : List Char
  tail : List Char
  isLetter : isAsciiLetter letter = true
  named : ∀ c ∈ name, isSchemeChar c = true
  closed : ∀ c ∈ host, isAuthorityEnd c = false
  ended : ∀ c ∈ tail.head?, isAuthorityEnd c = true

namespace Site

variable (site : Site)

/-- The URL with user info. -/
def withUser (user : List Char) : List Char :=
  site.letter :: site.name ++ ':' :: '/' :: '/' :: (user ++ '@' :: (site.host ++ site.tail))

/-- What stands in front of the host is user info, and `urlsplit` accepts the URL. -/
structure Admits (user : List Char) : Prop where
  closed : ∀ c ∈ user, isAuthorityEnd c = false
  isAuthority : isAuthority (kept (user ++ '@' :: site.host)) = true

/-- The parts of the URL without those in front of the path. -/
def parts : Url :=
  let (rest, fragment) := cutAt '#' (kept site.tail)
  let (path, query) := cutAt '?' rest
  { scheme := lowercase (site.letter :: site.name), authority := [], path, query, fragment }

theorem isSchemeChar_letter : isSchemeChar site.letter = true := by
  have letter : site.letter.isAlpha = true := site.isLetter
  simp [isSchemeChar, Char.isAlphanum, letter]

theorem isSchemeChar_of_mem {c : Char} (member : c ∈ site.letter :: site.name) :
    isSchemeChar c = true := by
  rcases List.mem_cons.mp member with rfl | later
  · exact site.isSchemeChar_letter
  · exact site.named c later

theorem clean_withUser (user : List Char) : clean (site.withUser user) =
    site.letter :: site.name ++ ':' :: '/' :: '/' ::
      (kept (user ++ '@' :: site.host) ++ kept site.tail) := by
  have scheme : kept (site.letter :: site.name) = site.letter :: site.name :=
    List.filter_eq_self.mpr fun c member => by
      simp [isIgnored_of_isSchemeChar (site.isSchemeChar_of_mem member)]
  have quiet : isLeadingNoise site.letter = false := by
    have bounds := isAlpha_iff_toNat.mp site.isLetter
    rw [isLeadingNoise, decide_eq_false_iff_not]
    omega
  have leading : (site.withUser user).dropWhile isLeadingNoise = site.withUser user := by
    simp [withUser, quiet]
  rw [clean, leading]
  change kept (site.letter :: site.name ++ _) = _
  rw [kept_append, scheme, ← kept_append, List.append_assoc, List.cons_append]
  rfl

theorem cutScheme_clean (user : List Char) : cutScheme (clean (site.withUser user)) =
    (lowercase (site.letter :: site.name),
      '/' :: '/' :: (kept (user ++ '@' :: site.host) ++ kept site.tail)) := by
  have noColon : ∀ c ∈ site.letter :: site.name, (c == ':') = false := fun c member => by
    simpa using isSchemeChar_ne (d := ':') (site.isSchemeChar_of_mem member) (by decide)
  have named : site.name.all isSchemeChar = true := List.all_eq_true.mpr site.named
  rw [clean_withUser, cutScheme, before_append noColon (by simp)]
  simp [site.isLetter, named]

variable {site} {user other : List Char}

/-- The user shows in the authority alone. -/
theorem ofChars?_withUser (admits : site.Admits user) : ofChars? (site.withUser user) =
    some { site.parts with authority := kept (user ++ '@' :: site.host) } := by
  have closed : ∀ c ∈ kept (user ++ '@' :: site.host), isAuthorityEnd c = false := by
    intro c member
    rcases List.mem_append.mp (mem_of_mem_kept member) with front | behind
    · exact admits.closed c front
    · rcases List.mem_cons.mp behind with rfl | host
      · decide
      · exact site.closed c host
  have ended : ∀ c ∈ (kept site.tail).head?, isAuthorityEnd c = true := by
    have ends := site.ended
    cases tail : site.tail with
    | nil => simp [kept]
    | cons c rest =>
      rw [tail] at ends
      have ends : isAuthorityEnd c = true := ends c rfl
      simpa [kept, isIgnored_of_isAuthorityEnd ends] using ends
  rw [ofChars?, cutScheme_clean]
  simp only [cutAuthority, before_append closed ended, admits.isAuthority, if_true]
  rfl

theorem hostAndPort_withUser (url : Url) :
    ({ url with authority := kept (user ++ '@' :: site.host) } : Url).hostAndPort =
      afterLast '@' (kept site.host) := by
  have marked : kept ('@' :: site.host) = '@' :: kept site.host := rfl
  rw [hostAndPort, kept_append, marked, afterLast_append_cons]

/-- The URL of something below. -/
def below (site : Site) (path : List Char) : Site where
  __ := site
  tail := (site.tail.reverse.dropWhile (· == '/')).reverse ++ '/' :: path
  ended := by
    have starts : (site.tail.reverse.dropWhile (· == '/')).reverse <+: site.tail := by
      simpa using (List.dropWhile_suffix (l := site.tail.reverse) (· == '/')).reverse
    obtain ⟨rest, whole⟩ := starts
    cases kept : (site.tail.reverse.dropWhile (· == '/')).reverse with
    | nil => simp [isAuthorityEnd]
    | cons c others =>
      have ends := site.ended
      rw [← whole, kept] at ends
      simpa using ends

theorem Admits.below (admits : site.Admits user) (path : List Char) :
    (site.below path).Admits user :=
  ⟨admits.closed, admits.isAuthority⟩

/-- Slashes at the end of a URL stand behind its host. -/
theorem root_withUser {repository : Repository}
    (whole : repository.uri.toList = site.withUser user) (path : List Char) :
    repository.root.toList ++ '/' :: path = (site.below path).withUser user := by
  have stops (rest : List Char) : (site.host.reverse ++ '@' :: rest).dropWhile (· == '/') =
      site.host.reverse ++ '@' :: rest := by
    have inside : ∀ c ∈ site.host, (c == '/') = false := fun c member => by
      have closed := site.closed c member
      simp only [isAuthorityEnd, Bool.or_eq_false_iff] at closed
      exact closed.1.1
    cases back : site.host.reverse with
    | nil => rfl
    | cons c others =>
      have member : c ∈ site.host := by
        rw [← List.mem_reverse, back]
        exact List.mem_cons_self
      simp [inside c member]
  let back := site.host.reverse ++ '@' :: (site.letter :: site.name ++ ':' :: '/' :: '/' :: user).reverse
  have backwards : (site.withUser user).reverse = site.tail.reverse ++ back := by
    simp [withUser, back]
  have drops : (site.tail.reverse ++ back).dropWhile (· == '/') =
      site.tail.reverse.dropWhile (· == '/') ++ back := by
    rw [List.dropWhile_append, stops]
    split
    · rename_i nothing
      rw [List.isEmpty_iff.mp nothing, List.nil_append]
    · rfl
  rw [Repository.root, String.toList_ofList, whole, backwards, drops]
  simp [back, withUser, below]

end Site

/-- The URLs differ at most in the user info in front of the host. -/
def SameButUser (a b : String) : Prop :=
  ∃ (site : Site) (user other : List Char), site.Admits user ∧ site.Admits other ∧
    a.toList = site.withUser user ∧ b.toList = site.withUser other

namespace SameButUser

section

variable {a b : String} (same : SameButUser a b)

include same

/-- What the log shows of a URL is without its user info. -/
theorem safeUrl_eq : Redaction.safeUrl a = Redaction.safeUrl b := by
  obtain ⟨site, user, other, admits, admitsOther, first, second⟩ := same
  have shown {user : List Char} (admits : site.Admits user) :
      Redaction.safeUrlChars (site.withUser user) =
        toChars { site.parts with authority := afterLast '@' (kept site.host)
                                  query := Redaction.redactQuery site.parts.query } := by
    rw [Redaction.safeUrlChars, Site.ofChars?_withUser admits]
    dsimp only
    rw [Site.hostAndPort_withUser]
  rw [Redaction.safeUrl, Redaction.safeUrl, first, second, shown admits, shown admitsOther]

theorem isEmpty_eq : a.isEmpty = b.isEmpty := by
  obtain ⟨site, user, other, -, -, first, second⟩ := same
  have filled {text : String} {user : List Char} (whole : text.toList = site.withUser user) :
      text.isEmpty = false := by
    rw [String.isEmpty_eq_false_iff]
    rintro rfl
    exact List.cons_ne_nil _ _ whole.symm
  rw [filled first, filled second]

/-- A user cannot be written in small letters so that it is gone. -/
theorem lowercaseText_ne {plain : String} (userless : '@' ∉ plain.toList) :
    lowercaseText a ≠ plain ∧ lowercaseText b ≠ plain := by
  obtain ⟨site, user, other, -, -, first, second⟩ := same
  have differs {text : String} {user : List Char} (whole : text.toList = site.withUser user) :
      lowercaseText text ≠ plain := by
    rintro rfl
    have marked : '@' ∈ text.toList := by
      rw [whole, Site.withUser]
      simp
    refine userless ?_
    rw [lowercaseText, String.toList_ofList]
    exact mem_lowercase_of_mem (by decide) (by decide) (by decide) marked
  exact ⟨differs first, differs second⟩

end

theorem below {repository repository' : Repository}
    (same : SameButUser repository.uri repository'.uri) (path : String) :
    SameButUser (repository.root ++ ("/" ++ path)) (repository'.root ++ ("/" ++ path)) := by
  obtain ⟨site, user, other, admits, admitsOther, first, second⟩ := same
  refine ⟨site.below path.toList, user, other, admits.below _, admitsOther.below _, ?_, ?_⟩
  · simpa using Site.root_withUser first path.toList
  · simpa using Site.root_withUser second path.toList

theorem isExternal_eq {repository repository' : Repository}
    (same : SameButUser repository.uri repository'.uri) :
    Mirror.isExternal repository = Mirror.isExternal repository' := by
  obtain ⟨site, user, other, admits, admitsOther, first, second⟩ := same
  rw [Mirror.isExternal, Mirror.isExternal, first, second, Site.ofChars?_withUser admits,
    Site.ofChars?_withUser admitsOther]
  simp only [host, Site.hostAndPort_withUser]

end SameButUser

end Url
end MavenResolution
