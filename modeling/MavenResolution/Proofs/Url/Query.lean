import Mathlib.Data.List.TakeDrop
import MavenResolution.Proofs.Text.Ascii
import MavenResolution.Proofs.Text.Pieces
import MavenResolution.Proofs.Text.Utf8
import MavenResolution.Url.Query

/-! Queries that are written are read as the same pairs again, and hold no mark that ends a part of a
URL. -/
namespace MavenResolution.Url.Query

open Text

variable {octet : UInt8} {text rest : List Char} {c : Char}

/-- A character with which names and values are written. -/
def isWritten (c : Char) : Bool :=
  c.isAlphanum || c == '_' || c == '.' || c == '-' || c == '~' || c == '+' || c == '%'

theorem isWritten_ne {other : Char} (written : isWritten c = true) (unwritten : isWritten other = false) :
    c ≠ other := by
  rintro rfl
  rw [written] at unwritten
  cases unwritten

/-! Single bytes. -/

theorem hexDigit_mod (n : Nat) : hexDigit (n % 16) = hexDigit n := by
  have same : n % 16 % 16 = n % 16 := Nat.mod_mod n 16
  unfold hexDigit
  generalize "0123456789ABCDEF".toList = digits
  rw [same]

theorem hexValue?_hexDigit (n : Nat) : hexValue? (hexDigit n) = some (n % 16) := by
  have each : ∀ m < 16, hexValue? (hexDigit m) = some m := by decide +kernel
  rw [← hexDigit_mod]
  exact each _ (Nat.mod_lt n (by decide))

theorem isWritten_hexDigit (n : Nat) : isWritten (hexDigit n) = true ∧ hexDigit n ≠ '+' := by
  have each : ∀ m < 16, isWritten (hexDigit m) = true ∧ hexDigit m ≠ '+' := by decide +kernel
  rw [← hexDigit_mod]
  exact each _ (Nat.mod_lt n (by decide))

/-- A character that stands for itself is no sign of the encoding, and is the byte. -/
theorem isWritten_of_isPlain (plain : isPlain octet = true) :
    isWritten (Char.ofNat octet.toNat) = true ∧ Char.ofNat octet.toNat ≠ '+' ∧
      Char.ofNat octet.toNat ≠ '%' ∧ (Char.ofNat octet.toNat).val.toUInt8 = octet := by
  have each : ∀ n < 256, isPlain (UInt8.ofNat n) = true → isWritten (Char.ofNat n) = true ∧
      Char.ofNat n ≠ '+' ∧ Char.ofNat n ≠ '%' ∧ (Char.ofNat n).val.toUInt8 = UInt8.ofNat n := by
    decide +kernel
  simpa [plain] using each octet.toNat octet.toNat_lt

theorem isWritten_of_mem_encodeOctet (member : c ∈ encodeOctet octet) : isWritten c = true := by
  unfold encodeOctet at member
  split at member
  · rename_i plain
    rw [List.mem_singleton.mp member]
    exact (isWritten_of_isPlain plain).1
  · split at member
    · rw [List.mem_singleton.mp member]
      rfl
    · simp only [List.mem_cons, List.not_mem_nil, or_false] at member
      rcases member with rfl | rfl | rfl
      · rfl
      · exact (isWritten_hexDigit _).1
      · exact (isWritten_hexDigit _).1

/-- A plus sign read as the blank that it stands for. -/
def blanked (text : List Char) : List Char := text.map fun c => if c == '+' then ' ' else c

theorem blanked_cons_of_ne (other : c ≠ '+') : blanked (c :: rest) = c :: blanked rest := by
  simp [blanked, other]

theorem octets_cons_of_ne (other : c ≠ '%') : octets (c :: rest) = c.val.toUInt8 :: octets rest := by
  rw [octets.eq_def]
  split
  · rename_i same
    exact absurd (List.cons.inj same).1 other
  · rename_i same
    obtain ⟨rfl, rfl⟩ := List.cons.inj same
    rfl
  · rename_i same
    cases same

theorem octets_percent {high low : Char} {h l : Nat} (first : hexValue? high = some h)
    (second : hexValue? low = some l) :
    octets ('%' :: high :: low :: rest) = UInt8.ofNat (16 * h + l) :: octets rest := by
  rw [octets, first, second]

/-- A byte that is written is read again. -/
theorem octets_encodeOctet (octet : UInt8) (rest : List Char) :
    octets (blanked (encodeOctet octet ++ rest)) = octet :: octets (blanked rest) := by
  unfold encodeOctet
  split
  · rename_i plain
    obtain ⟨-, noPlus, noPercent, same⟩ := isWritten_of_isPlain plain
    rw [List.singleton_append, blanked_cons_of_ne noPlus, octets_cons_of_ne noPercent, same]
  · split
    · rename_i blank
      rw [blank]
      exact octets_cons_of_ne (by decide)
    · have sum : 16 * (octet.toNat / 16 % 16) + octet.toNat % 16 = octet.toNat := by
        have small := octet.toNat_lt
        omega
      simp only [List.cons_append, List.nil_append]
      rw [blanked_cons_of_ne (by decide), blanked_cons_of_ne (isWritten_hexDigit _).2,
        blanked_cons_of_ne (isWritten_hexDigit _).2,
        octets_percent (hexValue?_hexDigit _) (hexValue?_hexDigit _), sum, UInt8.ofNat_toNat]

/-! Names and values. -/

theorem isWritten_of_mem_encode (member : c ∈ encode text) : isWritten c = true := by
  obtain ⟨octet, -, inside⟩ := List.mem_flatMap.mp member
  exact isWritten_of_mem_encodeOctet inside

theorem isAscii_of_isWritten (written : isWritten c = true) : isAscii c = true := by
  simp only [isWritten, Bool.or_eq_true, beq_iff_eq, Char.isAlphanum] at written
  rw [isAscii, decide_eq_true_iff]
  rcases written with ((((((letter | digit) | rfl) | rfl) | rfl) | rfl) | rfl) | rfl
  · rw [isAlpha_iff_toNat] at letter
    omega
  · rw [isDigit_iff_toNat] at digit
    omega
  all_goals decide

theorem octets_encode (text : List Char) : octets (blanked (encode text)) = Utf8.encode text := by
  unfold encode
  induction Utf8.encode text with
  | nil => rfl
  | cons octet others ih => rw [List.flatMap_cons, octets_encodeOctet, ih]

theorem decodeRuns_of_ascii (run : List Char) (ascii : ∀ c ∈ text, isAscii c = true) :
    decodeRuns run text = Utf8.decodeReplacing (octets (run ++ text)) := by
  induction text generalizing run with
  | nil => rw [decodeRuns, List.append_nil]
  | cons c rest ih =>
    obtain ⟨first, others⟩ := List.forall_mem_cons.mp ascii
    rw [decodeRuns, if_pos first, ih _ others, List.append_assoc, List.singleton_append]

theorem decode_encode (text : List Char) : decode (encode text) = text := by
  have ascii : ∀ c ∈ blanked (encode text), isAscii c = true := by
    intro c member
    obtain ⟨d, inside, rfl⟩ := List.mem_map.mp member
    split
    · rfl
    · exact isAscii_of_isWritten (isWritten_of_mem_encode inside)
  calc decode (encode text) = Utf8.decodeReplacing (octets (blanked (encode text))) := by
        exact decodeRuns_of_ascii [] ascii
    _ = text := by rw [octets_encode, Utf8.decodeReplacing_encode]

/-! Pairs. -/

/-- A pair as it is written. -/
def ofPair (pair : List Char × List Char) : List Char := encode pair.1 ++ '=' :: encode pair.2

theorem pair_ofPair (written : List Char × List Char) : pair (ofPair written) = written := by
  have unsigned : ∀ c ∈ encode written.1, (c != '=') = true := fun c member => by
    simpa using isWritten_ne (isWritten_of_mem_encode member) (by decide)
  rw [pair, ofPair, List.span_eq_takeWhile_dropWhile, List.takeWhile_append_of_pos unsigned,
    List.dropWhile_append_of_pos unsigned]
  simp [decode_encode]

theorem mem_ofPair {written : List Char × List Char} (member : c ∈ ofPair written) :
    c = '=' ∨ isWritten c = true := by
  rcases List.mem_append.mp member with name | value
  · exact .inr (isWritten_of_mem_encode name)
  · rcases List.mem_cons.mp value with sign | value
    · exact .inl sign
    · exact .inr (isWritten_of_mem_encode value)

theorem ofPairs_eq (written : List (List Char × List Char)) :
    ofPairs written = ['&'].intercalate (written.map ofPair) := rfl

theorem pairs_ofPairs (written : List (List Char × List Char)) : pairs (ofPairs written) = written := by
  cases written with
  | nil => rfl
  | cons first others =>
    have apart : ∀ piece ∈ (first :: others).map ofPair, '&' ∉ piece := by
      intro piece member inside
      obtain ⟨pair, -, rfl⟩ := List.mem_map.mp member
      rcases mem_ofPair inside with sign | written
      · cases sign
      · cases written
    have filled : ∀ piece ∈ (first :: others).map ofPair, (!piece.isEmpty) = true := by
      intro piece member
      obtain ⟨pair, -, rfl⟩ := List.mem_map.mp member
      simp [ofPair]
    rw [pairs, ofPairs_eq, pieces_eq_splitOn, List.splitOn_intercalate _ apart (by simp),
      List.filter_eq_self.mpr filled, List.map_map]
    exact List.map_id'' pair_ofPair _

/-- No mark that ends a part of a URL stands in a query that was written. -/
theorem mem_ofPairs {written : List (List Char × List Char)} (member : c ∈ ofPairs written) :
    c = '&' ∨ c = '=' ∨ isWritten c = true := by
  rw [ofPairs_eq] at member
  induction written with
  | nil => cases member
  | cons first others ih =>
    cases others with
    | nil =>
      rw [List.map_singleton, List.intercalate_singleton] at member
      exact .inr (mem_ofPair member)
    | cons second others =>
      rw [List.map_cons, List.map_cons, List.intercalate_cons_cons, List.append_assoc, List.mem_append,
        List.mem_append, List.mem_singleton] at member
      rcases member with inside | mark | behind
      · exact .inr (mem_ofPair inside)
      · exact .inl mark
      · exact ih behind

end MavenResolution.Url.Query
