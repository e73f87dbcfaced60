import MavenResolution.Text.Utf8

/-! Bytes of a text are read as the text again. -/
namespace MavenResolution.Text.Utf8

variable {pending : Pending} {octet : UInt8} {rest : List UInt8}

theorem decodeFrom_ascii (ascii : octet.toNat < 0x80) :
    decodeFrom none (octet :: rest) = some (Char.ofNat octet.toNat) :: decodeFrom none rest := by
  rw [decodeFrom, step, start, if_pos ascii]
  rfl

theorem decodeFrom_lead (wide : 0x80 ≤ octet.toNat) (opens : lead? octet = some pending) :
    decodeFrom none (octet :: rest) = decodeFrom (some pending) rest := by
  rw [decodeFrom, step, start, if_neg (Nat.not_lt.mpr wide), opens]
  rfl

theorem decodeFrom_further {bits following low high : Nat} (fits : low ≤ octet.toNat ∧ octet.toNat ≤ high) :
    decodeFrom (some ⟨bits, following + 2, low, high⟩) (octet :: rest) =
      decodeFrom (some { bits := 64 * bits + (octet.toNat - 0x80), following := following + 1 }) rest := by
  simp [decodeFrom, step, fits]

theorem decodeFrom_last {bits low high : Nat} (fits : low ≤ octet.toNat ∧ octet.toNat ≤ high) :
    decodeFrom (some ⟨bits, 1, low, high⟩) (octet :: rest) =
      some (Char.ofNat (64 * bits + (octet.toNat - 0x80))) :: decodeFrom none rest := by
  simp [decodeFrom, step, fits]

/-! What a first byte opens. -/

theorem lead?_two (bounds : 0xc2 ≤ octet.toNat ∧ octet.toNat < 0xe0) :
    lead? octet = some { bits := octet.toNat - 0xc0, following := 1 } := by
  rw [lead?]
  simp [Nat.not_lt.mpr bounds.1, bounds.2]

theorem lead?_three (bounds : 0xe0 ≤ octet.toNat ∧ octet.toNat < 0xf0) :
    lead? octet = some { bits := octet.toNat - 0xe0, following := 2
                         low := if octet.toNat = 0xe0 then 0xa0 else 0x80
                         high := if octet.toNat = 0xed then 0x9f else 0xbf } := by
  have wide : ¬octet.toNat < 0xc2 := by omega
  simp [lead?, wide, Nat.not_lt.mpr bounds.1, bounds.2]

theorem lead?_four (bounds : 0xf0 ≤ octet.toNat ∧ octet.toNat < 0xf5) :
    lead? octet = some { bits := octet.toNat - 0xf0, following := 3
                         low := if octet.toNat = 0xf0 then 0x90 else 0x80
                         high := if octet.toNat = 0xf4 then 0x8f else 0xbf } := by
  have wide : ¬octet.toNat < 0xc2 := by omega
  have wider : ¬octet.toNat < 0xe0 := by omega
  simp [lead?, wide, wider, Nat.not_lt.mpr bounds.1, bounds.2]

/-! Whole characters. -/

theorem toNat_ofNat_of_lt {n : Nat} (small : n < 256) : (UInt8.ofNat n).toNat = n := by
  rw [UInt8.toNat_ofNat']
  exact Nat.mod_eq_of_lt small

theorem decodeFrom_encodeChar (c : Char) (rest : List UInt8) :
    decodeFrom none (String.utf8EncodeChar c ++ rest) = some c :: decodeFrom none rest := by
  have valid : c.toNat < 0xd800 ∨ 0xdfff < c.toNat ∧ c.toNat < 0x110000 := c.valid
  have whole := Char.ofNat_toNat c
  unfold String.utf8EncodeChar
  rw [show c.val.toNat = c.toNat from rfl]
  generalize c.toNat = n at valid whole ⊢
  have digit (k m : Nat) : (UInt8.ofNat (k / m % 64 + 128)).toNat = k / m % 64 + 128 := toNat_ofNat_of_lt (by omega)
  have final : (UInt8.ofNat (n % 64 + 128)).toNat = n % 64 + 128 := toNat_ofNat_of_lt (by omega)
  dsimp only
  split
  · have first : (UInt8.ofNat n).toNat = n := toNat_ofNat_of_lt (by omega)
    rw [List.singleton_append, decodeFrom_ascii (by omega), first, whole]
  · split
    · have first : (UInt8.ofNat (n / 64 % 32 + 192)).toNat = n / 64 % 32 + 192 := toNat_ofNat_of_lt (by omega)
      have sum : 64 * (n / 64 % 32 + 192 - 0xc0) + (n % 64 + 128 - 0x80) = n := by omega
      simp only [List.cons_append, List.nil_append]
      rw [decodeFrom_lead (by omega) (lead?_two (by omega)), decodeFrom_last (by omega), first, final, sum, whole]
    · split
      · have first : (UInt8.ofNat (n / 4096 % 16 + 224)).toNat = n / 4096 % 16 + 224 := toNat_ofNat_of_lt (by omega)
        have sum : 64 * (64 * (n / 4096 % 16 + 224 - 0xe0) + (n / 64 % 64 + 128 - 0x80)) +
            (n % 64 + 128 - 0x80) = n := by omega
        have second : (if n / 4096 % 16 + 224 = 0xe0 then 0xa0 else 0x80) ≤ n / 64 % 64 + 128 ∧
            n / 64 % 64 + 128 ≤ if n / 4096 % 16 + 224 = 0xed then 0x9f else 0xbf := by
          split <;> split <;> omega
        simp only [List.cons_append, List.nil_append]
        rw [decodeFrom_lead (by omega) (lead?_three (by omega)), first, decodeFrom_further (by rwa [digit]),
          decodeFrom_last (by omega), digit, final, sum, whole]
      · have first : (UInt8.ofNat (n / 262144 % 8 + 240)).toNat = n / 262144 % 8 + 240 := toNat_ofNat_of_lt (by omega)
        have sum : 64 * (64 * (64 * (n / 262144 % 8 + 240 - 0xf0) + (n / 4096 % 64 + 128 - 0x80)) +
            (n / 64 % 64 + 128 - 0x80)) + (n % 64 + 128 - 0x80) = n := by omega
        have second : (if n / 262144 % 8 + 240 = 0xf0 then 0x90 else 0x80) ≤ n / 4096 % 64 + 128 ∧
            n / 4096 % 64 + 128 ≤ if n / 262144 % 8 + 240 = 0xf4 then 0x8f else 0xbf := by
          split <;> split <;> omega
        simp only [List.cons_append, List.nil_append]
        rw [decodeFrom_lead (by omega) (lead?_four (by omega)), first, decodeFrom_further (by rwa [digit]),
          decodeFrom_further (by rw [digit]; omega), decodeFrom_last (by omega), digit, digit, final, sum, whole]

theorem decode_encode (text : List Char) : decode (encode text) = text.map some := by
  unfold decode encode
  induction text with
  | nil => rfl
  | cons c rest ih => rw [List.flatMap_cons, decodeFrom_encodeChar, ih, List.map_cons]

theorem decodeReplacing_encode (text : List Char) : decodeReplacing (encode text) = text := by
  rw [decodeReplacing, decode_encode, List.map_map]
  exact List.map_id text

end MavenResolution.Text.Utf8
