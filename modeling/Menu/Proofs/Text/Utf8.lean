import Menu.Text.Encoding

/-!
# UTF-8 comes back

The bytes that a text has in UTF-8 are read as the same text.  A character of two to four bytes goes through a
sequence that is pending; its first continuation byte is in the narrower range that some lead bytes ask for, since the
character is neither written too long nor a surrogate nor too large.

* `decodeUtf8From_encode`: the bytes of one character, by their number.
* `decode_toUTF8`: the bytes of a text.
-/

namespace Menu.Text

theorem decodeUtf8From_char {byte : UInt8} {c : Char} (rest : List UInt8) (h : lead byte.toNat = .char c) :
    decodeUtf8From none (byte :: rest) = c :: decodeUtf8From none rest := by
  simp only [decodeUtf8From, h]

theorem decodeUtf8From_start {byte : UInt8} {p : Pending} (rest : List UInt8) (h : lead byte.toNat = .start p) :
    decodeUtf8From none (byte :: rest) = decodeUtf8From (some p) rest := by
  simp only [decodeUtf8From, h]

/-- A byte in the range of the next one continues a sequence. -/
theorem decodeUtf8From_next {byte : UInt8} {p : Pending} (rest : List UInt8) (low : p.lo ≤ byte.toNat)
    (high : byte.toNat ≤ p.hi) (more : p.missing ≠ 1) :
    decodeUtf8From (some p) (byte :: rest) =
      decodeUtf8From (some ⟨p.bits * 64 + (byte.toNat - 0x80), p.missing - 1, 0x80, 0xbf⟩) rest := by
  simp only [decodeUtf8From, if_pos (And.intro low high), if_neg more]

theorem decodeUtf8From_last {byte : UInt8} {p : Pending} (rest : List UInt8) (low : p.lo ≤ byte.toNat)
    (high : byte.toNat ≤ p.hi) (last : p.missing = 1) :
    decodeUtf8From (some p) (byte :: rest) =
      Char.ofNat (p.bits * 64 + (byte.toNat - 0x80)) :: decodeUtf8From none rest := by
  simp only [decodeUtf8From, if_pos (And.intro low high), if_pos last]

theorem toNat_ofNat_of_lt {n : Nat} (small : n < 256) : (UInt8.ofNat n).toNat = n := by
  simpa using Nat.mod_eq_of_lt small

/-! ## Lead bytes -/

theorem lead_of_two {a : Nat} (long : 2 ≤ a) (small : a < 32) : lead (a + 0xc0) = .start ⟨a, 1, 0x80, 0xbf⟩ := by
  rw [lead, if_neg (by omega), if_neg (by omega), if_pos (by omega), Nat.add_sub_cancel]

theorem lead_of_three {a : Nat} (small : a < 16) :
    lead (a + 0xe0) = .start ⟨a, 2, if a = 0 then 0xa0 else 0x80, if a = 13 then 0x9f else 0xbf⟩ := by
  rw [lead, if_neg (by omega), if_neg (by omega), if_neg (by omega), if_pos (by omega), Nat.add_sub_cancel]
  simp only [show a + 0xe0 = 0xe0 ↔ a = 0 by omega, show a + 0xe0 = 0xed ↔ a = 13 by omega]

theorem lead_of_four {a : Nat} (small : a < 5) :
    lead (a + 0xf0) = .start ⟨a, 3, if a = 0 then 0x90 else 0x80, if a = 4 then 0x8f else 0xbf⟩ := by
  rw [lead, if_neg (by omega), if_neg (by omega), if_neg (by omega), if_neg (by omega), if_pos (by omega),
    Nat.add_sub_cancel]
  simp only [show a + 0xf0 = 0xf0 ↔ a = 0 by omega, show a + 0xf0 = 0xf4 ↔ a = 4 by omega]

/-! ## Characters -/

variable {v : Nat} (rest : List UInt8)

theorem decode_two (long : 0x7f < v) (short : v ≤ 0x7ff) :
    decodeUtf8From none (UInt8.ofNat (v / 64 % 32 + 192) :: UInt8.ofNat (v % 64 + 128) :: rest) =
      Char.ofNat v :: decodeUtf8From none rest := by
  have first : (UInt8.ofNat (v / 64 % 32 + 192)).toNat = v / 64 + 0xc0 := by
    rw [toNat_ofNat_of_lt (by omega)]
    omega
  have last : (UInt8.ofNat (v % 64 + 128)).toNat = v % 64 + 128 := toNat_ofNat_of_lt (by omega)
  rw [decodeUtf8From_start _ (by rw [first]; exact lead_of_two (by omega) (by omega)),
    decodeUtf8From_last rest (by rw [last]; exact Nat.le_add_left _ _) (by rw [last]; dsimp only; omega) rfl, last]
  dsimp only
  rw [show v / 64 * 64 + (v % 64 + 128 - 0x80) = v by omega]

theorem decode_three (long : 0x7ff < v) (short : v ≤ 0xffff) (valid : v < 0xd800 ∨ 0xdfff < v) :
    decodeUtf8From none (UInt8.ofNat (v / 4096 % 16 + 224) :: UInt8.ofNat (v / 64 % 64 + 128) ::
        UInt8.ofNat (v % 64 + 128) :: rest) =
      Char.ofNat v :: decodeUtf8From none rest := by
  have first : (UInt8.ofNat (v / 4096 % 16 + 224)).toNat = v / 4096 + 0xe0 := by
    rw [toNat_ofNat_of_lt (by omega)]
    omega
  have second : (UInt8.ofNat (v / 64 % 64 + 128)).toNat = v / 64 % 64 + 128 := toNat_ofNat_of_lt (by omega)
  have last : (UInt8.ofNat (v % 64 + 128)).toNat = v % 64 + 128 := toNat_ofNat_of_lt (by omega)
  -- the second byte is in the range that the first one asks for
  have low : (if v / 4096 = 0 then 0xa0 else 0x80) ≤ v / 64 % 64 + 128 := by
    split <;> omega
  have high : v / 64 % 64 + 128 ≤ (if v / 4096 = 13 then 0x9f else 0xbf) := by
    split <;> omega
  rw [decodeUtf8From_start _ (by rw [first]; exact lead_of_three (by omega)),
    decodeUtf8From_next _ (by rw [second]; exact low) (by rw [second]; exact high) (by simp), second,
    decodeUtf8From_last rest (by rw [last]; exact Nat.le_add_left _ _) (by rw [last]; dsimp only; omega) rfl, last]
  dsimp only
  rw [show (v / 4096 * 64 + (v / 64 % 64 + 128 - 0x80)) * 64 + (v % 64 + 128 - 0x80) = v by omega]

theorem decode_four (long : 0xffff < v) (valid : v < 0x110000) :
    decodeUtf8From none (UInt8.ofNat (v / 262144 % 8 + 240) :: UInt8.ofNat (v / 4096 % 64 + 128) ::
        UInt8.ofNat (v / 64 % 64 + 128) :: UInt8.ofNat (v % 64 + 128) :: rest) =
      Char.ofNat v :: decodeUtf8From none rest := by
  have first : (UInt8.ofNat (v / 262144 % 8 + 240)).toNat = v / 262144 + 0xf0 := by
    rw [toNat_ofNat_of_lt (by omega)]
    omega
  have second : (UInt8.ofNat (v / 4096 % 64 + 128)).toNat = v / 4096 % 64 + 128 := toNat_ofNat_of_lt (by omega)
  have third : (UInt8.ofNat (v / 64 % 64 + 128)).toNat = v / 64 % 64 + 128 := toNat_ofNat_of_lt (by omega)
  have last : (UInt8.ofNat (v % 64 + 128)).toNat = v % 64 + 128 := toNat_ofNat_of_lt (by omega)
  have low : (if v / 262144 = 0 then 0x90 else 0x80) ≤ v / 4096 % 64 + 128 := by
    split <;> omega
  have high : v / 4096 % 64 + 128 ≤ (if v / 262144 = 4 then 0x8f else 0xbf) := by
    split <;> omega
  rw [decodeUtf8From_start _ (by rw [first]; exact lead_of_four (by omega)),
    decodeUtf8From_next _ (by rw [second]; exact low) (by rw [second]; exact high) (by simp), second,
    decodeUtf8From_next _ (by rw [third]; exact Nat.le_add_left _ _) (by rw [third]; dsimp only; omega) (by simp),
    third,
    decodeUtf8From_last rest (by rw [last]; exact Nat.le_add_left _ _) (by rw [last]; dsimp only; omega) rfl, last]
  dsimp only
  rw [show ((v / 262144 * 64 + (v / 4096 % 64 + 128 - 0x80)) * 64 + (v / 64 % 64 + 128 - 0x80)) * 64 +
    (v % 64 + 128 - 0x80) = v by omega]

theorem decodeUtf8From_encode (c : Char) :
    decodeUtf8From none (String.utf8EncodeChar c ++ rest) = c :: decodeUtf8From none rest := by
  have same : Char.ofNat c.val.toNat = c := Char.ofNat_toNat c
  have valid : c.val.toNat < 0xd800 ∨ 0xdfff < c.val.toNat ∧ c.val.toNat < 0x110000 := c.valid
  unfold String.utf8EncodeChar
  generalize c.val.toNat = v at same valid
  subst same
  dsimp only
  split
  · have byte : (UInt8.ofNat v).toNat = v := toNat_ofNat_of_lt (by omega)
    have role : lead v = .char (Char.ofNat v) := by rw [lead, if_pos (by omega)]
    exact decodeUtf8From_char rest (byte.symm ▸ role)
  · split
    · exact decode_two rest (by omega) (by omega)
    · split
      · exact decode_three rest (by omega) (by omega) (by omega)
      · exact decode_four rest (by omega) (by omega)

/-- The bytes of a text are read as the text. -/
theorem decode_toUTF8 (s : String) : Encoding.utf8.decode s.toUTF8.data.toList = s.toList := by
  have bytes : s.toUTF8.data.toList = s.toList.flatMap String.utf8EncodeChar := by
    conv => lhs; rw [← String.ofList_toList (s := s)]
    rw [String.toUTF8_eq_toByteArray, String.toByteArray_ofList, List.utf8Encode]
    simp
  rw [bytes, Encoding.decode, decodeUtf8]
  induction s.toList with
  | nil => rfl
  | cons c rest ih => rw [List.flatMap_cons, decodeUtf8From_encode, ih]

end Menu.Text
