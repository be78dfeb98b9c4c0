import TenantGateway.Proofs.Text.Utf8

/-!
# Reading the bytes of a text

Bytes that encode a character are read as that character, whatever follows them (`decodeUtf8_utf8EncodeChar`): there is one
statement for each length, and in each of them the bytes hold the digits of the code point to the base 64. So reading the bytes of
a text gives the text (`decodeUtf8_utf8`).
-/

namespace TenantGateway.Text

/-! ## One character -/

/-- A byte below 0x80 is a character of its own. -/
theorem decodeUtf8_one {a : UInt8} (ha : a.toNat < 0x80) (rest : List UInt8) :
    decodeUtf8 (a :: rest) = Char.ofNat a.toNat :: decodeUtf8 rest := by
  have hone : a < 0x80 := ha
  rw [decodeUtf8.eq_def]
  dsimp only
  rw [if_pos hone]

theorem decodeUtf8_two {a b : UInt8} (ha : 0xC2 ≤ a.toNat ∧ a.toNat ≤ 0xDF) (hb : isContinuation b = true)
    (rest : List UInt8) : decodeUtf8 (a :: b :: rest) = Char.ofNat (a.toNat % 32 * 64 + low b) :: decodeUtf8 rest := by
  have hone : ¬a < 0x80 := by
    simp only [UInt8.lt_iff_toNat_lt, UInt8.reduceToNat]
    omega
  have htwo : (decide (0xC2 ≤ a) && decide (a ≤ 0xDF)) = true := by
    simpa [UInt8.le_iff_toNat_le] using ha
  rw [decodeUtf8.eq_def]
  dsimp only
  rw [if_neg hone, if_pos htwo, if_pos hb]

theorem decodeUtf8_three {a b c : UInt8} (ha : 0xE0 ≤ a.toNat ∧ a.toNat ≤ 0xEF) (hb : secondOfThree a b = true)
    (hc : isContinuation c = true) (rest : List UInt8) :
    decodeUtf8 (a :: b :: c :: rest) = Char.ofNat (a.toNat % 16 * 4096 + low b * 64 + low c) :: decodeUtf8 rest := by
  have hone : ¬a < 0x80 := by
    simp only [UInt8.lt_iff_toNat_lt, UInt8.reduceToNat]
    omega
  have htwo : ¬(decide (0xC2 ≤ a) && decide (a ≤ 0xDF)) = true := by
    simp only [UInt8.le_iff_toNat_le, UInt8.reduceToNat, Bool.and_eq_true, decide_eq_true_eq]
    omega
  have hthree : (decide (0xE0 ≤ a) && decide (a ≤ 0xEF)) = true := by
    simpa [UInt8.le_iff_toNat_le] using ha
  rw [decodeUtf8.eq_def]
  dsimp only
  rw [if_neg hone, if_neg htwo, if_pos hthree, if_pos hb, if_pos hc]

theorem decodeUtf8_four {a b c d : UInt8} (ha : 0xF0 ≤ a.toNat ∧ a.toNat ≤ 0xF4) (hb : secondOfFour a b = true)
    (hc : isContinuation c = true) (hd : isContinuation d = true) (rest : List UInt8) :
    decodeUtf8 (a :: b :: c :: d :: rest) =
      Char.ofNat (a.toNat % 8 * 262144 + low b * 4096 + low c * 64 + low d) :: decodeUtf8 rest := by
  have hone : ¬a < 0x80 := by
    simp only [UInt8.lt_iff_toNat_lt, UInt8.reduceToNat]
    omega
  have htwo : ¬(decide (0xC2 ≤ a) && decide (a ≤ 0xDF)) = true := by
    simp only [UInt8.le_iff_toNat_le, UInt8.reduceToNat, Bool.and_eq_true, decide_eq_true_eq]
    omega
  have hthree : ¬(decide (0xE0 ≤ a) && decide (a ≤ 0xEF)) = true := by
    simp only [UInt8.le_iff_toNat_le, UInt8.reduceToNat, Bool.and_eq_true, decide_eq_true_eq]
    omega
  have hfour : (decide (0xF0 ≤ a) && decide (a ≤ 0xF4)) = true := by
    simpa [UInt8.le_iff_toNat_le] using ha
  rw [decodeUtf8.eq_def]
  dsimp only
  rw [if_neg hone, if_neg htwo, if_neg hthree, if_pos hfour, if_pos hb, if_pos hc, if_pos hd]

/-! ## The bytes of a code point -/

/-- A digit to the base 64 is held by a byte that continues a character. -/
theorem isContinuation_ofNat {n : Nat} (h : n < 64) :
    isContinuation (UInt8.ofNat (n + 128)) = true ∧ low (UInt8.ofNat (n + 128)) = n := by
  unfold isContinuation low
  simp only [UInt8.le_iff_toNat_le, toNat_ofNat (n := n + 128) (by omega), UInt8.reduceToNat, Bool.and_eq_true, decide_eq_true_eq]
  omega

/-- The second of three bytes is in its bounds, since the code point needs three bytes and is no surrogate. -/
theorem secondOfThree_ofNat {v : Nat} (h : 0x7FF < v ∧ v ≤ 0xFFFF) (hsurrogate : v < 0xD800 ∨ 0xDFFF < v) :
    secondOfThree (UInt8.ofNat (v / 4096 % 16 + 224)) (UInt8.ofNat (v / 64 % 64 + 128)) = true := by
  unfold secondOfThree isContinuation
  simp only [beq_iff_eq, ← UInt8.toNat_inj, UInt8.le_iff_toNat_le, UInt8.reduceToNat,
    toNat_ofNat (n := v / 4096 % 16 + 224) (by omega), toNat_ofNat (n := v / 64 % 64 + 128) (by omega)]
  split_ifs <;> simp only [Bool.and_eq_true, decide_eq_true_eq] <;> omega

/-- The second of four bytes is in its bounds, since the code point needs four bytes and is not too great. -/
theorem secondOfFour_ofNat {v : Nat} (h : 0xFFFF < v ∧ v < 0x110000) :
    secondOfFour (UInt8.ofNat (v / 262144 % 8 + 240)) (UInt8.ofNat (v / 4096 % 64 + 128)) = true := by
  unfold secondOfFour isContinuation
  simp only [beq_iff_eq, ← UInt8.toNat_inj, UInt8.le_iff_toNat_le, UInt8.reduceToNat,
    toNat_ofNat (n := v / 262144 % 8 + 240) (by omega), toNat_ofNat (n := v / 4096 % 64 + 128) (by omega)]
  split_ifs <;> simp only [Bool.and_eq_true, decide_eq_true_eq] <;> omega

/-- The bytes of a character are read as the character. -/
theorem decodeUtf8_utf8EncodeChar (c : Char) (rest : List UInt8) :
    decodeUtf8 (String.utf8EncodeChar c ++ rest) = c :: decodeUtf8 rest := by
  have hchar : ∀ n, n = c.val.toNat → Char.ofNat n = c := fun n hn => hn ▸ Char.ofNat_toNat c
  have hmax := toNat_lt c
  have hsurrogate : c.val.toNat < 0xD800 ∨ 0xDFFF < c.val.toNat := c.valid.imp id fun h => h.1
  unfold String.utf8EncodeChar
  dsimp only
  generalize c.val.toNat = v at hchar hmax hsurrogate
  obtain ⟨hlast, hlow⟩ := isContinuation_ofNat (n := v % 64) (by omega)
  obtain ⟨hnext, hnextLow⟩ := isContinuation_ofNat (n := v / 64 % 64) (by omega)
  obtain ⟨-, hthirdLow⟩ := isContinuation_ofNat (n := v / 4096 % 64) (by omega)
  split_ifs
  · have hlead := toNat_ofNat (n := v) (by omega)
    rw [List.cons_append, List.nil_append, decodeUtf8_one (by omega), hlead, hchar v rfl]
  · have hlead := toNat_ofNat (n := v / 64 % 32 + 192) (by omega)
    rw [List.cons_append, List.cons_append, List.nil_append, decodeUtf8_two (by omega) hlast, hlead, hlow, hchar _ (by omega)]
  · have hlead := toNat_ofNat (n := v / 4096 % 16 + 224) (by omega)
    simp only [List.cons_append, List.nil_append]
    rw [decodeUtf8_three (by omega) (secondOfThree_ofNat (by omega) hsurrogate) hlast, hlead, hlow, hnextLow, hchar _ (by omega)]
  · have hlead := toNat_ofNat (n := v / 262144 % 8 + 240) (by omega)
    simp only [List.cons_append, List.nil_append]
    rw [decodeUtf8_four (by omega) (secondOfFour_ofNat (by omega)) hnext hlast, hlead, hlow, hnextLow, hthirdLow,
      hchar _ (by omega)]

/-! ## Texts -/

/-- Reading the bytes of a text gives its characters. -/
theorem decodeUtf8_utf8 (s : String) : decodeUtf8 (utf8 s) = s.toList := by
  rw [utf8_eq_flatMap]
  induction s.toList with
  | nil => rfl
  | cons c cs ih => rw [List.flatMap_cons, decodeUtf8_utf8EncodeChar, ih]

end TenantGateway.Text
