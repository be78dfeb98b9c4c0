import Mathlib.Tactic.SplitIfs
import TenantGateway.Base64
import TenantGateway.Proofs.Text.Utf8
import TenantGateway.Text.Blank

/-!
# Reading base64

A character of the alphabet and its value determine each other (`value?_eq_some_iff`), and so do a text and the bytes that it
stands for: what is read is written in one way only, and everything that is written is read (`decode_eq_some_iff`).
-/

namespace TenantGateway.Base64

/-! ## The alphabet -/

/-- A digit has the value that it stands for. -/
theorem value?_digit {n : Nat} (h : n < 64) : value? (digit n) = some n := by
  have hall : ∀ n < 64, value? (digit n) = some n := by decide
  exact hall n h

/-- A character has a value when it is the digit with this value. -/
theorem value?_eq_some_iff {c : Char} {n : Nat} : value? c = some n ↔ n < 64 ∧ digit n = c := by
  constructor
  · intro h
    have hc := Char.ofNat_toNat c
    unfold value? at h
    dsimp only at h
    split_ifs at h <;> obtain rfl := Option.some.inj h <;> refine ⟨by omega, ?_⟩ <;> unfold digit
    · rw [if_pos (by omega), Nat.sub_add_cancel (by omega), hc]
    · rw [if_neg (by omega), if_pos (by omega), Nat.sub_add_cancel (by omega), hc]
    · rw [if_neg (by omega), if_neg (by omega), if_pos (by omega), Nat.add_sub_cancel, hc]
    · rename_i h43
      rw [← hc, h43]
      decide
    · rename_i h47
      rw [← hc, h47]
      decide
  · rintro ⟨hn, rfl⟩
    exact value?_digit hn

/-- No digit is the padding character. -/
theorem digit_ne_pad {n : Nat} (h : n < 64) : digit n ≠ '=' := by
  have hall : ∀ n < 64, digit n ≠ '=' := by decide
  exact hall n h

/-! ## What is written -/

/-- What is written holds no blanks. -/
theorem not_blank_of_mem_encode {bytes : List UInt8} {c : Char} (h : c ∈ encode bytes) : Text.isBlankChar c = false := by
  have hdigit : ∀ n < 64, Text.isBlankChar (digit n) = false := by decide
  have hpad : Text.isBlankChar '=' = false := by decide
  fun_induction encode bytes with
  | case1 => nomatch h
  | case2 a =>
    have ha := a.toNat_lt
    simp only [List.mem_cons, List.not_mem_nil, or_false] at h
    obtain rfl | rfl | rfl | rfl := h
    · exact hdigit _ (by omega)
    · exact hdigit _ (by omega)
    · exact hpad
    · exact hpad
  | case3 a b =>
    have ha := a.toNat_lt
    have hb := b.toNat_lt
    simp only [List.mem_cons, List.not_mem_nil, or_false] at h
    obtain rfl | rfl | rfl | rfl := h
    · exact hdigit _ (by omega)
    · exact hdigit _ (by omega)
    · exact hdigit _ (by omega)
    · exact hpad
  | case4 a b c rest ih =>
    have ha := a.toNat_lt
    have hb := b.toNat_lt
    have hc := c.toNat_lt
    simp only [List.mem_cons] at h
    obtain rfl | rfl | rfl | rfl | h := h
    · exact hdigit _ (by omega)
    · exact hdigit _ (by omega)
    · exact hdigit _ (by omega)
    · exact hdigit _ (by omega)
    · exact ih h

/-! ## What is read -/

theorem ofNat_eq {n : Nat} {a : UInt8} (h : n = a.toNat) : UInt8.ofNat n = a := by
  rw [h, UInt8.ofNat_toNat]

/-- Four digits stand for three bytes, whatever follows. -/
theorem decode_group {x y z w : Nat} (hx : x < 64) (hy : y < 64) (hz : z < 64) (hw : w < 64) (rest : List Char) :
    decode (digit x :: digit y :: digit z :: digit w :: rest) = (decode rest).map fun bytes =>
      UInt8.ofNat (x * 4 + y / 16) :: UInt8.ofNat (y % 16 * 16 + z / 4) :: UInt8.ofNat (z % 4 * 64 + w) :: bytes := by
  have hpad := digit_ne_pad hw
  rw [decode]
  · simp only [value?_digit hx, value?_digit hy, value?_digit hz, value?_digit hw]
    cases decode rest <;> rfl
  · exact fun _ h _ => hpad h
  · exact fun h _ => hpad h

/-- What is written is read. -/
theorem decode_encode (bytes : List UInt8) : decode (encode bytes) = some bytes := by
  fun_induction encode bytes with
  | case1 => rfl
  | case2 a =>
    have ha := a.toNat_lt
    have hx := value?_digit (n := a.toNat / 4) (by omega)
    have hy := value?_digit (n := a.toNat % 4 * 16) (by omega)
    have hbyte : UInt8.ofNat (a.toNat / 4 * 4 + a.toNat % 4 * 16 / 16) = a := ofNat_eq (by omega)
    simp only [decode, hx, hy, Option.bind_eq_bind, Option.bind_some, Nat.mul_mod_left, if_pos, hbyte]
  | case3 a b =>
    have ha := a.toNat_lt
    have hb := b.toNat_lt
    have hx := value?_digit (n := a.toNat / 4) (by omega)
    have hy := value?_digit (n := a.toNat % 4 * 16 + b.toNat / 16) (by omega)
    have hz := value?_digit (n := b.toNat % 16 * 4) (by omega)
    have hpad := digit_ne_pad (n := b.toNat % 16 * 4) (by omega)
    have hfirst : UInt8.ofNat (a.toNat / 4 * 4 + (a.toNat % 4 * 16 + b.toNat / 16) / 16) = a := ofNat_eq (by omega)
    have hsecond : UInt8.ofNat ((a.toNat % 4 * 16 + b.toNat / 16) % 16 * 16 + b.toNat % 16 * 4 / 4) = b := ofNat_eq (by omega)
    rw [decode]
    · simp only [hx, hy, hz, Option.bind_eq_bind, Option.bind_some, Nat.mul_mod_left, if_pos, hfirst, hsecond]
    · exact hpad
  | case4 a b c rest ih =>
    have ha := a.toNat_lt
    have hb := b.toNat_lt
    have hc := c.toNat_lt
    have hfirst : UInt8.ofNat (a.toNat / 4 * 4 + (a.toNat % 4 * 16 + b.toNat / 16) / 16) = a := ofNat_eq (by omega)
    have hsecond : UInt8.ofNat ((a.toNat % 4 * 16 + b.toNat / 16) % 16 * 16 + (b.toNat % 16 * 4 + c.toNat / 64) / 4) = b :=
      ofNat_eq (by omega)
    have hthird : UInt8.ofNat ((b.toNat % 16 * 4 + c.toNat / 64) % 4 * 64 + c.toNat % 64) = c := ofNat_eq (by omega)
    rw [decode_group (by omega) (by omega) (by omega) (by omega), ih, Option.map_some, hfirst, hsecond, hthird]

/-- What is read was written: the padding stands where it has to and the bits that no byte uses are zero. -/
theorem eq_encode_of_decode {cs : List Char} {bytes : List UInt8} (h : decode cs = some bytes) : cs = encode bytes := by
  fun_induction decode cs generalizing bytes with
  | case1 =>
    obtain rfl := Option.some.inj h
    rfl
  | case2 a b =>
    simp only [Option.bind_eq_bind, Option.bind_eq_some_iff, value?_eq_some_iff] at h
    obtain ⟨x, ⟨hx, rfl⟩, y, ⟨hy, rfl⟩, h⟩ := h
    split_ifs at h with hzero
    obtain rfl := Option.some.inj h
    have hfirst : (x * 4 + y / 16) / 4 = x := by omega
    have hsecond : (x * 4 + y / 16) % 4 * 16 = y := by omega
    rw [encode, Text.toNat_ofNat (by omega), hfirst, hsecond]
  | case3 a b c =>
    simp only [Option.bind_eq_bind, Option.bind_eq_some_iff, value?_eq_some_iff] at h
    obtain ⟨x, ⟨hx, rfl⟩, y, ⟨hy, rfl⟩, z, ⟨hz, rfl⟩, h⟩ := h
    split_ifs at h with hzero
    obtain rfl := Option.some.inj h
    have hfirst : (x * 4 + y / 16) / 4 = x := by omega
    have hsecond : (x * 4 + y / 16) % 4 * 16 + (y % 16 * 16 + z / 4) / 16 = y := by omega
    have hthird : (y % 16 * 16 + z / 4) % 16 * 4 = z := by omega
    rw [encode, Text.toNat_ofNat (by omega), Text.toNat_ofNat (by omega), hfirst, hsecond, hthird]
  | case4 a b c d rest _ _ ih =>
    simp only [Option.bind_eq_bind, Option.bind_eq_some_iff, value?_eq_some_iff] at h
    obtain ⟨x, ⟨hx, rfl⟩, y, ⟨hy, rfl⟩, z, ⟨hz, rfl⟩, w, ⟨hw, rfl⟩, more, hmore, h⟩ := h
    obtain rfl := Option.some.inj h
    have hfirst : (x * 4 + y / 16) / 4 = x := by omega
    have hsecond : (x * 4 + y / 16) % 4 * 16 + (y % 16 * 16 + z / 4) / 16 = y := by omega
    have hthird : (y % 16 * 16 + z / 4) % 16 * 4 + (z % 4 * 64 + w) / 64 = z := by omega
    have hfourth : (z % 4 * 64 + w) % 64 = w := by omega
    rw [encode, Text.toNat_ofNat (by omega), Text.toNat_ofNat (by omega), Text.toNat_ofNat (by omega), hfirst, hsecond, hthird,
      hfourth, ← ih hmore]
  | case5 => nomatch h

/-- A text is read as bytes when it is what is written for them. -/
theorem decode_eq_some_iff {cs : List Char} {bytes : List UInt8} : decode cs = some bytes ↔ cs = encode bytes :=
  ⟨eq_encode_of_decode, fun h => h ▸ decode_encode bytes⟩

/-! ## Texts -/

/-- A text is read from another one when this one writes its UTF-8 bytes. -/
theorem decodeText_eq_some_iff {s text : String} : decodeText s = some text ↔ s = encodeText text := by
  have hwritten : s = encodeText text ↔ s.toList = encode (Text.utf8 text) := by
    rw [← String.toList_inj, encodeText, String.toList_ofList]
    rfl
  rw [hwritten, decodeText]
  simp only [Option.bind_eq_bind, Option.bind_eq_some_iff, decode_eq_some_iff, Text.fromUTF8?_eq_some_iff]
  exact ⟨fun ⟨_, hs, hbytes⟩ => hbytes ▸ hs, fun hs => ⟨_, hs, rfl⟩⟩

example : encodeText "s3cret" = "czNjcmV0" ∧ decodeText "czNjcmU=" = some "s3cre" ∧ decodeText "czNjcmV=" = none := by decide

/-- Different texts are written differently. -/
theorem encodeText_injective {text text' : String} (h : encodeText text = encodeText text') : text = text' :=
  Option.some.inj ((decodeText_eq_some_iff.2 rfl).symm.trans (decodeText_eq_some_iff.2 h))

end TenantGateway.Base64
