import Mathlib.Data.List.TakeWhile
import TenantGateway.Http.Form.Writing
import TenantGateway.Http.Target
import TenantGateway.Proofs.Text.Decoding

/-!
# Reading queries

Reading a query gives the pairs that it lists, in whichever way it is written (`decode_of_encodes`): the bytes of a name or a
value are read back first, then a pair, then the pieces between `&`. Every list of pairs can be written (`encodes_encodeText`), and
what is written so can stand in a target (`isQueryChar_of_mem_encodeText`, `Target.parse?_append`).
-/

namespace TenantGateway.Http.Form

/-! ## Names and values -/

theorem decodeBytes_cons {b : UInt8} (h : b ≠ 37) (rest : List UInt8) :
    decodeBytes (b :: rest) = (if b = 43 then 32 else b) :: decodeBytes rest := by
  rw [decodeBytes]
  exact fun _ _ _ hb => absurd hb h

/-- A `%` with two digits behind it stands for the byte that they give. -/
theorem decodeBytes_escape {a b x y : UInt8} (ha : hexValue? a = some x) (hb : hexValue? b = some y) (rest : List UInt8) :
    decodeBytes (37 :: a :: b :: rest) = (x * 16 + y) :: decodeBytes rest := by
  rw [decodeBytes, ha, hb]

/-- A `%` without two digits behind it stands for itself. -/
theorem decodeBytes_percent {rest : List UInt8} (h : startsWithDigits rest = false) :
    decodeBytes (37 :: rest) = 37 :: decodeBytes rest := by
  rcases rest with _ | ⟨a, _ | ⟨b, rest⟩⟩
  · rfl
  · rfl
  · rw [decodeBytes]
    cases ha : hexValue? a with
    | none => rfl
    | some x =>
      cases hb : hexValue? b with
      | none => rfl
      | some y => simp [startsWithDigits, ha, hb] at h

/-- Reading gives the bytes that are written. -/
theorem Writes.decodeBytes_eq {written bytes : List UInt8} (h : Writes written bytes) : decodeBytes written = bytes := by
  induction h with
  | nil => rfl
  | plain hb _ ih => rw [decodeBytes_cons hb.1, if_neg hb.2.2, ih]
  | space _ ih => rw [decodeBytes_cons (by decide), if_pos rfl, ih]
  | escape ha hb _ ih => rw [decodeBytes_escape ha hb, ih]
  | percent hdigits _ ih => rw [decodeBytes_percent hdigits, ih]

/-- What is written holds no `&`. -/
theorem Writes.and_notMem {written bytes : List UInt8} (h : Writes written bytes) : 38 ∉ written := by
  have hdigit : ∀ {c x : UInt8}, hexValue? c = some x → 38 ≠ c := by
    rintro c x hc rfl
    nomatch hc
  induction h with
  | nil => exact List.not_mem_nil
  | plain hb _ ih => exact List.not_mem_cons_of_ne_of_not_mem hb.2.1.symm ih
  | space _ ih => exact List.not_mem_cons_of_ne_of_not_mem (by decide) ih
  | escape ha hb _ ih =>
    refine List.not_mem_cons_of_ne_of_not_mem (by decide) ?_
    exact List.not_mem_cons_of_ne_of_not_mem (hdigit ha) (List.not_mem_cons_of_ne_of_not_mem (hdigit hb) ih)
  | percent _ _ ih => exact List.not_mem_cons_of_ne_of_not_mem (by decide) ih

/-- Bytes without `&` write what is read from them. A `%` with less than two bytes behind it stands for itself. -/
theorem writes_decodeBytes {written : List UInt8} (h : 38 ∉ written) : Writes written (decodeBytes written) := by
  fun_induction decodeBytes written with
  | case1 => exact .nil
  | case2 a b rest x y hb ha ih => exact .escape ha hb (ih fun hmem => h (by simp [hmem]))
  | case3 a b rest hnot ih =>
    refine .percent ?_ (ih fun hmem => h (List.mem_cons_of_mem 37 hmem))
    cases ha : hexValue? a with
    | none => simp [startsWithDigits, ha]
    | some x =>
      cases hb : hexValue? b with
      | none => simp [startsWithDigits, ha, hb]
      | some y => exact absurd hb (hnot x y ha)
  | case4 b rest hnot ih =>
    have hrest := ih fun hmem => h (List.mem_cons_of_mem b hmem)
    by_cases hpercent : b = 37
    · subst hpercent
      refine .percent ?_ hrest
      rcases rest with _ | ⟨a, _ | ⟨c, rest⟩⟩
      · rfl
      · rfl
      · exact absurd rfl (hnot a c rest rfl)
    · split_ifs with hplus
      · rw [hplus]
        exact .space hrest
      · exact .plain ⟨hpercent, fun hand => h (hand ▸ List.mem_cons_self), hplus⟩ hrest

/-- Bytes write what is read from them, when there is no `&` among them. -/
theorem writes_iff {written bytes : List UInt8} : Writes written bytes ↔ 38 ∉ written ∧ decodeBytes written = bytes := by
  constructor
  · exact fun h => ⟨h.and_notMem, h.decodeBytes_eq⟩
  · rintro ⟨hand, rfl⟩
    exact writes_decodeBytes hand

/-- Reading gives the text whose bytes are written. -/
theorem Writes.decodeComponent_eq {written : List UInt8} {s : String} (h : Writes written (Text.utf8 s)) :
    decodeComponent written = s := by
  rw [decodeComponent, h.decodeBytes_eq, Text.decodeUtf8_utf8, String.ofList_toList]

/-! ## Pairs -/

variable {pieces : List (List UInt8)} {pairs : List (String × String)}

/-- A name with `=` behind it is cut off there. -/
theorem decodePair_append {writtenName : List UInt8} (hcut : 61 ∉ writtenName) (writtenValue : List UInt8) :
    decodePair (writtenName ++ 61 :: writtenValue) = (decodeComponent writtenName, decodeComponent writtenValue) := by
  have hname : ∀ b ∈ writtenName, (b != 61) = true := fun b hb => bne_iff_ne.2 fun h => hcut (h ▸ hb)
  rw [decodePair, List.takeWhile_append_of_pos hname, List.dropWhile_append_of_pos hname, List.takeWhile_cons_of_neg (by decide),
    List.dropWhile_cons_of_neg (by decide), List.append_nil, List.drop_one, List.tail_cons]

/-- Without `=`, all of it is the name. -/
theorem decodePair_valueless {writtenName : List UInt8} (hcut : 61 ∉ writtenName) :
    decodePair writtenName = (decodeComponent writtenName, "") := by
  have hname : ∀ b ∈ writtenName, (b != 61) = true := fun b hb => bne_iff_ne.2 fun h => hcut (h ▸ hb)
  rw [decodePair, List.takeWhile_eq_self_iff.2 hname, List.dropWhile_eq_nil_iff.2 hname]
  rfl

/-- No piece holds the `&` that stands between pieces. -/
theorem WritesPairs.and_notMem (h : WritesPairs pieces pairs) : ∀ piece ∈ pieces, 38 ∉ piece := by
  induction h with
  | nil => exact fun _ hmem => absurd hmem List.not_mem_nil
  | empty _ ih => exact List.forall_mem_cons.2 ⟨List.not_mem_nil, ih⟩
  | pair hname _ hvalue _ ih =>
    refine List.forall_mem_cons.2 ⟨fun hmem => ?_, ih⟩
    rcases List.mem_append.1 hmem with hmem | hmem
    · exact hname.and_notMem hmem
    · exact (List.mem_cons.1 hmem).elim (by decide) hvalue.and_notMem
  | valueless hname _ _ _ ih => exact List.forall_mem_cons.2 ⟨hname.and_notMem, ih⟩

/-- Reading the pieces that are not empty gives the pairs. -/
theorem WritesPairs.decoded (h : WritesPairs pieces pairs) :
    (pieces.filter (fun piece => !piece.isEmpty)).map decodePair = pairs := by
  induction h with
  | nil => rfl
  | empty _ ih => exact ih
  | pair hname hcut hvalue _ ih =>
    rw [List.filter_cons_of_pos (by simp), List.map_cons, decodePair_append hcut, hname.decodeComponent_eq,
      hvalue.decodeComponent_eq, ih]
  | valueless hname hcut hne _ ih =>
    rw [List.filter_cons_of_pos (by simpa using hne), List.map_cons, decodePair_valueless hcut, hname.decodeComponent_eq, ih]

/-- Reading a query gives the pairs that it lists. No pieces and one empty piece are written alike, and neither is a pair. -/
theorem decode_of_encodes {query : String} (h : Encodes query pairs) : decode query = pairs := by
  obtain ⟨pieces, hpieces, hquery⟩ := h
  rw [decode, hquery]
  cases pieces with
  | nil =>
    cases hpieces
    rfl
  | cons piece pieces =>
    rw [List.splitOn_intercalate 38 hpieces.and_notMem (List.cons_ne_nil _ _)]
    exact hpieces.decoded

/-! ## Writing -/

/-- A digit has the value that it is written for, and is written as it is. -/
theorem hexDigit_spec {n : UInt8} (h : n.toNat < 16) : hexValue? (hexDigit n) = some n ∧ isPlain (hexDigit n) = true := by
  have hall : ∀ m < 16, hexValue? (hexDigit (UInt8.ofNat m)) = some (UInt8.ofNat m) ∧
      isPlain (hexDigit (UInt8.ofNat m)) = true := by decide
  have hn := hall n.toNat h
  rwa [UInt8.ofNat_toNat] at hn

/-- The first digit of a byte gives its greater half. -/
theorem hexDigit_div (b : UInt8) :
    hexValue? (hexDigit (b / 16)) = some (b / 16) ∧ isPlain (hexDigit (b / 16)) = true := by
  have hb := b.toNat_lt
  have hdiv : (b / 16).toNat = b.toNat / 16 := UInt8.toNat_div b 16
  exact hexDigit_spec (by omega)

/-- The second digit of a byte gives its lesser half. -/
theorem hexDigit_mod (b : UInt8) :
    hexValue? (hexDigit (b % 16)) = some (b % 16) ∧ isPlain (hexDigit (b % 16)) = true := by
  have hmod : (b % 16).toNat = b.toNat % 16 := UInt8.toNat_mod b 16
  exact hexDigit_spec (by omega)

/-- A byte is made of its halves. -/
theorem halves (b : UInt8) : b / 16 * 16 + b % 16 = b := by
  have hb := b.toNat_lt
  rw [← UInt8.toNat_inj]
  simp only [UInt8.toNat_add, UInt8.toNat_mul, UInt8.toNat_div, UInt8.toNat_mod, UInt8.reduceToNat]
  omega

/-- A byte that is written as it is has no meaning of its own. -/
theorem ne_of_isPlain {b : UInt8} (h : isPlain b = true) : b ≠ 37 ∧ b ≠ 38 ∧ b ≠ 43 ∧ b ≠ 61 := by
  refine ⟨?_, ?_, ?_, ?_⟩ <;> rintro rfl <;> exact absurd h (by decide)

/-- What is written for a byte is the byte. -/
theorem writes_encodeByte (b : UInt8) {written bytes : List UInt8} (rest : Writes written bytes) :
    Writes (encodeByte b ++ written) (b :: bytes) := by
  unfold encodeByte
  split_ifs with hplain hspace
  · obtain ⟨hpercent, hand, hplus, -⟩ := ne_of_isPlain hplain
    exact .plain ⟨hpercent, hand, hplus⟩ rest
  · rw [hspace]
    exact .space rest
  · have hescape := Writes.escape (hexDigit_div b).1 (hexDigit_mod b).1 rest
    rwa [halves] at hescape

/-- What is written for a text is its bytes. -/
theorem writes_encodeComponent (s : String) : Writes (encodeComponent s) (Text.utf8 s) := by
  unfold encodeComponent
  induction Text.utf8 s with
  | nil => exact .nil
  | cons b bytes ih => exact writes_encodeByte b ih

/-- What is written for a text holds plain bytes and those that write others. -/
theorem mem_encodeComponent {b : UInt8} {s : String} (h : b ∈ encodeComponent s) : isPlain b = true ∨ b = 37 ∨ b = 43 := by
  obtain ⟨c, -, hb⟩ := List.mem_flatMap.1 h
  unfold encodeByte at hb
  split_ifs at hb with hplain hspace
  · rw [List.mem_singleton.1 hb]
    exact .inl hplain
  · exact .inr (.inr (List.mem_singleton.1 hb))
  · simp only [List.mem_cons, List.not_mem_nil, or_false] at hb
    rcases hb with rfl | rfl | rfl
    · exact .inr (.inl rfl)
    · exact .inl (hexDigit_div c).2
    · exact .inl (hexDigit_mod c).2

/-- What is written for pairs writes them. -/
theorem writesPairs_encodePair (pairs : List (String × String)) : WritesPairs (pairs.map encodePair) pairs := by
  induction pairs with
  | nil => exact .nil
  | cons pair pairs ih =>
    refine .pair (writes_encodeComponent pair.1) (fun hmem => ?_) (writes_encodeComponent pair.2) ih
    rcases mem_encodeComponent hmem with hplain | hne | hne
    · exact (ne_of_isPlain hplain).2.2.2 rfl
    · exact absurd hne (by decide)
    · exact absurd hne (by decide)

/-! ## Queries as texts -/

/-- What is written for pairs is written for their names and values, or stands between them. -/
theorem mem_encode {b : UInt8} (h : b ∈ encode pairs) : isPlain b = true ∨ b ∈ [37, 38, 43, 61] := by
  have hcomponent : ∀ {s : String}, b ∈ encodeComponent s → isPlain b = true ∨ b ∈ [37, 38, 43, 61] := fun hb =>
    (mem_encodeComponent hb).imp_right fun hne => by rcases hne with rfl | rfl <;> decide
  have hpair : ∀ {pair : String × String}, b ∈ encodePair pair → isPlain b = true ∨ b ∈ [37, 38, 43, 61] := by
    intro pair hb
    rcases List.mem_append.1 hb with hb | hb
    · exact hcomponent hb
    · rcases List.mem_cons.1 hb with rfl | hb
      · exact .inr (by decide)
      · exact hcomponent hb
  unfold encode at h
  induction pairs with
  | nil => nomatch h
  | cons pair pairs ih =>
    cases pairs with
    | nil =>
      rw [List.map_singleton, List.intercalate_singleton] at h
      exact hpair h
    | cons next pairs =>
      rw [List.map_cons, List.map_cons, List.intercalate_cons_cons, List.append_assoc] at h
      rcases List.mem_append.1 h with hb | hb
      · exact hpair hb
      · rcases List.mem_cons.1 hb with rfl | hb
        · exact .inr (by decide)
        · exact ih hb

/-- What is written for pairs is ASCII, and can stand in a query. -/
theorem char_of_mem_encode {b : UInt8} (h : b ∈ encode pairs) :
    b.toNat < 128 ∧ Target.isQueryChar (Char.ofNat b.toNat) = true := by
  have hlt : b.toNat < 128 := by
    rcases mem_encode h with hplain | hmem
    · simp only [isPlain, UInt8.le_iff_toNat_le, UInt8.reduceToNat, Bool.or_eq_true, Bool.and_eq_true, decide_eq_true_eq,
        beq_iff_eq, ← UInt8.toNat_inj] at hplain
      omega
    · simp only [List.mem_cons, List.not_mem_nil, or_false] at hmem
      rcases hmem with rfl | rfl | rfl | rfl <;> decide
  have hall : ∀ n < 128, (isPlain (UInt8.ofNat n) = true ∨ UInt8.ofNat n ∈ [37, 38, 43, 61]) →
      Target.isQueryChar (Char.ofNat n) = true := by decide
  refine ⟨hlt, hall b.toNat hlt ?_⟩
  rw [UInt8.ofNat_toNat]
  exact mem_encode h

/-- The bytes of the query that lists the given pairs. -/
theorem utf8_encodeText (pairs : List (String × String)) : Text.utf8 (encodeText pairs) = encode pairs :=
  Text.utf8_ofList_ofNat fun _ hb => (char_of_mem_encode hb).1

/-- Every list of pairs is listed by a query. -/
theorem encodes_encodeText (pairs : List (String × String)) : Encodes (encodeText pairs) pairs :=
  ⟨pairs.map encodePair, writesPairs_encodePair pairs, utf8_encodeText pairs⟩

/-- The query that lists pairs can stand in a target. -/
theorem isQueryChar_of_mem_encodeText {c : Char} (h : c ∈ (encodeText pairs).toList) : Target.isQueryChar c = true := by
  rw [encodeText, String.toList_ofList] at h
  obtain ⟨b, hb, rfl⟩ := List.mem_map.1 h
  exact (char_of_mem_encode hb).2

end TenantGateway.Http.Form

namespace TenantGateway.Http.Target

/-! ## Targets -/

theorem ne_of_isPathChar {c : Char} (h : isPathChar c = true) : c ≠ '#' ∧ c ≠ '?' := by
  constructor <;> rintro rfl <;> exact absurd h (by decide)

theorem ne_of_isQueryChar {c : Char} (h : isQueryChar c = true) : c ≠ '#' := by
  rintro rfl
  exact absurd h (by decide)

/-- A path and a query with `?` between them are read as such. -/
theorem ofPath?_append {path query : List Char} (hne : path ≠ []) (hpath : ∀ c ∈ path, isPathChar c = true)
    (hquery : ∀ c ∈ query, isQueryChar c = true) :
    ofPath? (path ++ '?' :: query) = some ⟨String.ofList path, some (String.ofList query)⟩ := by
  have hwhole : (path ++ '?' :: query).takeWhile (· != '#') = path ++ '?' :: query := by
    refine List.takeWhile_eq_self_iff.2 fun c hc => bne_iff_ne.2 ?_
    rcases List.mem_append.1 hc with hc | hc
    · exact (ne_of_isPathChar (hpath c hc)).1
    · rcases List.mem_cons.1 hc with rfl | hc
      · decide
      · exact ne_of_isQueryChar (hquery c hc)
  have hmark : ∀ c ∈ path, (c != '?') = true := fun c hc => bne_iff_ne.2 (ne_of_isPathChar (hpath c hc)).2
  have hbefore : (path ++ '?' :: query).takeWhile (· != '?') = path := by
    rw [List.takeWhile_append_of_pos hmark, List.takeWhile_cons_of_neg (by decide), List.append_nil]
  have hbehind : (path ++ '?' :: query).dropWhile (· != '?') = '?' :: query := by
    rw [List.dropWhile_append_of_pos hmark, List.dropWhile_cons_of_neg (by decide)]
  unfold ofPath?
  simp only [hwhole, hbefore, hbehind, List.drop_succ_cons, List.drop_zero, List.all_eq_true.2 hpath, List.all_eq_true.2 hquery,
    Bool.and_self, if_true, List.isEmpty_iff, hne, if_false, reduceCtorEq]

/-- A text that spells an absolute path and a query is read as such, unless it is too long. -/
theorem parse?_append {path query : String} (hroot : path.toList.head? = some '/')
    (hpath : ∀ c ∈ path.toList, isPathChar c = true) (hquery : ∀ c ∈ query.toList, isQueryChar c = true)
    (hlength : (path ++ "?" ++ query).utf8ByteSize ≤ maxLength) : parse? (path ++ "?" ++ query) = some ⟨path, some query⟩ := by
  obtain ⟨rest, hrest⟩ := List.head?_eq_some_iff.1 hroot
  have hchars : (path ++ "?" ++ query).toList = path.toList ++ '?' :: query.toList := by
    rw [String.toList_append, String.toList_append, List.append_assoc]
    rfl
  have htarget := ofPath?_append (hrest ▸ List.cons_ne_nil '/' rest) hpath hquery
  rw [parse?, if_neg (Nat.not_lt.2 hlength), hchars]
  rw [String.ofList_toList, String.ofList_toList, hrest] at htarget
  rw [hrest]
  exact htarget

end TenantGateway.Http.Target
