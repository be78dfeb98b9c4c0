import Mathlib.Tactic.MkIffOfInductiveProp
import TenantGateway.Host
import TenantGateway.Proofs.Text.Blank

/-!
# Normalising a host twice

A normalised host may still have something to drop: a dot at its end may have hidden a port, and its brackets whatever stood
between them. Normalising it once more leaves it alone exactly when it has no blanks around it, no opening bracket and no port
(`Host.normalize_eq_self_iff`).
-/

namespace TenantGateway

namespace Host

/-- A text that has no blanks around it, no opening bracket and no port: no first colon with digits only after it. -/
@[mk_iff]
structure Bare (name : String) : Prop where
  trimmed : Text.trim name.toList = name.toList
  unbracketed : ∀ rest, name.toList ≠ '[' :: rest
  portless : ∀ before port, name.toList = before ++ ':' :: port → ':' ∉ before → port.all Char.isDigit = false

/-! ## Ports -/

/-- Dropping the port, and the brackets, only drops characters. -/
theorem withoutPort_sublist (cs : List Char) : (withoutPort cs).Sublist cs := by
  unfold withoutPort
  split
  · exact (List.takeWhile_sublist _).trans (List.sublist_cons_self _ _)
  · split
    · split
      · exact List.takeWhile_sublist _
      · exact List.Sublist.refl _
    · exact List.Sublist.refl _

/-- What follows the first colon of a text. -/
theorem dropWhile_eq_colon_iff {cs port : List Char} :
    cs.dropWhile (· != ':') = ':' :: port ↔ ∃ before, cs = before ++ ':' :: port ∧ ':' ∉ before := by
  constructor
  · intro hdrop
    refine ⟨cs.takeWhile (· != ':'), ?_, fun hmem => ?_⟩
    · rw [← hdrop, List.takeWhile_append_dropWhile]
    · exact absurd (List.mem_takeWhile_imp hmem) (by decide)
  · rintro ⟨before, rfl, hbefore⟩
    have hskip : ∀ c ∈ before, (c != ':') = true := by
      intro c hc
      exact bne_iff_ne.2 fun he => hbefore (he ▸ hc)
    rw [List.dropWhile_append_of_pos hskip]
    rfl

/-- Dropping the port leaves a text alone unless an opening bracket begins it or its first colon has digits only after it. -/
theorem withoutPort_eq_self_iff (cs : List Char) :
    withoutPort cs = cs ↔ (∀ rest, cs ≠ '[' :: rest) ∧
      ∀ before port, cs = before ++ ':' :: port → ':' ∉ before → port.all Char.isDigit = false := by
  unfold withoutPort
  split
  · rename_i rest
    refine ⟨fun he => ?_, fun ⟨hbracket, _⟩ => absurd rfl (hbracket rest)⟩
    have hlength := congrArg List.length he
    have hle := (List.takeWhile_sublist (· != ']') (l := rest)).length_le
    simp only [List.length_cons] at hlength
    omega
  · rename_i hbracket
    have hsplit : ∀ before port, cs = before ++ ':' :: port → ':' ∉ before → cs.dropWhile (· != ':') = ':' :: port :=
      fun before port hcs hbefore => dropWhile_eq_colon_iff.2 ⟨before, hcs, hbefore⟩
    split
    · rename_i port hport
      obtain ⟨before, hcs, hbefore⟩ := dropWhile_eq_colon_iff.1 hport
      split
      · rename_i hdigits
        refine ⟨fun he => ?_, fun ⟨_, hall⟩ => ?_⟩
        · have hcolon : ':' ∈ cs.takeWhile (· != ':') := by
            rw [he, hcs]
            simp
          exact absurd (List.mem_takeWhile_imp hcolon) (by decide)
        · exact absurd hdigits (by simp [hall before port hcs hbefore])
      · rename_i hdigits
        refine ⟨fun _ => ⟨hbracket, fun before' port' hcs' hbefore' => ?_⟩, fun _ => rfl⟩
        have hsame := (hsplit before' port' hcs' hbefore').symm.trans hport
        rw [(List.cons.inj hsame).2]
        exact Bool.eq_false_iff.2 hdigits
    · rename_i hnone
      refine ⟨fun _ => ⟨hbracket, fun before port hcs hbefore => ?_⟩, fun _ => rfl⟩
      exact absurd (hsplit before port hcs hbefore) (hnone port)

/-! ## Dots and capital letters -/

/-- Only the letters A to Z change their case. -/
theorem toNat_toLower (c : Char) :
    c.toLower.toNat = if 65 ≤ c.toNat ∧ c.toNat ≤ 90 then c.toNat + 32 else c.toNat := by
  have hbounds : c.val ≥ 'A'.val ∧ c.val ≤ 'Z'.val ↔ 65 ≤ c.toNat ∧ c.toNat ≤ 90 := by
    simp only [ge_iff_le, UInt32.le_iff_toNat_le]
    exact Iff.rfl
  unfold Char.toLower
  by_cases hcapital : 65 ≤ c.toNat ∧ c.toNat ≤ 90
  · rw [dif_pos (hbounds.2 hcapital), if_pos hcapital]
    change (c.val + ('a'.val - 'A'.val)).toNat = c.val.toNat + 32
    have hshift : ('a'.val - 'A'.val).toNat = 32 := by decide
    have hle : c.val.toNat ≤ 90 := hcapital.2
    rw [UInt32.toNat_add]
    omega
  · rw [dif_neg (mt hbounds.1 hcapital), if_neg hcapital]

theorem toLower_toLower (c : Char) : c.toLower.toLower = c.toLower := by
  rw [← Char.toNat_inj, toNat_toLower c.toLower, if_neg]
  rw [toNat_toLower]
  split <;> omega

/-- Changing the case neither makes nor loses a character that is no letter. -/
theorem toLower_eq_iff {c d : Char} (hd : d.toNat < 65 ∨ 90 < d.toNat ∧ d.toNat < 97 ∨ 122 < d.toNat) :
    c.toLower = d ↔ c = d := by
  rw [← Char.toNat_inj, ← Char.toNat_inj, toNat_toLower]
  split <;> omega

/-- No letter is blank. -/
theorem not_blank_of_letter {c : Char} (h : 65 ≤ c.toNat ∧ c.toNat ≤ 122) : Text.isBlankChar c = false := by
  simp only [Text.isBlankChar, Bool.or_eq_false_iff, Bool.and_eq_false_iff, decide_eq_false_iff_not, beq_eq_false_iff_ne]
  omega

/-- Changing the case neither makes nor loses a blank. -/
theorem isBlankChar_toLower (c : Char) : Text.isBlankChar c.toLower = Text.isBlankChar c := by
  have hlower := toNat_toLower c
  by_cases hcapital : 65 ≤ c.toNat ∧ c.toNat ≤ 90
  · rw [if_pos hcapital] at hlower
    rw [not_blank_of_letter (c := c) (by omega), not_blank_of_letter (c := c.toLower) (by omega)]
  · rw [if_neg hcapital] at hlower
    rw [Char.toNat_inj.1 hlower]

/-- Changing the case neither makes nor loses a dot at the end. -/
theorem rdropWhile_map_toLower (cs : List Char) :
    (cs.map Char.toLower).rdropWhile (· == '.') = (cs.rdropWhile (· == '.')).map Char.toLower := by
  have hdot : ∀ c : Char, (c.toLower == '.') = (c == '.') := by
    intro c
    rw [Bool.eq_iff_iff, beq_iff_eq, beq_iff_eq, toLower_eq_iff (by decide)]
  unfold List.rdropWhile
  rw [← List.map_reverse, List.dropWhile_map, ← List.map_reverse]
  congr 3
  exact funext hdot

/-- A normalised text has no dots at the end. -/
theorem rdropWhile_normalizeChars (cs : List Char) : (normalizeChars cs).rdropWhile (· == '.') = normalizeChars cs := by
  rw [normalizeChars, Text.dropEnding_eq_rdropWhile, rdropWhile_map_toLower]
  exact congrArg _ (List.rdropWhile_idempotent _ _)

/-- A normalised text has no capital letters. -/
theorem map_toLower_normalizeChars (cs : List Char) : (normalizeChars cs).map Char.toLower = normalizeChars cs := by
  rw [normalizeChars, List.map_map]
  exact List.map_congr_left fun c _ => toLower_toLower c

/-- Since a normalised text has no dots at the end and no capital letters, only blanks, brackets and ports can be left in it. -/
theorem normalizeChars_normalizeChars (cs : List Char) :
    normalizeChars (normalizeChars cs) = normalizeChars cs ↔
      Text.trim (normalizeChars cs) = normalizeChars cs ∧ withoutPort (normalizeChars cs) = normalizeChars cs := by
  have hdots := rdropWhile_normalizeChars cs
  have hlower := map_toLower_normalizeChars cs
  generalize normalizeChars cs = name at hdots hlower ⊢
  have htrim := Text.trim_sublist name
  have hport := withoutPort_sublist (Text.trim name)
  have hend := (List.rdropWhile_prefix (· == '.') (withoutPort (Text.trim name))).sublist
  constructor
  · intro he
    have hlength : name.length = ((withoutPort (Text.trim name)).rdropWhile (· == '.')).length := by
      rw [← congrArg List.length he, normalizeChars, List.length_map, Text.dropEnding_eq_rdropWhile]
    have htrim' : Text.trim name = name := htrim.eq_of_length_le (by
      have := hport.length_le
      have := hend.length_le
      omega)
    rw [htrim'] at hport hend hlength
    exact ⟨htrim', hport.eq_of_length_le (by have := hend.length_le; omega)⟩
  · rintro ⟨htrim', hport'⟩
    rw [normalizeChars, htrim', hport', Text.dropEnding_eq_rdropWhile, hdots, hlower]

/-! ## Normalised hosts -/

/-- A host has a normal form when something is left of it. -/
theorem normalize_eq_some_iff {host name : String} :
    normalize host = some name ↔ normalizeChars host.toList = name.toList ∧ name.toList ≠ [] := by
  unfold normalize
  cases normalizeChars host.toList with
  | nil =>
    refine ⟨fun he => (nomatch he), ?_⟩
    rintro ⟨he, hne⟩
    exact absurd he.symm hne
  | cons c cs =>
    constructor
    · intro he
      obtain rfl := Option.some.inj he
      simp
    · rintro ⟨he, -⟩
      simp [he]

/-- A normalised host is its own normalised form exactly when it has no blanks around it, no opening bracket and no port. -/
theorem normalize_eq_self_iff {host name : String} (h : normalize host = some name) :
    normalize name = some name ↔ Bare name := by
  obtain ⟨hchars, hne⟩ := normalize_eq_some_iff.1 h
  rw [normalize_eq_some_iff, and_iff_left hne, bare_iff, ← withoutPort_eq_self_iff, ← hchars]
  exact normalizeChars_normalizeChars host.toList

end Host

end TenantGateway
