import Mathlib.Data.List.DropRight
import TenantGateway.Text.Blank

/-!
# Trimming

Trimming only drops blanks at both ends (`exists_eq_append_trim`), and leaves a text alone that begins and ends without a blank
(`trim_eq_self_iff`). It drops all blanks around such a text (`trim_append_of_trimmed`), and a trimmed text is such a text
(`trim_trim`).
-/

namespace TenantGateway.Text

/-- To drop an ending is to drop from the right, so that the lemmas of the library apply. -/
theorem dropEnding_eq_rdropWhile (p : Char → Bool) (cs : List Char) : dropEnding p cs = cs.rdropWhile p := rfl

/-- Trimming drops blanks from the left and then from the right. -/
theorem trim_eq (cs : List Char) : trim cs = (cs.dropWhile isBlankChar).rdropWhile isBlankChar := rfl

/-- Trimming only drops characters. -/
theorem trim_sublist (cs : List Char) : (trim cs).Sublist cs :=
  (List.rdropWhile_prefix isBlankChar _).sublist.trans (List.dropWhile_sublist _)

/-- Nothing is dropped from the right of a text whose last character is of another kind. -/
theorem rdropWhile_eq_self_iff {p : Char → Bool} {cs : List Char} : cs.rdropWhile p = cs ↔ ∀ c ∈ cs.getLast?, p c = false := by
  refine List.rdropWhile_eq_self_iff.trans ⟨fun h c hc => ?_, fun h hne => ?_⟩
  · obtain ⟨hne, rfl⟩ := List.mem_getLast?_eq_getLast hc
    exact Bool.eq_false_iff.2 (h hne)
  · exact Bool.eq_false_iff.1 (h _ (List.getLast?_eq_some_getLast hne))

/-- A text is trimmed when neither its first character nor its last one is blank. -/
theorem trim_eq_self_iff {cs : List Char} :
    trim cs = cs ↔ (∀ c ∈ cs.head?, isBlankChar c = false) ∧ ∀ c ∈ cs.getLast?, isBlankChar c = false := by
  have hfirst : cs.dropWhile isBlankChar = cs ↔ ∀ c ∈ cs.head?, isBlankChar c = false := by
    rw [List.dropWhile_eq_self_iff]
    cases cs <;> simp
  rw [← hfirst, ← rdropWhile_eq_self_iff, trim_eq]
  constructor
  · intro htrim
    have hstart : cs.dropWhile isBlankChar = cs := by
      refine (List.dropWhile_sublist _).eq_of_length_le ?_
      rw [← congrArg List.length htrim]
      exact (List.rdropWhile_prefix _ _).length_le
    rw [hstart] at htrim
    exact ⟨hstart, htrim⟩
  · rintro ⟨hstart, hend⟩
    rw [hstart, hend]

/-- What is dropped are blanks at both ends. -/
theorem exists_eq_append_trim (cs : List Char) : ∃ before after : List Char, (∀ c ∈ before, isBlankChar c = true) ∧
    (∀ c ∈ after, isBlankChar c = true) ∧ cs = before ++ trim cs ++ after := by
  refine ⟨cs.takeWhile isBlankChar, (cs.dropWhile isBlankChar).rtakeWhile isBlankChar, fun c hc => List.mem_takeWhile_imp hc,
    fun c hc => List.mem_rtakeWhile_imp hc, ?_⟩
  have hend : trim cs ++ (cs.dropWhile isBlankChar).rtakeWhile isBlankChar = cs.dropWhile isBlankChar :=
    List.rdropWhile_append_rtakeWhile
  rw [List.append_assoc, hend, List.takeWhile_append_dropWhile]

/-- Trimming leaves a text that neither begins nor ends with a blank. -/
theorem trim_trim (cs : List Char) : trim (trim cs) = trim cs := by
  refine trim_eq_self_iff.2 ⟨fun c hc => ?_, rdropWhile_eq_self_iff.1 (List.rdropWhile_idempotent isBlankChar _)⟩
  obtain ⟨rest, hrest⟩ : ∃ rest, trim cs ++ rest = cs.dropWhile isBlankChar := List.rdropWhile_prefix isBlankChar _
  have hfirst : c ∈ (cs.dropWhile isBlankChar).head? := by
    rw [← hrest, List.head?_append, Option.mem_def.1 hc]
    rfl
  have hkept := List.head?_dropWhile_not isBlankChar cs
  rw [Option.mem_def.1 hfirst] at hkept
  simpa using hkept

/-- Blanks around a trimmed text are dropped. -/
theorem trim_append_of_trimmed {before cs after : List Char} (hbefore : ∀ c ∈ before, isBlankChar c = true) (hcs : trim cs = cs)
    (hafter : ∀ c ∈ after, isBlankChar c = true) : trim (before ++ cs ++ after) = cs := by
  have hreverse : ∀ c ∈ after.reverse, isBlankChar c = true := fun c hc => hafter c (List.mem_reverse.1 hc)
  obtain ⟨hfirst, hlast⟩ := trim_eq_self_iff.1 hcs
  rw [trim_eq, List.append_assoc, List.dropWhile_append_of_pos hbefore]
  cases cs with
  | nil =>
    rw [List.nil_append, List.dropWhile_eq_nil_iff.2 hafter]
    rfl
  | cons c cs =>
    have hkept : (c :: cs ++ after).dropWhile isBlankChar = c :: cs ++ after := by
      rw [List.cons_append, List.dropWhile_cons_of_neg (by simp [hfirst c rfl])]
    rw [hkept, List.rdropWhile, List.reverse_append, List.dropWhile_append_of_pos hreverse]
    exact rdropWhile_eq_self_iff.2 hlast

/-- A trimmed text stays trimmed when characters that are not blank are added to it. -/
theorem trim_append_of_not_blank {cs ds : List Char} (hcs : trim cs = cs) (hne : cs ≠ [])
    (hds : ∀ c ∈ ds, isBlankChar c = false) : trim (cs ++ ds) = cs ++ ds := by
  obtain ⟨hfirst, hlast⟩ := trim_eq_self_iff.1 hcs
  refine trim_eq_self_iff.2 ⟨fun c hc => ?_, fun c hc => ?_⟩
  · rw [List.head?_append_of_ne_nil _ hne] at hc
    exact hfirst c hc
  · cases hd : ds.getLast? with
    | none =>
      rw [List.getLast?_append, hd, Option.none_or] at hc
      exact hlast c hc
    | some d =>
      rw [List.getLast?_append, hd] at hc
      exact hds c (List.mem_of_getLast? (hd.trans hc))

/-- Blanks around a text without blanks are dropped. -/
theorem trim_append {before cs after : List Char} (hbefore : ∀ c ∈ before, isBlankChar c = true)
    (hcs : ∀ c ∈ cs, isBlankChar c = false) (hafter : ∀ c ∈ after, isBlankChar c = true) :
    trim (before ++ cs ++ after) = cs := by
  refine trim_append_of_trimmed hbefore (trim_eq_self_iff.2 ⟨fun c hc => ?_, fun c hc => ?_⟩) hafter
  · exact hcs c (List.mem_of_mem_head? hc)
  · exact hcs c (List.mem_of_getLast? hc)

/-- Blank texts around a text without blanks are trimmed off. -/
theorem trimmed_append {before s after : String} (hbefore : isBlank before = true)
    (hs : ∀ c ∈ s.toList, isBlankChar c = false) (hafter : isBlank after = true) : trimmed (before ++ s ++ after) = s := by
  rw [trimmed, String.toList_append, String.toList_append,
    trim_append (List.all_eq_true.1 hbefore) hs (List.all_eq_true.1 hafter), String.ofList_toList]

end TenantGateway.Text
