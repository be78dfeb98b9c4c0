import TenantGateway.Proofs.Text.Blank
import TenantGateway.Text.Separated

/-!
# Lists read back

A comma is no blank, so padding an item never moves a comma, and the pieces of a text are its own again when it is split
(`commaItems_joinCommas`). Every text is one that lists what is read from it (`exists_padded`), and what is read from it can be
listed again (`isItem_of_mem_commaItems`).
-/

namespace TenantGateway.Text

/-! ## Items -/

/-- An item is a text that trimming leaves alone. -/
theorem IsItem.trim {item : String} (h : IsItem item) : Text.trim item.toList = item.toList :=
  trim_eq_self_iff.2 ⟨h.first, h.last⟩

/-- What trimming leaves of a text without commas is an item, if anything is left. -/
theorem isItem_trim {cs : List Char} (hne : trim cs ≠ []) (hcomma : ',' ∉ cs) : IsItem (String.ofList (trim cs)) := by
  obtain ⟨hfirst, hlast⟩ := trim_eq_self_iff.1 (trim_trim cs)
  refine ⟨fun hempty => hne ?_, ?_, ?_, ?_⟩
  · rw [← String.toList_ofList (l := trim cs), hempty]
    rfl
  · rw [String.toList_ofList]
    exact fun hmem => hcomma ((trim_sublist cs).subset hmem)
  · rwa [String.toList_ofList]
  · rwa [String.toList_ofList]

/-! ## Pieces -/

theorem toList_joinCommas (pieces : List String) : (joinCommas pieces).toList = [','].intercalate (pieces.map String.toList) :=
  String.toList_ofList

/-- A comma is no blank. -/
theorem comma_notMem_of_isBlank {s : String} (h : isBlank s = true) : ',' ∉ s.toList := fun hmem =>
  absurd (List.all_eq_true.1 h _ hmem) (by decide)

/-- No piece between commas holds a comma. -/
theorem comma_notMem_of_mem_splitOn {cs piece : List Char} (h : piece ∈ cs.splitOn ',') : ',' ∉ piece := by
  induction cs generalizing piece with
  | nil =>
    rw [List.splitOn_nil, List.mem_singleton] at h
    simp [h]
  | cons c cs ih =>
    rw [List.splitOn_cons_eq_if_modifyHead] at h
    split at h
    · rcases List.mem_cons.1 h with rfl | h
      · simp
      · exact ih h
    · rename_i hc
      obtain ⟨first, rest, hsplit⟩ := List.exists_cons_of_ne_nil (List.splitOn_ne_nil ',' cs)
      rw [hsplit, List.modifyHead_cons] at h
      rcases List.mem_cons.1 h with rfl | h
      · have hfirst := ih (hsplit ▸ List.mem_cons_self)
        rw [List.mem_cons, not_or]
        exact ⟨fun he => hc (beq_iff_eq.2 he.symm), hfirst⟩
      · exact ih (hsplit ▸ List.mem_cons_of_mem first h)

variable {items pieces : List String}

/-- Pieces that list items hold no comma. -/
theorem Padded.no_comma (h : Padded items pieces) (hitems : ∀ item ∈ items, IsItem item) :
    ∀ piece ∈ pieces, ',' ∉ piece.toList := by
  induction h with
  | nil => simp
  | blank hpiece _ ih => exact List.forall_mem_cons.2 ⟨comma_notMem_of_isBlank hpiece, ih hitems⟩
  | item hbefore hafter _ ih =>
    obtain ⟨hitem, hitems⟩ := List.forall_mem_cons.1 hitems
    refine List.forall_mem_cons.2 ⟨?_, ih hitems⟩
    simp only [String.toList_append, List.mem_append, not_or]
    exact ⟨⟨comma_notMem_of_isBlank hbefore, hitem.no_comma⟩, comma_notMem_of_isBlank hafter⟩

/-- Trimming the pieces and dropping the empty ones leaves the items. -/
theorem Padded.trimmed (h : Padded items pieces) (hitems : ∀ item ∈ items, IsItem item) :
    (((pieces.map String.toList).map Text.trim).filter fun item => !item.isEmpty).map String.ofList = items := by
  induction h with
  | nil => rfl
  | blank hpiece _ ih =>
    rw [List.map_cons, List.map_cons, trim_of_all_blank hpiece, List.filter_cons_of_neg (by simp)]
    exact ih hitems
  | @item items pieces before item after hbefore hafter _ ih =>
    obtain ⟨hitem, hitems⟩ := List.forall_mem_cons.1 hitems
    have htrim : Text.trim (before ++ item ++ after).toList = item.toList := by
      rw [String.toList_append, String.toList_append]
      exact trim_append_of_trimmed (List.all_eq_true.1 hbefore) hitem.trim (List.all_eq_true.1 hafter)
    rw [List.map_cons, List.map_cons, htrim, List.filter_cons_of_pos (by simpa using hitem.ne_empty), List.map_cons, ih hitems,
      String.ofList_toList]

/-- Items list themselves, with no blanks around them. -/
theorem padded_self (items : List String) : Padded items items := by
  induction items with
  | nil => exact .nil
  | cons item items ih =>
    have hpadded := @Padded.item items items "" item "" rfl rfl ih
    rwa [String.empty_append, String.append_empty] at hpadded

/-- Trimming pieces and dropping the empty ones leaves items that the pieces list. -/
theorem padded_trim (pieces : List (List Char)) :
    Padded (((pieces.map trim).filter fun item => !item.isEmpty).map String.ofList) (pieces.map String.ofList) := by
  induction pieces with
  | nil => exact .nil
  | cons piece pieces ih =>
    obtain ⟨before, after, hbefore, hafter, hpiece⟩ := exists_eq_append_trim piece
    have hisBlank : ∀ cs : List Char, (∀ c ∈ cs, isBlankChar c = true) → isBlank (String.ofList cs) = true := fun cs hcs => by
      rw [isBlank, String.toList_ofList]
      exact List.all_eq_true.2 hcs
    rw [List.map_cons, List.map_cons]
    by_cases hempty : trim piece = []
    · rw [hempty, List.filter_cons_of_neg (by simp)]
      refine .blank (hisBlank piece fun c hc => ?_) ih
      rw [hpiece, hempty, List.append_nil] at hc
      exact (List.mem_append.1 hc).elim (hbefore c) (hafter c)
    · rw [List.filter_cons_of_pos (by simpa using hempty), List.map_cons]
      have hshape : String.ofList piece = String.ofList before ++ String.ofList (trim piece) ++ String.ofList after := by
        rw [← String.ofList_append, ← String.ofList_append, ← hpiece]
      rw [hshape]
      exact .item (hisBlank before hbefore) (hisBlank after hafter) ih

/-! ## Texts -/

/-- A text of pieces that list items is read as these items. -/
theorem commaItems_joinCommas (h : Padded items pieces) (hitems : ∀ item ∈ items, IsItem item) :
    commaItems (joinCommas pieces) = items := by
  rw [commaItems, toList_joinCommas]
  cases pieces with
  | nil =>
    cases h
    rfl
  | cons piece pieces =>
    have hcommas : ∀ p ∈ (piece :: pieces).map String.toList, ',' ∉ p := List.forall_mem_map.2 (h.no_comma hitems)
    rw [List.splitOn_intercalate ',' hcommas (by simp)]
    exact h.trimmed hitems

/-- Every text lists what is read from it. -/
theorem exists_padded (s : String) : ∃ pieces, Padded (commaItems s) pieces ∧ s = joinCommas pieces := by
  refine ⟨(s.toList.splitOn ',').map String.ofList, padded_trim _, String.toList_inj.1 ?_⟩
  have hchars : String.toList ∘ String.ofList = id := funext fun _ => String.toList_ofList
  rw [toList_joinCommas, List.map_map, hchars, List.map_id, List.intercalate_splitOn]

/-- What is read from a text can be an item of a list. -/
theorem isItem_of_mem_commaItems {s item : String} (h : item ∈ commaItems s) : IsItem item := by
  obtain ⟨cs, hcs, rfl⟩ := List.mem_map.1 h
  obtain ⟨hmem, hne⟩ := List.mem_filter.1 hcs
  obtain ⟨piece, hpiece, rfl⟩ := List.mem_map.1 hmem
  exact isItem_trim (by simpa using hne) (comma_notMem_of_mem_splitOn hpiece)

end TenantGateway.Text
