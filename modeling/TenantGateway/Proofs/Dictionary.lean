import TenantGateway.Dictionary
import TenantGateway.Proofs.Entries

/-!
# Dictionaries as maps

Two dictionaries in which every key has the same value are equal (`Dictionary.ext_get?`), because the order of keys leaves no
choice of how to list them.
-/

namespace TenantGateway

variable {κ α : Type} [TextKey κ]

/-- Keys do not ascend in both directions. -/
theorem Ascends.asymm {a b : κ × α} (h : Ascends a b) : ¬Ascends b a :=
  fun h' => String.lt_irrefl _ (String.lt_trans h h')

/-- Keys that ascend differ. -/
theorem Ascends.ne {a b : κ × α} (h : Ascends a b) : a.1 ≠ b.1 := by
  intro he
  unfold Ascends at h
  rw [he] at h
  exact String.lt_irrefl _ h

/-- Ascending keys are listed in one way only. -/
theorem eq_of_ascending {l m : List κ} (hl : l.Pairwise fun a b => TextKey.text a < TextKey.text b)
    (hm : m.Pairwise fun a b => TextKey.text a < TextKey.text b) (h : ∀ k, k ∈ l ↔ k ∈ m) : l = m := by
  have hne : ∀ {a b : κ}, TextKey.text a < TextKey.text b → a ≠ b := fun hab he => String.lt_irrefl _ (he ▸ hab)
  have hperm : l.Perm m := (List.perm_ext_iff_of_nodup (hl.imp hne) (hm.imp hne)).2 h
  exact hperm.eq_of_pairwise (fun _ _ _ _ hab hba => absurd (String.lt_trans hab hba) (String.lt_irrefl _)) hl hm

namespace Dictionary

/-- No key of a dictionary occurs twice. -/
theorem distinct (d : Dictionary κ α) : Entries.Distinct d.entries :=
  List.pairwise_map.2 (d.ascending.imp Ascends.ne)

/-- The keys of a dictionary ascend. -/
theorem keys_pairwise (d : Dictionary κ α) : d.keys.Pairwise fun a b => TextKey.text a < TextKey.text b :=
  List.pairwise_map.2 d.ascending

variable [DecidableEq κ]

/-- A dictionary holds the entries that it finds. -/
theorem mem_entries (d : Dictionary κ α) {k : κ} {a : α} : (k, a) ∈ d.entries ↔ d.get? k = some a :=
  (Entries.get?_eq_some_iff d.distinct).symm

/-- The keys of a dictionary are those that have a value. -/
theorem mem_keys (d : Dictionary κ α) {k : κ} : k ∈ d.keys ↔ ∃ a, d.get? k = some a := by
  rw [keys, Entries.mem_map_fst_iff, Option.isSome_iff_exists]
  rfl

/-- Dictionaries in which every key has the same value are equal. -/
theorem ext_get? {d d' : Dictionary κ α} (h : ∀ k, d.get? k = d'.get? k) : d = d' := by
  obtain ⟨l, hl⟩ := d
  obtain ⟨m, hm⟩ := d'
  have hmem : ∀ e, e ∈ l ↔ e ∈ m := by
    rintro ⟨k, a⟩
    rw [(⟨l, hl⟩ : Dictionary κ α).mem_entries, h k, ← (⟨m, hm⟩ : Dictionary κ α).mem_entries]
  have hperm : l.Perm m := (List.perm_ext_iff_of_nodup (distinct ⟨l, hl⟩).nodup (distinct ⟨m, hm⟩).nodup).2 hmem
  obtain rfl : l = m := hperm.eq_of_pairwise (fun _ _ _ _ hab hba => absurd hba hab.asymm) hl hm
  rfl

/-- The keys of a dictionary of listed entries are those listed. -/
theorem isSome_get?_ofList (l : List (κ × α)) (k : κ) : ((ofList l).get? k).isSome = true ↔ ∃ e ∈ l, e.1 = k := by
  have hfold : ∀ d : Dictionary κ α, ((l.foldl (fun d e => d.insert e.1 e.2) d).get? k).isSome = true ↔
      (∃ e ∈ l, e.1 = k) ∨ (d.get? k).isSome = true := by
    induction l with
    | nil => simp
    | cons e l ih =>
      intro d
      rw [List.foldl_cons, ih, get?_insert]
      by_cases he : e.1 = k <;> simp [he]
  exact (hfold .empty).trans (or_iff_left (by simp))

/-- Inserting entries, none of them twice, overwrites the values of their keys. -/
theorem get?_foldl_insert {l : List (κ × α)} (hl : Entries.Distinct l) (d : Dictionary κ α) (k : κ) :
    (l.foldl (fun d e => d.insert e.1 e.2) d).get? k = (Entries.get? l k).or (d.get? k) := by
  induction l generalizing d with
  | nil => rfl
  | cons e l ih =>
    obtain ⟨hne, hl⟩ := Entries.distinct_cons.1 hl
    rw [List.foldl_cons, ih hl, get?_insert, Entries.get?_cons]
    by_cases he : e.1 = k
    · rw [if_pos he, if_pos he, Entries.get?_eq_none_iff.2 fun x hx => he ▸ hne x hx]
      rfl
    · rw [if_neg he, if_neg he]

/-- A dictionary of listed entries finds what the list does, when no key is listed twice. -/
theorem get?_ofList {l : List (κ × α)} (hl : Entries.Distinct l) (k : κ) : (ofList l).get? k = Entries.get? l k :=
  (get?_foldl_insert hl .empty k).trans Option.or_none

end Dictionary

/-- Sets with the same keys are equal. -/
theorem KeySet.eq_iff [DecidableEq κ] {s s' : KeySet κ} : s = s' ↔ ∀ k, k ∈ s.keys ↔ k ∈ s'.keys := by
  refine ⟨fun h k => h ▸ Iff.rfl, fun h => Dictionary.ext_get? fun k => ?_⟩
  have hk := h k
  rw [Dictionary.mem_keys, Dictionary.mem_keys] at hk
  cases hs : s.get? k <;> cases hs' : s'.get? k <;> simp_all

/-- A set that may be missing has the keys that it has when it is there. -/
theorem KeySet.mem_keys_getD {s? : Option (KeySet κ)} {k : κ} :
    k ∈ (s?.getD .empty).keys ↔ ∃ s, s? = some s ∧ k ∈ s.keys := by
  cases s? <;> simp [Dictionary.empty, Dictionary.keys]

/-- The set of listed keys has the keys listed. -/
theorem KeySet.mem_ofKeys [DecidableEq κ] {l : List κ} {k : κ} : k ∈ (KeySet.ofKeys l).keys ↔ k ∈ l := by
  rw [Dictionary.mem_keys, ← Option.isSome_iff_exists, KeySet.ofKeys, Dictionary.isSome_get?_ofList]
  simp

end TenantGateway
