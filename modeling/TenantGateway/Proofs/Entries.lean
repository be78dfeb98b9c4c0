import Mathlib.Data.List.Nodup
import TenantGateway.Entries

/-!
# Entries with distinct keys

A list of entries stands for a map when no key has two entries. The operations keep it so; finding a key is then the same as
having its entry (`get?_eq_some_iff`), and so does not depend on the order of the entries (`get?_of_perm`). `arrange` only
changes the order (`arrange_perm`), and every order of the entries is one that it gives (`arrange_keys`).
-/

namespace TenantGateway.Entries

variable {κ α : Type}

/-! ## Distinct keys -/

/-- No key has two entries. -/
def Distinct (l : List (κ × α)) : Prop := (l.map Prod.fst).Nodup

theorem Distinct.nil : Distinct ([] : List (κ × α)) := List.nodup_nil

/-- Whether keys are distinct does not depend on the order. -/
theorem Distinct.perm {l m : List (κ × α)} (h : Distinct l) (hp : m.Perm l) : Distinct m :=
  (hp.map Prod.fst).nodup_iff.2 h

theorem Distinct.sublist {l m : List (κ × α)} (h : Distinct l) (hs : m.Sublist l) : Distinct m :=
  List.Nodup.sublist (hs.map Prod.fst) h

/-- Entries with distinct keys are distinct. -/
theorem Distinct.nodup {l : List (κ × α)} (h : Distinct l) : l.Nodup := List.Nodup.of_map Prod.fst h

theorem Distinct.filter {l : List (κ × α)} (h : Distinct l) (p : κ × α → Bool) : Distinct (l.filter p) :=
  h.sublist List.filter_sublist

/-- Keys are distinct when the first one is none of the others, and these are. -/
theorem distinct_cons {e : κ × α} {l : List (κ × α)} : Distinct (e :: l) ↔ (∀ x ∈ l, x.1 ≠ e.1) ∧ Distinct l := by
  unfold Distinct
  rw [List.map_cons, List.nodup_cons]
  refine and_congr_left fun _ => ⟨fun h x hx he => h (List.mem_map.2 ⟨x, hx, he⟩), fun h hm => ?_⟩
  obtain ⟨x, hx, he⟩ := List.mem_map.1 hm
  exact h x hx he

/-! ## Reading every value -/

section

variable {β : Type} {f : α → Option β} {l : List (κ × α)}

/-- All values are read together when each of them can be read. -/
theorem exists_mapM_eq_some_iff :
    (∃ m, l.mapM (fun e => (f e.2).map (Prod.mk e.1)) = some m) ↔ ∀ e ∈ l, ∃ b, f e.2 = some b := by
  induction l with
  | nil => simp
  | cons e l ih =>
    rw [List.forall_mem_cons, ← ih, List.mapM_cons]
    cases f e.2 <;> cases l.mapM (fun e => (f e.2).map (Prod.mk e.1)) <;> simp

variable [DecidableEq κ]

/-- What is read stands under the same keys, and is found where the value was found. -/
theorem get?_of_mapM {m : List (κ × β)} (h : l.mapM (fun e => (f e.2).map (Prod.mk e.1)) = some m) :
    m.map Prod.fst = l.map Prod.fst ∧ ∀ k, get? m k = (get? l k).bind f := by
  induction l generalizing m with
  | nil =>
    obtain rfl := Option.some.inj h
    exact ⟨rfl, fun _ => rfl⟩
  | cons e l ih =>
    rw [List.mapM_cons] at h
    obtain ⟨_, hhead, h⟩ := Option.bind_eq_some_iff.1 h
    obtain ⟨b, hb, rfl⟩ := Option.map_eq_some_iff.1 hhead
    obtain ⟨rest, hrest, h⟩ := Option.bind_eq_some_iff.1 h
    obtain rfl := Option.some.inj h
    obtain ⟨hkeys, hget⟩ := ih hrest
    refine ⟨by rw [List.map_cons, List.map_cons, hkeys], fun k => ?_⟩
    rw [get?_cons, get?_cons, hget]
    split
    · exact hb.symm
    · rfl

end

variable [DecidableEq κ]

/-! ## Finding a key -/

/-- A key without entries has no value, and only such a key. -/
theorem get?_eq_none_iff {l : List (κ × α)} {k : κ} : get? l k = none ↔ ∀ e ∈ l, e.1 ≠ k := by
  induction l with
  | nil => simp
  | cons e l ih =>
    by_cases h : e.1 = k
    · simp [h]
    · simp [h, ih]

/-- What is found is an entry. -/
theorem mem_of_get? {l : List (κ × α)} {k : κ} {a : α} (h : get? l k = some a) : (k, a) ∈ l := by
  induction l with
  | nil => simp at h
  | cons e l ih =>
    rw [get?_cons] at h
    split at h
    · rename_i he
      obtain rfl := Option.some.inj h
      rw [← he]
      exact List.mem_cons_self
    · exact List.mem_cons_of_mem e (ih h)

/-- With distinct keys, every entry is found. -/
theorem get?_eq_some_iff {l : List (κ × α)} (hl : Distinct l) {k : κ} {a : α} : get? l k = some a ↔ (k, a) ∈ l := by
  refine ⟨mem_of_get?, fun h => ?_⟩
  induction l with
  | nil => simp at h
  | cons e l ih =>
    obtain ⟨hne, hl⟩ := distinct_cons.1 hl
    rw [get?_cons]
    rcases List.mem_cons.1 h with rfl | h
    · simp
    · rw [if_neg fun he => hne _ h he.symm]
      exact ih hl h

/-- With distinct keys, the order of the entries does not matter to what is found. -/
theorem get?_of_perm {l m : List (κ × α)} (hl : Distinct l) (hp : m.Perm l) (k : κ) : get? m k = get? l k := by
  have hm := hl.perm hp
  cases h : get? l k with
  | some a => exact (get?_eq_some_iff hm).2 (hp.mem_iff.2 (mem_of_get? h))
  | none =>
    rw [get?_eq_none_iff] at h ⊢
    exact fun e he => h e (hp.mem_iff.1 he)

/-- The keys of the entries are those that have a value. -/
theorem mem_map_fst_iff {l : List (κ × α)} {k : κ} : k ∈ l.map Prod.fst ↔ (get? l k).isSome = true := by
  rw [← not_iff_not, Option.not_isSome_iff_eq_none, get?_eq_none_iff, List.mem_map, not_exists]
  exact forall_congr' fun e => not_and

/-- With distinct keys, entries that have values for the same keys are as many. -/
theorem length_eq_of_isSome_get? {l m : List (κ × α)} (hl : Distinct l) (hm : Distinct m)
    (h : ∀ k, (get? l k).isSome = (get? m k).isSome) : l.length = m.length := by
  have hperm : (l.map Prod.fst).Perm (m.map Prod.fst) :=
    (List.perm_ext_iff_of_nodup hl hm).2 fun k => by rw [mem_map_fst_iff, mem_map_fst_iff, h]
  simpa using hperm.length_eq

/-- With distinct keys, filtering the entries filters what is found. -/
theorem get?_filter {l : List (κ × α)} (hl : Distinct l) (p : κ × α → Bool) (k : κ) :
    get? (l.filter p) k = (get? l k).filter fun a => p (k, a) := by
  cases h : get? l k with
  | none =>
    refine get?_eq_none_iff.2 fun e he => ?_
    exact get?_eq_none_iff.1 h e (List.mem_filter.1 he).1
  | some a =>
    have hmem := mem_of_get? h
    cases hp : p (k, a) with
    | true =>
      rw [Option.filter_some, if_pos hp]
      exact (get?_eq_some_iff (hl.filter p)).2 (List.mem_filter.2 ⟨hmem, hp⟩)
    | false =>
      rw [Option.filter_some, if_neg (by simp [hp])]
      refine get?_eq_none_iff.2 fun e he hk => ?_
      obtain ⟨he, hpe⟩ := List.mem_filter.1 he
      have hsame : e.2 = a := Option.some.inj (((get?_eq_some_iff hl).2 (hk ▸ he)).symm.trans h)
      rw [show e = (k, a) from Prod.ext hk hsame, hp] at hpe
      nomatch hpe

/-! ## Changing a key -/

/-- What is left when a key is erased are the entries of the others. -/
theorem mem_erase {l : List (κ × α)} {k : κ} {e : κ × α} : e ∈ erase l k ↔ e ∈ l ∧ e.1 ≠ k := by
  simp [erase]

theorem Distinct.erase {l : List (κ × α)} (h : Distinct l) (k : κ) : Distinct (erase l k) := h.filter _

/-- Erasing a key without entries changes nothing. -/
theorem erase_eq_self {l : List (κ × α)} {k : κ} (h : ∀ e ∈ l, e.1 ≠ k) : erase l k = l :=
  List.filter_eq_self.2 fun e he => by simpa using h e he

theorem erase_append (l m : List (κ × α)) (k : κ) : erase (l ++ m) k = erase l k ++ erase m k :=
  List.filter_append l m

/-- Filing a key keeps keys distinct. -/
theorem Distinct.file {l : List (κ × α)} (h : Distinct l) (k : κ) (a : α) : Distinct (file l k a) := by
  have hk : ∀ e ∈ Entries.erase l k, e.1 ≠ k := fun e he => (mem_erase.1 he).2
  have he := h.erase k
  unfold Distinct at he ⊢
  rw [Entries.file, List.map_append, List.nodup_append]
  refine ⟨he, by simp, ?_⟩
  intro x hx y hy
  obtain ⟨e, he, rfl⟩ := List.mem_map.1 hx
  obtain rfl : y = k := by simpa using hy
  exact hk e he

/-- Putting a key without entries adds its entry at the end. -/
theorem put_eq_append {l : List (κ × α)} {k : κ} (h : ∀ e ∈ l, e.1 ≠ k) (a : α) : put l k a = l ++ [(k, a)] := by
  induction l with
  | nil => rfl
  | cons e l ih =>
    rw [put, if_neg (h e (by simp)), ih fun x hx => h x (by simp [hx])]
    rfl

/-- A key that is put has one entry. -/
theorem mem_put {l : List (κ × α)} {k : κ} {a : α} {e : κ × α} (h : e ∈ put l k a) : e = (k, a) ∨ e ∈ l := by
  induction l with
  | nil => simpa [put] using h
  | cons x l ih =>
    rw [put] at h
    split at h
    · exact (List.mem_cons.1 h).imp id (List.mem_cons_of_mem x)
    · rcases List.mem_cons.1 h with rfl | h
      · exact Or.inr (by simp)
      · exact (ih h).imp id (List.mem_cons_of_mem x)

/-- Putting a key keeps keys distinct. -/
theorem Distinct.put {l : List (κ × α)} (h : Distinct l) (k : κ) (a : α) : Distinct (put l k a) := by
  induction l with
  | nil => simp [Entries.put, Distinct]
  | cons e l ih =>
    obtain ⟨hne, hl⟩ := distinct_cons.1 h
    rw [Entries.put]
    split
    · rename_i he
      exact distinct_cons.2 ⟨fun x hx => he ▸ hne x hx, hl⟩
    · rename_i he
      refine distinct_cons.2 ⟨fun x hx => ?_, ih hl⟩
      rcases mem_put hx with rfl | hx
      · exact Ne.symm he
      · exact hne x hx

/-- Putting a key again replaces what was put. -/
theorem put_put (l : List (κ × α)) (k : κ) (a b : α) : put (put l k a) k b = put l k b := by
  induction l with
  | nil => simp [put]
  | cons e l ih =>
    rw [put, put]
    split
    · simp [put]
    · rename_i he
      rw [put, if_neg he, ih]

/-- Erasing a key again changes nothing. -/
theorem erase_erase (l : List (κ × α)) (k : κ) : erase (erase l k) k = erase l k :=
  erase_eq_self fun _ he => (mem_erase.1 he).2

/-- Erasing a key that was filed is erasing it. -/
theorem erase_file (l : List (κ × α)) (k : κ) (a : α) : erase (file l k a) k = erase l k := by
  rw [file, erase_append, erase_erase]
  simp [erase]

/-- There is an entry once one was put. -/
theorem put_ne_nil (l : List (κ × α)) (k : κ) (a : α) : put l k a ≠ [] := by
  cases l with
  | nil => simp [put]
  | cons e l =>
    rw [put]
    split <;> simp

/-! ## Changing the order -/

/-- With distinct keys, the entry of a key and the entries of the others are all entries. -/
theorem cons_erase_perm {l : List (κ × α)} (hl : Distinct l) {k : κ} {a : α} (h : get? l k = some a) :
    ((k, a) :: erase l k).Perm l := by
  induction l with
  | nil => simp at h
  | cons e l ih =>
    obtain ⟨hne, hl⟩ := distinct_cons.1 hl
    rw [get?_cons] at h
    split at h
    · rename_i he
      obtain rfl := Option.some.inj h
      subst he
      have : erase (e :: l) e.1 = l := by
        rw [erase, List.filter_cons_of_neg (by simp)]
        exact erase_eq_self hne
      rw [this]
    · rename_i he
      have : erase (e :: l) k = e :: erase l k := List.filter_cons_of_pos (by simpa using he)
      rw [this]
      exact (List.Perm.swap e (k, a) _).trans ((ih hl h).cons e)

/-- Arranging entries only changes their order. -/
theorem arrange_perm (order : List κ) {l : List (κ × α)} (hl : Distinct l) : (arrange order l).Perm l := by
  induction order generalizing l with
  | nil => exact List.Perm.refl l
  | cons k order ih =>
    rw [arrange]
    cases h : get? l k with
    | some a => exact ((ih (hl.erase k)).cons (k, a)).trans (cons_erase_perm hl h)
    | none => exact ih hl

/-- Every order of the entries is the one in which their keys are listed. -/
theorem arrange_keys {l m : List (κ × α)} (hl : Distinct l) (hp : m.Perm l) : arrange (m.map Prod.fst) l = m := by
  induction m generalizing l with
  | nil => exact List.nil_perm.1 hp
  | cons e m ih =>
    have hg : get? l e.1 = some e.2 := (get?_eq_some_iff hl).2 (hp.mem_iff.1 (by simp))
    have hm : m.Perm (erase l e.1) := (hp.trans (cons_erase_perm hl hg).symm).cons_inv
    rw [List.map_cons, arrange, hg, ih (hl.erase e.1) hm]

end TenantGateway.Entries
