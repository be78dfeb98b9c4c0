import TenantGateway.Entries

/-!
# Dictionaries

A dictionary is a finite map whose keys are written as text, held as its entries in ascending order of that text. A key
occurs once, so equality of dictionaries is equality of maps, and listing one lists its keys in ascending order. Main
statements: what `get?` finds after `insert` (`get?_insert`) and after `erase` (`get?_erase`).
-/

namespace TenantGateway

/-- Keys that are written as text. They are ordered as their texts are: by code point. -/
class TextKey (κ : Type) where
  /-- The text of a key. -/
  text : κ → String
  /-- Different keys have different texts. -/
  text_injective : ∀ {a b : κ}, text a = text b → a = b

instance : TextKey String := ⟨id, id⟩

/-- Keys ascend from one entry to the other. -/
def Ascends {κ α : Type} [TextKey κ] (a b : κ × α) : Prop :=
  TextKey.text a.1 < TextKey.text b.1

/-- A finite map, as its entries in ascending order of keys. -/
structure Dictionary (κ α : Type) [TextKey κ] where
  /-- The entries, each key once. -/
  entries : List (κ × α)
  /-- A key is smaller than every key after it. -/
  ascending : entries.Pairwise Ascends
  deriving DecidableEq

namespace Dictionary

variable {κ α : Type} [TextKey κ]

/-- Ascending entries with one more: it takes the place of an entry with the same key, else the place its key gives it. -/
def insertEntry (k : κ) (a : α) : List (κ × α) → List (κ × α)
  | [] => [(k, a)]
  | e :: rest =>
    if TextKey.text k < TextKey.text e.1 then (k, a) :: e :: rest
    else if TextKey.text e.1 < TextKey.text k then e :: insertEntry k a rest
    else (k, a) :: rest

/-- An inserted list holds the new entry and old ones only. -/
theorem mem_insertEntry {k : κ} {a : α} {l : List (κ × α)} {e : κ × α} (h : e ∈ insertEntry k a l) :
    e = (k, a) ∨ e ∈ l := by
  induction l with
  | nil => simpa [insertEntry] using h
  | cons x rest ih =>
    simp only [insertEntry] at h
    split at h
    · simpa using h
    · split at h
      · rcases List.mem_cons.1 h with h | h
        · exact Or.inr (by simp [h])
        · exact (ih h).imp id (List.mem_cons_of_mem x)
      · exact (List.mem_cons.1 h).imp id (List.mem_cons_of_mem x)

/-- Keys of which neither is smaller are equal. -/
theorem eq_of_not_lt {a b : κ} (h : ¬TextKey.text a < TextKey.text b) (h' : ¬TextKey.text b < TextKey.text a) : a = b :=
  TextKey.text_injective (String.le_antisymm (String.not_lt.1 h') (String.not_lt.1 h))

/-- Insertion keeps the order of keys. -/
theorem insertEntry_ascending (k : κ) (a : α) {l : List (κ × α)} (h : l.Pairwise Ascends) :
    (insertEntry k a l).Pairwise Ascends := by
  induction l with
  | nil => simp [insertEntry]
  | cons x rest ih =>
    obtain ⟨hx, hrest⟩ := List.pairwise_cons.1 h
    simp only [insertEntry]
    split
    · rename_i hlt
      refine List.pairwise_cons.2 ⟨fun e he => ?_, h⟩
      rcases List.mem_cons.1 he with rfl | he
      · exact hlt
      · exact String.lt_trans hlt (hx e he)
    · split
      · rename_i hgt
        refine List.pairwise_cons.2 ⟨fun e he => ?_, ih hrest⟩
        rcases mem_insertEntry he with rfl | he
        · exact hgt
        · exact hx e he
      · rename_i h1 h2
        have hk : k = x.1 := eq_of_not_lt h1 h2
        exact List.pairwise_cons.2 ⟨fun e he => by simpa [Ascends, hk] using hx e he, hrest⟩

/-- The dictionary without entries. -/
def empty : Dictionary κ α := ⟨[], List.Pairwise.nil⟩

instance : EmptyCollection (Dictionary κ α) := ⟨empty⟩

instance : Inhabited (Dictionary κ α) := ⟨empty⟩

/-- The dictionary in which `k` has the value `a` and every other key what it had. -/
def insert (d : Dictionary κ α) (k : κ) (a : α) : Dictionary κ α :=
  ⟨insertEntry k a d.entries, insertEntry_ascending k a d.ascending⟩

/-- The value of a key. -/
def get? [DecidableEq κ] (d : Dictionary κ α) (k : κ) : Option α :=
  Entries.get? d.entries k

/-- The dictionary in which `k` has no value and every other key what it had. -/
def erase [DecidableEq κ] (d : Dictionary κ α) (k : κ) : Dictionary κ α :=
  ⟨Entries.erase d.entries k, d.ascending.filter _⟩

/-- The dictionary of a list of entries; the last entry of a key counts. -/
def ofList (l : List (κ × α)) : Dictionary κ α :=
  l.foldl (fun d e => d.insert e.1 e.2) empty

/-- The keys in ascending order. -/
def keys (d : Dictionary κ α) : List κ := d.entries.map (·.1)

/-- The number of keys. -/
def size (d : Dictionary κ α) : Nat := d.entries.length

/-- Whether there is no entry. -/
def isEmpty (d : Dictionary κ α) : Bool := d.entries.isEmpty

@[simp] theorem get?_empty [DecidableEq κ] (k : κ) : (empty : Dictionary κ α).get? k = none := rfl

/-- After an insertion the key has the value inserted and every other key the value it had. -/
theorem get?_insert [DecidableEq κ] (d : Dictionary κ α) (k : κ) (a : α) (x : κ) :
    (d.insert k a).get? x = if k = x then some a else d.get? x := by
  simp only [get?, insert]
  induction d.entries with
  | nil => simp [insertEntry]
  | cons e rest ih =>
    simp only [insertEntry]
    split
    · simp
    · split
      · rename_i h1 h2
        have hne : e.1 ≠ k := fun h => by
          rw [h] at h2
          exact String.lt_irrefl _ h2
        simp only [Entries.get?_cons, ih]
        by_cases hx : e.1 = x
        · have : k ≠ x := fun h => hne (hx.trans h.symm)
          simp [hx, this]
        · simp [hx]
      · rename_i h1 h2
        have hk : k = e.1 := eq_of_not_lt h1 h2
        simp only [Entries.get?_cons, ← hk]
        by_cases hx : k = x <;> simp [hx]

/-- After an erasure the key has no value and every other key the value it had. -/
theorem get?_erase [DecidableEq κ] (d : Dictionary κ α) (k x : κ) :
    (d.erase k).get? x = if k = x then none else d.get? x :=
  Entries.get?_erase d.entries k x

end Dictionary

/-- A finite set of keys, listed in ascending order by `keys`. -/
abbrev KeySet (κ : Type) [TextKey κ] := Dictionary κ Unit

namespace KeySet

/-- The set of the keys listed. -/
def ofKeys {κ : Type} [TextKey κ] (l : List κ) : KeySet κ :=
  Dictionary.ofList (l.map fun k => (k, ()))

end KeySet

end TenantGateway
