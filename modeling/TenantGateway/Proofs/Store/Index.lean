import TenantGateway.Proofs.Entries
import TenantGateway.Store.Basic

/-!
# What an index files

An index that is changed item by item files at every moment what an index made anew would file (`Index.Files`): under every key
the items that have it, each once and in the order in which they were filed, and no key without items. Main statements: filing,
dropping and replacing an item keep it so (`Files.insert`, `Files.remove`, `Files.replace`), and what looking up and counting
keys then answer (`Files.lookup`, `Files.keyCount`).
-/

namespace TenantGateway

variable {κ ν α : Type}

namespace Index

/-- Every key has one bucket, and none of them is empty. -/
structure Tidy (buckets : List (ν × List (κ × α))) : Prop where
  distinct : Entries.Distinct buckets
  nonempty : ∀ b ∈ buckets, b.2 ≠ []

theorem Tidy.tail {b : ν × List (κ × α)} {buckets : List (ν × List (κ × α))} (h : Tidy (b :: buckets)) : Tidy buckets :=
  ⟨(Entries.distinct_cons.1 h.distinct).2, fun c hc => h.nonempty c (List.mem_cons_of_mem b hc)⟩

section

variable [DecidableEq ν]

/-- The items filed under a key. -/
def bucketAt (buckets : List (ν × List (κ × α))) (key : ν) : List (κ × α) :=
  (Entries.get? buckets key).getD []

/-- The index files the items listed and no others, under each of their keys, in the order of the list. -/
structure Files (x : Index κ ν α) (filed : List (κ × α)) : Prop where
  tidy : Tidy x.buckets
  bucket : ∀ key, bucketAt x.buckets key = filed.filter fun e => key ∈ x.keysOf e.2

/-- An index without buckets files nothing. -/
theorem files_nil (keysOf : α → List ν) : (⟨keysOf, []⟩ : Index κ ν α).Files [] :=
  ⟨⟨Entries.Distinct.nil, by simp⟩, fun _ => rfl⟩

/-! ## What an index answers -/

/-- A key of tidy buckets has items, and only such a key. -/
theorem Tidy.mem_keys_iff {buckets : List (ν × List (κ × α))} (h : Tidy buckets) {key : ν} :
    key ∈ buckets.map Prod.fst ↔ bucketAt buckets key ≠ [] := by
  unfold bucketAt
  cases hg : Entries.get? buckets key with
  | some bucket =>
    have hm := Entries.mem_of_get? hg
    exact iff_of_true (List.mem_map.2 ⟨_, hm, rfl⟩) (h.nonempty _ hm)
  | none =>
    refine iff_of_false (fun hk => ?_) (by simp)
    obtain ⟨b, hb, rfl⟩ := List.mem_map.1 hk
    exact Entries.get?_eq_none_iff.1 hg b hb rfl

/-- Looking up a key goes through the items filed. -/
theorem Files.lookup {x : Index κ ν α} {filed : List (κ × α)} (h : x.Files filed) (key : ν) :
    x.lookup key = (filed.filter fun e => key ∈ x.keysOf e.2).map Prod.snd := by
  rw [← h.bucket]
  rfl

/-- The keys counted are those of the items filed, each once. -/
theorem Files.keyCount {x : Index κ ν α} {filed : List (κ × α)} (h : x.Files filed) {keys : List ν} (hn : keys.Nodup)
    (hk : ∀ key, key ∈ keys ↔ ∃ e ∈ filed, key ∈ x.keysOf e.2) : x.keyCount = keys.length := by
  have hp : (x.buckets.map Prod.fst).Perm keys := by
    refine (List.perm_ext_iff_of_nodup h.tidy.distinct hn).2 fun key => ?_
    rw [h.tidy.mem_keys_iff, h.bucket, hk, ne_eq, List.filter_eq_nil_iff]
    simp
  rw [← hp.length_eq, List.length_map]
  rfl

end

variable [DecidableEq κ] [DecidableEq ν]

/-! ## One key -/

/-- Filing an item under a key puts it into the bucket of the key. -/
theorem bucketAt_fileUnder (buckets : List (ν × List (κ × α))) (k : ν) (id : κ) (item : α) (key : ν) :
    bucketAt (fileUnder buckets k id item) key =
      if k = key then Entries.put (bucketAt buckets key) id item else bucketAt buckets key := by
  unfold bucketAt fileUnder
  rw [Entries.get?_put]
  split
  · rename_i h
    rw [h]
    rfl
  · rfl

/-- Filing an item keeps the buckets tidy. -/
theorem Tidy.fileUnder {buckets : List (ν × List (κ × α))} (h : Tidy buckets) (k : ν) (id : κ) (item : α) :
    Tidy (fileUnder buckets k id item) := by
  refine ⟨h.distinct.put k _, fun b hb => ?_⟩
  rcases Entries.mem_put hb with rfl | hb
  · exact Entries.put_ne_nil _ id item
  · exact h.nonempty b hb

/-- What becomes of a bucket when an item is dropped from the bucket of a key. -/
theorem dropUnder_cons (b : ν × List (κ × α)) (buckets : List (ν × List (κ × α))) (k : ν) (id : κ) :
    dropUnder (b :: buckets) k id =
      if b.1 = k then
        if Entries.erase b.2 id = [] then dropUnder buckets k id
        else (b.1, Entries.erase b.2 id) :: dropUnder buckets k id
      else b :: dropUnder buckets k id := by
  unfold dropUnder
  by_cases hb : b.1 = k
  · cases he : Entries.erase b.2 id with
    | nil => simp [hb, he]
    | cons e kept => simp [hb, he]
  · simp [hb]

/-- A bucket after a drop comes from a bucket of the same key, and is not empty when that one was not. -/
theorem mem_dropUnder {buckets : List (ν × List (κ × α))} {k : ν} {id : κ} {b : ν × List (κ × α)}
    (h : b ∈ dropUnder buckets k id) : (∃ c ∈ buckets, c.1 = b.1) ∧ (b ∈ buckets ∨ b.2 ≠ []) := by
  induction buckets with
  | nil => simp [dropUnder] at h
  | cons c buckets ih =>
    rw [dropUnder_cons] at h
    have hrest : b ∈ dropUnder buckets k id → (∃ d ∈ c :: buckets, d.1 = b.1) ∧ (b ∈ c :: buckets ∨ b.2 ≠ []) := by
      intro hb
      obtain ⟨⟨d, hd, hdb⟩, hor⟩ := ih hb
      exact ⟨⟨d, List.mem_cons_of_mem c hd, hdb⟩, hor.imp_left (List.mem_cons_of_mem c)⟩
    split at h
    · split at h
      · exact hrest h
      · rename_i he
        rcases List.mem_cons.1 h with rfl | h
        · exact ⟨⟨c, List.mem_cons_self, rfl⟩, Or.inr he⟩
        · exact hrest h
    · rcases List.mem_cons.1 h with rfl | h
      · exact ⟨⟨b, List.mem_cons_self, rfl⟩, Or.inl List.mem_cons_self⟩
      · exact hrest h

/-- Dropping an item keeps the buckets tidy: one that becomes empty is gone. -/
theorem Tidy.dropUnder {buckets : List (ν × List (κ × α))} (h : Tidy buckets) (k : ν) (id : κ) :
    Tidy (dropUnder buckets k id) := by
  refine ⟨?_, fun b hb => (mem_dropUnder hb).2.elim (h.nonempty b) fun hn => hn⟩
  induction buckets with
  | nil => exact Entries.Distinct.nil
  | cons b buckets ih =>
    have hne := (Entries.distinct_cons.1 h.distinct).1
    have hkey : ∀ c ∈ Index.dropUnder buckets k id, c.1 ≠ b.1 := by
      intro c hc
      obtain ⟨⟨d, hd, hdc⟩, -⟩ := mem_dropUnder hc
      exact hdc ▸ hne d hd
    rw [dropUnder_cons]
    split
    · split
      · exact ih h.tail
      · exact Entries.distinct_cons.2 ⟨hkey, ih h.tail⟩
    · exact Entries.distinct_cons.2 ⟨hkey, ih h.tail⟩

/-- Dropping an item under a key erases it from the bucket of the key. -/
theorem bucketAt_dropUnder {buckets : List (ν × List (κ × α))} (h : Tidy buckets) (k : ν) (id : κ) (key : ν) :
    bucketAt (dropUnder buckets k id) key =
      if k = key then Entries.erase (bucketAt buckets key) id else bucketAt buckets key := by
  induction buckets with
  | nil => simp [dropUnder, bucketAt, Entries.erase]
  | cons b buckets ih =>
    have hb : Entries.get? buckets b.1 = none := Entries.get?_eq_none_iff.2 (Entries.distinct_cons.1 h.distinct).1
    have ih := ih h.tail
    have hcons : ∀ (c : ν × List (κ × α)) (l : List (ν × List (κ × α))),
        bucketAt (c :: l) key = if c.1 = key then c.2 else bucketAt l key := by
      intro c l
      unfold bucketAt
      rw [Entries.get?_cons]
      split <;> rfl
    rw [dropUnder_cons, hcons b]
    by_cases hbk : b.1 = k
    · subst hbk
      by_cases hkey : b.1 = key
      · subst hkey
        have hnone : bucketAt buckets b.1 = [] := by simp [bucketAt, hb]
        rw [if_pos rfl, if_pos rfl, if_pos rfl]
        rw [if_pos rfl, hnone] at ih
        split
        · rename_i he
          rw [he, ih]
          rfl
        · rw [hcons, if_pos rfl]
      · rw [if_pos rfl, if_neg hkey, if_neg hkey]
        rw [if_neg hkey] at ih
        split
        · exact ih
        · rw [hcons, if_neg hkey, ih]
    · rw [if_neg hbk, hcons, ih]
      by_cases hkey : b.1 = key
      · rw [if_pos hkey, if_neg fun hk => hbk (hkey.trans hk.symm), if_pos hkey]
      · rw [if_neg hkey, if_neg hkey]

/-! ## All keys of an item -/

/-- Filing an item under keys, repeated or not, files it once in the bucket of each of them. -/
theorem foldl_fileUnder (keys : List ν) {buckets : List (ν × List (κ × α))} (h : Tidy buckets) (id : κ) (item : α) :
    Tidy (keys.foldl (fun buckets k => fileUnder buckets k id item) buckets) ∧
      ∀ key, bucketAt (keys.foldl (fun buckets k => fileUnder buckets k id item) buckets) key =
        if key ∈ keys then Entries.put (bucketAt buckets key) id item else bucketAt buckets key := by
  induction keys generalizing buckets with
  | nil => exact ⟨h, fun key => by simp⟩
  | cons k keys ih =>
    obtain ⟨ht, hb⟩ := ih (h.fileUnder k id item)
    refine ⟨ht, fun key => ?_⟩
    rw [List.foldl_cons, hb, bucketAt_fileUnder]
    by_cases hk : k = key
    · subst hk
      simp [Entries.put_put]
    · have : key ≠ k := fun h => hk h.symm
      simp [hk, this]

/-- Dropping an item under keys, repeated or not, drops it from the bucket of each of them. -/
theorem foldl_dropUnder (keys : List ν) {buckets : List (ν × List (κ × α))} (h : Tidy buckets) (id : κ) :
    Tidy (keys.foldl (fun buckets k => dropUnder buckets k id) buckets) ∧
      ∀ key, bucketAt (keys.foldl (fun buckets k => dropUnder buckets k id) buckets) key =
        if key ∈ keys then Entries.erase (bucketAt buckets key) id else bucketAt buckets key := by
  induction keys generalizing buckets with
  | nil => exact ⟨h, fun key => by simp⟩
  | cons k keys ih =>
    obtain ⟨ht, hb⟩ := ih (h.dropUnder k id)
    refine ⟨ht, fun key => ?_⟩
    rw [List.foldl_cons, hb, bucketAt_dropUnder h]
    by_cases hk : k = key
    · subst hk
      simp [Entries.erase_erase]
    · have : key ≠ k := fun h => hk h.symm
      simp [hk, this]

/-! ## Items -/

@[simp] theorem keysOf_remove (x : Index κ ν α) (id : κ) (item : α) : (x.remove id item).keysOf = x.keysOf := rfl

@[simp] theorem keysOf_replace (x : Index κ ν α) (id : κ) (previous : Option α) (item : α) :
    (x.replace id previous item).keysOf = x.keysOf := by
  cases previous <;> rfl

/-- A new item is filed behind the others. -/
theorem Files.insert {x : Index κ ν α} {filed : List (κ × α)} (h : x.Files filed) {id : κ} (hid : ∀ e ∈ filed, e.1 ≠ id)
    (item : α) : (x.insert id item).Files (filed ++ [(id, item)]) := by
  obtain ⟨ht, hb⟩ := foldl_fileUnder (x.keysOf item) h.tidy id item
  refine ⟨ht, fun key => (hb key).trans ?_⟩
  change _ = (filed ++ [(id, item)]).filter fun e => key ∈ x.keysOf e.2
  rw [h.bucket, List.filter_append]
  have hfiltered : ∀ e ∈ filed.filter fun e => key ∈ x.keysOf e.2, e.1 ≠ id := fun e he => hid e (List.mem_filter.1 he).1
  by_cases hk : key ∈ x.keysOf item
  · rw [if_pos hk, Entries.put_eq_append hfiltered]
    simp [hk]
  · simp [hk]

/-- A filed item is dropped without a trace. -/
theorem Files.remove {x : Index κ ν α} {filed : List (κ × α)} (h : x.Files filed) (hd : Entries.Distinct filed) {id : κ}
    {item : α} (hm : Entries.get? filed id = some item) : (x.remove id item).Files (Entries.erase filed id) := by
  obtain ⟨ht, hb⟩ := foldl_dropUnder (x.keysOf item) h.tidy id
  refine ⟨ht, fun key => (hb key).trans ?_⟩
  rw [h.bucket]
  have hcomm : Entries.erase (filed.filter fun e => key ∈ x.keysOf e.2) id =
      (Entries.erase filed id).filter fun e => key ∈ x.keysOf e.2 := by
    simp only [Entries.erase, List.filter_filter, Bool.and_comm]
  rw [keysOf_remove, ← hcomm]
  by_cases hk : key ∈ x.keysOf item
  · rw [if_pos hk]
  · rw [if_neg hk]
    refine (Entries.erase_eq_self fun e he hid => hk ?_).symm
    obtain ⟨he, hke⟩ := List.mem_filter.1 he
    have : Entries.get? filed id = some e.2 := (Entries.get?_eq_some_iff hd).2 (hid ▸ he)
    rw [hm] at this
    rw [Option.some.inj this]
    simpa using hke

/-- An item filed in place of the one with its identity goes to the end. -/
theorem Files.replace {x : Index κ ν α} {filed : List (κ × α)} (h : x.Files filed) (hd : Entries.Distinct filed) (id : κ)
    (item : α) : (x.replace id (Entries.get? filed id) item).Files (Entries.file filed id item) := by
  cases hg : Entries.get? filed id with
  | none =>
    have hid := Entries.get?_eq_none_iff.1 hg
    rw [Entries.file, Entries.erase_eq_self hid]
    exact h.insert hid item
  | some old => exact (h.remove hd hg).insert (fun e he => (Entries.mem_erase.1 he).2) item

/-- An index made of items files them in their order. -/
theorem files_ofItems (keysOf : α → List ν) {items : List (κ × α)} (hd : Entries.Distinct items) :
    (ofItems keysOf items).Files items ∧ (ofItems keysOf items).keysOf = keysOf := by
  have hfold : ∀ (rest filed : List (κ × α)) (x : Index κ ν α), x.Files filed → Entries.Distinct (filed ++ rest) →
      (rest.foldl (fun x e => x.insert e.1 e.2) x).Files (filed ++ rest) ∧
        (rest.foldl (fun x e => x.insert e.1 e.2) x).keysOf = x.keysOf := by
    intro rest
    induction rest with
    | nil =>
      intro filed x hx _
      exact ⟨by simpa using hx, rfl⟩
    | cons e rest ih =>
      intro filed x hx hd
      have hid : ∀ f ∈ filed, f.1 ≠ e.1 := by
        have := (List.nodup_append.1 (by simpa [Entries.Distinct] using hd)).2.2
        exact fun f hf => this f.1 (List.mem_map.2 ⟨f, hf, rfl⟩) e.1 (by simp)
      rw [List.append_cons] at hd ⊢
      exact ih (filed ++ [e]) _ (hx.insert hid e.2) hd
  exact hfold items [] _ (files_nil keysOf) hd

end Index

end TenantGateway
