import TenantGateway.Proofs.Store.Index
import TenantGateway.Store.Plain

/-!
# Stores refine stores without index tables

A store and the plain store beside it give the same answers in every run (`Store.Refines`). An index files the items in an
order of its own, which changes as the order of the items does: it shows a plain store whose items stand in that order
(`Store.Shows`). Main statement: after any run, looking things up in a store answers what going through the items of the plain
store answers (`Store.run_refines_plain`).
-/

namespace TenantGateway

variable {κ ν α : Type}

section

variable [DecidableEq ν]

/-- The store and the plain store hold the same items in the same order, and have the same indices. -/
structure Store.Refines (s : Store κ ν α) (p : PlainStore κ ν α) : Prop where
  identity : s.identity = p.identity
  items : s.items = p.items
  keys : s.indices.map (·.keysOf) = p.keyFunctions

/-- The index with the number `k` files the items in the order in which the plain store lists them. -/
structure Store.Shows (s : Store κ ν α) (k : Nat) (p : PlainStore κ ν α) : Prop where
  identity : s.identity = p.identity
  items : p.items.Perm s.items
  index : ∃ x, s.indices[k]? = some x ∧ p.keyFunctions[k]? = some x.keysOf ∧ x.Files p.items

/-- Identities are distinct, and every index files exactly the items held. -/
structure Store.Sound (s : Store κ ν α) : Prop where
  distinct : Entries.Distinct s.items
  shown : ∀ k < s.indices.length, ∃ p, s.Shows k p

end

/-! ## Plain stores -/

namespace PlainStore

section

variable [DecidableEq κ]

/-- A plain store refuses an item without identity. -/
theorem perform_add_none {p : PlainStore κ ν α} {item : α} (h : p.identity item = none) :
    p.perform (.add item) = (.refused .missingIdentity, p) := by
  simp only [perform, h]

/-- A plain store files an item under its identity, behind the others. -/
theorem perform_add_some {p : PlainStore κ ν α} {item : α} {id : κ} (h : p.identity item = some id) :
    p.perform (.add item) = (.added (Entries.get? p.items id), { p with items := Entries.file p.items id item }) := by
  simp only [perform, h]

/-- Only the creation of an index makes more indices. -/
theorem keyFunctions_perform (p : PlainStore κ ν α) (op : StoreOp κ ν α) :
    (∃ keysOf order, op = .createIndex keysOf order) ∨ (p.perform op).2.keyFunctions = p.keyFunctions := by
  cases op with
  | createIndex keysOf order => exact Or.inl ⟨keysOf, order, rfl⟩
  | add item =>
    right
    cases hi : p.identity item with
    | none => rw [perform_add_none hi]
    | some id => rw [perform_add_some hi]
  | remove id => exact Or.inr rfl
  | retain keep => exact Or.inr rfl
  | clear => exact Or.inr rfl

/-- No operation changes what identifies an item. -/
theorem identity_perform (p : PlainStore κ ν α) (op : StoreOp κ ν α) : (p.perform op).2.identity = p.identity := by
  cases op with
  | add item =>
    cases hi : p.identity item with
    | none => rw [perform_add_none hi]
    | some id => rw [perform_add_some hi]
  | _ => rfl

end

variable [DecidableEq ν]

/-- A key of an index is one that some item has. -/
theorem mem_keys {p : PlainStore κ ν α} {k : Nat} {key : ν} : key ∈ p.keys k ↔ ∃ e ∈ p.items, key ∈ p.keysOf k e.2 := by
  rw [keys, List.mem_eraseDups, List.mem_flatMap]

/-- The keys of an index are those that look something up. -/
theorem mem_keys_iff_lookup {p : PlainStore κ ν α} {k : Nat} {key : ν} : key ∈ p.keys k ↔ p.lookup k key ≠ [] := by
  rw [mem_keys, lookup, ne_eq, List.filter_eq_nil_iff]
  constructor
  · rintro ⟨e, he, hk⟩ hnone
    exact hnone e.2 (List.mem_map.2 ⟨e, he, rfl⟩) (by simpa using hk)
  · intro h
    by_contra hnone
    refine h fun item hitem hk => hnone ?_
    obtain ⟨e, he, rfl⟩ := List.mem_map.1 hitem
    exact ⟨e, he, by simpa using hk⟩

/-- The keys of an index are listed once each. -/
theorem nodup_keys (p : PlainStore κ ν α) (k : Nat) : (p.keys k).Nodup := by
  unfold keys
  generalize p.items.flatMap (fun e => p.keysOf k e.2) = l
  induction hn : l.length using Nat.strongRecOn generalizing l with
  | ind n ih =>
    cases l with
    | nil => simp
    | cons a l =>
      rw [List.eraseDups_cons, List.nodup_cons]
      refine ⟨by simp, ih _ ?_ _ rfl⟩
      have := List.length_filter_le (fun b => !b == a) l
      rw [← hn, List.length_cons]
      omega

end PlainStore

namespace Store

/-! ## The plain store beside a store -/

/-- Changing every index without touching its key function keeps the key functions. -/
theorem map_keysOf (indices : List (Index κ ν α)) {f : Index κ ν α → Index κ ν α} (hf : ∀ x, (f x).keysOf = x.keysOf) :
    (indices.map f).map (·.keysOf) = indices.map (·.keysOf) := by
  rw [List.map_map]
  exact List.map_congr_left fun x _ => hf x

/-- The plain store beside a store. -/
def plain (s : Store κ ν α) : PlainStore κ ν α := ⟨s.identity, s.items, s.indices.map (·.keysOf)⟩

/-- A store holds what the plain store beside it holds. -/
theorem refines_plain (s : Store κ ν α) : s.Refines s.plain := ⟨rfl, rfl, rfl⟩

/-- There is no other plain store that holds what a store holds, in its order. -/
theorem Refines.plain_eq {s : Store κ ν α} {p : PlainStore κ ν α} (h : s.Refines p) : s.plain = p := by
  rw [plain, h.identity, h.items, h.keys]

/-! ## Looking things up -/

/-- An index answers what the plain store that it shows answers. -/
theorem Shows.lookup [DecidableEq ν] {s : Store κ ν α} {k : Nat} {p : PlainStore κ ν α} (h : s.Shows k p) (key : ν) :
    s.lookup k key = p.lookup k key := by
  obtain ⟨-, -, x, hx, hkeys, hfiles⟩ := h
  simp only [Store.lookup, hx, hfiles.lookup, PlainStore.lookup, PlainStore.keysOf, hkeys, List.filter_map]
  rfl

/-! ## Dropping what does not pass a test -/

/-- The identities dropped are those of the items that do not pass a test. -/
theorem mem_dropped_iff [DecidableEq κ] {l : List (κ × α)} (hl : Entries.Distinct l) {keep : α → Bool} {id : κ} :
    id ∈ (l.filter fun e => !keep e.2).map Prod.fst ↔ ∃ item, Entries.get? l id = some item ∧ keep item = false := by
  constructor
  · intro h
    obtain ⟨e, he, rfl⟩ := List.mem_map.1 h
    obtain ⟨he, hkeep⟩ := List.mem_filter.1 he
    exact ⟨e.2, (Entries.get?_eq_some_iff hl).2 he, by simpa using hkeep⟩
  · rintro ⟨item, hget, hkeep⟩
    exact List.mem_map.2 ⟨(id, item), List.mem_filter.2 ⟨Entries.mem_of_get? hget, by simp [hkeep]⟩, rfl⟩

variable [DecidableEq κ] [DecidableEq ν]

/-- The identities of the items that a test does not accept are those of no other items. -/
theorem filter_not_mem_dropped {l m : List (κ × α)} (hl : Entries.Distinct l) (hp : m.Perm l) (keep : α → Bool) :
    (m.filter fun e => e.1 ∉ (l.filter fun e => !keep e.2).map Prod.fst) = m.filter fun e => keep e.2 := by
  refine List.filter_congr fun e he => ?_
  have hget : Entries.get? l e.1 = some e.2 := (Entries.get?_eq_some_iff hl).2 (hp.mem_iff.1 he)
  simp only [mem_dropped_iff hl, hget, Option.some.injEq, exists_eq_left', Bool.not_eq_false, Bool.decide_eq_true]

/-! ## Adding -/

/-- An item without identity is refused and changes nothing. -/
theorem perform_add_none {s : Store κ ν α} {item : α} (h : s.identity item = none) :
    s.perform (.add item) = (.refused .missingIdentity, s) := by
  simp only [perform, add, h]

/-- An item is filed under its identity, behind the others, and goes to the end in every index. -/
theorem perform_add_some {s : Store κ ν α} {item : α} {id : κ} (h : s.identity item = some id) :
    s.perform (.add item) = (.added (Entries.get? s.items id),
      { s with
        items := Entries.file s.items id item
        indices := s.indices.map fun x => x.replace id (Entries.get? s.items id) item }) := by
  simp only [perform, add, get?, h]

/-! ## Removing -/

/-- Removing an identity answers what was found under it, and erases it whether it was there or not. -/
theorem remove_fst (s : Store κ ν α) (id : κ) : (s.remove id).1 = Entries.get? s.items id := by
  unfold remove get?
  cases Entries.get? s.items id <;> rfl

/-- Removing an identity erases its entry. -/
theorem items_remove (s : Store κ ν α) (id : κ) : (s.remove id).2.items = Entries.erase s.items id := by
  unfold remove get?
  cases h : Entries.get? s.items id with
  | none => exact (Entries.erase_eq_self (Entries.get?_eq_none_iff.1 h)).symm
  | some item => rfl

theorem identity_remove (s : Store κ ν α) (id : κ) : (s.remove id).2.identity = s.identity := by
  unfold remove
  cases s.get? id <;> rfl

theorem keysOf_remove (s : Store κ ν α) (id : κ) : (s.remove id).2.indices.map (·.keysOf) = s.indices.map (·.keysOf) := by
  unfold remove
  cases s.get? id with
  | none => rfl
  | some item => exact map_keysOf _ fun x => x.keysOf_remove id item

/-- Removing identities leaves the entries of the others. -/
theorem items_removeAll (s : Store κ ν α) (ids : List κ) :
    (s.removeAll ids).items = s.items.filter fun e => e.1 ∉ ids := by
  unfold removeAll
  induction ids generalizing s with
  | nil => simp
  | cons id ids ih =>
    rw [List.foldl_cons, ih, items_remove, Entries.erase, List.filter_filter]
    refine List.filter_congr fun e _ => ?_
    by_cases h : e.1 = id <;> simp [h]

theorem identity_removeAll (s : Store κ ν α) (ids : List κ) : (s.removeAll ids).identity = s.identity := by
  unfold removeAll
  induction ids generalizing s with
  | nil => rfl
  | cons id ids ih => rw [List.foldl_cons, ih, identity_remove]

/-- Removing identities keeps the key functions. -/
theorem keysOf_removeAll (s : Store κ ν α) (ids : List κ) :
    (s.removeAll ids).indices.map (·.keysOf) = s.indices.map (·.keysOf) := by
  unfold removeAll
  induction ids generalizing s with
  | nil => rfl
  | cons id ids ih => rw [List.foldl_cons, ih, keysOf_remove]

/-! ## One operation -/

/-- The identities stay distinct. -/
theorem distinct_perform {s : Store κ ν α} (h : Entries.Distinct s.items) (op : StoreOp κ ν α) :
    Entries.Distinct (s.perform op).2.items := by
  cases op with
  | add item =>
    cases hi : s.identity item with
    | none =>
      rw [perform_add_none hi]
      exact h
    | some id =>
      rw [perform_add_some hi]
      exact h.file id item
  | remove id =>
    change Entries.Distinct (s.remove id).2.items
    rw [items_remove]
    exact h.erase id
  | retain keep =>
    change Entries.Distinct (s.removeAll _).items
    rw [items_removeAll]
    exact h.filter _
  | clear => exact Entries.Distinct.nil
  | createIndex keysOf order => exact h

/-- The store and the plain store answer the same and stay alike. -/
theorem Refines.perform {s : Store κ ν α} {p : PlainStore κ ν α} (h : s.Refines p) (hd : Entries.Distinct s.items)
    (op : StoreOp κ ν α) : (s.perform op).1 = (p.perform op).1 ∧ (s.perform op).2.Refines (p.perform op).2 := by
  obtain ⟨hid, hitems, hkeys⟩ := h
  cases op with
  | add item =>
    cases hi : s.identity item with
    | none =>
      rw [perform_add_none hi, PlainStore.perform_add_none (hid ▸ hi)]
      exact ⟨rfl, hid, hitems, hkeys⟩
    | some id =>
      rw [perform_add_some hi, PlainStore.perform_add_some (hid ▸ hi), ← hitems]
      exact ⟨rfl, hid, rfl, (map_keysOf _ fun x => x.keysOf_replace id _ item).trans hkeys⟩
  | remove id =>
    refine ⟨?_, (identity_remove s id).trans hid, ?_, (keysOf_remove s id).trans hkeys⟩
    · change StoreAnswer.removed (s.remove id).1 = _
      rw [remove_fst, hitems]
      rfl
    · change (s.remove id).2.items = _
      rw [items_remove, hitems]
      rfl
  | retain keep =>
    refine ⟨?_, (identity_removeAll s _).trans hid, ?_, (keysOf_removeAll s _).trans hkeys⟩
    · simp [Store.perform, retain, PlainStore.perform, List.countP_eq_length_filter, hitems]
    · change (s.removeAll _).items = _
      rw [items_removeAll, filter_not_mem_dropped hd (List.Perm.refl _), hitems]
      rfl
  | clear => exact ⟨rfl, hid, rfl, (map_keysOf s.indices (f := fun x => { x with buckets := [] }) fun _ => rfl).trans hkeys⟩
  | createIndex keysOf order =>
    have hnew := (Index.files_ofItems (κ := κ) keysOf (hd.perm (Entries.arrange_perm order hd))).2
    refine ⟨?_, hid, hitems, ?_⟩
    · simp [Store.perform, createIndex, PlainStore.perform, ← hkeys]
    · simp [Store.perform, createIndex, PlainStore.perform, ← hkeys, hnew]

/-- An index goes on showing a plain store when an item is removed. -/
theorem Shows.remove {s : Store κ ν α} {k : Nat} {p : PlainStore κ ν α} (h : s.Shows k p) (hd : Entries.Distinct s.items)
    (id : κ) : (s.remove id).2.Shows k { p with items := Entries.erase p.items id } := by
  obtain ⟨hid, hperm, x, hx, hkeys, hfiles⟩ := h
  have hget : Entries.get? p.items id = Entries.get? s.items id := Entries.get?_of_perm hd hperm id
  refine ⟨(identity_remove s id).trans hid, ?_, ?_⟩
  · rw [items_remove]
    exact hperm.filter _
  · unfold Store.remove get?
    cases hg : Entries.get? s.items id with
    | none =>
      rw [hg] at hget
      rw [Entries.erase_eq_self (Entries.get?_eq_none_iff.1 hget)]
      exact ⟨x, hx, hkeys, hfiles⟩
    | some item =>
      rw [hg] at hget
      exact ⟨x.remove id item, by simp [hx], hkeys, hfiles.remove (hd.perm hperm) hget⟩

/-- An index goes on showing a plain store when items are removed one after the other. -/
theorem Shows.removeAll {s : Store κ ν α} {k : Nat} {p : PlainStore κ ν α} (h : s.Shows k p) (hd : Entries.Distinct s.items)
    (ids : List κ) : (s.removeAll ids).Shows k { p with items := p.items.filter fun e => e.1 ∉ ids } := by
  unfold Store.removeAll
  induction ids generalizing s p with
  | nil => simpa using h
  | cons id ids ih =>
    have hd' : Entries.Distinct (s.remove id).2.items := items_remove s id ▸ hd.erase id
    have hfilter : (Entries.erase p.items id).filter (fun e => e.1 ∉ ids) = p.items.filter fun e => e.1 ∉ id :: ids := by
      rw [Entries.erase, List.filter_filter]
      refine List.filter_congr fun e _ => ?_
      by_cases h : e.1 = id <;> simp [h]
    rw [List.foldl_cons, ← hfilter]
    exact ih (h.remove hd id) hd'

/-- An operation does to what an index shows what it does to a plain store. -/
theorem Shows.perform {s : Store κ ν α} {k : Nat} {p : PlainStore κ ν α} (h : s.Shows k p) (hd : Entries.Distinct s.items)
    (op : StoreOp κ ν α) : (s.perform op).2.Shows k (p.perform op).2 := by
  have hshows := h
  obtain ⟨hid, hperm, x, hx, hkeys, hfiles⟩ := h
  cases op with
  | add item =>
    cases hi : s.identity item with
    | none =>
      rw [perform_add_none hi, PlainStore.perform_add_none (hid ▸ hi)]
      exact hshows
    | some id =>
      rw [perform_add_some hi, PlainStore.perform_add_some (hid ▸ hi)]
      refine ⟨hid, (hperm.filter _).append_right _, x.replace id (Entries.get? s.items id) item, by simp [hx], ?_, ?_⟩
      · simpa using hkeys
      · rw [← Entries.get?_of_perm hd hperm]
        exact hfiles.replace (hd.perm hperm) id item
  | remove id => exact hshows.remove hd id
  | retain keep =>
    have hkept := hshows.removeAll hd ((s.items.filter fun e => !keep e.2).map Prod.fst)
    rw [filter_not_mem_dropped hd hperm] at hkept
    exact hkept
  | clear => exact ⟨hid, List.Perm.nil, { x with buckets := [] }, by simp [Store.perform, clear, hx], hkeys, Index.files_nil _⟩
  | createIndex keysOf order =>
    refine ⟨hid, hperm, x, ?_, ?_, hfiles⟩
    · exact (List.getElem?_append_left (List.getElem?_eq_some_iff.1 hx).1).trans hx
    · exact (List.getElem?_append_left (List.getElem?_eq_some_iff.1 hkeys).1).trans hkeys

/-- A new index shows the items held in the order in which they were gone through. -/
theorem Refines.createIndex {s : Store κ ν α} {p : PlainStore κ ν α} (h : s.Refines p) (hd : Entries.Distinct s.items)
    (keysOf : α → List ν) (order : List κ) : (s.perform (.createIndex keysOf order)).2.Shows p.keyFunctions.length
      { (p.perform (.createIndex keysOf order)).2 with items := Entries.arrange order p.items } := by
  have hnew := Index.files_ofItems (κ := κ) keysOf (hd.perm (Entries.arrange_perm order hd))
  have hlength : s.indices.length = p.keyFunctions.length := by rw [← h.keys, List.length_map]
  refine ⟨h.identity, ?_, Index.ofItems keysOf (Entries.arrange order s.items), ?_, ?_, ?_⟩
  · change (Entries.arrange order p.items).Perm s.items
    rw [← h.items]
    exact Entries.arrange_perm order hd
  · simp [Store.perform, Store.createIndex, ← hlength]
  · simp [PlainStore.perform, hnew.2]
  · change Index.Files _ (Entries.arrange order p.items)
    rw [← h.items]
    exact hnew.1

/-- A store stays sound. -/
theorem Sound.perform {s : Store κ ν α} (h : s.Sound) (op : StoreOp κ ν α) : (s.perform op).2.Sound := by
  refine ⟨distinct_perform h.distinct op, fun k hk => ?_⟩
  by_cases hold : k < s.indices.length
  · obtain ⟨p, hp⟩ := h.shown k hold
    exact ⟨_, hp.perform h.distinct op⟩
  · have hkeys := (s.refines_plain.perform h.distinct op).2.keys
    have hcount : s.plain.keyFunctions.length = s.indices.length := List.length_map _
    rcases PlainStore.keyFunctions_perform s.plain op with ⟨keysOf, order, rfl⟩ | hsame
    · have hlength := congrArg List.length hkeys
      simp only [PlainStore.perform, List.length_map, List.length_append, List.length_singleton] at hlength
      have hnew := s.refines_plain.createIndex h.distinct keysOf order
      rw [show s.plain.keyFunctions.length = k by omega] at hnew
      exact ⟨_, hnew⟩
    · have hlength := congrArg List.length (hkeys.trans hsame)
      rw [List.length_map, hcount] at hlength
      omega

/-- An operation does to a store what it does to the plain store beside it. -/
theorem Sound.plain_perform {s : Store κ ν α} (h : s.Sound) (op : StoreOp κ ν α) :
    (s.perform op).2.plain = (s.plain.perform op).2 :=
  (s.refines_plain.perform h.distinct op).2.plain_eq

end Store

end TenantGateway
