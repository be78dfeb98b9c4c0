import TenantGateway.Proofs.Store.Run

/-!
# Removing many items

Removing an item from a store takes its entry out of the list of items and out of every bucket, and buckets that become empty are
gone. So items that are removed one by one leave what filtering leaves: the entries that were not removed, everywhere in their order
(`Store.keeping`, `Sound.removeAll_eq`). What is left does not depend on the order of the removals, and retaining twice is
retaining what passes both tests (`Store.retain_agrees_with_removals`).
-/

namespace TenantGateway

variable {κ ν α : Type}

namespace Index

/-! ## Buckets -/

/-- A bucket with the entries that pass a test, if there are any. -/
def keptBucket (keep : κ × α → Bool) (b : ν × List (κ × α)) : Option (ν × List (κ × α)) :=
  if (b.2.filter keep).isEmpty then none else some (b.1, b.2.filter keep)

/-- Testing what passed a test is testing for both. -/
theorem keptBucket_bind (keep also : κ × α → Bool) (b : ν × List (κ × α)) :
    (keptBucket keep b).bind (keptBucket also) = keptBucket (fun e => keep e && also e) b := by
  have hboth : (b.2.filter keep).filter also = b.2.filter fun e => keep e && also e := by
    rw [List.filter_filter]
    exact List.filter_congr fun e _ => Bool.and_comm _ _
  unfold keptBucket
  by_cases h : (b.2.filter keep).isEmpty = true
  · rw [if_pos h, Option.bind_none, ← hboth, List.isEmpty_iff.1 h]
    rfl
  · rw [if_neg h, Option.bind_some, hboth]

/-- A bucket that is not empty, and whose entries all pass, stays as it is. -/
theorem keptBucket_of_all {keep : κ × α → Bool} {b : ν × List (κ × α)} (hne : b.2 ≠ []) (h : ∀ e ∈ b.2, keep e = true) :
    keptBucket keep b = some b := by
  unfold keptBucket
  rw [List.filter_eq_self.2 h]
  simp [hne]

/-- Tests that agree on a bucket leave the same of it. -/
theorem keptBucket_congr {keep also : κ × α → Bool} {b : ν × List (κ × α)} (h : ∀ e ∈ b.2, keep e = also e) :
    keptBucket keep b = keptBucket also b := by
  unfold keptBucket
  rw [List.filter_congr h]

/-! ## Indices -/

/-- The index with the entries that pass a test. A bucket that becomes empty is gone. -/
def keeping (x : Index κ ν α) (keep : κ × α → Bool) : Index κ ν α :=
  { x with buckets := x.buckets.filterMap (keptBucket keep) }

/-- An index is tested for two tests at once or one after the other. -/
theorem keeping_keeping (x : Index κ ν α) (keep also : κ × α → Bool) :
    (x.keeping keep).keeping also = x.keeping fun e => keep e && also e := by
  unfold keeping
  rw [List.filterMap_filterMap]
  simp only [keptBucket_bind]

/-- What no entry passes leaves an index without buckets. -/
theorem keeping_false (x : Index κ ν α) : x.keeping (fun _ => false) = { x with buckets := [] } := by
  simp [keeping, keptBucket]

variable [DecidableEq ν] {x : Index κ ν α} {filed : List (κ × α)}

/-- A bucket holds the items filed that have its key. -/
theorem Files.of_mem (h : x.Files filed) {b : ν × List (κ × α)} (hb : b ∈ x.buckets) :
    b.2 = filed.filter fun e => b.1 ∈ x.keysOf e.2 := by
  have hget : Entries.get? x.buckets b.1 = some b.2 := (Entries.get?_eq_some_iff h.tidy.distinct).2 hb
  rw [← h.bucket, bucketAt, hget]
  rfl

/-- What every filed entry passes, nothing is lost by. -/
theorem Files.keeping_of_all (h : x.Files filed) {keep : κ × α → Bool} (hkeep : ∀ e ∈ filed, keep e = true) :
    x.keeping keep = x := by
  have hall : x.buckets.filterMap (keptBucket keep) = x.buckets.filterMap some := by
    refine List.filterMap_congr fun b hb => keptBucket_of_all (h.tidy.nonempty b hb) fun e he => hkeep e ?_
    rw [h.of_mem hb] at he
    exact (List.mem_filter.1 he).1
  unfold keeping
  rw [hall, List.filterMap_some]

/-- Tests that agree on the entries filed leave the same. -/
theorem Files.keeping_congr (h : x.Files filed) {keep also : κ × α → Bool} (hsame : ∀ e ∈ filed, keep e = also e) :
    x.keeping keep = x.keeping also := by
  unfold keeping
  rw [List.filterMap_congr fun b hb => keptBucket_congr fun e he => hsame e ?_]
  rw [h.of_mem hb] at he
  exact (List.mem_filter.1 he).1

/-! ## Items in an index -/

variable [DecidableEq κ]

/-- Dropping an item under a key leaves the other entries in the bucket of the key. -/
theorem dropUnder_eq (buckets : List (ν × List (κ × α))) (k : ν) (id : κ) :
    dropUnder buckets k id =
      buckets.filterMap fun b => if b.1 = k then keptBucket (fun e => e.1 ≠ id) b else some b := by
  unfold dropUnder
  refine List.filterMap_congr fun b _ => ?_
  by_cases hk : b.1 = k
  · rw [if_pos hk, if_pos hk, keptBucket, ← Entries.erase]
    cases Entries.erase b.2 id <;> rfl
  · rw [if_neg hk, if_neg hk]

/-- Dropping an item under keys, repeated or not, leaves the other entries in the bucket of each of them. -/
theorem foldl_dropUnder_eq (keys : List ν) (buckets : List (ν × List (κ × α))) (id : κ) :
    keys.foldl (fun buckets k => dropUnder buckets k id) buckets =
      buckets.filterMap fun b => if b.1 ∈ keys then keptBucket (fun e => e.1 ≠ id) b else some b := by
  induction keys generalizing buckets with
  | nil => simp
  | cons k keys ih =>
    rw [List.foldl_cons, ih, dropUnder_eq, List.filterMap_filterMap]
    refine List.filterMap_congr fun b _ => ?_
    by_cases hk : b.1 = k
    · rw [if_pos hk, if_pos (by simp [hk])]
      have hagain := keptBucket_bind (fun e : κ × α => decide (e.1 ≠ id)) (fun e => decide (e.1 ≠ id)) b
      simp only [Bool.and_self] at hagain
      cases hb : keptBucket (fun e => decide (e.1 ≠ id)) b with
      | none => rfl
      | some c =>
        rw [hb, Option.bind_some] at hagain
        rw [Option.bind_some, hagain]
        split <;> rfl
    · simp [hk]

/-- A filed item is removed from every bucket that it is in: those of its keys. -/
theorem Files.remove_eq (h : x.Files filed) (hd : Entries.Distinct filed) {id : κ} {item : α}
    (hm : Entries.get? filed id = some item) : x.remove id item = x.keeping fun e => e.1 ≠ id := by
  unfold Index.remove keeping
  rw [foldl_dropUnder_eq]
  rw [List.filterMap_congr fun b hb => ?_]
  by_cases hk : b.1 ∈ x.keysOf item
  · rw [if_pos hk]
  · rw [if_neg hk]
    refine (keptBucket_of_all (h.tidy.nonempty b hb) fun e he => ?_).symm
    rw [h.of_mem hb] at he
    obtain ⟨he, hkey⟩ := List.mem_filter.1 he
    rw [decide_eq_true_eq]
    intro hid
    have hget : Entries.get? filed id = some e.2 := (Entries.get?_eq_some_iff hd).2 (hid ▸ he)
    rw [hm] at hget
    rw [← Option.some.inj hget] at hkey
    exact hk (by simpa using hkey)

end Index

namespace Store

/-! ## Tests -/

/-- The store with the entries that pass a test, in the list of items and in every index. -/
def keeping (s : Store κ ν α) (keep : κ × α → Bool) : Store κ ν α :=
  { s with items := s.items.filter keep, indices := s.indices.map (·.keeping keep) }

/-- A store is tested for two tests at once or one after the other. -/
theorem keeping_keeping (s : Store κ ν α) (keep also : κ × α → Bool) :
    (s.keeping keep).keeping also = s.keeping fun e => keep e && also e := by
  unfold keeping
  simp only [List.filter_filter, List.map_map, Function.comp_def, Index.keeping_keeping, Bool.and_comm]

/-- What no entry passes leaves a cleared store. -/
theorem keeping_false (s : Store κ ν α) : s.keeping (fun _ => false) = s.clear := by
  simp [keeping, clear, Index.keeping_false]

section

variable [DecidableEq ν] {s : Store κ ν α}

/-- Every index files the items held. -/
theorem Sound.files (h : s.Sound) {x : Index κ ν α} (hx : x ∈ s.indices) : ∃ filed, x.Files filed ∧ filed.Perm s.items := by
  obtain ⟨k, hk, rfl⟩ := List.getElem_of_mem hx
  obtain ⟨p, -, hperm, x, hx, -, hfiles⟩ := h.shown k hk
  rw [List.getElem?_eq_getElem hk] at hx
  exact ⟨p.items, Option.some.inj hx ▸ hfiles, hperm⟩

/-- Tests that agree on the items held leave the same. -/
theorem Sound.keeping_congr (h : s.Sound) {keep also : κ × α → Bool} (hsame : ∀ e ∈ s.items, keep e = also e) :
    s.keeping keep = s.keeping also := by
  unfold keeping
  rw [List.filter_congr hsame, List.map_congr_left fun x hx => ?_]
  obtain ⟨filed, hfiles, hperm⟩ := h.files hx
  exact hfiles.keeping_congr fun e he => hsame e (hperm.mem_iff.1 he)

/-- What every item passes, nothing is lost by. -/
theorem Sound.keeping_of_all (h : s.Sound) {keep : κ × α → Bool} (hkeep : ∀ e ∈ s.items, keep e = true) :
    s.keeping keep = s := by
  unfold keeping
  rw [List.filter_eq_self.2 hkeep, List.map_congr_left fun x hx => ?_, List.map_id']
  obtain ⟨filed, hfiles, hperm⟩ := h.files hx
  exact hfiles.keeping_of_all fun e he => hkeep e (hperm.mem_iff.1 he)

end

section

variable [DecidableEq κ] {s : Store κ ν α}

/-- Whether an identity is that of an item that does not pass a test. -/
def Drops (s : Store κ ν α) (keep : α → Bool) (id : κ) : Prop := ∃ item, s.get? id = some item ∧ keep item = false

/-- As many identities are removed as there are items that do not pass. -/
theorem length_of_drops (hd : Entries.Distinct s.items) {keep : α → Bool} {ids : List κ} (hn : ids.Nodup)
    (hids : ∀ id, id ∈ ids ↔ s.Drops keep id) : ids.length = s.items.countP fun e => !keep e.2 := by
  have hperm : ids.Perm ((s.items.filter fun e => !keep e.2).map Prod.fst) :=
    (List.perm_ext_iff_of_nodup hn (hd.filter _)).2 fun id => (hids id).trans (mem_dropped_iff hd).symm
  rw [hperm.length_eq, List.length_map, List.countP_eq_length_filter]

end

variable [DecidableEq κ] [DecidableEq ν] {s : Store κ ν α}

/-! ## Removals -/

/-- Removing an identity leaves the entries of the others, whether it was there or not. -/
theorem Sound.remove_eq (h : s.Sound) (id : κ) :
    s.remove id = (Entries.get? s.items id, s.keeping fun e => e.1 ≠ id) := by
  unfold remove get?
  cases hg : Entries.get? s.items id with
  | none =>
    have hall : s.keeping (fun e => decide (e.1 ≠ id)) = s :=
      h.keeping_of_all fun e he => decide_eq_true (Entries.get?_eq_none_iff.1 hg e he)
    rw [hall]
  | some item =>
    have hindices : s.indices.map (fun x => x.remove id item) =
        s.indices.map fun x => x.keeping fun e => decide (e.1 ≠ id) := by
      refine List.map_congr_left fun x hx => ?_
      obtain ⟨filed, hfiles, hperm⟩ := h.files hx
      exact hfiles.remove_eq (h.distinct.perm hperm) ((Entries.get?_of_perm h.distinct hperm id).trans hg)
    dsimp only
    rw [hindices]
    rfl

/-- Removing identities one by one leaves the entries of the others. -/
theorem Sound.removeAll_eq (h : s.Sound) (ids : List κ) : s.removeAll ids = s.keeping fun e => e.1 ∉ ids := by
  unfold removeAll
  induction ids generalizing s with
  | nil => simp [h.keeping_of_all]
  | cons id ids ih =>
    have hsound : (s.remove id).2.Sound := h.perform (.remove id)
    rw [List.foldl_cons, ih hsound, h.remove_eq, keeping_keeping]
    simp only [List.mem_cons, not_or, Bool.decide_and]

/-- A run of removals removes one identity after the other. -/
theorem performAll_remove_snd (s : Store κ ν α) (ids : List κ) :
    (performAll Store.perform s (ids.map StoreOp.remove)).2 = s.removeAll ids := by
  unfold removeAll
  induction ids generalizing s with
  | nil => rfl
  | cons id ids ih =>
    rw [List.map_cons, performAll_cons, List.foldl_cons, ← ih]
    rfl

/-- A run of removals, of every identity once, answers the items that were there. -/
theorem performAll_remove_fst (s : Store κ ν α) {ids : List κ} (hn : ids.Nodup) :
    (performAll Store.perform s (ids.map StoreOp.remove)).1 = ids.map fun id => StoreAnswer.removed (s.get? id) := by
  induction ids generalizing s with
  | nil => rfl
  | cons id ids ih =>
    obtain ⟨hid, hn⟩ := List.nodup_cons.1 hn
    have hget : ∀ id' ∈ ids, (s.remove id).2.get? id' = s.get? id' := by
      intro id' hmem
      have hne : id ≠ id' := fun he => hid (he ▸ hmem)
      rw [get?, items_remove, Entries.get?_erase, if_neg hne, get?]
    have hfirst : (s.perform (.remove id)).1 = .removed (s.get? id) := congrArg StoreAnswer.removed (s.remove_fst id)
    rw [List.map_cons, performAll_cons, hfirst, List.map_cons]
    refine congrArg _ ((ih (s.remove id).2 hn).trans ?_)
    exact List.map_congr_left fun id' hmem => congrArg StoreAnswer.removed (hget id' hmem)

/-! ## Retaining -/

/-- Removing what does not pass a test leaves what passes it, in whatever order the identities are listed. -/
theorem Sound.removeAll_of_drops (h : s.Sound) {keep : α → Bool} {ids : List κ} (hids : ∀ id, id ∈ ids ↔ s.Drops keep id) :
    s.removeAll ids = s.keeping fun e => keep e.2 := by
  rw [h.removeAll_eq]
  refine h.keeping_congr fun e he => ?_
  have hget : s.get? e.1 = some e.2 := (Entries.get?_eq_some_iff h.distinct).2 he
  have hdrops : s.Drops keep e.1 ↔ keep e.2 = false := by
    unfold Drops
    simp [hget]
  cases hkeep : keep e.2 with
  | false => simpa using (hids e.1).2 (hdrops.2 hkeep)
  | true => simpa [hids e.1, hdrops] using hkeep

/-- Retaining leaves the entries of the items that pass, and answers how many do not. -/
theorem Sound.retain_eq (h : s.Sound) (keep : α → Bool) :
    s.retain keep = (s.items.countP fun e => !keep e.2, s.keeping fun e => keep e.2) := by
  have hleft : s.removeAll _ = s.keeping fun e => keep e.2 := h.removeAll_of_drops fun _ => mem_dropped_iff h.distinct
  unfold retain
  dsimp only
  rw [hleft, List.length_map, List.countP_eq_length_filter]

/-- What is retained and what is not are all items. -/
theorem Sound.size_retain (h : s.Sound) (keep : α → Bool) : (s.retain keep).1 + (s.retain keep).2.size = s.size := by
  have hcount := List.length_eq_countP_add_countP (fun e : κ × α => keep e.2) (l := s.items)
  rw [h.retain_eq, size, size, hcount, keeping, ← List.countP_eq_length_filter, Nat.add_comm]
  simp

/-- What is left of what passed a test is what passes both. -/
theorem Sound.retain_retain (h : s.Sound) (keep also : α → Bool) :
    ((s.retain keep).2.retain also).2 = (s.retain fun item => keep item && also item).2 := by
  have hkept : (s.retain keep).2.Sound := h.perform (.retain keep)
  rw [hkept.retain_eq, h.retain_eq, h.retain_eq, keeping_keeping]

/-- An index loses the items that do not pass, and keeps the others in their order. -/
theorem Sound.lookup_retain (h : s.Sound) (keep : α → Bool) (k : Nat) (key : ν) :
    (s.retain keep).2.lookup k key = (s.lookup k key).filter keep := by
  by_cases hk : k < s.indices.length
  · obtain ⟨p, hp⟩ := h.shown k hk
    have hafter : (s.retain keep).2.Shows k (p.perform (.retain keep)).2 := hp.perform h.distinct (.retain keep)
    rw [hafter.lookup, hp.lookup, PlainStore.lookup, PlainStore.lookup, List.filter_filter, PlainStore.perform, List.filter_map,
      List.filter_map, List.filter_filter]
    exact congrArg _ (List.filter_congr fun e _ => Bool.and_comm _ _)
  · have hlength : (s.retain keep).2.indices.length = s.indices.length := by
      rw [h.retain_eq]
      exact List.length_map _
    rw [lookup, lookup, List.getElem?_eq_none (by omega), List.getElem?_eq_none (by omega)]
    rfl

/-- After any run of operations, retaining the items that pass a test leaves exactly the store that is left when the others are
removed one by one, in any order: the same items, and in every index the same buckets with the same items in the same order, which
are those that were there before and pass. It answers how many were removed. Retaining what passes another test after that is
retaining what passes both, and the numbers add up; retaining nothing leaves the store that clearing leaves. -/
theorem retain_agrees_with_removals (identity : α → Option κ) (ops : List (StoreOp κ ν α)) (p q : α → Bool) :
    let s := after identity ops
    (∀ ids : List κ, ids.Nodup → (∀ id, id ∈ ids ↔ ∃ item, s.get? id = some item ∧ p item = false) →
      performAll Store.perform s (ids.map .remove) = (ids.map fun id => .removed (s.get? id), (s.retain p).2) ∧
        (s.retain p).1 = ids.length) ∧
    (s.retain p).1 + (s.retain p).2.size = s.size ∧
    (∀ id, (s.retain p).2.get? id = (s.get? id).filter p) ∧
    (∀ k key, (s.retain p).2.lookup k key = (s.lookup k key).filter p) ∧
    s.retain (fun item => p item && q item) =
      ((s.retain p).1 + ((s.retain p).2.retain q).1, ((s.retain p).2.retain q).2) ∧
    s.retain (fun _ => false) = (s.size, s.clear) := by
  intro s
  have hs : s.Sound := (after_refines identity ops).2.2
  refine ⟨fun ids hn hids => ?_, hs.size_retain p, fun id => ?_, hs.lookup_retain p, ?_, ?_⟩
  · rw [hs.retain_eq, ← length_of_drops hs.distinct hn hids, ← hs.removeAll_of_drops hids, ← performAll_remove_snd,
      ← performAll_remove_fst s hn]
    exact ⟨rfl, rfl⟩
  · rw [hs.retain_eq]
    exact Entries.get?_filter hs.distinct (fun e => p e.2) id
  · have hleft := hs.retain_retain p q
    have hkept : (s.retain p).2.Sound := hs.perform (.retain p)
    have hfirst := hs.size_retain p
    have hsecond := hkept.size_retain q
    have hboth := hs.size_retain fun item => p item && q item
    rw [← hleft] at hboth
    exact Prod.ext (by omega) hleft.symm
  · rw [hs.retain_eq, keeping_false]
    simp [size]

/-- Of five items, the even ones are removed in the opposite order: the first index, in which every item has a key twice, loses one
of its buckets, and the second one, created over the first three items from the last to the first, keeps the order of those left. -/
theorem retain_agrees_with_removals_backwards :
    let ops : List (StoreOp Nat Nat Nat) := [.createIndex fun n => [n % 2, n % 2], .add 1, .add 2, .add 3,
      .createIndex (fun n => [n / 4]) [3, 2, 1], .add 5, .add 4]
    let s := after some ops
    let odd (n : Nat) : Bool := n % 2 == 1
    [4, 2].Nodup ∧ (∀ id, id ∈ [4, 2] ↔ ∃ item, s.get? id = some item ∧ odd item = false) ∧
      performAll Store.perform s [.remove 4, .remove 2] = ([.removed (some 4), .removed (some 2)], (s.retain odd).2) ∧
      (s.retain odd).1 = 2 ∧ (s.retain odd).2.keyCount 0 = 1 ∧ (s.retain odd).2.lookup 1 0 = [3, 1] := by
  intro ops s odd
  have hn : [4, 2].Nodup := by decide
  have hitems : s.items = [(1, 1), (2, 2), (3, 3), (5, 5), (4, 4)] := by decide
  have hids : ∀ id, id ∈ [4, 2] ↔ ∃ item, s.get? id = some item ∧ odd item = false := by
    intro id
    constructor
    · intro hmem
      rcases List.mem_pair.1 hmem with rfl | rfl
      · exact ⟨4, by decide, by decide⟩
      · exact ⟨2, by decide, by decide⟩
    · rintro ⟨item, hget, hodd⟩
      have hmem := Entries.mem_of_get? hget
      rw [hitems] at hmem
      simp only [List.mem_cons, Prod.mk.injEq, List.not_mem_nil, or_false] at hmem
      rcases hmem with ⟨rfl, rfl⟩ | ⟨rfl, rfl⟩ | ⟨rfl, rfl⟩ | ⟨rfl, rfl⟩ | ⟨rfl, rfl⟩ <;> simp [odd] at hodd ⊢
  obtain ⟨hremove, -, -, hlookup, -⟩ := retain_agrees_with_removals some ops odd odd
  obtain ⟨hsame, hcount⟩ := hremove [4, 2] hn hids
  exact ⟨hn, hids, hsame, hcount, by decide, hlookup 1 0⟩

end Store

end TenantGateway
