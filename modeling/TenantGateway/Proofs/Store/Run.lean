import TenantGateway.Proofs.Run
import TenantGateway.Proofs.Store.Refinement

/-!
# Runs of a store

After any run of operations on a store without items and indices, it answers everything as the plain store does that went
through the same run (`Store.run_refines_plain`): it holds the same items, and an index looks up the items that have a key. Those
that were added since the index was created stand last, in the order of their additions; those that were there before stand
first, in no promised order, since the index was made by going through the items in any order.
-/

namespace TenantGateway

variable {κ ν α : Type}

/-! ## The same entries, alike from some on -/

namespace Entries

/-- Two lists of the same entries, in both of which the entries of the marked keys stand last and in the same order. -/
def SameBehind (marked : κ → Prop) (l m : List (κ × α)) : Prop :=
  ∃ first second last, l = first ++ last ∧ m = second ++ last ∧ first.Perm second ∧ (∀ e ∈ second, ¬marked e.1) ∧
    ∀ e ∈ last, marked e.1

/-- Without marked keys, every two orders are alike. -/
theorem SameBehind.of_perm {l m : List (κ × α)} (h : l.Perm m) : SameBehind (fun _ => False) l m :=
  ⟨l, m, [], by simp, by simp, h, by simp, by simp⟩

theorem SameBehind.congr {marked marked' : κ → Prop} {l m : List (κ × α)} (h : SameBehind marked l m)
    (hm : ∀ k, marked k ↔ marked' k) : SameBehind marked' l m := by
  obtain ⟨first, second, last, rfl, rfl, hp, hs, hl⟩ := h
  exact ⟨first, second, last, rfl, rfl, hp, fun e he => mt (hm e.1).2 (hs e he), fun e he => (hm e.1).1 (hl e he)⟩

/-- A test leaves two such lists alike. -/
theorem SameBehind.filter {marked : κ → Prop} {l m : List (κ × α)} (h : SameBehind marked l m) (p : κ × α → Bool) :
    SameBehind marked (l.filter p) (m.filter p) := by
  obtain ⟨first, second, last, rfl, rfl, hp, hs, hl⟩ := h
  exact ⟨first.filter p, second.filter p, last.filter p, List.filter_append _ _, List.filter_append _ _, hp.filter p,
    fun e he => hs e (List.mem_filter.1 he).1, fun e he => hl e (List.mem_filter.1 he).1⟩

/-- A key that is filed is marked from then on. -/
theorem SameBehind.file [DecidableEq κ] {marked : κ → Prop} {l m : List (κ × α)} (h : SameBehind marked l m) (k : κ) (a : α) :
    SameBehind (fun x => marked x ∨ x = k) (file l k a) (file m k a) := by
  obtain ⟨first, second, last, rfl, rfl, hp, hs, hl⟩ := h
  refine ⟨erase first k, erase second k, erase last k ++ [(k, a)], ?_, ?_, hp.filter _, ?_, ?_⟩
  · rw [Entries.file, erase_append, List.append_assoc]
  · rw [Entries.file, erase_append, List.append_assoc]
  · intro e he
    obtain ⟨he, hne⟩ := mem_erase.1 he
    exact fun hor => hor.elim (hs e he) hne
  · intro e he
    rcases List.mem_append.1 he with he | he
    · exact Or.inl (hl e (mem_erase.1 he).1)
    · rw [List.mem_singleton.1 he]
      exact Or.inr rfl

/-- The entries of the marked keys are the last ones of either list, and the others are the same in any order. -/
theorem SameBehind.split {marked : κ → Prop} [DecidablePred marked] {l m : List (κ × α)} (h : SameBehind marked l m) :
    ∃ first, first.Perm (m.filter fun e => ¬marked e.1) ∧ l = first ++ m.filter fun e => marked e.1 := by
  obtain ⟨first, second, last, rfl, rfl, hp, hs, hl⟩ := h
  have hs0 : second.filter (fun e => marked e.1) = [] := List.filter_eq_nil_iff.2 fun e he => by simpa using hs e he
  have hs1 : second.filter (fun e => ¬marked e.1) = second := List.filter_eq_self.2 fun e he => by simpa using hs e he
  have hl0 : last.filter (fun e => ¬marked e.1) = [] := List.filter_eq_nil_iff.2 fun e he => by simpa using hl e he
  have hl1 : last.filter (fun e => marked e.1) = last := List.filter_eq_self.2 fun e he => by simpa using hl e he
  refine ⟨first, ?_, ?_⟩
  · rw [List.filter_append, hs1, hl0, List.append_nil]
    exact hp
  · rw [List.filter_append, hs0, hl1, List.nil_append]

end Entries

/-! ## Plain stores whose items stand in different orders -/

namespace PlainStore

variable [DecidableEq κ]

/-- An operation does the same to two orders of the items, and marks the item that it adds. -/
theorem sameBehind_perform {marked : κ → Prop} {q p : PlainStore κ ν α} (hid : q.identity = p.identity)
    (h : Entries.SameBehind marked q.items p.items) (op : StoreOp κ ν α) :
    Entries.SameBehind (fun x => marked x ∨ x ∈ StoreOp.addedIds p.identity [op]) (q.perform op).2.items
      (p.perform op).2.items := by
  cases op with
  | add item =>
    cases hi : p.identity item with
    | none =>
      rw [perform_add_none (hid ▸ hi), perform_add_none hi]
      exact h.congr fun x => by simp [StoreOp.addedIds, hi]
    | some id =>
      rw [perform_add_some (hid ▸ hi), perform_add_some hi]
      exact (h.file id item).congr fun x => by simp [StoreOp.addedIds, hi]
  | remove id => exact (h.filter _).congr fun x => by simp [StoreOp.addedIds]
  | retain keep => exact (h.filter _).congr fun x => by simp [StoreOp.addedIds]
  | clear => exact ⟨[], [], [], rfl, rfl, List.Perm.nil, by simp, by simp⟩
  | createIndex keysOf order => exact h.congr fun x => by simp [StoreOp.addedIds]

/-- A run does the same to two orders of the items, and marks the items that it adds. -/
theorem sameBehind_performAll {marked : κ → Prop} {q p : PlainStore κ ν α} (hid : q.identity = p.identity)
    (h : Entries.SameBehind marked q.items p.items) (ops : List (StoreOp κ ν α)) :
    Entries.SameBehind (fun x => marked x ∨ x ∈ StoreOp.addedIds p.identity ops) (performAll perform q ops).2.items
      (performAll perform p ops).2.items := by
  induction ops generalizing marked q p with
  | nil => exact h.congr fun x => by simp [StoreOp.addedIds]
  | cons op ops ih =>
    have hid' : (q.perform op).2.identity = (p.perform op).2.identity := by
      rw [identity_perform, identity_perform, hid]
    have hsplit : StoreOp.addedIds p.identity (op :: ops) =
        StoreOp.addedIds p.identity [op] ++ StoreOp.addedIds p.identity ops :=
      List.filterMap_append (l := [op])
    refine (ih hid' (sameBehind_perform hid h op)).congr fun x => ?_
    rw [identity_perform, hsplit, List.mem_append, or_assoc]

/-- An index keeps its number and its key function. -/
theorem getElem?_keyFunctions_performAll {p : PlainStore κ ν α} {k : Nat} {keysOf : α → List ν}
    (h : p.keyFunctions[k]? = some keysOf) (ops : List (StoreOp κ ν α)) :
    (performAll perform p ops).2.keyFunctions[k]? = some keysOf := by
  refine performAll_invariant (P := fun p : PlainStore κ ν α => p.keyFunctions[k]? = some keysOf) (fun op _ p h => ?_) h
  rcases keyFunctions_perform p op with ⟨keysOf', order, rfl⟩ | hp
  · exact (List.getElem?_append_left (List.getElem?_eq_some_iff.1 h).1).trans h
  · rw [hp]
    exact h

/-- No run changes what identifies an item. -/
theorem identity_after (identity : α → Option κ) (ops : List (StoreOp κ ν α)) : (after identity ops).identity = identity :=
  performAll_invariant (P := fun p : PlainStore κ ν α => p.identity = identity)
    (fun op _ p h => (identity_perform p op).trans h) rfl

end PlainStore

/-! ## Stores beside plain stores -/

namespace Store

/-- There is nothing in an index that was not created. -/
theorem Refines.keysOf_eq_nil {s : Store κ ν α} {p : PlainStore κ ν α} (hr : s.Refines p) {k : Nat}
    (hk : ¬k < s.indices.length) (item : α) : p.keysOf k item = [] := by
  have hp : p.keyFunctions[k]? = none := List.getElem?_eq_none (by rw [← hr.keys, List.length_map]; omega)
  rw [PlainStore.keysOf, hp]

section

variable [DecidableEq ν]

/-- An index shows the items of the plain store beside it, in some order, under the same keys. -/
theorem Sound.shows {s : Store κ ν α} (h : s.Sound) {p : PlainStore κ ν α} (hr : s.Refines p) {k : Nat}
    (hk : k < s.indices.length) : ∃ q, s.Shows k q ∧ q.items.Perm p.items ∧ q.keysOf k = p.keysOf k := by
  obtain ⟨q, hq⟩ := h.shown k hk
  refine ⟨q, hq, hr.items ▸ hq.items, ?_⟩
  obtain ⟨x, hx, hkeys, -⟩ := hq.index
  have hp : p.keyFunctions[k]? = some x.keysOf := by rw [← hr.keys, List.getElem?_map, hx]; rfl
  funext item
  rw [PlainStore.keysOf, PlainStore.keysOf, hkeys, hp]

/-- Looking up a key answers the items that have it. -/
theorem Sound.lookup_perm {s : Store κ ν α} (h : s.Sound) {p : PlainStore κ ν α} (hr : s.Refines p) (k : Nat) (key : ν) :
    (s.lookup k key).Perm (p.lookup k key) := by
  by_cases hk : k < s.indices.length
  · obtain ⟨q, hq, hitems, hkeys⟩ := h.shows hr hk
    rw [hq.lookup, PlainStore.lookup, hkeys]
    exact (hitems.map Prod.snd).filter _
  · rw [lookup, List.getElem?_eq_none (by omega), PlainStore.lookup]
    simp [hr.keysOf_eq_nil hk]

/-- The keys counted are the keys that the items have. -/
theorem Sound.keyCount {s : Store κ ν α} (h : s.Sound) {p : PlainStore κ ν α} (hr : s.Refines p) (k : Nat) :
    s.keyCount k = (p.keys k).length := by
  by_cases hk : k < s.indices.length
  · obtain ⟨q, hq, hitems, hkeys⟩ := h.shows hr hk
    obtain ⟨x, hx, hxk, hfiles⟩ := hq.index
    have hqk : q.keysOf k = x.keysOf := by
      funext item
      rw [PlainStore.keysOf, hxk]
    rw [Store.keyCount, hx]
    refine hfiles.keyCount (p.nodup_keys k) fun key => ?_
    rw [PlainStore.mem_keys, ← hkeys, hqk]
    exact exists_congr fun e => and_congr_left fun _ => hitems.mem_iff.symm
  · have hnone : p.items.flatMap (fun e => p.keysOf k e.2) = [] := by simp [hr.keysOf_eq_nil hk]
    rw [Store.keyCount, List.getElem?_eq_none (by omega), PlainStore.keys, hnone]
    rfl

end

variable [DecidableEq κ] [DecidableEq ν]

/-- After a run, a store and the plain store have answered the same and hold the same, and every index files what is held. -/
theorem after_refines (identity : α → Option κ) (ops : List (StoreOp κ ν α)) :
    (performAll perform (.new identity) ops).1 = (performAll PlainStore.perform (.new identity) ops).1 ∧
      (after identity ops).Refines (PlainStore.after identity ops) ∧ (after identity ops).Sound := by
  have hnew : Refines (new identity : Store κ ν α) (.new identity) ∧ Sound (new identity : Store κ ν α) :=
    ⟨⟨rfl, rfl, rfl⟩, Entries.Distinct.nil, fun k hk => absurd hk (Nat.not_lt_zero k)⟩
  exact performAll_simulation (R := fun s p => Refines s p ∧ Sound s)
    (fun op s p h => ⟨(h.1.perform h.2.distinct op).1, (h.1.perform h.2.distinct op).2, h.2.perform op⟩) ops hnew

/-- A run does to what an index shows what it does to a plain store. -/
theorem Shows.run {s : Store κ ν α} {k : Nat} {p : PlainStore κ ν α} (h : s.Shows k p)
    (hd : Entries.Distinct s.items) (ops : List (StoreOp κ ν α)) :
    (performAll Store.perform s ops).2.Shows k (performAll PlainStore.perform p ops).2 := by
  induction ops generalizing s p with
  | nil => exact h
  | cons op ops ih => exact ih (h.perform hd op) (distinct_perform hd op)

/-- An index that was created in the middle of a run looks up first the items that were there and were not added since, in some
order, and then those that were added since, in the order of their additions. -/
theorem lookup_createIndex (identity : α → Option κ) (before later : List (StoreOp κ ν α)) (keysOf : α → List ν)
    (order : List κ) (key : ν) :
    let ops := before ++ .createIndex keysOf order :: later
    let having := (PlainStore.after identity ops).items.filter fun e => key ∈ keysOf e.2
    ∃ first, first.Perm (having.filter fun e => e.1 ∉ StoreOp.addedIds identity later) ∧
      (after identity ops).lookup (PlainStore.after identity before).keyFunctions.length key =
        (first ++ having.filter fun e => e.1 ∈ StoreOp.addedIds identity later).map Prod.snd := by
  intro ops having
  obtain ⟨-, hr, hs⟩ := after_refines identity before
  set k := (PlainStore.after identity before).keyFunctions.length
  set p := ((PlainStore.after identity before).perform (.createIndex keysOf order)).2
  set q : PlainStore κ ν α := { p with items := Entries.arrange order (PlainStore.after identity before).items }
  set s := ((after identity before).perform (.createIndex keysOf order)).2
  have hshows : s.Shows k q := hr.createIndex hs.distinct keysOf order
  have hafter : after identity ops = (performAll perform s later).2 := by
    rw [after, performAll_append, performAll_cons]
    rfl
  have hplain : PlainStore.after identity ops = (performAll PlainStore.perform p later).2 := by
    rw [PlainStore.after, performAll_append, performAll_cons]
    rfl
  have hlater := hshows.run (distinct_perform hs.distinct _) later
  have hkeys : q.keyFunctions[k]? = some keysOf := by simp [q, p, k, PlainStore.perform]
  have hsame : Entries.SameBehind (· ∈ StoreOp.addedIds identity later) (performAll PlainStore.perform q later).2.items
      (PlainStore.after identity ops).items := by
    have hperm : q.items.Perm p.items := Entries.arrange_perm order (hr.items ▸ hs.distinct)
    have hid : p.identity = identity := (PlainStore.identity_perform _ _).trans (PlainStore.identity_after identity before)
    have hstart : Entries.SameBehind (fun _ => False) q.items p.items := .of_perm hperm
    rw [hplain, ← hid]
    exact (PlainStore.sameBehind_performAll (q := q) (p := p) rfl hstart later).congr fun x => by simp
  have hkeysOf : ∀ item, (performAll PlainStore.perform q later).2.keysOf k item = keysOf item := fun item => by
    rw [PlainStore.keysOf, PlainStore.getElem?_keyFunctions_performAll hkeys]
  obtain ⟨first, hfirst, heq⟩ := (hsame.filter fun e => key ∈ keysOf e.2).split
  refine ⟨first, hfirst, ?_⟩
  rw [hafter, hlater.lookup, PlainStore.lookup, List.filter_map]
  simp only [Function.comp_def, hkeysOf, heq]
  rfl

/-- A store answers every operation and every question as the plain store does that went through the same run: adding without
an identity is refused, the same items are held, an index looks up the items that have a key and counts the keys that look
something up, and in each index the items added since its creation stand last, in the order of their additions. -/
theorem run_refines_plain (identity : α → Option κ) (ops : List (StoreOp κ ν α)) :
    let s := after identity ops
    let p := PlainStore.after identity ops
    (performAll perform (.new identity) ops).1 = (performAll PlainStore.perform (.new identity) ops).1 ∧
    (∀ item, identity item = none → s.perform (.add item) = (.refused .missingIdentity, s)) ∧
    (∀ id, s.get? id = p.get? id) ∧ s.size = p.items.length ∧ s.values = p.items.map Prod.snd ∧
    (∀ k key, (s.lookup k key).Perm (p.lookup k key)) ∧
    (∀ k, s.keyCount k = (p.keys k).length ∧ (p.keys k).Nodup ∧ ∀ key, key ∈ p.keys k ↔ s.lookup k key ≠ []) ∧
    ∀ before keysOf order later, ops = before ++ .createIndex keysOf order :: later → ∀ key,
      let having := p.items.filter fun e => key ∈ keysOf e.2
      ∃ first, first.Perm (having.filter fun e => e.1 ∉ StoreOp.addedIds identity later) ∧
        s.lookup (PlainStore.after identity before).keyFunctions.length key =
          (first ++ having.filter fun e => e.1 ∈ StoreOp.addedIds identity later).map Prod.snd := by
  intro s p
  obtain ⟨hanswers, hr, hs⟩ := after_refines identity ops
  refine ⟨hanswers, fun item hi => ?_, fun id => ?_, ?_, ?_, fun k key => hs.lookup_perm hr k key, fun k => ?_, ?_⟩
  · exact perform_add_none ((hr.identity.trans (PlainStore.identity_after identity ops)) ▸ hi)
  · rw [get?, PlainStore.get?, hr.items]
  · rw [size, hr.items]
  · rw [values, hr.items]
  · refine ⟨hs.keyCount hr k, p.nodup_keys k, fun key => ?_⟩
    rw [PlainStore.mem_keys_iff_lookup, not_iff_not]
    exact ⟨fun h => (h ▸ hs.lookup_perm hr k key).eq_nil, fun h => (h ▸ hs.lookup_perm hr k key).symm.eq_nil⟩
  · rintro before keysOf order later rfl key
    exact lookup_createIndex identity before later keysOf order key

/-- An index that is created over two items files the one that is added again after the other. -/
theorem run_refines_plain_late_index :
    let identity : Nat × List Nat → Option Nat := fun item => if item.1 = 0 then none else some item.1
    let s := after identity [.add (1, [7, 7]), .add (2, [7]), .createIndex Prod.snd [2], .add (1, [8, 7])]
    s.perform (.add (0, [7])) = (.refused .missingIdentity, s) ∧
      s.lookup 0 7 = [(2, [7]), (1, [8, 7])] ∧ s.keyCount 0 = 2 ∧ s.get? 1 = some (1, [8, 7]) := by
  intro identity s
  obtain ⟨-, hrefused, hget, -, -, -, hcount, hlate⟩ := run_refines_plain identity
    [.add (1, [7, 7]), .add (2, [7]), .createIndex Prod.snd [2], .add (1, [8, 7])]
  refine ⟨hrefused (0, [7]) rfl, ?_, (hcount 0).1, hget 1⟩
  obtain ⟨first, hfirst, heq⟩ := hlate [.add (1, [7, 7]), .add (2, [7])] Prod.snd [2] [.add (1, [8, 7])] rfl 7
  have hone : first = [(2, (2, [7]))] := List.perm_singleton.1 hfirst
  rw [hone] at heq
  exact heq

end Store

end TenantGateway
