import TenantGateway.Proofs.Store.Run

/-!
# Indices in the order of additions

An index that is created before the items come, or goes through them in their order, files them in the order in which they were last
added, and goes on doing so (`Store.InOrder`). Then looking up a key answers exactly what going through the items answers.
-/

namespace TenantGateway

namespace Store

variable {κ ν α : Type}

/-- The plain store beside a store has as many indices. -/
theorem length_keyFunctions_plain (s : Store κ ν α) : s.plain.keyFunctions.length = s.indices.length := List.length_map _

variable [DecidableEq ν] {s : Store κ ν α}

/-- Every index files the items in the order in which they were last added. -/
def InOrder (s : Store κ ν α) : Prop := ∀ k < s.indices.length, s.Shows k s.plain

theorem inOrder_new (identity : α → Option κ) : (new identity : Store κ ν α).InOrder := fun k hk => absurd hk (Nat.not_lt_zero k)

/-- Looking up a key answers the items that have it, in the order in which they were last added. -/
theorem InOrder.lookup (h : s.InOrder) (k : Nat) (key : ν) : s.lookup k key = s.plain.lookup k key := by
  by_cases hk : k < s.indices.length
  · exact (h k hk).lookup key
  · rw [Store.lookup, List.getElem?_eq_none (by omega), PlainStore.lookup]
    simp [s.refines_plain.keysOf_eq_nil hk]

/-- Every operation keeps the order, provided that a new index goes through the items in theirs. -/
theorem InOrder.perform [DecidableEq κ] (h : s.InOrder) (hs : s.Sound) {op : StoreOp κ ν α}
    (horder : ∀ keysOf order, op = .createIndex keysOf order → Entries.arrange order s.items = s.items) :
    (s.perform op).2.InOrder := by
  intro k hk
  rw [hs.plain_perform op]
  by_cases hold : k < s.indices.length
  · exact (h k hold).perform hs.distinct op
  · have hcount : (s.plain.perform op).2.keyFunctions.length = (s.perform op).2.indices.length := by
      rw [← hs.plain_perform op, length_keyFunctions_plain]
    rcases PlainStore.keyFunctions_perform s.plain op with ⟨keysOf, order, rfl⟩ | hsame
    · have hnew := s.refines_plain.createIndex hs.distinct keysOf order
      have hlength : (s.plain.perform (.createIndex keysOf order)).2.keyFunctions.length = s.indices.length + 1 := by
        simp [PlainStore.perform, length_keyFunctions_plain]
      have hk' : s.plain.keyFunctions.length = k := by
        rw [length_keyFunctions_plain]
        omega
      rw [hk', show Entries.arrange order s.plain.items = s.plain.items from horder keysOf order rfl] at hnew
      exact hnew
    · rw [hsame, length_keyFunctions_plain] at hcount
      omega

end Store

end TenantGateway
