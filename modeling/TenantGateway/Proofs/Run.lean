import Mathlib.Data.List.Induction
import TenantGateway.Run

/-!
# What a run preserves

What every operation preserves, a run preserves (`performAll_invariant`); and when every operation answers the same in two states
that are alike and leaves them alike, so does a run (`performAll_simulation`). What an operation answers in a run is what it answers
after the operations before it (`performAll_getElem?`), and a value that some operations set and the others leave alone is decided by
the last one that sets it (`eq_some_iff_last`).
-/

namespace TenantGateway

section

variable {σ τ ο ρ : Type} {perform : σ → ο → ρ × σ} {perform' : τ → ο → ρ × τ}

/-- What every operation of a run preserves, the run preserves. -/
theorem performAll_invariant {P : σ → Prop} {ops : List ο} (hstep : ∀ op ∈ ops, ∀ s, P s → P (perform s op).2) {s : σ}
    (h : P s) : P (performAll perform s ops).2 := by
  induction ops generalizing s with
  | nil => exact h
  | cons op ops ih =>
    rw [performAll_cons]
    exact ih (fun op' hop => hstep op' (List.mem_cons_of_mem op hop)) (hstep op List.mem_cons_self s h)

/-- Two runs of the same operations answer the same when each operation does, in states that are alike. -/
theorem performAll_simulation {R : σ → τ → Prop}
    (hstep : ∀ op s t, R s t → (perform s op).1 = (perform' t op).1 ∧ R (perform s op).2 (perform' t op).2) (ops : List ο)
    {s : σ} {t : τ} (h : R s t) : (performAll perform s ops).1 = (performAll perform' t ops).1 ∧
      R (performAll perform s ops).2 (performAll perform' t ops).2 := by
  induction ops generalizing s t with
  | nil => exact ⟨rfl, h⟩
  | cons op ops ih =>
    obtain ⟨hanswer, hnext⟩ := hstep op s t h
    obtain ⟨hanswers, hlast⟩ := ih hnext
    rw [performAll_cons, performAll_cons]
    exact ⟨by rw [hanswer, hanswers], hlast⟩

/-- An operation of a run answers as it does in the state that the operations before it lead to. -/
theorem performAll_getElem? (s : σ) (before : List ο) (op : ο) (later : List ο) :
    (performAll perform s (before ++ op :: later)).1[before.length]? =
      some (perform (performAll perform s before).2 op).1 := by
  have hlength := length_performAll perform s before
  rw [performAll_append, List.getElem?_append_right (Nat.le_of_eq hlength), hlength, Nat.sub_self, performAll_cons]
  rfl

/-- The last operation of a kind in a history is the one at its end, or is the last one before the end when that is of another
kind. -/
theorem exists_last_snoc {P Q : ο → Prop} {ops : List ο} {last : ο} :
    (∃ before op later, ops ++ [last] = before ++ op :: later ∧ P op ∧ ∀ x ∈ later, ¬Q x) ↔
      P last ∨ ¬Q last ∧ ∃ before op later, ops = before ++ op :: later ∧ P op ∧ ∀ x ∈ later, ¬Q x := by
  constructor
  · rintro ⟨before, op, later, hops, hop, hlater⟩
    rcases List.eq_nil_or_concat later with rfl | ⟨later, x, rfl⟩
    · obtain ⟨-, hlast⟩ := List.append_inj' hops rfl
      exact Or.inl (List.singleton_inj.1 hlast ▸ hop)
    · rw [List.concat_eq_append] at hops hlater
      rw [← List.cons_append, ← List.append_assoc] at hops
      obtain ⟨hinit, hlast⟩ := List.append_inj' hops rfl
      obtain rfl := List.singleton_inj.1 hlast
      refine Or.inr ⟨hlater last (by simp), before, op, later, hinit, hop, fun y hy => hlater y ?_⟩
      exact List.mem_append_left _ hy
  · rintro (hlast | ⟨hlast, before, op, later, rfl, hop, hlater⟩)
    · exact ⟨ops, last, [], rfl, hlast, fun x hx => nomatch hx⟩
    · refine ⟨before, op, later ++ [last], by simp, hop, fun x hx => ?_⟩
      rcases List.mem_append.1 hx with hx | hx
      · exact hlater x hx
      · exact List.mem_singleton.1 hx ▸ hlast

/-- When every operation either sets a value, whatever it was, or leaves it alone, the last operation that sets it decides. -/
theorem eq_some_iff_last {α : Type} (value : List ο → Option α) (Sets : ο → Prop) [DecidablePred Sets] (sets : ο → Option α)
    (hnil : value [] = none) (hsnoc : ∀ ops op, value (ops ++ [op]) = if Sets op then sets op else value ops) (ops : List ο) (a : α) :
    value ops = some a ↔
      ∃ before op later, ops = before ++ op :: later ∧ (Sets op ∧ sets op = some a) ∧ ∀ x ∈ later, ¬Sets x := by
  induction ops using List.reverseRecOn with
  | nil => simp [hnil]
  | append_singleton ops op ih =>
    rw [hsnoc, exists_last_snoc, ← ih]
    by_cases hop : Sets op <;> simp [hop]

end

end TenantGateway
