/-!
# Runs

A run performs operations one after the other, each on the state that the one before left behind, and collects their
answers in order.
-/

namespace TenantGateway

/-- Performs operations in order. Answers what each of them answered, and the state after the last one. -/
def performAll {σ ο ρ : Type} (perform : σ → ο → ρ × σ) : σ → List ο → List ρ × σ
  | s, [] => ([], s)
  | s, op :: rest =>
    match perform s op with
    | (answer, s') =>
      match performAll perform s' rest with
      | (answers, s'') => (answer :: answers, s'')

section

variable {σ ο ρ : Type} (perform : σ → ο → ρ × σ)

/-- A run of no operation changes nothing. -/
@[simp] theorem performAll_nil (s : σ) : performAll perform s [] = ([], s) := rfl

/-- A run performs its first operation, then the others. -/
theorem performAll_cons (s : σ) (op : ο) (rest : List ο) :
    performAll perform s (op :: rest) =
      ((perform s op).1 :: (performAll perform (perform s op).2 rest).1, (performAll perform (perform s op).2 rest).2) :=
  rfl

/-- Every operation of a run gives one answer. -/
theorem length_performAll (s : σ) (ops : List ο) : (performAll perform s ops).1.length = ops.length := by
  induction ops generalizing s with
  | nil => rfl
  | cons op rest ih => rw [performAll_cons, List.length_cons, ih, List.length_cons]

/-- A run of two lists of operations is a run of the first list and then of the second. -/
theorem performAll_append (s : σ) (ops more : List ο) :
    performAll perform s (ops ++ more) =
      ((performAll perform s ops).1 ++ (performAll perform (performAll perform s ops).2 more).1,
        (performAll perform (performAll perform s ops).2 more).2) := by
  induction ops generalizing s with
  | nil => rfl
  | cons op rest ih =>
    simp only [List.cons_append, performAll_cons, ih]

end

end TenantGateway
