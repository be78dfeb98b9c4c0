/-!
# Lists of entries

A list of entries pairs keys with values. `get?` finds the first value of a key, `erase` drops a key, `put` replaces the
value of a key where it stands, `file` moves the key to the end, and `arrange` moves keys to the front. Main statements: what
`get?` finds after each of them.
-/

namespace TenantGateway.Entries

variable {κ α : Type} [DecidableEq κ]

/-- The value of the first entry with the key. -/
def get? : List (κ × α) → κ → Option α
  | [], _ => none
  | e :: rest, k => if e.1 = k then some e.2 else get? rest k

/-- The entries with other keys. -/
def erase (l : List (κ × α)) (k : κ) : List (κ × α) :=
  l.filter fun e => e.1 ≠ k

/-- The entries with the value of the key set: in the place of its first entry, else at the end. -/
def put : List (κ × α) → κ → α → List (κ × α)
  | [], k, a => [(k, a)]
  | e :: rest, k, a => if e.1 = k then (k, a) :: rest else e :: put rest k a

/-- The entries with the key at the end, wherever it stood before. -/
def file (l : List (κ × α)) (k : κ) (a : α) : List (κ × α) :=
  erase l k ++ [(k, a)]

/-- The entries with those of the keys listed in front, in the order of the list. Where an order is not promised, the list
stands for the order in which the entries happen to be gone through. -/
def arrange : List κ → List (κ × α) → List (κ × α)
  | [], l => l
  | k :: order, l =>
    match get? l k with
    | some a => (k, a) :: arrange order (erase l k)
    | none => arrange order l

@[simp] theorem get?_nil (k : κ) : get? ([] : List (κ × α)) k = none := rfl

@[simp] theorem get?_cons (e : κ × α) (l : List (κ × α)) (k : κ) :
    get? (e :: l) k = if e.1 = k then some e.2 else get? l k := rfl

/-- The first of two lists that has the key decides. -/
theorem get?_append (l m : List (κ × α)) (k : κ) : get? (l ++ m) k = (get? l k).or (get? m k) := by
  induction l with
  | nil => simp
  | cons e l ih =>
    simp only [List.cons_append, get?_cons]
    split <;> simp [ih]

/-- An erased key has no value, every other key the value it had. -/
theorem get?_erase (l : List (κ × α)) (k x : κ) : get? (erase l k) x = if k = x then none else get? l x := by
  induction l with
  | nil => simp [erase]
  | cons e l ih =>
    have h : erase (e :: l) k = if e.1 = k then erase l k else e :: erase l k := by
      by_cases he : e.1 = k <;> simp [erase, he]
    rw [h]
    by_cases he : e.1 = k
    · rw [if_pos he, ih]
      by_cases hx : k = x <;> simp [hx, he]
    · rw [if_neg he, get?_cons, get?_cons, ih]
      by_cases hx : k = x
      · subst hx
        simp [he]
      · simp [hx]

/-- A key that was put has the value put, every other key the value it had. -/
theorem get?_put (l : List (κ × α)) (k : κ) (a : α) (x : κ) :
    get? (put l k a) x = if k = x then some a else get? l x := by
  induction l with
  | nil => simp [put]
  | cons e l ih =>
    simp only [put]
    by_cases he : e.1 = k
    · by_cases hx : k = x <;> simp [he, hx]
    · by_cases hx : k = x
      · subst hx
        simp [he, ih]
      · simp [he, ih, hx]

/-- A key that was filed has the value filed, every other key the value it had. -/
theorem get?_file (l : List (κ × α)) (k : κ) (a : α) (x : κ) :
    get? (file l k a) x = if k = x then some a else get? l x := by
  rw [file, get?_append, get?_erase]
  by_cases hx : k = x <;> simp [hx]

end TenantGateway.Entries
