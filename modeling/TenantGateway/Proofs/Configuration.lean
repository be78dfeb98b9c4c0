import Mathlib.Data.List.Induction
import TenantGateway.Configuration
import TenantGateway.Proofs.Dictionary
import TenantGateway.Proofs.Text.Separated

/-!
# Effective values

A configuration finds the value of one property by going through its layers from the last one back, and lists all properties by
merging the layers from the first one on. Either way a layer registered last decides about the properties that it sets and about no
others (`Configuration.get?_snoc`, `Configuration.get?_effective_snoc`), so both find what the last layer that sets a property says
(`Configuration.get?_agrees_with_effective`). A property that lists names is read as just these names, however they are padded and
separated (`Configuration.list_reads_back`).
-/

namespace TenantGateway

namespace Configuration

/-- The last of the layers that set a property, in the order of their registration, gives it this value. -/
def LastSets (layers : List (String × Properties)) (key value : String) : Prop :=
  ∃ before l later, layers = before ++ l :: later ∧ l.2.get? key = some value ∧ ∀ x ∈ later, x.2.get? key = none

/-! ## One more layer -/

/-- The layer registered last decides about the properties that it sets. -/
theorem get?_snoc (layers : List (String × Properties)) (l : String × Properties) (key : String) :
    (⟨layers ++ [l]⟩ : Configuration).get? key = (l.2.get? key).or ((⟨layers⟩ : Configuration).get? key) := by
  rw [get?, get?, List.reverse_append, List.reverse_singleton, List.singleton_append, List.findSome?_cons]
  cases l.2.get? key <;> rfl

/-- The layer registered last is merged over those before it. -/
theorem get?_effective_snoc (layers : List (String × Properties)) (l : String × Properties) (key : String) :
    (⟨layers ++ [l]⟩ : Configuration).effective.get? key =
      (l.2.get? key).or ((⟨layers⟩ : Configuration).effective.get? key) := by
  rw [effective, List.foldl_append]
  exact Dictionary.get?_foldl_insert l.2.distinct _ key

/-! ## All layers -/

/-- Merging the layers gives every property the value that is found when they are searched. -/
theorem get?_effective (c : Configuration) (key : String) : c.effective.get? key = c.get? key := by
  obtain ⟨layers⟩ := c
  induction layers using List.reverseRecOn with
  | nil => rfl
  | append_singleton layers l ih => rw [get?_effective_snoc, get?_snoc, ih]

/-- A property has the value that the last layer gives it. -/
theorem get?_eq_some_iff {c : Configuration} {key value : String} : c.get? key = some value ↔ LastSets c.layers key value := by
  rw [get?, List.findSome?_eq_some_iff]
  constructor
  · rintro ⟨later, l, before, hlayers, hl, hlater⟩
    refine ⟨before.reverse, l, later.reverse, ?_, hl, fun x hx => hlater x (List.mem_reverse.1 hx)⟩
    rw [← List.reverse_inj, hlayers]
    simp
  · rintro ⟨before, l, later, hlayers, hl, hlater⟩
    refine ⟨later.reverse, l, before.reverse, ?_, hl, fun x hx => hlater x (List.mem_reverse.1 hx)⟩
    rw [hlayers]
    simp

/-- A property has no value when no layer sets it. -/
theorem get?_eq_none_iff {c : Configuration} {key : String} : c.get? key = none ↔ ∀ l ∈ c.layers, l.2.get? key = none := by
  simp [get?, List.findSome?_eq_none_iff]

/-- Whatever layers were registered and removed, a property has the same value when the layers are searched from the last one back and
when they are merged from the first one on: the value that the last layer with this property gives it. It has none in the one way
exactly when it has none in the other, and when no layer has it. -/
theorem get?_agrees_with_effective (c : Configuration) (key : String) :
    c.effective.get? key = c.get? key ∧
    (∀ value, (c.get? key = some value ↔ LastSets c.layers key value) ∧
      (c.effective.get? key = some value ↔ LastSets c.layers key value)) ∧
    (c.get? key = none ↔ c.effective.get? key = none) ∧
    (c.get? key = none ↔ ∀ l ∈ c.layers, l.2.get? key = none) := by
  rw [get?_effective]
  exact ⟨rfl, fun value => ⟨get?_eq_some_iff, get?_eq_some_iff⟩, Iff.rfl, get?_eq_none_iff⟩

/-! ## Lists -/

/-- A list is read from the effective value of its key. -/
theorem list_of_get? {c : Configuration} {key value : String} (h : c.get? key = some value) :
    c.list key = Text.commaItems value := by
  rw [list, h]

/-- Every item of a listed property is one: it is not empty, holds no comma and is trimmed. -/
theorem isItem_of_mem_list {c : Configuration} {key item : String} (h : item ∈ c.list key) : Text.IsItem item := by
  rw [list] at h
  cases hvalue : c.get? key with
  | none => simp [hvalue] at h
  | some value =>
    rw [hvalue] at h
    exact Text.isItem_of_mem_commaItems h

/-- A property that lists items is read as exactly these items in their order, whatever blanks stand around them and whatever blank
pieces between the commas. What is read always consists of items, the text of the property is one that lists them, and listed again,
with or without padding, they are read as the same items by every configuration that has them under some property. -/
theorem list_reads_back (c : Configuration) (key : String) :
    (∀ items pieces, (∀ item ∈ items, Text.IsItem item) → Text.Padded items pieces → c.get? key = some (Text.joinCommas pieces) →
      c.list key = items) ∧
    (∀ item ∈ c.list key, Text.IsItem item) ∧
    (∀ value, c.get? key = some value → ∃ pieces, Text.Padded (c.list key) pieces ∧ value = Text.joinCommas pieces) ∧
    (c.get? key = none → c.list key = []) ∧
    ∀ (c' : Configuration) key', c'.get? key' = some (Text.joinCommas (c.list key)) → c'.list key' = c.list key := by
  refine ⟨fun items pieces hitems hpadded hvalue => ?_, fun item => isItem_of_mem_list, fun value hvalue => ?_, fun hnone => ?_,
    fun c' key' hvalue => ?_⟩
  · rw [list_of_get? hvalue]
    exact Text.commaItems_joinCommas hpadded hitems
  · rw [list_of_get? hvalue]
    exact Text.exists_padded value
  · rw [list, hnone]
  · rw [list_of_get? hvalue]
    exact Text.commaItems_joinCommas (Text.padded_self _) fun item => isItem_of_mem_list

/-- Two items are read from a text with an ideographic space, a tab, an empty piece and a blank piece around them. -/
theorem list_two_padded :
    let c : Configuration := ⟨[("r", ⟨[("routing-domains", "\u3000b.example\t,, a.example, ")], List.pairwise_singleton _ _⟩)]⟩
    c.get? "routing-domains" = some (Text.joinCommas ["\u3000b.example\t", "", " a.example", " "]) ∧
      Text.Padded ["b.example", "a.example"] ["\u3000b.example\t", "", " a.example", " "] ∧
      c.list "routing-domains" = ["b.example", "a.example"] := by
  intro c
  have hvalue : c.get? "routing-domains" = some (Text.joinCommas ["\u3000b.example\t", "", " a.example", " "]) := by decide +kernel
  have hpadded : Text.Padded ["b.example", "a.example"] ["\u3000b.example\t", "", " a.example", " "] :=
    @Text.Padded.item _ _ "\u3000" _ "\t" (by decide +kernel) (by decide +kernel)
      (.blank (by decide +kernel) (@Text.Padded.item _ _ " " _ "" (by decide +kernel) (by decide +kernel)
        (.blank (by decide +kernel) .nil)))
  have hitems : ∀ item ∈ ["b.example", "a.example"], Text.IsItem item := by
    simp only [List.forall_mem_cons, List.not_mem_nil, false_implies, implies_true, and_true]
    exact ⟨⟨by decide, by decide +kernel, by rintro c ⟨⟩; decide, by rintro c ⟨⟩; decide⟩,
      ⟨by decide, by decide +kernel, by rintro c ⟨⟩; decide, by rintro c ⟨⟩; decide⟩⟩
  exact ⟨hvalue, hpadded, (list_reads_back c "routing-domains").1 _ _ hitems hpadded hvalue⟩

end Configuration

end TenantGateway
