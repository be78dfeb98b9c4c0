import TenantGateway.Text.Blank

/-!
# Comma-separated lists

A list of names is written as one text with commas between the items. Reading it trims every item and drops the empty
ones, so blanks around an item and repeated commas mean nothing (`Padded` says which pieces between commas list which items).
-/

namespace TenantGateway.Text

/-- The items of a comma-separated text: split at every comma, trimmed, without the empty ones. -/
def commaItems (s : String) : List String :=
  (((s.toList.splitOn ',').map trim).filter (fun item => !item.isEmpty)).map String.ofList

/-- The text that lists the given items with one comma between two of them. -/
def joinCommas (items : List String) : String :=
  String.ofList ([','].intercalate (items.map String.toList))

/-- Whether a text can be an item of a list: it is not empty, holds no comma, and neither begins nor ends with a blank. -/
structure IsItem (item : String) : Prop where
  ne_empty : item ≠ ""
  no_comma : ',' ∉ item.toList
  first : ∀ c ∈ item.toList.head?, isBlankChar c = false
  last : ∀ c ∈ item.toList.getLast?, isBlankChar c = false

/-- Whether pieces between commas list the items given: the items stand in them in their order, each with blanks around it, and any
other piece is blank. -/
inductive Padded : List String → List String → Prop
  | nil : Padded [] []
  | blank {items pieces : List String} {piece : String} (hpiece : isBlank piece = true) (rest : Padded items pieces) :
    Padded items (piece :: pieces)
  | item {items pieces : List String} {before item after : String} (hbefore : isBlank before = true) (hafter : isBlank after = true)
      (rest : Padded items pieces) : Padded (item :: items) ((before ++ item ++ after) :: pieces)

end TenantGateway.Text
