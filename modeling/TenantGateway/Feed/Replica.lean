import TenantGateway.Feed.Basic

/-!
# Replicas

What a subscriber makes of the changes that it receives: a map of its own, changed by each of them in turn.
-/

namespace TenantGateway

variable {κ α : Type} [TextKey κ] [DecidableEq κ]

/-- The map after a change. -/
def Change.applyTo (d : Dictionary κ α) : Change κ α → Dictionary κ α
  | .put k a => d.insert k a
  | .remove k _ => d.erase k
  | .clear => .empty

/-- The map after changes in order. -/
def Change.applyAll (d : Dictionary κ α) (changes : List (Change κ α)) : Dictionary κ α :=
  changes.foldl Change.applyTo d

/-- The key that a change is about. -/
def Change.key? {κ α : Type} : Change κ α → Option κ
  | .put k _ => some k
  | .remove k _ => some k
  | .clear => none

/-- Whether a change tells truly what the map held: a key that is removed had the value told. -/
def Change.IsTrueOf (d : Dictionary κ α) : Change κ α → Prop
  | .remove k a => d.get? k = some a
  | _ => True

end TenantGateway
