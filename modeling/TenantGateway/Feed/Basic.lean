import TenantGateway.Dictionary

/-!
# Change feeds

A change feed is a map that publishes every change to its subscribers. A write changes the map and publishes the matching
event as one step; a write that changes nothing publishes nothing. A closed feed stays readable and refuses writes.
-/

namespace TenantGateway

/-- A change to a map. -/
inductive Change (κ α : Type)
  | put (key : κ) (value : α)
  /-- The key is gone; it had the value given. -/
  | remove (key : κ) (value : α)
  | clear
  deriving DecidableEq

/-- What is to become of an entry. -/
inductive Modification (α : Type)
  | keep
  | put (value : α)
  | remove
  deriving DecidableEq

/-- Why a feed refuses to go on. -/
inductive FeedError
  | closed
  /-- The subscriber was too slow: so many events were lost to it. -/
  | lagged (missed : Nat)
  deriving DecidableEq

/-- The wording of the error. -/
def FeedError.message : FeedError → String
  | .closed => "change feed is closed"
  | .lagged missed => "subscriber fell behind and missed " ++ toString missed ++ " events"

/-- A map with everything that was published about it. -/
structure Feed (κ α : Type) [TextKey κ] where
  /-- The number of events that a subscriber may leave unread, before rounding. -/
  capacity : Nat
  /-- The map. -/
  entries : Dictionary κ α
  /-- Every event published, in order. -/
  published : List (Change κ α)
  closed : Bool
  deriving DecidableEq

namespace Feed

variable {κ α : Type} [TextKey κ] [DecidableEq κ]

/-- An empty open feed. -/
def new (capacity : Nat) : Feed κ α := ⟨capacity, .empty, [], false⟩

/-- The number of unread events that are kept: the least power of two that is not below the capacity. -/
def slots (f : Feed κ α) : Nat := Nat.pow 2 (Nat.log2 (2 * max f.capacity 1 - 1))

/-- The value of a key. -/
def get? (f : Feed κ α) (k : κ) : Option α := f.entries.get? k

/-- The keys in ascending order. -/
def keys (f : Feed κ α) : List κ := f.entries.keys

/-- The feed with a key set, which is published. -/
def publishPut (f : Feed κ α) (k : κ) (a : α) : Feed κ α :=
  { f with entries := f.entries.insert k a, published := f.published ++ [.put k a] }

/-- The feed without a key that had the value given, which is published. -/
def publishRemove (f : Feed κ α) (k : κ) (a : α) : Feed κ α :=
  { f with entries := f.entries.erase k, published := f.published ++ [.remove k a] }

/-- Sets a key. Answers the value it had. -/
def put (f : Feed κ α) (k : κ) (a : α) : Except FeedError (Option α × Feed κ α) :=
  if f.closed then .error .closed else .ok (f.get? k, f.publishPut k a)

/-- Removes a key. Answers the value it had. -/
def remove (f : Feed κ α) (k : κ) : Except FeedError (Option α × Feed κ α) :=
  if f.closed then .error .closed
  else
    match f.get? k with
    | some a => .ok (some a, f.publishRemove k a)
    | none => .ok (none, f)

/-- Removes every key. -/
def clear (f : Feed κ α) : Except FeedError (Feed κ α) :=
  if f.closed then .error .closed else .ok { f with entries := .empty, published := f.published ++ [.clear] }

/-- Changes one entry as the given function decides from its present value. Answers whether anything changed. -/
def modify (f : Feed κ α) (k : κ) (decide : Option α → Modification α) : Except FeedError (Bool × Feed κ α) :=
  if f.closed then .error .closed
  else
    match decide (f.get? k) with
    | .keep => .ok (false, f)
    | .put a => .ok (true, f.publishPut k a)
    | .remove =>
      match f.get? k with
      | some a => .ok (true, f.publishRemove k a)
      | none => .ok (false, f)

/-- The feed that refuses further writes. -/
def close (f : Feed κ α) : Feed κ α := { f with closed := true }

end Feed

end TenantGateway
