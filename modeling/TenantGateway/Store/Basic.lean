import TenantGateway.Entries

/-!
# Indexed stores

A store keeps items under their identities, together with any number of indices. An index files every item under each of
the keys that its key function names for the item, and is kept up to date by every change to the store. Items are listed
in the order in which they were last added, in the store as in every index; an index that is created over items files them
in any order first.
-/

namespace TenantGateway

/-- Why an item cannot be stored. -/
inductive StoreError
  | missingIdentity
  deriving DecidableEq

/-- The wording of the error. -/
def StoreError.message : StoreError → String
  | .missingIdentity => "item has no identity"

/-- The items of a store, filed under keys. -/
structure Index (κ ν α : Type) where
  /-- The keys of an item, possibly none, possibly repeated. -/
  keysOf : α → List ν
  /-- The items filed under each key that has any. -/
  buckets : List (ν × List (κ × α))

namespace Index

variable {κ ν α : Type} [DecidableEq κ] [DecidableEq ν]

/-- The buckets with an item filed under one more key. -/
def fileUnder (buckets : List (ν × List (κ × α))) (key : ν) (id : κ) (item : α) : List (ν × List (κ × α)) :=
  Entries.put buckets key (Entries.put ((Entries.get? buckets key).getD []) id item)

/-- The buckets with an item no longer filed under a key. A bucket that becomes empty is gone. -/
def dropUnder (buckets : List (ν × List (κ × α))) (key : ν) (id : κ) : List (ν × List (κ × α)) :=
  buckets.filterMap fun bucket =>
    if bucket.1 = key then
      match Entries.erase bucket.2 id with
      | [] => none
      | kept => some (bucket.1, kept)
    else some bucket

/-- The index with an item filed under each of its keys. -/
def insert (x : Index κ ν α) (id : κ) (item : α) : Index κ ν α :=
  { x with buckets := (x.keysOf item).foldl (fun buckets key => fileUnder buckets key id item) x.buckets }

/-- The index with an item no longer filed under any of its keys. -/
def remove (x : Index κ ν α) (id : κ) (item : α) : Index κ ν α :=
  { x with buckets := (x.keysOf item).foldl (fun buckets key => dropUnder buckets key id) x.buckets }

/-- The index with an item filed in place of the one that had its identity, if there was one. -/
def replace (x : Index κ ν α) (id : κ) (previous : Option α) (item : α) : Index κ ν α :=
  match previous with
  | some old => (x.remove id old).insert id item
  | none => x.insert id item

/-- The index of the given items. -/
def ofItems (keysOf : α → List ν) (items : List (κ × α)) : Index κ ν α :=
  items.foldl (fun x e => x.insert e.1 e.2) ⟨keysOf, []⟩

/-- The items filed under a key, in the order in which they were filed. -/
def lookup (x : Index κ ν α) (key : ν) : List α :=
  ((Entries.get? x.buckets key).getD []).map (·.2)

/-- The number of keys under which an item is filed. -/
def keyCount (x : Index κ ν α) : Nat := x.buckets.length

end Index

/-- Items under their identities, with indices. -/
structure Store (κ ν α : Type) where
  /-- The identity of an item, if it has one. -/
  identity : α → Option κ
  /-- The items in the order in which they were last added. -/
  items : List (κ × α)
  /-- The indices in the order of their creation. -/
  indices : List (Index κ ν α)

namespace Store

variable {κ ν α : Type} [DecidableEq κ] [DecidableEq ν]

/-- The store without items and indices. -/
def new (identity : α → Option κ) : Store κ ν α := ⟨identity, [], []⟩

/-- The item with the given identity. -/
def get? (s : Store κ ν α) (id : κ) : Option α := Entries.get? s.items id

/-- The items. -/
def values (s : Store κ ν α) : List α := s.items.map (·.2)

/-- The number of items. -/
def size (s : Store κ ν α) : Nat := s.items.length

/-- Whether there is no item. -/
def isEmpty (s : Store κ ν α) : Bool := s.items.isEmpty

/-- Adds an item in place of the one that had its identity. Answers the latter. -/
def add (s : Store κ ν α) (item : α) : Except StoreError (Option α × Store κ ν α) :=
  match s.identity item with
  | none => .error .missingIdentity
  | some id =>
    let previous := s.get? id
    .ok (previous,
      { s with
        items := Entries.file s.items id item
        indices := s.indices.map fun x => x.replace id previous item })

/-- Removes the item with the given identity. Answers the item. -/
def remove (s : Store κ ν α) (id : κ) : Option α × Store κ ν α :=
  match s.get? id with
  | none => (none, s)
  | some item =>
    (some item, { s with items := Entries.erase s.items id, indices := s.indices.map fun x => x.remove id item })

/-- Removes the items with the given identities. -/
def removeAll (s : Store κ ν α) (ids : List κ) : Store κ ν α :=
  ids.foldl (fun s id => (s.remove id).2) s

/-- Removes the items that the test does not accept. Answers how many. -/
def retain (s : Store κ ν α) (keep : α → Bool) : Nat × Store κ ν α :=
  let dropped := (s.items.filter fun e => !keep e.2).map (·.1)
  (dropped.length, s.removeAll dropped)

/-- Removes every item. -/
def clear (s : Store κ ν α) : Store κ ν α :=
  { s with items := [], indices := s.indices.map fun x => { x with buckets := [] } }

/-- Creates an index over the items held and those to come. Answers its number. The order in which the items held are filed
is not promised: those listed go first. -/
def createIndex (s : Store κ ν α) (keysOf : α → List ν) (order : List κ := []) : Nat × Store κ ν α :=
  (s.indices.length, { s with indices := s.indices ++ [.ofItems keysOf (Entries.arrange order s.items)] })

/-- The items that the index with the given number files under a key. -/
def lookup (s : Store κ ν α) (index : Nat) (key : ν) : List α :=
  match s.indices[index]? with
  | some x => x.lookup key
  | none => []

/-- The number of keys in the index with the given number. -/
def keyCount (s : Store κ ν α) (index : Nat) : Nat :=
  match s.indices[index]? with
  | some x => x.keyCount
  | none => 0

end Store

end TenantGateway
