import TenantGateway.Run
import TenantGateway.Store.Basic

/-!
# Stores without index tables

What an indexed store stands for: the items in the order in which they were last added, and of every index its key function
only. Looking up a key goes through all items. The operations on a store are values, so that a run of them can be performed
on a store and on the plain store beside it.
-/

namespace TenantGateway

/-- The operations that change a store. -/
inductive StoreOp (κ ν α : Type)
  | add (item : α)
  | remove (id : κ)
  | retain (keep : α → Bool)
  | clear
  /-- Creates an index, which files the items held in an order that begins with those listed. -/
  | createIndex (keysOf : α → List ν) (order : List κ := [])

/-- What an operation on a store answers. -/
inductive StoreAnswer (α : Type)
  /-- The item was added in place of another one, if there was one. -/
  | added (previous : Option α)
  | refused (error : StoreError)
  | removed (item : Option α)
  /-- So many items were removed. -/
  | dropped (count : Nat)
  | cleared
  /-- The index has this number. -/
  | created (index : Nat)
  deriving DecidableEq

/-- The identities of the items that operations add. -/
def StoreOp.addedIds {κ ν α : Type} (identity : α → Option κ) (ops : List (StoreOp κ ν α)) : List κ :=
  ops.filterMap fun
    | .add item => identity item
    | _ => none

variable {κ ν α : Type} [DecidableEq κ] [DecidableEq ν]

/-- Performs an operation on a store. -/
def Store.perform (s : Store κ ν α) : StoreOp κ ν α → StoreAnswer α × Store κ ν α
  | .add item =>
    match s.add item with
    | .ok (previous, s') => (.added previous, s')
    | .error e => (.refused e, s)
  | .remove id =>
    match s.remove id with
    | (item, s') => (.removed item, s')
  | .retain keep =>
    match s.retain keep with
    | (n, s') => (.dropped n, s')
  | .clear => (.cleared, s.clear)
  | .createIndex keysOf order =>
    match s.createIndex keysOf order with
    | (n, s') => (.created n, s')

/-- The store after a run of operations on the store without items and indices. -/
def Store.after (identity : α → Option κ) (ops : List (StoreOp κ ν α)) : Store κ ν α :=
  (performAll Store.perform (.new identity) ops).2

/-- Items under their identities, with the key functions of the indices over them. -/
structure PlainStore (κ ν α : Type) where
  /-- The identity of an item, if it has one. -/
  identity : α → Option κ
  /-- The items in the order in which they were last added. -/
  items : List (κ × α)
  /-- The key functions of the indices in the order of their creation. -/
  keyFunctions : List (α → List ν)

namespace PlainStore

/-- The store without items and indices. -/
def new (identity : α → Option κ) : PlainStore κ ν α := ⟨identity, [], []⟩

/-- Performs an operation. -/
def perform (p : PlainStore κ ν α) : StoreOp κ ν α → StoreAnswer α × PlainStore κ ν α
  | .add item =>
    match p.identity item with
    | some id => (.added (Entries.get? p.items id), { p with items := Entries.file p.items id item })
    | none => (.refused .missingIdentity, p)
  | .remove id => (.removed (Entries.get? p.items id), { p with items := Entries.erase p.items id })
  | .retain keep =>
    (.dropped (p.items.countP fun e => !keep e.2), { p with items := p.items.filter fun e => keep e.2 })
  | .clear => (.cleared, { p with items := [] })
  | .createIndex keysOf _ => (.created p.keyFunctions.length, { p with keyFunctions := p.keyFunctions ++ [keysOf] })

/-- The plain store after a run of operations on the one without items and indices. -/
def after (identity : α → Option κ) (ops : List (StoreOp κ ν α)) : PlainStore κ ν α :=
  (performAll perform (.new identity) ops).2

/-- The item with the given identity. -/
def get? (p : PlainStore κ ν α) (id : κ) : Option α := Entries.get? p.items id

/-- The keys of an item in the index with the given number. -/
def keysOf (p : PlainStore κ ν α) (index : Nat) (item : α) : List ν :=
  match p.keyFunctions[index]? with
  | some keysOf => keysOf item
  | none => []

/-- The items that have a key in the index with the given number. -/
def lookup (p : PlainStore κ ν α) (index : Nat) (key : ν) : List α :=
  (p.items.map (·.2)).filter fun item => key ∈ p.keysOf index item

/-- The keys that the items have in the index with the given number, each once. -/
def keys (p : PlainStore κ ν α) (index : Nat) : List ν :=
  (p.items.flatMap fun e => p.keysOf index e.2).eraseDups

end PlainStore

end TenantGateway
