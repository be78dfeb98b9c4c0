import TenantGateway.Entries
import TenantGateway.Feed.Subscription
import TenantGateway.Run

/-!
# Feeds with named subscribers

A feed together with its subscribers, and the operations on both as values, so that a run can interleave writes and reads in
any order.
-/

namespace TenantGateway

/-- A feed with its subscribers under their names. -/
structure FeedSession (σ κ α : Type) [TextKey κ] where
  feed : Feed κ α
  subscribers : List (σ × Subscription κ α)

/-- The operations on a feed and its subscribers. -/
inductive FeedOp (σ κ α : Type)
  | put (key : κ) (value : α)
  | remove (key : κ)
  | modify (key : κ) (decide : Option α → Modification α)
  | clear
  | close
  /-- Subscribes under a name, with the entries listed first; a subscriber of that name is forgotten. -/
  | observe (name : σ) (order : List κ := [])
  | forget (name : σ)
  | receive (name : σ)

/-- What an operation on a feed or a subscriber answers. -/
inductive FeedAnswer (κ α : Type)
  | refused (error : FeedError)
  /-- The value that the key had. -/
  | previous (value : Option α)
  | changed (any : Bool)
  | done
  /-- The number of entries that a new subscriber will receive first. -/
  | observed (entries : Nat)
  | forgotten (any : Bool)
  | received (reply : Reply κ α)
  /-- There is no subscriber of that name. -/
  | unknown
  deriving DecidableEq

/-- Whether an operation ends or begins the subscription under a name. -/
def FeedOp.resets {σ κ α : Type} [DecidableEq σ] (name : σ) : FeedOp σ κ α → Bool
  | .observe n _ => n = name
  | .forget n => n = name
  | _ => false

namespace FeedSession

variable {σ κ α : Type} [DecidableEq σ] [TextKey κ] [DecidableEq κ]

/-- An open feed without entries and subscribers. -/
def new (capacity : Nat) : FeedSession σ κ α := ⟨.new capacity, []⟩

/-- What a write answers, and the session after it. -/
def afterWrite {β : Type} (s : FeedSession σ κ α) (answer : β → FeedAnswer κ α)
    (result : Except FeedError (β × Feed κ α)) : FeedAnswer κ α × FeedSession σ κ α :=
  match result with
  | .ok (b, feed) => (answer b, { s with feed })
  | .error e => (.refused e, s)

/-- Performs an operation. -/
def perform (s : FeedSession σ κ α) : FeedOp σ κ α → FeedAnswer κ α × FeedSession σ κ α
  | .put k a => s.afterWrite .previous (s.feed.put k a)
  | .remove k => s.afterWrite .previous (s.feed.remove k)
  | .modify k decide => s.afterWrite .changed (s.feed.modify k decide)
  | .clear => s.afterWrite (fun _ => .done) (s.feed.clear.map fun feed => ((), feed))
  | .close => (.done, { s with feed := s.feed.close })
  | .observe name order =>
    (.observed s.feed.entries.size, { s with subscribers := Entries.put s.subscribers name (s.feed.observe order) })
  | .forget name =>
    (.forgotten (Entries.get? s.subscribers name).isSome, { s with subscribers := Entries.erase s.subscribers name })
  | .receive name =>
    match Entries.get? s.subscribers name with
    | none => (.unknown, s)
    | some subscription =>
      match subscription.receive s.feed with
      | (reply, subscription') =>
        (.received reply, { s with subscribers := Entries.put s.subscribers name subscription' })

/-- The replies to the subscriber of a name among the answers to operations. -/
def repliesTo (name : σ) : List (FeedOp σ κ α) → List (FeedAnswer κ α) → List (Reply κ α)
  | .receive n :: ops, .received reply :: answers =>
    if n = name then reply :: repliesTo name ops answers else repliesTo name ops answers
  | _ :: ops, _ :: answers => repliesTo name ops answers
  | _, _ => []

end FeedSession

end TenantGateway
