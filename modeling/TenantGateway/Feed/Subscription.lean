import TenantGateway.Feed.Basic

/-!
# Subscriptions

A subscriber first receives the entries that the feed held when the subscription began and then every event published
since. A subscriber that leaves more events unread than the feed keeps is told once how many it lost, and then nothing
more. What one subscriber receives does not depend on the others.
-/

namespace TenantGateway

/-- What a subscriber has received so far. -/
structure Subscription (κ α : Type) where
  /-- The entries held at the beginning that are not received yet. -/
  snapshot : List (κ × α)
  /-- The number of events published before the next one to receive; none when the subscription is over. -/
  position : Option Nat
  deriving DecidableEq

/-- What a subscriber is told. -/
inductive Reply (κ α : Type)
  | event (change : Change κ α)
  | lagged (missed : Nat)
  /-- There is nothing to receive yet. -/
  | pending
  /-- There will be nothing more to receive. -/
  | finished
  deriving DecidableEq

/-- A reply after which receiving at once brings nothing new. -/
def Reply.isLast {κ α : Type} : Reply κ α → Bool
  | .pending => true
  | .finished => true
  | _ => false

variable {κ α : Type} [TextKey κ] [DecidableEq κ]

/-- Subscribes to a feed. The order in which the entries held are received is not promised: those listed come first. -/
def Feed.observe (f : Feed κ α) (order : List κ := []) : Subscription κ α :=
  ⟨Entries.arrange order f.entries.entries, if f.closed then none else some f.published.length⟩

namespace Subscription

/-- Receives from the feed that was subscribed to. -/
def receive (s : Subscription κ α) (f : Feed κ α) : Reply κ α × Subscription κ α :=
  match s.snapshot, s.position with
  | e :: rest, _ => (.event (.put e.1 e.2), { s with snapshot := rest })
  | [], none => (.finished, s)
  | [], some n =>
    if f.slots < f.published.length - n then
      (.lagged (f.published.length - n - f.slots), { s with position := none })
    else
      match f.published[n]? with
      | some change => (.event change, { s with position := some (n + 1) })
      | none => if f.closed then (.finished, { s with position := none }) else (.pending, s)

/-- The number of entries and events that are not received yet, one more for the news that there are no more. -/
def unread (s : Subscription κ α) (f : Feed κ α) : Nat :=
  s.snapshot.length +
    match s.position with
    | some n => f.published.length - n + 1
    | none => 0

/-- Receives at most so many times, until nothing more is there. -/
def receiveUpTo : Nat → Subscription κ α → Feed κ α → List (Reply κ α) × Subscription κ α
  | 0, s, _ => ([], s)
  | n + 1, s, f =>
    match s.receive f with
    | (reply, s') =>
      if reply.isLast then ([reply], s')
      else
        match receiveUpTo n s' f with
        | (replies, s'') => (reply :: replies, s'')

/-- Receives until nothing more is there; the last reply says so. -/
def drain (s : Subscription κ α) (f : Feed κ α) : List (Reply κ α) × Subscription κ α :=
  receiveUpTo (s.unread f + 1) s f

end Subscription

end TenantGateway
