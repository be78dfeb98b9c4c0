import TenantGateway.Composer.History
import TenantGateway.Feed.Session
import TenantGateway.Sync.Attempt

/-!
# Composers with subscribers

A composer that follows resources together with the named subscribers of its configurations, and the operations on all of them as
values: calls to the composer, events about resources, and reads.
-/

namespace TenantGateway

/-- A composer that follows resources, with the subscribers of its configurations under their names. -/
structure SyncSession (σ : Type) where
  sync : Sync
  subscribers : List (σ × Subscription TenantId Configuration)

/-- The operations on a composer, its resources and its subscribers. -/
inductive SessionOp (σ : Type)
  /-- A call to the composer. -/
  | write (op : ComposerOp)
  /-- An event about a resource. -/
  | event (op : SyncOp)
  /-- Subscribes under a name, with the tenants listed first; a subscriber of that name is forgotten. -/
  | observe (name : σ) (order : List TenantId := [])
  | receive (name : σ)

/-- What an operation answers. -/
inductive SessionAnswer
  | written (answer : ComposerAnswer)
  | handled (answer : Except FeedError SyncOutcome)
  | read (answer : FeedAnswer TenantId Configuration)

/-- The composer that takes merging and revoking again, everything else being as it is. -/
def Composer.reopened (c : Composer) : Composer := { c with feed := { c.feed with closed := false } }

/-- The same with its composer taking merging and revoking again. -/
def Sync.reopened (s : Sync) : Sync := s.withComposer s.composer.reopened

namespace SessionOp

variable {σ : Type} [DecidableEq σ]

/-- Whether an operation begins the subscription under a name anew. -/
def resets (name : σ) : SessionOp σ → Bool
  | .observe n _ => n = name
  | _ => false

/-- Whether an operation is one by which the subscriber of a name receives. -/
def receives (name : σ) : SessionOp σ → Bool
  | .receive n => n = name
  | _ => false

/-- The reply to the subscriber of a name that an operation was answered with. -/
def replyTo? (name : σ) : SessionOp σ → SessionAnswer → Option (Reply TenantId Configuration)
  | .receive n, .read (.received reply) => if n = name then some reply else none
  | _, _ => none

end SessionOp

namespace SyncSession

variable {σ : Type} [DecidableEq σ]

/-- No event was handled yet, no tenant has a configuration, and nobody subscribes. -/
def new (capacity : Nat) (selector : LabelSelector) : SyncSession σ := ⟨.new (.new capacity) selector, []⟩

/-- The feed of configurations with its subscribers. -/
def readers (s : SyncSession σ) : FeedSession σ TenantId Configuration := ⟨s.sync.composer.feed, s.subscribers⟩

/-- Performs an operation of a subscriber on the feed of configurations. -/
def read (s : SyncSession σ) (op : FeedOp σ TenantId Configuration) : SessionAnswer × SyncSession σ :=
  (.read (s.readers.perform op).1, { s with subscribers := (s.readers.perform op).2.subscribers })

/-- Performs an operation. -/
def perform (s : SyncSession σ) : SessionOp σ → SessionAnswer × SyncSession σ
  | .write op =>
    (.written (s.sync.composer.perform op).1, { s with sync := s.sync.withComposer (s.sync.composer.perform op).2 })
  | .event op => (.handled (s.sync.attempt op).1, { s with sync := (s.sync.attempt op).2 })
  | .observe name order => s.read (.observe name order)
  | .receive name => s.read (.receive name)

/-- The replies to the subscriber of a name among the answers to operations. -/
def repliesTo (name : σ) (ops : List (SessionOp σ)) (answers : List SessionAnswer) : List (Reply TenantId Configuration) :=
  (ops.zip answers).filterMap fun e => e.1.replyTo? name e.2

end SyncSession

end TenantGateway
