import TenantGateway.Gateway.Readiness

/-!
# Items of a seed

A seed as one list of items in the order of its replay: resources, registrations, instances. An item goes to a feed of its own, on
which it is the event that adds it, and is refused when the feed has a sender but nobody reads it any more.
-/

namespace TenantGateway

/-- An item of a seed. -/
inductive SeedItem
  | resource (r : SeedResource)
  | registration (r : Registration)
  | listing (i : ServiceInstance)
  deriving DecidableEq

namespace SeedItem

/-- The feed that an item goes to. -/
def feed : SeedItem → FeedName
  | .resource r => .resources r.kind
  | .registration _ => .domains
  | .listing _ => .discovery

/-- What the error says when nobody reads the feed of an item. -/
def refusal : SeedItem → String
  | .resource r => r.kind.name ++ " feed closed while replaying seed"
  | .registration _ => "domain feed closed while replaying seed"
  | .listing _ => "discovery feed closed while replaying seed"

/-- The event that an item is on the feed of a kind of resources. -/
def resourceEvent? (kind : ResourceKind) : SeedItem → Option ResourceEvent
  | .resource r => if r.kind = kind then some (.added r.resource) else none
  | .registration _ => none
  | .listing _ => none

/-- The event that an item is on the ownership feed. -/
def domainEvent? : SeedItem → Option DomainEvent
  | .resource _ => none
  | .registration r => some (.put r)
  | .listing _ => none

/-- The event that an item is on the feed of discovery. -/
def discoveryEvent? : SeedItem → Option DiscoveryEvent
  | .resource _ => none
  | .registration _ => none
  | .listing i => some (.add i)

end SeedItem

/-- The items of a seed in the order in which they are replayed. -/
def Seed.items (s : Seed) : List SeedItem :=
  s.resources.map .resource ++ s.registrations.map .registration ++ s.instances.map .listing

namespace FeedEnds

/-- Whether there is a sender for an item: a kind of resources has one when it is watched, the other feeds always have one. -/
def hasSender (ends : FeedEnds) : SeedItem → Bool
  | .resource r => ends.watched r.kind
  | .registration _ => true
  | .listing _ => true

/-- Whether an item is refused: its feed has a sender, and nobody reads it. -/
def refuses (ends : FeedEnds) (item : SeedItem) : Bool :=
  ends.hasSender item && !ends.isOpen item.feed

end FeedEnds

namespace Gateway

/-- A gateway has queued the items listed, each on its own feed and behind what was queued there before, and is otherwise what it
was. -/
structure Queued (g g' : Gateway) (items : List SeedItem) : Prop where
  resources : ∀ kind, g'.queues.resources kind = g.queues.resources kind ++ items.filterMap (·.resourceEvent? kind)
  owned : g'.queues.owned = g.queues.owned ++ items.filterMap SeedItem.domainEvent?
  discovered : g'.queues.discovered = g.queues.discovered ++ items.filterMap SeedItem.discoveryEvent?
  aside : g' = { g with queues := { g'.queues with bridged := g.queues.bridged } }

end Gateway

end TenantGateway
