import TenantGateway.Admin
import TenantGateway.Domain.Bridge
import TenantGateway.Seed
import TenantGateway.Settings
import TenantGateway.Sync.Watch

/-!
# The gateway

The gateway wires its parts together: watches turn resources into configuration, the bridge turns configuration into
registrations, and the router looks at the registrations of both origins and at the catalog. Every feed has a queue and a
worker that takes one item at a time. Workers take turns in any order; the gateway is at rest when everything that was sent is handled
and the bridge has nothing to do.
-/

namespace TenantGateway

/-- What was sent on every feed and is not handled yet, oldest first. -/
structure Queues where
  configMaps : List ResourceEvent
  secrets : List ResourceEvent
  /-- Changes of registrations that the ownership feed reports. -/
  owned : List DomainEvent
  /-- Changes of registrations that the bridge publishes. -/
  bridged : List DomainEvent
  discovered : List DiscoveryEvent
  deriving DecidableEq

namespace Queues

/-- Nothing was sent. -/
def empty : Queues := ⟨[], [], [], [], []⟩

/-- The queue of a kind of resources. -/
def resources (q : Queues) : ResourceKind → List ResourceEvent
  | .configMap => q.configMaps
  | .secret => q.secrets

/-- The queues with that of a kind of resources replaced. -/
def setResources (q : Queues) (kind : ResourceKind) (events : List ResourceEvent) : Queues :=
  match kind with
  | .configMap => { q with configMaps := events }
  | .secret => { q with secrets := events }

/-- The queue of the registrations of an origin. -/
def domains (q : Queues) : Origin → List DomainEvent
  | .feed => q.owned
  | .configuration => q.bridged

/-- The queues with that of the registrations of an origin replaced. -/
def setDomains (q : Queues) (origin : Origin) (events : List DomainEvent) : Queues :=
  match origin with
  | .feed => { q with owned := events }
  | .configuration => { q with bridged := events }

end Queues

/-- What works on its own in a gateway. -/
inductive Worker
  /-- Handles the resources of one kind. -/
  | watch (kind : ResourceKind)
  /-- Follows the configuration. -/
  | bridge
  /-- Applies the registrations of one origin. -/
  | registrations (origin : Origin)
  /-- Applies what discovery reports. -/
  | discovery
  deriving DecidableEq

/-- A running gateway. -/
structure Gateway where
  adapter : Adapter
  bridge : Bridge
  state : RoutingState
  queues : Queues

namespace Gateway

/-- The number of the channel that handles the resources of a kind. -/
def channelOf : ResourceKind → Nat
  | .configMap => 0
  | .secret => 1

/-- An adapter that watches every kind of resource. -/
def watching (composer : Composer) (selector : LabelSelector) : Adapter :=
  ResourceKind.all.foldl (fun a kind => (a.watch kind).2) (.new composer selector)

/-- A gateway with the given settings that was sent nothing yet. -/
def start (settings : Settings) : Gateway :=
  let composer := Composer.new settings.feedCapacity
  ⟨watching composer settings.labels, .new composer, .new, .empty⟩

/-- The configuration of all tenants. -/
def composer (g : Gateway) : Composer := g.adapter.sync.composer

/-- The gateway with its composer changed. -/
def withComposer (g : Gateway) (composer : Composer) : Gateway :=
  { g with adapter := { g.adapter with sync := g.adapter.sync.withComposer composer } }

/-- The resolver that the gateway routes by. -/
def resolver (g : Gateway) : Resolver := g.state.router.resolver

/-- The catalog that the gateway routes by. -/
def catalog (g : Gateway) : Catalog := g.state.router.catalog

/-- The gateway with its resolver replaced. -/
def withResolver (g : Gateway) (resolver : Resolver) : Gateway :=
  { g with state := { g.state with router := { g.state.router with resolver } } }

/-- The gateway with its catalog replaced. -/
def withCatalog (g : Gateway) (catalog : Catalog) : Gateway :=
  { g with state := { g.state with router := { g.state.router with catalog } } }

/-! ## Sending -/

/-- Whether someone reads a feed: registrations and instances are always read, resources until their watch has ended. -/
def reads (g : Gateway) : FeedName → Bool
  | .resources kind => g.adapter.isAlive (channelOf kind)
  | .domains => true
  | .discovery => true

/-- The ends of the feeds: resources of every kind are watched. -/
def ends (g : Gateway) : FeedEnds := ⟨fun _ => true, g.reads⟩

/-- Queues a resource event; nothing when the watch has ended. -/
def sendResource (g : Gateway) (kind : ResourceKind) (event : ResourceEvent) : Option Gateway :=
  if g.reads (.resources kind) then
    some { g with queues := g.queues.setResources kind (g.queues.resources kind ++ [event]) }
  else none

/-- Queues a change that the ownership feed reports. -/
def sendDomain (g : Gateway) (event : DomainEvent) : Gateway :=
  { g with queues := { g.queues with owned := g.queues.owned ++ [event] } }

/-- Queues a change that discovery reports. -/
def sendDiscovery (g : Gateway) (event : DiscoveryEvent) : Gateway :=
  { g with queues := { g.queues with discovered := g.queues.discovered ++ [event] } }

/-! ## Working -/

/-- The watch of a kind handles the oldest event in its queue, and looks whether it was asked to end: before the event when it heeds
requests first, and when there is no event. An event that an ended watch left behind is lost. The tenants listed go first when several
lose a layer. -/
def handleResource (g : Gateway) (kind : ResourceKind) (order : List TenantId := []) (heeds : Bool := false) : Gateway :=
  match g.queues.resources kind with
  | [] => { g with adapter := g.adapter.heed (channelOf kind) }
  | event :: rest =>
    let adapter := if heeds then g.adapter.heed (channelOf kind) else g.adapter
    { g with
      adapter := adapter.deliver (channelOf kind) event order
      queues := g.queues.setResources kind rest }

/-- The oldest event in the queue of an origin is applied to the resolver. -/
def applyDomain (g : Gateway) (origin : Origin) : Gateway :=
  match g.queues.domains origin with
  | [] => g
  | event :: rest =>
    { g.withResolver (g.resolver.apply origin event) with queues := g.queues.setDomains origin rest }

/-- The oldest report in the queue of discovery is applied to the catalog. -/
def applyDiscovery (g : Gateway) : Gateway :=
  match g.queues.discovered with
  | [] => g
  | event :: rest =>
    { g.withCatalog (g.catalog.applyAll [event]) with queues := { g.queues with discovered := rest } }

/-- The bridge takes one step and queues what it publishes. When it subscribes anew, the tenants listed go first. -/
def stepBridge (g : Gateway) (order : List TenantId := []) : Gateway :=
  match g.bridge.step g.composer order with
  | (sent, bridge) => { g with bridge, queues := { g.queues with bridged := g.queues.bridged ++ sent } }

/-- One turn of a worker. The tenants listed go first where it goes through several. A watch may heed requests to end before events. -/
def advance (g : Gateway) (worker : Worker) (order : List TenantId := []) (heeds : Bool := false) : Gateway :=
  match worker with
  | .watch kind => g.handleResource kind order heeds
  | .bridge => g.stepBridge order
  | .registrations origin => g.applyDomain origin
  | .discovery => g.applyDiscovery

/-- Turns of workers in the given order. -/
def run (g : Gateway) (schedule : List Worker) : Gateway :=
  schedule.foldl (fun g worker => g.advance worker) g

/-- Whether everything that was sent is handled and the bridge has nothing to do. -/
def isAtRest (g : Gateway) : Bool :=
  g.queues == .empty && g.bridge.isIdle g.composer

/-- The number of turns after which a worker has nothing to do, unless another one gives it something. -/
def backlog (g : Gateway) : Worker → Nat
  | .watch kind => (g.queues.resources kind).length + 1
  | .bridge => g.bridge.subscription.unread g.composer.feed + g.composer.observe.unread g.composer.feed + 1
  | .registrations origin => (g.queues.domains origin).length
  | .discovery => g.queues.discovered.length

/-- As many turns of one worker as it has a backlog. -/
def catchUp (g : Gateway) (worker : Worker) : Gateway :=
  g.run (List.replicate (g.backlog worker) worker)

/-- The order in which no worker gives anything to one that came before it. -/
def workers : List Worker :=
  [.watch .configMap, .watch .secret, .discovery, .registrations .feed, .bridge, .registrations .configuration]

/-- The gateway at rest: one worker after the other catches up. -/
def settle (g : Gateway) : Gateway :=
  workers.foldl catchUp g

/-! ## Requests and the end -/

/-- Routes a request for a host, which is counted. -/
def route (g : Gateway) (host : String) : Except RouteError ServiceInstance × Gateway :=
  match g.state.router.route host with
  | (answer, router) => (answer, { g with state := { g.state with router } })

/-- Answers a request to the admin endpoint. -/
def serve (g : Gateway) (request : Http.Request) : Http.Response × Gateway :=
  match g.state.serve request with
  | (response, state) => (response, { g with state })

/-- Answers the request that a text begins with, if it is of a version that has an answer. -/
def serveText (g : Gateway) (text : String) : Option Http.Response × Gateway :=
  match Http.Request.parse text with
  | .ok request =>
    match g.serve request with
    | (response, g') => (some response, g')
  | .error e => (e.response?, g)

/-- The gateway is ready to route requests. -/
def markReady (g : Gateway) : Gateway := { g with state := g.state.markReady }

/-- Closes every watch and the composer. The watches are asked to end, and do so in turns of theirs. -/
def shutdown (g : Gateway) : Gateway :=
  let closed : Gateway := { g with adapter := g.adapter.close.2 }
  closed.withComposer closed.composer.close

end Gateway

end TenantGateway
