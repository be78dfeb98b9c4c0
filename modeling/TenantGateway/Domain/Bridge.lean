import TenantGateway.Composer
import TenantGateway.Domain.Resolver

/-!
# Domains from configuration

The bridge follows the configuration of all tenants and turns every change into the matching change of registrations: a
tenant claims the hosts that its configuration lists. It withdraws only what it published. When it falls behind, it
subscribes anew, first withdraws the tenants that are gone, and then publishes what is there, the tenants in any order.
-/

namespace TenantGateway

/-- The change of registrations that a change of configuration means. -/
def DomainEvent.ofChange : Change TenantId Configuration → DomainEvent
  | .put tenant configuration =>
    match configuration.list PropertyKey.routingDomains with
    | [] => .delete tenant
    | hosts => .put (.ofHosts tenant hosts)
  | .remove tenant _ => .delete tenant
  | .clear => .clear

/-- What the bridge has read and published. -/
structure Bridge where
  subscription : Subscription TenantId Configuration
  /-- The tenants with a registration that was published and not withdrawn. -/
  published : KeySet TenantId
  /-- Whether someone receives what the bridge publishes. -/
  connected : Bool
  /-- The bridge has ended: the configuration feed is over, or nobody received an event. -/
  stopped : Bool
  deriving DecidableEq

namespace Bridge

/-- A bridge that follows the configuration from now on. -/
def new (c : Composer) (order : List TenantId := []) : Bridge := ⟨c.observe order, .empty, true, false⟩

/-- The bridge after nobody is left to receive what it publishes. -/
def disconnect (b : Bridge) : Bridge := { b with connected := false }

/-- Whether an event is to be published: a withdrawal is when its tenant is published. -/
def publishes (b : Bridge) : DomainEvent → Bool
  | .delete tenant => (b.published.get? tenant).isSome
  | _ => true

/-- The tenants that are published after an event. -/
def publishedAfter (b : Bridge) : DomainEvent → KeySet TenantId
  | .put registration => b.published.insert registration.tenant ()
  | .delete tenant => b.published.erase tenant
  | .clear => .empty

/-- Publishes an event, if it is to be published. Answers what was received, which is nothing when nobody receives. -/
def forward (b : Bridge) (event : DomainEvent) : List DomainEvent × Bridge :=
  if b.publishes event then
    (if b.connected then [event] else [],
      { b with published := b.publishedAfter event, stopped := !b.connected })
  else ([], b)

/-- Publishes events in order until the bridge stops. -/
def forwardAll (b : Bridge) : List DomainEvent → List DomainEvent × Bridge
  | [] => ([], b)
  | event :: rest =>
    if b.stopped then ([], b)
    else
      match b.forward event with
      | (sent, b') =>
        match b'.forwardAll rest with
        | (sent', b'') => (sent ++ sent', b'')

/-- The published tenants that have no configuration any more. -/
def stale (b : Bridge) (c : Composer) (order : List TenantId := []) : List TenantId :=
  ((Entries.arrange order b.published.entries).map (·.1)).filter fun tenant => (c.configuration? tenant).isNone

/-- What the bridge does with a reply of its subscription. The tenants listed go first when it subscribes anew. -/
def react (b : Bridge) (c : Composer) (order : List TenantId) : Reply TenantId Configuration → List DomainEvent × Bridge
  | .event change => b.forward (.ofChange change)
  | .lagged _ => { b with subscription := c.observe order }.forwardAll ((b.stale c order).map .delete)
  | .pending => ([], b)
  | .finished => ([], { b with stopped := true })

/-- Receives once and does what the reply asks for. Answers what was received from the bridge. -/
def step (b : Bridge) (c : Composer) (order : List TenantId := []) : List DomainEvent × Bridge :=
  if b.stopped then ([], b)
  else
    match b.subscription.receive c.feed with
    | (reply, subscription) => { b with subscription }.react c order reply

/-- Whether a step would change nothing. -/
def isIdle (b : Bridge) (c : Composer) : Bool :=
  b.stopped ||
    match (b.subscription.receive c.feed).1 with
    | .pending => true
    | _ => false

/-- At most so many steps, until the bridge is idle. -/
def runUpTo : Nat → Bridge → Composer → List DomainEvent × Bridge
  | 0, b, _ => ([], b)
  | n + 1, b, c =>
    if b.isIdle c then ([], b)
    else
      match b.step c with
      | (sent, b') =>
        match runUpTo n b' c with
        | (sent', b'') => (sent ++ sent', b'')

/-- Steps until the bridge is idle: through what is unread and, when events were lost, through a fresh subscription. -/
def run (b : Bridge) (c : Composer) : List DomainEvent × Bridge :=
  runUpTo (b.subscription.unread c.feed + c.observe.unread c.feed + 1) b c

end Bridge

end TenantGateway
