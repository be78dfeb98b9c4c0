import TenantGateway.Entries
import TenantGateway.Resource

/-!
# Metrics

The counters and gauges that the gateway keeps. A counter starts at nothing and grows by one at a time; a gauge holds the
last value set. A metric has no reading before it is first counted or set.
-/

namespace TenantGateway

/-- Why a request could not be routed. -/
inductive UnroutedReason
  | noMatch
  | collision
  | noInstances
  deriving DecidableEq

/-- The name of a reason. -/
def UnroutedReason.name : UnroutedReason → String
  | .noMatch => "no_match"
  | .collision => "collision"
  | .noInstances => "no_instances"

/-- How a metric is read. -/
inductive MetricType
  | counter
  | gauge
  | histogram
  deriving DecidableEq

/-- The name of a type of metric. -/
def MetricType.name : MetricType → String
  | .counter => "Counter"
  | .gauge => "Gauge"
  | .histogram => "Histogram"

/-- What is published about a metric. -/
structure MetricDefinition where
  name : String
  type : MetricType
  description : String
  deriving DecidableEq

/-- The metrics, with the value of their tag where they have one. -/
inductive Metric
  | merges
  | revokes
  | tenants
  | skipped (kind : ResourceKind)
  | suppressed (kind : ResourceKind)
  | collisions
  | registrations
  | unrouted (reason : UnroutedReason)
  | multipleCandidates
  | instances
  deriving DecidableEq

namespace Metric

/-- What is published about a metric, the same for every value of its tag. -/
def definition : Metric → MetricDefinition
  | .merges => ⟨"composer.merge", .counter, "Number of fragments merged into a composed configuration"⟩
  | .revokes => ⟨"composer.revoke", .counter, "Number of fragment layers revoked"⟩
  | .tenants => ⟨"composer.tenants", .gauge, "Number of tenants with a composed configuration"⟩
  | .skipped _ =>
    ⟨"sync.skipped", .counter, "Resource events ignored because the resource maps to no fragment. Tagged with kind."⟩
  | .suppressed _ =>
    ⟨"sync.suppressed", .counter, "Update events dropped because the mapped fragment did not change. Tagged with kind."⟩
  | .collisions =>
    ⟨"domain.collision", .counter, "Lookups refused because the hostname is claimed by multiple tenants"⟩
  | .registrations => ⟨"domain.registrations", .gauge, "Number of tenants with a domain registration"⟩
  | .unrouted _ => ⟨"route.unresolved", .counter, "Requests that could not be routed. Tagged with reason."⟩
  | .multipleCandidates =>
    ⟨"route.multiple_candidates", .counter, "Requests routed while the tenant had more than one instance"⟩
  | .instances => ⟨"catalog.instances", .gauge, "Number of service instances in the catalog"⟩

/-- The name and the value of the tag of a metric. -/
def tag : Metric → Option (String × String)
  | .skipped kind => some ("kind", kind.name)
  | .suppressed kind => some ("kind", kind.name)
  | .unrouted reason => some ("reason", reason.name)
  | _ => none

/-- The name of a metric, followed by its tag in braces. -/
def label (m : Metric) : String :=
  match m.tag with
  | none => m.definition.name
  | some (name, value) => m.definition.name ++ "\x7b" ++ name ++ "=" ++ value ++ "\x7d"

/-- What is published about every metric, those of configuration before those of routing. -/
def definitions : List MetricDefinition :=
  [merges, revokes, tenants, skipped .configMap, suppressed .configMap, collisions, registrations, unrouted .noMatch,
    multipleCandidates, instances].map definition

end Metric

/-- The line that describes a metric. -/
def MetricDefinition.describe (d : MetricDefinition) : String :=
  (match d.type with
    | .counter => "counter "
    | .gauge => "gauge "
    | .histogram => "histogram ") ++ d.name ++ ": " ++ d.description

/-- The readings of metrics. -/
structure Metrics where
  /-- Every metric that was counted or set, with its value. -/
  readings : List (Metric × Nat)
  deriving DecidableEq

namespace Metrics

/-- No metric was counted or set. -/
def empty : Metrics := ⟨[]⟩

instance : Inhabited Metrics := ⟨empty⟩

/-- The value of a metric, if it was ever counted or set. -/
def get? (m : Metrics) (x : Metric) : Option Nat :=
  Entries.get? m.readings x

/-- The value of a counter, nothing being counted as zero. -/
def count (m : Metrics) (x : Metric) : Nat :=
  (m.get? x).getD 0

/-- One more for a counter. -/
def increment (m : Metrics) (x : Metric) : Metrics :=
  ⟨Entries.put m.readings x (m.count x + 1)⟩

/-- A gauge at a new value. -/
def set (m : Metrics) (x : Metric) (n : Nat) : Metrics :=
  ⟨Entries.put m.readings x n⟩

theorem get?_increment (m : Metrics) (x y : Metric) :
    (m.increment x).get? y = if x = y then some (m.count x + 1) else m.get? y :=
  Entries.get?_put m.readings x _ y

theorem get?_set (m : Metrics) (x : Metric) (n : Nat) (y : Metric) :
    (m.set x n).get? y = if x = y then some n else m.get? y :=
  Entries.get?_put m.readings x n y

end Metrics

end TenantGateway
