import TenantGateway.Sync.Mapping
import TenantGateway.Yaml.Reading

/-!
# Settings

The gateway reads its settings from a YAML file. Every setting has a default; unknown ones are ignored. Settings are
refused when a port or the capacity of the configuration feed is zero, or when the name of a label is blank.
-/

namespace TenantGateway

/-- Where the admin endpoint listens. -/
structure Listener where
  host : String
  port : UInt16
  deriving DecidableEq

/-- Where metrics are sent. -/
structure MetricsTarget where
  host : String
  port : UInt16
  deriving DecidableEq

/-- How log lines are written. -/
inductive LogFormat
  | text
  | json
  deriving DecidableEq

/-- The format with the given name. -/
def LogFormat.ofName? : String → Option LogFormat
  | "text" => some .text
  | "json" => some .json
  | _ => none

/-- What is logged, and where. -/
structure LoggingSettings where
  /-- Where failures are reported. -/
  sentryDsn : Option String
  format : LogFormat
  deriving DecidableEq

/-- The settings of a gateway. -/
structure Settings where
  adminListener : Listener
  metrics : Option MetricsTarget
  logging : LoggingSettings
  labels : LabelSelector
  /-- The number of events that a subscriber of the configuration may leave unread. -/
  feedCapacity : Nat
  /-- The file that is replayed at the start. -/
  seed : Option String
  deriving DecidableEq

/-- Why settings are refused. -/
inductive InvalidSettings
  | zeroPort
  | zeroFeedCapacity
  | emptyLabel (name : String)
  deriving DecidableEq

/-- The wording of the reason. -/
def InvalidSettings.message : InvalidSettings → String
  | .zeroPort => "Port cannot be 0"
  | .zeroFeedCapacity => "feed_capacity must be greater than 0"
  | .emptyLabel name => "Empty label key: " ++ name

/-- Why there are no settings. -/
inductive SettingsError
  /-- There is no file. -/
  | unreadable
  /-- The file is no YAML text, or its document does not have the form of settings. -/
  | malformed
  | invalid (reason : InvalidSettings)
  deriving DecidableEq

/-- The wording of the error, where it is fixed. -/
def SettingsError.message? : SettingsError → Option String
  | .invalid reason => some ("invalid config: " ++ reason.message)
  | _ => none

namespace Yaml.Node

/-- The port that a scalar is. -/
def port (node : Node) : Reading UInt16 := return .ofNat (← node.nat 65536)

/-- The label selector that a record is. -/
def selector (node : Node) : Reading LabelSelector := do
  let fields ← node.fields ["tenant", "kind", "kind_value"]
  let d := LabelSelector.default
  return {
    tenant := ← withDefault fields "tenant" d.tenant text
    kind := ← withDefault fields "kind" d.kind text
    kindValue := ← withDefault fields "kind_value" d.kindValue text }

end Yaml.Node

open Yaml (Reading)
open Yaml.Node (required withDefault optional text port)

namespace Settings

/-- The listener that a record is. -/
def readListener (node : Yaml.Node) : Reading Listener := do
  let fields ← node.fields ["host", "port"]
  return { host := ← required fields "host" text, port := ← required fields "port" port }

/-- The target of metrics that a record is. -/
def readMetricsTarget (node : Yaml.Node) : Reading MetricsTarget := do
  let fields ← node.fields ["statsd_host", "statsd_port"]
  return { host := ← required fields "statsd_host" text, port := ← required fields "statsd_port" port }

/-- The format that a scalar chooses. -/
def readFormat (node : Yaml.Node) : Reading LogFormat := do
  return ← LogFormat.ofName? (← node.choice)

/-- The logging settings that a record is. -/
def readLogging (node : Yaml.Node) : Reading LoggingSettings := do
  let fields ← node.fields ["sentry_dsn", "format"]
  return {
    sentryDsn := ← withDefault fields "sentry_dsn" none (optional text)
    format := ← withDefault fields "format" .text readFormat }

/-- The settings that a record is. -/
def ofNode (node : Yaml.Node) : Reading Settings := do
  let fields ← node.fields ["admin_listener", "metrics", "logging", "labels", "feed_capacity", "seed"]
  return {
    adminListener := ← withDefault fields "admin_listener" ⟨"127.0.0.1", 3001⟩ readListener
    metrics := ← withDefault fields "metrics" none (optional readMetricsTarget)
    logging := ← withDefault fields "logging" ⟨none, .text⟩ readLogging
    labels := ← withDefault fields "labels" .default (·.selector)
    feedCapacity := ← withDefault fields "feed_capacity" 1024 (·.nat (Nat.pow 2 64))
    seed := ← withDefault fields "seed" none (optional text) }

/-- Why the settings are refused, if they are: the first reason in the order of the settings. -/
def invalid? (s : Settings) : Option InvalidSettings :=
  if s.adminListener.port = 0 then some .zeroPort
  else if s.metrics.any fun target => target.port == 0 then some .zeroPort
  else if s.feedCapacity = 0 then some .zeroFeedCapacity
  else if Text.isBlank s.labels.tenant then some (.emptyLabel "tenant")
  else if Text.isBlank s.labels.kind then some (.emptyLabel "kind")
  else if Text.isBlank s.labels.kindValue then some (.emptyLabel "kind_value")
  else none

/-- The settings in a file with the given text; without a text there is no file. -/
def load (file : Option String) : Except SettingsError Settings :=
  match file with
  | none => .error .unreadable
  | some text =>
    match (Yaml.Document.ofText? text).bind (·.read ofNode) with
    | none => .error .malformed
    | some settings =>
      match settings.invalid? with
      | some reason => .error (.invalid reason)
      | none => .ok settings

end Settings

end TenantGateway
