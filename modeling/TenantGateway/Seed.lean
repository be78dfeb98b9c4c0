import TenantGateway.Catalog
import TenantGateway.Domain.Resolver
import TenantGateway.Settings
import TenantGateway.Yaml.Data

/-!
# Seeds

A seed is a YAML file with resources, registrations and instances that are fed to a gateway at its start, as if the feeds
had reported them. Replaying it sends the items in this order, each on its own feed, up to the first feed that nobody reads.
-/

namespace TenantGateway

/-- A resource with its kind. -/
structure SeedResource where
  kind : ResourceKind
  resource : Resource
  deriving DecidableEq

/-- What is fed to a gateway at its start. -/
structure Seed where
  resources : List SeedResource
  registrations : List Registration
  instances : List ServiceInstance
  deriving DecidableEq

/-- Why there is no seed. -/
inductive SeedError
  /-- There is no file. -/
  | unreadable
  /-- The file is no YAML text, or its document does not have the form of a seed. -/
  | malformed
  deriving DecidableEq

open Yaml (Reading Data)
open Yaml.Node (required withDefault text port)

namespace Seed

/-- Data that a field of a resource may hold are nested no deeper. -/
def maxDepth : Nat := 125

/-- The kind that a scalar chooses. -/
def readKind (node : Yaml.Node) : Reading ResourceKind := do
  return ← ResourceKind.ofName? (← node.choice)

/-- The resource that a record is. Its fields are data, apart from the kind. -/
def readResource (node : Yaml.Node) : Reading SeedResource := do
  let fields ← node.fields ["kind", "uid", "name", "labels", "data"]
  let kind ← required fields "kind" readKind
  let data ← (fields.filter (·.1 != "kind")).mapM fun f => return (f.1, ← Data.read maxDepth f.2)
  let field {α : Type} (name : String) (default : Option α) (read : Data → Option α) : Option α :=
    (Entries.get? data name).elim default read
  let texts (d : Data) : Option Properties := d.texts?.map Dictionary.ofList
  return {
    kind
    resource := {
      uid := ← field "uid" none Data.text?
      name := ← field "name" (some "") Data.text?
      labels := ← field "labels" (some .empty) texts
      data := ← field "data" (some .empty) texts } }

/-- The identifier that a scalar is. -/
def readIdentifier {subject : Subject} (node : Yaml.Node) : Reading (Identifier subject) := do
  return ← Identifier.ofText? (← node.text)

/-- The registration that a record is, its hosts as they are written. -/
def readRegistration (node : Yaml.Node) : Reading Registration := do
  let fields ← node.fields ["tenant_id", "domains"]
  return {
    tenant := ← required fields "tenant_id" readIdentifier
    domains := .ofKeys (← required fields "domains" (·.textItems)) }

/-- The instance that a record is. -/
def readInstance (node : Yaml.Node) : Reading ServiceInstance := do
  let fields ← node.fields ["instance_id", "tenant_id", "deployment_id", "host", "port", "secure", "labels"]
  return {
    id := ← required fields "instance_id" text
    tenant := ← required fields "tenant_id" readIdentifier
    deployment := ← required fields "deployment_id" readIdentifier
    host := ← required fields "host" text
    port := ← required fields "port" port
    secure := ← withDefault fields "secure" false (·.bool)
    labels := .ofList (← withDefault fields "labels" [] (·.texts)) }

/-- The seed that a record is. -/
def ofNode (node : Yaml.Node) : Reading Seed := do
  let fields ← node.fields ["resources", "domains", "instances"]
  let items {α : Type} (read : Yaml.Node → Reading α) (node : Yaml.Node) : Reading (List α) := do
    (← node.items).mapM read
  return {
    resources := ← withDefault fields "resources" [] (items readResource)
    registrations := ← withDefault fields "domains" [] (items readRegistration)
    instances := ← withDefault fields "instances" [] (items readInstance) }

/-- The seed in a file with the given text; without a text there is no file. -/
def load (file : Option String) : Except SeedError Seed :=
  match file with
  | none => .error .unreadable
  | some text =>
    match (Yaml.Document.ofText? text).bind (·.read ofNode) with
    | none => .error .malformed
    | some seed => .ok seed

end Seed

/-! ## Replay -/

/-- The feeds of a gateway. -/
inductive FeedName
  | resources (kind : ResourceKind)
  | domains
  | discovery
  deriving DecidableEq

/-- The name of a feed. -/
def FeedName.name : FeedName → String
  | .resources kind => kind.name
  | .domains => "domain"
  | .discovery => "discovery"

/-- Nobody reads the feed any more. -/
structure FeedClosed where
  feed : FeedName
  deriving DecidableEq

/-- The wording of the error. -/
def FeedClosed.message (e : FeedClosed) : String :=
  e.feed.name ++ " feed closed while replaying seed"

/-- The ends of the feeds that a seed is sent on: which kinds of resources have one, and which feeds are read. -/
structure FeedEnds where
  watched : ResourceKind → Bool
  isOpen : FeedName → Bool

/-- The items of a list before the first whose feed nobody reads; the feed of that one, if there is one. -/
def sendWhile {α : Type} (isOpen : FeedName → Bool) (feedOf : α → FeedName) : List α → List α × Option FeedClosed
  | [] => ([], none)
  | item :: rest =>
    if isOpen (feedOf item) then
      match sendWhile isOpen feedOf rest with
      | (sent, closed) => (item :: sent, closed)
    else ([], some ⟨feedOf item⟩)

namespace Seed

/-- The seed without items. -/
def empty : Seed := ⟨[], [], []⟩

/-- The resources whose kind is watched. -/
def watchedResources (s : Seed) (ends : FeedEnds) : List SeedResource :=
  s.resources.filter fun r => ends.watched r.kind

/-- Sends the items of a seed. Answers what was sent, and the feed that kept the rest from being sent, if there is one.
Resources of a kind that is not watched are passed over. -/
def replay (s : Seed) (ends : FeedEnds) : Seed × Option FeedClosed :=
  match sendWhile ends.isOpen (fun r => .resources r.kind) (s.watchedResources ends) with
  | (resources, some closed) => ({ empty with resources }, some closed)
  | (resources, none) =>
    match sendWhile ends.isOpen (fun _ => .domains) s.registrations with
    | (registrations, some closed) => ({ empty with resources, registrations }, some closed)
    | (registrations, none) =>
      match sendWhile ends.isOpen (fun _ => .discovery) s.instances with
      | (instances, closed) => (⟨resources, registrations, instances⟩, closed)

end Seed

end TenantGateway
