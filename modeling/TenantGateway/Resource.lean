import TenantGateway.Dictionary

/-!
# Resources

Tenants are configured by resources that a cluster holds: config maps, whose values are plain text, and secrets, whose
values are base64 text. A watch reports what happens to the resources of one kind.
-/

namespace TenantGateway

/-- Texts under textual names: labels, payloads and properties. -/
abbrev Properties := Dictionary String String

/-- The kinds of resources that can carry tenant configuration. -/
inductive ResourceKind
  /-- The values are plain text. -/
  | configMap
  /-- The values are base64 text. -/
  | secret
  deriving DecidableEq

namespace ResourceKind

/-- Every kind. -/
def all : List ResourceKind := [.configMap, .secret]

/-- The name of a kind. -/
def name : ResourceKind → String
  | .configMap => "config_map"
  | .secret => "secret"

/-- The kind with the given name. -/
def ofName? (s : String) : Option ResourceKind :=
  all.find? fun kind => kind.name == s

/-- A kind is found under its name. -/
theorem ofName?_name (kind : ResourceKind) : ofName? kind.name = some kind := by
  cases kind <;> decide

end ResourceKind

/-- A resource as a watch delivers it. -/
structure Resource where
  /-- The identity of the resource, the same for all its states. -/
  uid : String
  name : String
  labels : Properties
  /-- The payload. -/
  data : Properties
  deriving DecidableEq

/-- What a watch reports about a resource. -/
inductive ResourceEvent
  | added (resource : Resource)
  | updated (old new : Resource)
  /-- The resource is gone. Its final state is a guess when the watch lost track of it. -/
  | deleted (resource : Resource) (finalStateUnknown : Bool)
  deriving DecidableEq

end TenantGateway
