import TenantGateway.Base64
import TenantGateway.Configuration

/-!
# From resources to fragments

A resource contributes configuration when its labels mark it as configuration and name a tenant. The payload of a config
map is taken as it is; every value of a secret is decoded, and a secret with a value that cannot be decoded contributes
nothing.
-/

namespace TenantGateway

/-- The labels that a resource must carry to contribute configuration. -/
structure LabelSelector where
  /-- The label that names the tenant. -/
  tenant : String
  /-- The label that marks configuration. -/
  kind : String
  /-- The value that the marking label must have. -/
  kindValue : String
  deriving DecidableEq

namespace LabelSelector

/-- The labels that are looked for unless others are configured. -/
def default : LabelSelector := ⟨"gateway.io/tenant", "gateway.io/kind", "gateway-config"⟩

instance : Inhabited LabelSelector := ⟨default⟩

/-- The tenant that a resource contributes to and the identity of its fragment, as its labels tell. -/
def identify (s : LabelSelector) (r : Resource) : Option (TenantId × String) :=
  if r.labels.get? s.kind = some s.kindValue then do
    let tenant ← (r.labels.get? s.tenant).bind Identifier.ofText?
    some (tenant, r.uid)
  else none

end LabelSelector

/-- The properties that a payload of the given kind stands for. -/
def ResourceKind.decode (kind : ResourceKind) (data : Properties) : Option Properties :=
  match kind with
  | .configMap => some data
  | .secret =>
    (data.entries.mapM fun e => (Base64.decodeText (Text.trimmed e.2)).map (Prod.mk e.1)).map Dictionary.ofList

/-- The fragment that a resource of the given kind contributes. -/
def LabelSelector.fragment? (s : LabelSelector) (kind : ResourceKind) (r : Resource) : Option Fragment := do
  let (tenant, id) ← s.identify r
  let properties ← kind.decode r.data
  return ⟨id, tenant, properties⟩

end TenantGateway
