import TenantGateway.Identifier
import TenantGateway.Json
import TenantGateway.Resource

/-!
# Service instances

A service instance is one endpoint that serves a tenant. Its address is written as a URL, with brackets around a numeric
host that holds colons.
-/

namespace TenantGateway

/-- One reachable endpoint of a tenant. -/
structure ServiceInstance where
  /-- The identity of the instance; an instance with a blank one cannot be listed. -/
  id : String
  tenant : TenantId
  deployment : DeploymentId
  host : String
  port : UInt16
  secure : Bool
  labels : Properties
  deriving DecidableEq

namespace ServiceInstance

/-- The scheme of the address. -/
def scheme (i : ServiceInstance) : String :=
  if i.secure then "https" else "http"

/-- The host and the port of the address. -/
def authority (i : ServiceInstance) : String :=
  if i.host.toList.contains ':' then "[" ++ i.host ++ "]:" ++ toString i.port.toNat
  else i.host ++ ":" ++ toString i.port.toNat

/-- The address. -/
def url (i : ServiceInstance) : String := i.scheme ++ "://" ++ i.authority

/-- The identity under which an instance is listed. -/
def identity? (i : ServiceInstance) : Option String :=
  if Text.isBlank i.id then none else some i.id

/-- Whether an instance comes before another one of the same tenant: by deployment, then by identity. -/
def precedes (i j : ServiceInstance) : Bool :=
  i.deployment.text < j.deployment.text || (i.deployment.text == j.deployment.text && i.id < j.id)

/-- The fields of an instance and its address, as a document. -/
def toJson (i : ServiceInstance) : Json :=
  .object [
    ("deployment_id", .text i.deployment.text),
    ("host", .text i.host),
    ("instance_id", .text i.id),
    ("labels", .object (i.labels.entries.map fun e => (e.1, .text e.2))),
    ("port", .number i.port.toNat),
    ("secure", .bool i.secure),
    ("tenant_id", .text i.tenant.text),
    ("url", .text i.url)]

end ServiceInstance

end TenantGateway
