import TenantGateway.Identifier
import TenantGateway.Resource
import TenantGateway.Text.Separated

/-!
# Composed configuration

The configuration of a tenant is a stack of layers, one for each fragment that was contributed, in the order of their
registration. The layer registered last decides a property that several layers set. Configuration can be read key by key
(`get?`) or as a whole (`effective`).
-/

namespace TenantGateway

/-- What one resource contributes to the configuration of one tenant. -/
structure Fragment where
  /-- The identity of the resource. -/
  id : String
  tenant : TenantId
  properties : Properties
  deriving DecidableEq

/-- The layers of one tenant under the identities of their fragments, the layer registered last at the end. -/
structure Configuration where
  layers : List (String × Properties)
  deriving DecidableEq

namespace Configuration

/-- The configuration without layers. -/
def empty : Configuration := ⟨[]⟩

instance : Inhabited Configuration := ⟨empty⟩

/-- The effective value of a property: that of the last layer that sets it. -/
def get? (c : Configuration) (key : String) : Option String :=
  c.layers.reverse.findSome? fun l => l.2.get? key

/-- The items of a comma-separated property; there are none when it is not set. -/
def list (c : Configuration) (key : String) : List String :=
  match c.get? key with
  | some value => Text.commaItems value
  | none => []

/-- Every property with its effective value. -/
def effective (c : Configuration) : Properties :=
  c.layers.foldl (fun merged l => l.2.entries.foldl (fun d e => d.insert e.1 e.2) merged) .empty

/-- The properties of the layer of a fragment. -/
def layer? (c : Configuration) (id : String) : Option Properties :=
  Entries.get? c.layers id

/-- The identities of the fragments in the order of their registration. -/
def fragmentIds (c : Configuration) : List String := c.layers.map (·.1)

/-- The number of layers. -/
def size (c : Configuration) : Nat := c.layers.length

/-- Whether there is no layer. -/
def isEmpty (c : Configuration) : Bool := c.layers.isEmpty

/-- The configuration with the layer of a fragment registered last; a layer that the fragment had before is gone. -/
def insertLayer (c : Configuration) (id : String) (properties : Properties) : Configuration :=
  ⟨Entries.file c.layers id properties⟩

/-- The configuration without the layer of a fragment. -/
def removeLayer (c : Configuration) (id : String) : Configuration :=
  ⟨Entries.erase c.layers id⟩

end Configuration

/-! ## Properties with a meaning for the gateway and for those who read the configuration -/

namespace PropertyKey

def clientId : String := "client-id"
def clientSecret : String := "client-secret"
def issuerUri : String := "issuer-uri"

/-- The comma-separated hosts that the tenant serves. -/
def routingDomains : String := "routing-domains"

/-- The comma-separated origins that may call the tenant. -/
def corsOrigins : String := "cors-origins"

/-- Every property with a meaning. -/
def all : List String := [clientId, clientSecret, issuerUri, routingDomains, corsOrigins]

end PropertyKey

end TenantGateway
