import Mathlib.Data.Finset.Dedup
import TenantGateway.Composer
import TenantGateway.Run

/-!
# Histories of configuration

The operations on a composer as values, and what a history of them means for a tenant: a fragment has a layer exactly when
the last operation on it under the tenant merged it, and the layers stand in the order of those merges.
-/

namespace TenantGateway

/-- The operations on a composer. -/
inductive ComposerOp
  | merge (fragment : Fragment)
  | revoke (tenant : TenantId) (id : String)
  | close
  deriving DecidableEq

/-- What an operation on a composer answers. -/
inductive ComposerAnswer
  | merged
  | revoked (any : Bool)
  | closed
  | refused (error : FeedError)
  deriving DecidableEq

/-- Performs an operation. -/
def Composer.perform (c : Composer) : ComposerOp → ComposerAnswer × Composer
  | .merge fragment =>
    match c.merge fragment with
    | .ok c' => (.merged, c')
    | .error e => (.refused e, c)
  | .revoke tenant id =>
    match c.revoke tenant id with
    | .ok (any, c') => (.revoked any, c')
    | .error e => (.refused e, c)
  | .close => (.closed, c.close)

/-- The layers of all tenants, each as its tenant and its fragment. -/
def Composer.layers (c : Composer) : Finset (TenantId × String) :=
  (c.feed.entries.entries.flatMap fun e => e.2.fragmentIds.map (Prod.mk e.1)).toFinset

/-- The composer after a run of operations on the open composer without configuration. -/
def Composer.after (capacity : Nat) (ops : List ComposerOp) : Composer :=
  (performAll Composer.perform (.new capacity) ops).2

namespace ComposerOp

/-- Whether an operation decides about the layer of a fragment with a tenant. -/
def Touches (tenant : TenantId) (id : String) : ComposerOp → Prop
  | merge fragment => fragment.tenant = tenant ∧ fragment.id = id
  | revoke t f => t = tenant ∧ f = id
  | close => False

instance (tenant : TenantId) (id : String) : DecidablePred (Touches tenant id) := fun op => by
  cases op <;> unfold Touches <;> infer_instance

/-- The tenant whose configuration an operation is about. -/
def tenant? : ComposerOp → Option TenantId
  | merge fragment => some fragment.tenant
  | revoke t _ => some t
  | close => none

/-- The layers that a history leaves to a tenant: of every fragment whose last operation under the tenant is a merge, what
it merged, in the order of those merges. -/
def layers (tenant : TenantId) : List ComposerOp → List (String × Properties)
  | [] => []
  | merge fragment :: rest =>
    if fragment.tenant = tenant ∧ ¬∃ op ∈ rest, op.Touches tenant fragment.id then
      (fragment.id, fragment.properties) :: layers tenant rest
    else layers tenant rest
  | _ :: rest => layers tenant rest

/-- Whether the last operation of a history on a fragment under a tenant merged it. -/
def Holds (tenant : TenantId) (id : String) (ops : List ComposerOp) : Prop :=
  ∃ before fragment later, ops = before ++ merge fragment :: later ∧ fragment.tenant = tenant ∧ fragment.id = id ∧
    ∀ op ∈ later, ¬op.Touches tenant id

end ComposerOp

end TenantGateway
