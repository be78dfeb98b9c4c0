import TenantGateway.Dictionary
import TenantGateway.Text.Blank

/-!
# Identifiers

Tenants and deployments are named by identifiers: opaque texts that are not blank. An identifier keeps its text as given,
blanks at either end included. Main statement: a text makes an identifier exactly when it is not blank (`ofText?_isSome`).
-/

namespace TenantGateway

/-- What an identifier names. -/
inductive Subject
  /-- A backend application served behind the gateway. -/
  | tenant
  /-- A group of instances of one tenant that is deployed on its own. -/
  | deployment
  deriving DecidableEq

/-- The name of a tenant or of a deployment. -/
structure Identifier (subject : Subject) where
  /-- The text of the name. -/
  text : String
  /-- A name is not blank. -/
  not_blank : Text.isBlank text = false
  deriving DecidableEq

/-- The name of a tenant. -/
abbrev TenantId := Identifier .tenant

/-- The name of a deployment. -/
abbrev DeploymentId := Identifier .deployment

/-- Why a text is no identifier. -/
inductive IdentifierError
  /-- The text is empty or blank. -/
  | blank
  deriving DecidableEq

/-- The wording of the error. -/
def IdentifierError.message : IdentifierError → String
  | .blank => "identifier must not be blank"

namespace Identifier

variable {subject : Subject}

/-- The identifier with the given text. -/
def ofText? (s : String) : Option (Identifier subject) :=
  if h : Text.isBlank s = false then some ⟨s, h⟩ else none

/-- The identifier with the given text, or the reason why there is none. -/
def parse (s : String) : Except IdentifierError (Identifier subject) :=
  match ofText? s with
  | some id => .ok id
  | none => .error .blank

/-- Identifiers with the same text are equal. -/
theorem eq_of_text_eq {a b : Identifier subject} (h : a.text = b.text) : a = b := by
  cases a
  cases b
  simp_all

instance : TextKey (Identifier subject) := ⟨text, eq_of_text_eq⟩

/-- The identifier of the text of an identifier is the identifier itself. -/
theorem ofText?_text (a : Identifier subject) : ofText? a.text = some a := by
  simp [ofText?, a.not_blank]

/-- A text makes an identifier exactly when it is not blank. -/
theorem ofText?_isSome (s : String) : (ofText? s : Option (Identifier subject)).isSome = !Text.isBlank s := by
  unfold ofText?
  split <;> simp_all

end Identifier

end TenantGateway
