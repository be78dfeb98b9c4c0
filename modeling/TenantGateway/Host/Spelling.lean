import TenantGateway.Host
import TenantGateway.Instance

/-!
# Spellings of a host

The name of a host is written in any case, with dots behind it, with a port, and with blanks around the whole. A name with colons
stands in brackets, so that none of its colons is taken for the one before the port.
-/

namespace TenantGateway

namespace Host

/-- A way to write the name of a host. -/
structure Spelling where
  /-- The blanks in front. -/
  before : String
  name : String
  /-- The number of dots behind the name. -/
  dots : Nat
  /-- The digits of the port. There may be a colon without any. -/
  port? : Option String
  /-- The blanks at the end. -/
  after : String
  before_blank : Text.isBlank before = true
  port_digits : ∀ port ∈ port?, port.toList.all Char.isDigit = true
  after_blank : Text.isBlank after = true

namespace Spelling

/-- Whether the name that is written is the one given, up to the case of the letters A to Z. -/
def Names (s : Spelling) (name : String) : Prop :=
  s.name.toList.map Char.toLower = name.toList.map Char.toLower

instance (s : Spelling) (name : String) : Decidable (s.Names name) :=
  inferInstanceAs (Decidable (s.name.toList.map Char.toLower = name.toList.map Char.toLower))

/-- The name and the dots behind it. -/
def dotted (s : Spelling) : String := s.name ++ String.ofList (List.replicate s.dots '.')

/-- The port behind its colon. -/
def portText (s : Spelling) : String :=
  match s.port? with
  | some port => ":" ++ port
  | none => ""

/-- The name, in brackets when it has colons, and the port. -/
def host (s : Spelling) : String :=
  (if s.name.toList.contains ':' then "[" ++ s.dotted ++ "]" else s.dotted) ++ s.portText

/-- The text that is written. -/
def text (s : Spelling) : String := s.before ++ s.host ++ s.after

end Spelling

end Host

/-- The authority of an instance, as a spelling of its host. -/
def ServiceInstance.spelling (i : ServiceInstance) : Host.Spelling where
  before := ""
  name := i.host
  dots := 0
  port? := some (toString i.port.toNat)
  after := ""
  before_blank := rfl
  port_digits := by
    intro port hport
    obtain rfl := Option.some.inj hport
    rw [Nat.toString_eq_repr, Nat.toList_repr, List.all_eq_true]
    exact fun c hc => Nat.isDigit_of_mem_toDigits (by decide) (by decide) hc
  after_blank := rfl

end TenantGateway
