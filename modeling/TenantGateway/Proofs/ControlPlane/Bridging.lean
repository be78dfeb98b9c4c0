import TenantGateway.Composer.History
import TenantGateway.ControlPlane
import TenantGateway.Proofs.Domain.Bridge
import TenantGateway.Proofs.Router
import TenantGateway.Proofs.Run
import TenantGateway.Proofs.Sync

/-!
# Registrations from configuration

As long as nobody but the bridge registers hosts for the configuration, the bridge of a control plane stays in step with the composer
and the resolver beside it, whatever is merged, revoked, closed and handled between its steps, and however often it falls behind
(`ControlPlane.Bridged`). Once its subscription has nothing left to tell, every tenant is registered as its present configuration
alone would have it (`ControlPlane.run_registers_configuration`).
-/

namespace TenantGateway

namespace ControlPlane

/-- The control plane whose bridge begins to follow a composer as it is. Nothing is registered or listed yet. -/
def joining (c : Composer) (s : LabelSelector) (order : List TenantId) : ControlPlane :=
  ⟨.new c s, .new c order, .new⟩

/-- The bridge is in step with the composer and the resolver. -/
structure Bridged (p : ControlPlane) : Prop where
  bridge : p.bridge.Follows p.composer p.router.resolver
  resolver : p.router.resolver.Sound

variable {p : ControlPlane}

/-- A bridge that begins to follow a composer is in step with it. -/
theorem bridged_joining (c : Composer) (s : LabelSelector) (order : List TenantId) : (joining c s order).Bridged :=
  ⟨Bridge.follows_new c order fun _ => rfl, Resolver.sound_new⟩

/-- What becomes of the composer is ahead of the bridge. -/
theorem Bridged.withSync (h : p.Bridged) {sync : Sync} (hgrows : p.composer.feed.GrowsTo sync.composer.feed) :
    Bridged { p with sync } :=
  ⟨h.bridge.grow hgrows, h.resolver⟩

/-- A resolver with the same registrations from the configuration does as well. -/
theorem Bridged.withRouter (h : p.Bridged) {router : Router} (hsound : router.resolver.Sound)
    (hhosts : ∀ t, router.resolver.hosts? .configuration t = p.router.resolver.hosts? .configuration t) :
    Bridged { p with router } :=
  ⟨h.bridge.congr hhosts, hsound⟩

/-- Every operation but a registration for the configuration from elsewhere keeps the bridge in step. -/
theorem Bridged.perform (h : p.Bridged) {op : ControlOp} (hop : ∀ event, op ≠ .domain .configuration event) :
    (p.perform op).2.Bridged := by
  unfold ControlPlane.perform
  cases op with
  | merge fragment =>
    dsimp only
    cases hmerge : p.composer.merge fragment with
    | ok composer => exact h.withSync (Composer.growsTo_merge hmerge)
    | error e => exact h
  | revoke tenant id =>
    dsimp only
    cases hrevoke : p.composer.revoke tenant id with
    | ok result => exact h.withSync (Composer.growsTo_revoke hrevoke)
    | error e => exact h
  | closeComposer => exact h.withSync (Feed.stepsTo_close p.composer.feed).growsTo
  | resource kind event order =>
    dsimp only
    cases hhandle : p.sync.handle kind event order with
    | ok result => exact h.withSync (Sync.growsTo_handle hhandle)
    | error e => exact h
  | domain origin event =>
    cases origin with
    | configuration => exact absurd rfl (hop event)
    | feed =>
      refine h.withRouter (h.resolver.apply .feed event) fun t => ?_
      exact (h.resolver.hosts?_apply .feed event .configuration t).trans (if_neg (by decide))
  | discovery event =>
    dsimp only
    split
    · exact h.withRouter h.resolver fun _ => rfl
    · exact h
  | bridge order => exact ⟨h.bridge.step h.resolver order, h.resolver.applyAll .configuration _⟩
  | resolve host =>
    have hsound := h.resolver.resolve host
    have hhosts := fun t => Resolver.hosts?_resolve p.router.resolver host .configuration t
    dsimp only
    generalize p.router.resolver.resolve host = resolved at hsound hhosts ⊢
    exact h.withRouter hsound hhosts
  | route host =>
    have hresolver := Router.resolver_route p.router host
    dsimp only
    generalize p.router.route host = routed at hresolver ⊢
    refine h.withRouter (hresolver ▸ h.resolver.resolve host) fun t => ?_
    rw [hresolver]
    exact Resolver.hosts?_resolve p.router.resolver host .configuration t

/-- A run in which nobody else registers hosts for the configuration keeps the bridge in step. -/
theorem Bridged.after (h : p.Bridged) {ops : List ControlOp} (hops : ∀ event, .domain .configuration event ∉ ops) :
    (p.after ops).Bridged := by
  refine performAll_invariant (P := Bridged) (fun op hop p hp => hp.perform fun event he => ?_) h
  exact hops event (he ▸ hop)

/-- What a resolver without registrations makes of the configuration of a tenant is what the configuration wants. -/
theorem hosts?_apply_put (t : TenantId) (configuration : Configuration) :
    (Resolver.new.apply .configuration (.ofChange (.put t configuration))).hosts? .configuration t =
      Registration.wanted t (some configuration) := by
  have hleaves := DomainEvent.leaves_ofChange t none (.put t configuration)
  rw [Change.valueOf, if_pos rfl] at hleaves
  exact (Resolver.sound_new.hosts?_apply .configuration _ .configuration t).trans ((if_pos rfl).trans hleaves)

/-- Let a bridge be created beside any composer, and any merges, revokes, resource events and a closing of the composer go on
between the steps of the bridge, which may fall behind any number of times. Whenever its subscription has nothing left to tell, a
tenant without a configuration, or whose configuration lists no hosts, has no registration from the configuration, and every other
tenant has the one that the event for its present configuration alone would leave. -/
theorem run_registers_configuration (c : Composer) (s : LabelSelector) (order : List TenantId) (ops : List ControlOp)
    (hops : ∀ event, .domain .configuration event ∉ ops)
    (hlast : (((joining c s order).after ops).bridge.subscription.receive
      ((joining c s order).after ops).composer.feed).1.isLast = true) (t : TenantId) :
    let p := (joining c s order).after ops
    let registered := p.router.resolver.registration? .configuration t
    ((∀ configuration, p.composer.configuration? t = some configuration →
      configuration.list PropertyKey.routingDomains = []) → registered = none) ∧
    ∀ configuration, p.composer.configuration? t = some configuration →
      configuration.list PropertyKey.routingDomains ≠ [] →
      registered.isSome = true ∧
        registered = (Resolver.new.apply .configuration (.ofChange (.put t configuration))).registration? .configuration t := by
  intro p registered
  have hbridged : p.Bridged := (bridged_joining c s order).after hops
  have hhosts := hbridged.bridge.hosts?_of_isLast (Or.inr hlast) t
  have hregistered : registered = (Registration.wanted t (p.composer.configuration? t)).map fun hosts => ⟨t, hosts⟩ := by
    rw [← hhosts]
    exact hbridged.resolver.registration?_eq .configuration t
  refine ⟨fun hnone => ?_, fun configuration hconfiguration hlist => ⟨?_, ?_⟩⟩
  · rw [hregistered]
    cases hconfiguration : p.composer.configuration? t with
    | none => rfl
    | some configuration => simp [Registration.wanted, hnone configuration hconfiguration]
  · rw [hregistered, hconfiguration, Registration.wanted]
    split
    · rename_i hnil
      exact absurd hnil hlist
    · rfl
  · rw [hregistered, hconfiguration, ← hosts?_apply_put t configuration]
    exact ((Resolver.sound_new.apply _ _).registration?_eq .configuration t).symm

/-- A bridge with room for one event is created beside a composer that has a tenant, and misses that this tenant goes, and another
one comes, loses its hosts and a third one comes. After it has caught up and the composer was closed, the third one alone is
registered. -/
theorem run_registers_configuration_lagged :
    let a : TenantId := ⟨"a", by decide⟩
    let b : TenantId := ⟨"b", by decide⟩
    let d : TenantId := ⟨"d", by decide⟩
    let fragment (t : TenantId) (hosts : String) : Fragment := ⟨"f", t, .ofList [(PropertyKey.routingDomains, hosts)]⟩
    let ops : List ControlOp := [.bridge, .revoke a "f", .merge (fragment b "b.org"), .merge (fragment b " , "),
      .merge (fragment d "D.org:80"), .bridge, .bridge [d], .bridge, .closeComposer]
    let p := (joining (.after 1 [.merge (fragment a "a.org")]) .default []).after ops
    p.composer.tenants = [b, d] ∧
      p.router.resolver.registration? .configuration a = none ∧
      p.router.resolver.registration? .configuration b = none ∧
      p.router.resolver.registration? .configuration d = some ⟨d, .ofKeys ["d.org"]⟩ ∧
      p.router.resolver.registration? .configuration d = (Resolver.new.apply .configuration
        (.ofChange (.put d ⟨[("f", (fragment d "D.org:80").properties)]⟩))).registration? .configuration d := by
  intro a b d fragment ops p
  have hops : ∀ event, .domain .configuration event ∉ ops := by simp [ops]
  have hlast : (p.bridge.subscription.receive p.composer.feed).1.isLast = true := by decide +kernel
  have hnone : p.composer.configuration? a = none := by decide +kernel
  have hblank : p.composer.configuration? b = some ⟨[("f", (fragment b " , ").properties)]⟩ := by decide +kernel
  have hpresent : p.composer.configuration? d = some ⟨[("f", (fragment d "D.org:80").properties)]⟩ := by decide +kernel
  have hlost : ∀ configuration, p.composer.configuration? b = some configuration →
      configuration.list PropertyKey.routingDomains = [] := by
    intro configuration hconfiguration
    obtain rfl := Option.some.inj (hblank.symm.trans hconfiguration)
    decide
  have hregistered := run_registers_configuration (.after 1 [.merge (fragment a "a.org")]) .default [] ops hops hlast
  dsimp only at hregistered
  refine ⟨by decide +kernel, ?_, ?_, by decide +kernel, ?_⟩ <;> dsimp only [p] at hnone hlost hpresent ⊢
  · exact (hregistered a).1 fun configuration hconfiguration => nomatch hnone.symm.trans hconfiguration
  · exact (hregistered b).1 hlost
  · exact ((hregistered d).2 _ hpresent (by decide)).2

end ControlPlane

end TenantGateway
