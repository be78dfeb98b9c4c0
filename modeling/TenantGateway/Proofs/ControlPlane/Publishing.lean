import TenantGateway.Proofs.ControlPlane.Bridging
import TenantGateway.Proofs.Domain.History

/-!
# What the bridge has published

The bridge keeps account of what it publishes: the tenants that it takes for published are those to whom the events that it published
leave hosts, and each of its withdrawals is about such a tenant (`Bridge.Accounts`). So it withdraws only what it published, and
nothing twice, whatever becomes of the configuration and however often it falls behind (`ControlPlane.run_withdraws_published`).
-/

namespace TenantGateway

namespace DomainEvent

variable {t : TenantId} {events : List DomainEvent}

/-- Whether every withdrawal of a history is about a tenant to whom the events before it leave hosts. -/
def WithdrawsPublished (events : List DomainEvent) : Prop :=
  ∀ before t later, events = before ++ .delete t :: later → (hostsAfter t before).isSome = true

/-- Who has published nothing has withdrawn nothing. -/
theorem withdrawsPublished_nil : WithdrawsPublished [] := by
  intro before t later he
  simp at he

/-- A history goes on withdrawing what was published when its next event does. -/
theorem WithdrawsPublished.snoc (h : WithdrawsPublished events) {e : DomainEvent}
    (he : ∀ t, e = .delete t → (hostsAfter t events).isSome = true) : WithdrawsPublished (events ++ [e]) := by
  intro before t later hsplit
  rcases List.eq_nil_or_concat later with rfl | ⟨later, last, rfl⟩
  · obtain ⟨rfl, hlast⟩ := List.append_inj' hsplit rfl
    exact he t (List.singleton_inj.1 hlast)
  · rw [List.concat_eq_append, ← List.cons_append, ← List.append_assoc] at hsplit
    exact h before t later (List.append_inj' hsplit rfl).1

/-- The last event before a withdrawal that touches its tenant put hosts for the tenant. -/
theorem WithdrawsPublished.exists_put (h : WithdrawsPublished events) {before later : List DomainEvent}
    (hsplit : events = before ++ .delete t :: later) :
    ∃ earlier registration between, before = earlier ++ .put registration :: between ∧ registration.tenant = t ∧
      ∀ e ∈ between, ¬e.Touches t := by
  obtain ⟨hosts, hhosts⟩ := Option.isSome_iff_exists.1 (h before t later hsplit)
  obtain ⟨earlier, registration, between, hbefore, htenant, -, hbetween⟩ := hostsAfter_eq_some_iff.1 hhosts
  exact ⟨earlier, registration, between, hbefore, htenant, hbetween⟩

/-- Between two withdrawals of a tenant there is a put for it: no event behind the put that the second one withdraws is about the tenant,
so that this put stands behind the first one. -/
theorem WithdrawsPublished.exists_put_between (h : WithdrawsPublished events) {before between later : List DomainEvent}
    (hsplit : events = before ++ .delete t :: (between ++ .delete t :: later)) :
    ∃ registration, .put registration ∈ between ∧ registration.tenant = t := by
  have hsecond : events = (before ++ .delete t :: between) ++ .delete t :: later := by simp [hsplit]
  obtain ⟨earlier, registration, rest, hshape, htenant, hrest⟩ := h.exists_put hsecond
  rcases List.append_eq_append_iff.1 hshape with ⟨gap, rfl, hgap⟩ | ⟨gap, rfl, hgap⟩
  · cases gap with
    | nil => nomatch hgap
    | cons first gap =>
      obtain ⟨-, rfl⟩ := List.cons.inj hgap
      exact ⟨registration, by simp, htenant⟩
  · cases gap with
    | nil => nomatch hgap
    | cons first gap =>
      obtain ⟨-, rfl⟩ := List.cons.inj hgap
      exact absurd rfl (hrest (.delete t) (by simp))

end DomainEvent

namespace Bridge

/-- The bridge is heard, takes those tenants for published to whom what it published leaves hosts, and has withdrawn no others. -/
structure Accounts (b : Bridge) (sent : List DomainEvent) : Prop where
  connected : b.connected = true
  published : ∀ t, (b.published.get? t).isSome = (DomainEvent.hostsAfter t sent).isSome
  withdraws : DomainEvent.WithdrawsPublished sent

variable {b : Bridge} {sent : List DomainEvent}

theorem accounts_new (c : Composer) (order : List TenantId) : (Bridge.new c order).Accounts [] :=
  ⟨rfl, fun _ => rfl, DomainEvent.withdrawsPublished_nil⟩

/-- Where the bridge stands in the feed, and whether it has ended, does not matter. -/
theorem Accounts.congr (h : b.Accounts sent) {b' : Bridge} (hconnected : b'.connected = b.connected)
    (hpublished : b'.published = b.published) : b'.Accounts sent :=
  ⟨hconnected.trans h.connected, hpublished ▸ h.published, h.withdraws⟩

/-- The bridge accounts for an event that it forwards, whether it is to be published or not. -/
theorem Accounts.forward (h : b.Accounts sent) (e : DomainEvent) : (b.forward e).2.Accounts (sent ++ (b.forward e).1) := by
  cases hp : b.publishes e with
  | true =>
    have hforward : b.forward e = ([e], { b with published := b.publishedAfter e, stopped := false }) := by
      rw [Bridge.forward, if_pos hp, h.connected]
      rfl
    rw [hforward]
    refine ⟨h.connected, fun t => ?_, h.withdraws.snoc fun t he => ?_⟩
    · rw [DomainEvent.hostsAfter_snoc]
      exact isSome_get?_publishedAfter e (h.published t)
    · rw [← h.published t]
      rw [he] at hp
      exact hp
  | false =>
    have hforward : b.forward e = ([], b) := if_neg (by simp [hp])
    rw [hforward, List.append_nil]
    exact h

theorem Accounts.forwardAll (h : b.Accounts sent) (events : List DomainEvent) :
    (b.forwardAll events).2.Accounts (sent ++ (b.forwardAll events).1) := by
  induction events generalizing b sent with
  | nil => simpa [Bridge.forwardAll] using h
  | cons e events ih =>
    rw [Bridge.forwardAll]
    split
    · simpa using h
    · have hrest := ih (h.forward e)
      rw [List.append_assoc] at hrest
      exact hrest

/-- Whatever a step of the bridge reads, it accounts for what it publishes. -/
theorem Accounts.step (h : b.Accounts sent) (c : Composer) (order : List TenantId) :
    (b.step c order).2.Accounts (sent ++ (b.step c order).1) := by
  rw [Bridge.step]
  split
  · simpa using h
  · generalize b.subscription.receive c.feed = received
    obtain ⟨reply, subscription⟩ := received
    have hread : Accounts { b with subscription } sent := h.congr rfl rfl
    cases reply with
    | event change => exact hread.forward _
    | lagged missed =>
      have hfresh : Accounts { b with subscription := c.observe order } sent := h.congr rfl rfl
      exact hfresh.forwardAll _
    | pending => simpa [Bridge.react] using hread
    | finished =>
      have hended : Accounts { b with subscription, stopped := true } sent := h.congr rfl rfl
      simpa [Bridge.react] using hended

/-- A bridge that runs until it is idle accounts for what it publishes. -/
theorem Accounts.run (h : b.Accounts sent) (c : Composer) : (b.run c).2.Accounts (sent ++ (b.run c).1) := by
  refine run_invariant (P := fun more b => b.Accounts (sent ++ more)) ((List.append_nil sent).symm ▸ h) fun more b h => ?_
  rw [← List.append_assoc]
  exact h.step c []

end Bridge

namespace ControlPlane

/-- The events that the bridge published in a run, as the answers tell. -/
def forwarded (answers : List ControlAnswer) : List DomainEvent := answers.flatMap ControlAnswer.forwarded

/-- Every operation but a step of the bridge leaves the bridge alone, and publishes nothing through it. -/
theorem perform_aside (p : ControlPlane) {op : ControlOp} (hop : ∀ order, op ≠ .bridge order) :
    (p.perform op).2.bridge = p.bridge ∧ (p.perform op).1.forwarded = [] := by
  unfold perform
  cases op with
  | bridge order => exact absurd rfl (hop order)
  | merge fragment => dsimp only; split <;> exact ⟨rfl, rfl⟩
  | revoke tenant id => dsimp only; split <;> exact ⟨rfl, rfl⟩
  | closeComposer => exact ⟨rfl, rfl⟩
  | resource kind event order => dsimp only; split <;> exact ⟨rfl, rfl⟩
  | domain origin event => exact ⟨rfl, rfl⟩
  | discovery event => dsimp only; split <;> exact ⟨rfl, rfl⟩
  | resolve host => exact ⟨rfl, rfl⟩
  | route host => exact ⟨rfl, rfl⟩

/-- A bridge that runs until it is idle is a bridge that takes a number of steps, one after the other: so what holds after every run of
operations holds after the loop as well. -/
theorem exists_performAll_eq_run (p : ControlPlane) :
    ∃ n, forwarded (performAll perform p (List.replicate n (.bridge []))).1 = (p.bridge.run p.composer).1 ∧
      p.after (List.replicate n (.bridge [])) =
        { p with bridge := (p.bridge.run p.composer).2 }.withResolver
          (p.router.resolver.applyAll .configuration (p.bridge.run p.composer).1) := by
  refine Bridge.run_invariant (P := fun sent b => ∃ n, forwarded (performAll perform p (List.replicate n (.bridge []))).1 = sent ∧
    p.after (List.replicate n (.bridge [])) =
      { p with bridge := b }.withResolver (p.router.resolver.applyAll .configuration sent)) ⟨0, rfl, rfl⟩ ?_
  rintro sent b ⟨n, hsent, hafter⟩
  have happly : p.router.resolver.applyAll .configuration (sent ++ (b.step p.composer).1) =
      (p.router.resolver.applyAll .configuration sent).applyAll .configuration (b.step p.composer).1 := List.foldl_append
  rw [after] at hafter
  refine ⟨n + 1, ?_, ?_⟩
  · rw [List.replicate_succ', performAll_append, forwarded, List.flatMap_append, hafter]
    exact congrArg₂ (· ++ ·) hsent (List.append_nil _)
  · rw [List.replicate_succ', after, performAll_append, hafter, happly]
    rfl

/-- The bridge accounts for what it publishes in a run. -/
theorem accounts_performAll {p : ControlPlane} {sent : List DomainEvent} (h : p.bridge.Accounts sent) (ops : List ControlOp) :
    (performAll perform p ops).2.bridge.Accounts (sent ++ forwarded (performAll perform p ops).1) := by
  induction ops generalizing p sent with
  | nil => simpa [forwarded] using h
  | cons op ops ih =>
    have hstep : (p.perform op).2.bridge.Accounts (sent ++ (p.perform op).1.forwarded) := by
      by_cases hop : ∃ order, op = .bridge order
      · obtain ⟨order, rfl⟩ := hop
        exact h.step p.composer order
      · obtain ⟨hbridge, hnothing⟩ := p.perform_aside (not_exists.1 hop)
        rw [hbridge, hnothing, List.append_nil]
        exact h
    have hrest := ih hstep
    rw [List.append_assoc] at hrest
    exact hrest

/-- Let a bridge be created beside any composer, and anything go on between its steps. Then the tenants that it takes for published
are those that a resolver fed with exactly the events published so far, and nothing else, has registrations of. Every withdrawal of a
tenant is preceded by a put for the tenant, with neither a withdrawal of the tenant nor a clearing in between, and between two
withdrawals of a tenant there is a put for it. -/
theorem run_withdraws_published (c : Composer) (s : LabelSelector) (order : List TenantId) (ops : List ControlOp) :
    let run := performAll perform (joining c s order) ops
    let sent := forwarded run.1
    (∀ t, t ∈ run.2.bridge.published.keys ↔
      ((Resolver.new.applyAll .configuration sent).registration? .configuration t).isSome = true) ∧
    (∀ before t later, sent = before ++ .delete t :: later →
      ∃ earlier registration between, before = earlier ++ .put registration :: between ∧ registration.tenant = t ∧
        .delete t ∉ between ∧ .clear ∉ between) ∧
    ∀ before t between later, sent = before ++ .delete t :: (between ++ .delete t :: later) →
      ∃ registration, .put registration ∈ between ∧ registration.tenant = t := by
  intro run sent
  have hnew : (joining c s order).bridge.Accounts [] := Bridge.accounts_new c order
  have haccounts : run.2.bridge.Accounts sent := accounts_performAll hnew ops
  refine ⟨fun t => ?_, fun before t later hsplit => ?_, fun before t between later hsplit => ?_⟩
  · have hhosts : (Resolver.new.applyAll .configuration sent).hosts? .configuration t = DomainEvent.hostsAfter t sent :=
      (Resolver.sound_new.hosts?_applyAll .configuration sent .configuration t).trans (if_pos rfl)
    have hregistered := congrArg Option.isSome hhosts
    rw [Resolver.hosts?, Option.isSome_map] at hregistered
    rw [Dictionary.mem_keys, ← Option.isSome_iff_exists, haccounts.published t, hregistered]
  · obtain ⟨earlier, registration, between, hbefore, htenant, hbetween⟩ := haccounts.withdraws.exists_put hsplit
    exact ⟨earlier, registration, between, hbefore, htenant, fun hmem => hbetween _ hmem rfl,
      fun hmem => hbetween _ hmem trivial⟩
  · exact haccounts.withdraws.exists_put_between hsplit

/-- A bridge with room for one event misses that a tenant goes, withdraws it when it subscribes anew, publishes it again when it is
back and withdraws it again: each withdrawal follows a put of its own. -/
theorem run_withdraws_published_lagged :
    let a : TenantId := ⟨"a", by decide⟩
    let b : TenantId := ⟨"b", by decide⟩
    let fragment (t : TenantId) (hosts : String) : Fragment := ⟨"f", t, .ofList [(PropertyKey.routingDomains, hosts)]⟩
    let put (t : TenantId) (host : String) : DomainEvent := .put (.ofHosts t [host])
    let ops : List ControlOp := [.bridge, .revoke a "f", .merge (fragment b "b.org"), .merge (fragment b "c.org"), .bridge, .bridge,
      .merge (fragment a "a.org"), .bridge, .revoke a "f", .bridge]
    let run := performAll perform (joining (.after 1 [.merge (fragment a "a.org")]) .default []) ops
    forwarded run.1 = [put a "a.org", .delete a, put b "c.org", put a "a.org", .delete a] ∧
      run.2.bridge.published.keys = [b] ∧
      ((Resolver.new.applyAll .configuration (forwarded run.1)).registration? .configuration b).isSome = true ∧
      (∃ earlier registration between, [put a "a.org"] = earlier ++ .put registration :: between ∧ registration.tenant = a ∧
        .delete a ∉ between ∧ .clear ∉ between) ∧
      ∃ registration, .put registration ∈ [put b "c.org", put a "a.org"] ∧ registration.tenant = a := by
  intro a b fragment put ops run
  have hsent : forwarded run.1 = [put a "a.org", .delete a, put b "c.org", put a "a.org", .delete a] := by decide +kernel
  have hkeys : run.2.bridge.published.keys = [b] := by decide +kernel
  obtain ⟨hpublished, hput, hbetween⟩ :=
    run_withdraws_published (.after 1 [.merge (fragment a "a.org")]) .default [] ops
  exact ⟨hsent, hkeys, (hpublished b).1 (hkeys ▸ List.mem_singleton.2 rfl), hput [put a "a.org"] a _ hsent,
    hbetween [put a "a.org"] a [put b "c.org", put a "a.org"] [] hsent⟩

end ControlPlane

end TenantGateway
