import TenantGateway.Domain.Bridge
import TenantGateway.Proofs.Domain.Resolver
import TenantGateway.Proofs.Feed.Backlog

/-!
# The bridge keeps registrations in step with configuration

What the bridge has registered is what it has read of the configurations (`Bridge.Follows`): replaying what its subscription has
ahead over what it has read gives the present configurations (`Bridge.Reading`), and a lag is made up for by forgetting the tenants
that are gone (`Bridge.Takes`). So when nothing is left to read, the registrations are those of the present configurations
(`Follows.hosts?_of_isLast`).
-/

namespace TenantGateway

/-- The hosts to be registered for a tenant by its configuration, if it has one and lists any. -/
def Registration.wanted (t : TenantId) : Option Configuration → Option (KeySet String)
  | none => none
  | some configuration =>
    match configuration.list PropertyKey.routingDomains with
    | [] => none
    | hosts => some (Registration.ofHosts t hosts).normalized.domains

/-- The event of a change of configuration makes the hosts wanted before it those wanted after it. -/
theorem DomainEvent.leaves_ofChange (t : TenantId) (value : Option Configuration) (change : Change TenantId Configuration) :
    (DomainEvent.ofChange change).leaves t (Registration.wanted t value) =
      Registration.wanted t (change.valueOf t value) := by
  cases change with
  | put tenant configuration =>
    have htenant : ∀ t hosts, (Registration.ofHosts t hosts).tenant = t := fun _ _ => rfl
    by_cases ht : tenant = t
    · cases hlist : configuration.list PropertyKey.routingDomains <;>
        simp [ofChange, leaves, Change.valueOf, Registration.wanted, hlist, htenant, ht]
    · cases hlist : configuration.list PropertyKey.routingDomains <;>
        simp [ofChange, leaves, Change.valueOf, hlist, htenant, ht]
  | remove tenant configuration =>
    by_cases ht : tenant = t <;> simp [ofChange, leaves, Change.valueOf, Registration.wanted, ht]
  | clear => rfl

namespace Bridge

/-! ## Publishing -/

/-- The bridge runs, is heard by the resolver, and knows which tenants are registered. -/
structure Serves (b : Bridge) (r : Resolver) : Prop where
  connected : b.connected = true
  running : b.stopped = false
  published : ∀ t, (b.published.get? t).isSome = (r.hosts? .configuration t).isSome

variable {b : Bridge} {r : Resolver}

/-- The tenants that are published after an event are those that it leaves hosts to. -/
theorem isSome_get?_publishedAfter (e : DomainEvent) {t : TenantId} {hosts : Option (KeySet String)}
    (h : (b.published.get? t).isSome = hosts.isSome) :
    ((b.publishedAfter e).get? t).isSome = (e.leaves t hosts).isSome := by
  cases e with
  | put registration =>
    rw [publishedAfter, Dictionary.get?_insert, DomainEvent.leaves]
    by_cases ht : registration.tenant = t <;> simp [ht, h]
  | delete tenant =>
    rw [publishedAfter, Dictionary.get?_erase, DomainEvent.leaves]
    by_cases ht : tenant = t <;> simp [ht, h]
  | clear => rfl

/-- An event that is not to be published changes nothing: it is the withdrawal of a tenant that is not published. -/
theorem leaves_of_not_publishes {e : DomainEvent} (hp : b.publishes e = false) {t : TenantId} {hosts : Option (KeySet String)}
    (h : (b.published.get? t).isSome = hosts.isSome) : e.leaves t hosts = hosts := by
  cases e with
  | put registration => nomatch hp
  | clear => nomatch hp
  | delete tenant =>
    rw [DomainEvent.leaves]
    by_cases ht : tenant = t
    · have hnone : hosts = none := by
        rw [← Option.not_isSome_iff_eq_none, ← h, ← ht]
        simpa [publishes] using hp
      rw [if_pos ht, hnone]
    · rw [if_neg ht]

/-- Forwarding an event, whether it is published or not, does to the registrations what the event says. -/
theorem Serves.forward (h : b.Serves r) (hr : r.Sound) (e : DomainEvent) :
    (b.forward e).2.Serves (r.applyAll .configuration (b.forward e).1) ∧
    ∀ t, (r.applyAll .configuration (b.forward e).1).hosts? .configuration t =
      e.leaves t (r.hosts? .configuration t) := by
  cases hp : b.publishes e with
  | true =>
    have hforward : b.forward e = ([e], { b with published := b.publishedAfter e, stopped := false }) := by
      rw [Bridge.forward, if_pos hp, h.connected]
      rfl
    have hleaves : ∀ t, (r.apply .configuration e).hosts? .configuration t = e.leaves t (r.hosts? .configuration t) :=
      fun t => (hr.hosts?_apply .configuration e .configuration t).trans (if_pos rfl)
    rw [hforward]
    refine ⟨⟨h.connected, rfl, fun t => ?_⟩, hleaves⟩
    exact (isSome_get?_publishedAfter e (h.published t)).trans (congrArg Option.isSome (hleaves t).symm)
  | false =>
    have hforward : b.forward e = ([], b) := if_neg (by simp [hp])
    rw [hforward]
    exact ⟨h, fun t => (leaves_of_not_publishes hp (h.published t)).symm⟩

/-- Forwarding events in order does to the registrations what the events say. -/
theorem Serves.forwardAll (h : b.Serves r) (hr : r.Sound) (events : List DomainEvent) :
    (b.forwardAll events).2.Serves (r.applyAll .configuration (b.forwardAll events).1) ∧
    ∀ t, (r.applyAll .configuration (b.forwardAll events).1).hosts? .configuration t =
      events.foldl (DomainEvent.leaves t) (r.hosts? .configuration t) := by
  induction events generalizing b r with
  | nil => exact ⟨h, fun t => rfl⟩
  | cons e events ih =>
    obtain ⟨hserves, hhosts⟩ := h.forward hr e
    obtain ⟨hserves', hhosts'⟩ := ih hserves (hr.applyAll _ _)
    have hall : b.forwardAll (e :: events) =
        ((b.forward e).1 ++ ((b.forward e).2.forwardAll events).1, ((b.forward e).2.forwardAll events).2) := by
      rw [Bridge.forwardAll, if_neg (by simp [h.running])]
    have happly : ∀ sent more, r.applyAll .configuration (sent ++ more) =
        (r.applyAll .configuration sent).applyAll .configuration more := fun _ _ => List.foldl_append
    rw [hall, happly]
    refine ⟨hserves', fun t => ?_⟩
    rw [hhosts' t, hhosts t]
    rfl

/-! ## Reading -/

variable {c c' : Composer} {known : TenantId → Option Configuration}

/-- Forwarding does not depend on where the bridge stands in the feed. -/
theorem forwardAll_withSubscription (b : Bridge) (subscription : Subscription TenantId Configuration) (events : List DomainEvent) :
    { b with subscription }.forwardAll events =
      ((b.forwardAll events).1, { (b.forwardAll events).2 with subscription }) := by
  induction events generalizing b with
  | nil => rfl
  | cons e events ih =>
    have hforward : { b with subscription }.forward e = ((b.forward e).1, { (b.forward e).2 with subscription }) := by
      have hpublishes : { b with subscription }.publishes e = b.publishes e := by cases e <;> rfl
      have hafter : { b with subscription }.publishedAfter e = b.publishedAfter e := by cases e <;> rfl
      rw [Bridge.forward, Bridge.forward, hpublishes, hafter]
      split <;> rfl
    rw [Bridge.forwardAll, Bridge.forwardAll, hforward]
    dsimp only
    rw [ih (b.forward e).2]
    split <;> rfl

/-- What is ahead of the bridge makes of what it knows of the configurations what they are; when it has ended with the feed, it knows
what they are. -/
def Reading (b : Bridge) (c : Composer) (known : TenantId → Option Configuration) : Prop :=
  (b.stopped = false ∧ b.subscription.Attends c.feed ∧
    ∀ t, Change.valueAfter t (known t) (b.subscription.ahead c.feed) = c.configuration? t) ∨
  (b.stopped = true ∧ c.feed.closed = true ∧ ∀ t, known t = c.configuration? t)

/-- What a step of the bridge means to forward, and what the bridge knows of the configurations after it. -/
inductive Takes (b : Bridge) (c : Composer) (known : TenantId → Option Configuration) :
    List DomainEvent → (TenantId → Option Configuration) → Prop
  /-- The first change ahead is read. -/
  | change {change : Change TenantId Configuration} (hrunning : b.stopped = false)
      (hahead : change ∈ b.subscription.ahead c.feed) :
    Takes b c known [.ofChange change] fun t => change.valueOf t (known t)
  /-- After a lag the tenants that are gone are withdrawn. -/
  | lagged {tenants : List TenantId} (hrunning : b.stopped = false)
      (hgone : ∀ t, t ∈ tenants ↔ (b.published.get? t).isSome = true ∧ c.configuration? t = none) :
    Takes b c known (tenants.map .delete) fun t => if c.configuration? t = none then none else known t
  | nothing : Takes b c known [] known

/-- A bridge that takes anything runs. -/
theorem Takes.running {events : List DomainEvent} {known' : TenantId → Option Configuration} (h : b.Takes c known events known') :
    b.stopped = false ∨ events = [] := by
  cases h with
  | change hrunning => exact Or.inl hrunning
  | lagged hrunning => exact Or.inl hrunning
  | nothing => exact Or.inr rfl

/-- A bridge that is heard and runs goes on to be heard and to run, whatever it forwards. -/
theorem runs_forwardAll (hconnected : b.connected = true) (hrunning : b.stopped = false) (events : List DomainEvent) :
    (b.forwardAll events).2.connected = true ∧ (b.forwardAll events).2.stopped = false := by
  induction events generalizing b with
  | nil => exact ⟨hconnected, hrunning⟩
  | cons e events ih =>
    have hforward : (b.forward e).2.connected = true ∧ (b.forward e).2.stopped = false := by
      rw [Bridge.forward]
      split
      · exact ⟨hconnected, by simp [hconnected]⟩
      · exact ⟨hconnected, hrunning⟩
    rw [Bridge.forwardAll, if_neg (by simp [hrunning])]
    exact ih hforward.1 hforward.2

theorem forwardAll_singleton {b : Bridge} (hrunning : b.stopped = false) (e : DomainEvent) : b.forwardAll [e] = b.forward e := by
  rw [Bridge.forwardAll, if_neg (by simp [hrunning])]
  simp [Bridge.forwardAll]

/-- The tenants to be withdrawn are those that are registered and have no configuration. -/
theorem mem_stale {order : List TenantId} {t : TenantId} :
    t ∈ b.stale c order ↔ (b.published.get? t).isSome = true ∧ c.configuration? t = none := by
  rw [stale, List.mem_filter, Option.isNone_iff_eq_none]
  refine and_congr_left fun _ => ?_
  rw [((Entries.arrange_perm order b.published.distinct).map Prod.fst).mem_iff, Option.isSome_iff_exists]
  exact b.published.mem_keys

/-- A step of a bridge that is heard forwards what it takes, and reads on. -/
theorem Reading.step (h : b.Reading c known) (hconnected : b.connected = true) (order : List TenantId) :
    ∃ events known', b.Takes c known events known' ∧ (b.step c order).1 = (b.forwardAll events).1 ∧
      (b.step c order).2.published = (b.forwardAll events).2.published ∧ (b.step c order).2.connected = true ∧
      (b.step c order).2.Reading c known' := by
  rcases h with ⟨hrunning, hattends, hahead⟩ | hended
  · have hstep : b.step c order = { b with subscription := (b.subscription.receive c.feed).2 }.react c order
        (b.subscription.receive c.feed).1 := by
      rw [Bridge.step, if_neg (by simp [hrunning])]
    have hforwards : ∀ subscription events known', b.Takes c known events known' → subscription.Attends c.feed →
        (∀ t, Change.valueAfter t (known' t) (subscription.ahead c.feed) = c.configuration? t) →
        b.step c order = { b with subscription }.forwardAll events →
        ∃ events known', b.Takes c known events known' ∧ (b.step c order).1 = (b.forwardAll events).1 ∧
          (b.step c order).2.published = (b.forwardAll events).2.published ∧ (b.step c order).2.connected = true ∧
          (b.step c order).2.Reading c known' := by
      intro subscription events known' htakes hattends' hahead' hforwardAll
      obtain ⟨hconnected', hrunning'⟩ := runs_forwardAll hconnected hrunning events
      rw [hforwardAll, forwardAll_withSubscription]
      exact ⟨events, known', htakes, rfl, rfl, hconnected', Or.inl ⟨hrunning', hattends', hahead'⟩⟩
    rcases Subscription.receive_cases hattends with ⟨change, sub, hreceive, hcons, hattends'⟩ | ⟨missed, sub, hreceive⟩ |
      ⟨hreceive, hnil, -⟩ | ⟨sub, hreceive, hnil, hclosed⟩
    · rw [hreceive] at hstep
      refine hforwards sub _ _ (.change hrunning (hcons ▸ List.mem_cons_self)) hattends' (fun t => ?_)
        (hstep.trans (forwardAll_singleton (b := { b with subscription := sub }) hrunning (.ofChange change)).symm)
      rw [← hahead t, hcons]
      rfl
    · rw [hreceive] at hstep
      refine hforwards (c.observe order) _ _ (.lagged hrunning fun t => mem_stale) (Subscription.attends_observe c.feed order)
        (fun t => ?_) hstep
      refine (Subscription.valueAfter_ahead_observe c.feed order t _).trans ?_
      change (c.configuration? t).or _ = c.configuration? t
      cases hconf : c.configuration? t with
      | none => simp
      | some configuration => rfl
    · rw [hstep, hreceive]
      exact ⟨[], known, .nothing, rfl, rfl, hconnected, Or.inl ⟨hrunning, hattends, hahead⟩⟩
    · rw [hstep, hreceive]
      refine ⟨[], known, .nothing, rfl, rfl, hconnected, Or.inr ⟨rfl, hclosed, fun t => ?_⟩⟩
      rw [← hahead t, hnil]
      rfl
  · have hstep : b.step c order = ([], b) := if_pos hended.1
    rw [hstep]
    exact ⟨[], known, .nothing, rfl, rfl, hconnected, Or.inr hended⟩

/-- What becomes of the configurations is ahead of the bridge. -/
theorem Reading.grow (h : b.Reading c known) (hc : c.feed.GrowsTo c'.feed) : b.Reading c' known := by
  obtain ⟨since, hsince⟩ := hc
  rcases h with ⟨hrunning, hattends, hahead⟩ | ⟨hstopped, hclosed, hall⟩
  · refine Or.inl ⟨hrunning, hattends.grow hsince, fun t => ?_⟩
    rw [hattends.ahead_grow hsince, Change.valueAfter_append, hahead t]
    exact (hsince.get? t).symm
  · have hsame : c'.feed = c.feed := hsince.closed hclosed
    refine Or.inr ⟨hstopped, hsame ▸ hclosed, fun t => ?_⟩
    rw [hall t, Composer.configuration?, Composer.configuration?, hsame]

/-- A new bridge has read nothing, and everything is ahead of it. -/
theorem reading_new (c : Composer) (order : List TenantId) : (Bridge.new c order).Reading c fun _ => none := by
  refine Or.inl ⟨rfl, Subscription.attends_observe c.feed order, fun t => ?_⟩
  refine (Subscription.valueAfter_ahead_observe c.feed order t none).trans ?_
  rw [Option.or_none]
  rfl

/-- When nothing is left for the bridge to read, it knows what the configurations are. -/
theorem Reading.eq_of_isLast (h : b.Reading c known)
    (hlast : b.stopped = true ∨ (b.subscription.receive c.feed).1.isLast = true) (t : TenantId) :
    known t = c.configuration? t := by
  rcases h with ⟨hrunning, hattends, hahead⟩ | ⟨-, -, hall⟩
  · have hlast : (b.subscription.receive c.feed).1.isLast = true := hlast.resolve_left (by simp [hrunning])
    have hnil : b.subscription.ahead c.feed = [] := by
      rcases Subscription.receive_cases hattends with ⟨change, sub, hreceive, -⟩ | ⟨missed, sub, hreceive⟩ |
        ⟨-, hnil, -⟩ | ⟨sub, -, hnil, -⟩
      · rw [hreceive] at hlast
        nomatch hlast
      · rw [hreceive] at hlast
        nomatch hlast
      · exact hnil
      · exact hnil
    rw [← hahead t, hnil]
    rfl
  · exact hall t

/-! ## Following the configurations -/

/-- The bridge has registered what it has read of the configurations, and the changes ahead of it make of that what the
configurations are; when it has ended with the feed, it has read everything. -/
structure Follows (b : Bridge) (c : Composer) (r : Resolver) : Prop where
  connected : b.connected = true
  published : ∀ t, (b.published.get? t).isSome = (r.hosts? .configuration t).isSome
  read : ∃ known : TenantId → Option Configuration,
    (∀ t, r.hosts? .configuration t = Registration.wanted t (known t)) ∧
    ((b.stopped = false ∧ b.subscription.Attends c.feed ∧
        ∀ t, Change.valueAfter t (known t) (b.subscription.ahead c.feed) = c.configuration? t) ∨
      (b.stopped = true ∧ c.feed.closed = true ∧ ∀ t, known t = c.configuration? t))

/-- A new bridge follows the configurations beside a resolver without registrations from them. -/
theorem follows_new (c : Composer) (order : List TenantId) (hr : ∀ t, r.hosts? .configuration t = none) :
    (Bridge.new c order).Follows c r := by
  refine ⟨rfl, fun t => ?_, fun _ => none, hr, reading_new c order⟩
  rw [hr t]
  rfl

/-- What becomes of the configurations is ahead of the bridge. -/
theorem Follows.grow (h : b.Follows c r) (hc : c.feed.GrowsTo c'.feed) : b.Follows c' r := by
  obtain ⟨hconnected, hpublished, known, hknown, hread⟩ := h
  exact ⟨hconnected, hpublished, known, hknown, Reading.grow hread hc⟩

/-- What is registered with the other origin does not concern the bridge. -/
theorem Follows.congr {r' : Resolver} (h : b.Follows c r)
    (hr : ∀ t, r'.hosts? .configuration t = r.hosts? .configuration t) : b.Follows c r' := by
  obtain ⟨hconnected, hpublished, known, hknown, hread⟩ := h
  exact ⟨hconnected, fun t => hr t ▸ hpublished t, known, fun t => (hr t).trans (hknown t), hread⟩

/-- Withdrawing tenants leaves them nothing. -/
theorem foldl_leaves_delete (tenants : List TenantId) (t : TenantId) (hosts : Option (KeySet String)) :
    (tenants.map DomainEvent.delete).foldl (DomainEvent.leaves t) hosts = if t ∈ tenants then none else hosts := by
  induction tenants generalizing hosts with
  | nil => rfl
  | cons tenant tenants ih =>
    rw [List.map_cons, List.foldl_cons, ih, DomainEvent.leaves]
    by_cases ht : tenant = t
    · simp [ht]
    · simp [ht, Ne.symm ht]

/-- What a step takes leaves the hosts that are wanted by what is known after it. -/
theorem Takes.hosts {events : List DomainEvent} {known' : TenantId → Option Configuration} (h : b.Takes c known events known')
    {t : TenantId} {hosts : Option (KeySet String)} (hpublished : (b.published.get? t).isSome = hosts.isSome)
    (hknown : hosts = Registration.wanted t (known t)) :
    events.foldl (DomainEvent.leaves t) hosts = Registration.wanted t (known' t) := by
  cases h with
  | change => exact hknown ▸ DomainEvent.leaves_ofChange t (known t) _
  | lagged _ hgone =>
    rw [foldl_leaves_delete]
    dsimp only
    by_cases hnone : c.configuration? t = none
    · rw [if_pos hnone]
      by_cases hstale : (b.published.get? t).isSome = true
      · exact if_pos ((hgone t).2 ⟨hstale, hnone⟩)
      · rw [if_neg fun hmem => hstale ((hgone t).1 hmem).1]
        exact Option.not_isSome_iff_eq_none.1 fun hsome => hstale (hpublished.trans hsome)
    · rw [if_neg fun hmem => hnone ((hgone t).1 hmem).2, if_neg hnone]
      exact hknown
  | nothing => exact hknown

/-- A step of the bridge keeps it in step. -/
theorem Follows.step (h : b.Follows c r) (hr : r.Sound) (order : List TenantId) :
    (b.step c order).2.Follows c (r.applyAll .configuration (b.step c order).1) := by
  obtain ⟨hconnected, hpublished, known, hknown, hread⟩ := h
  obtain ⟨events, known', htakes, hsent, hpublished', hconnected', hread'⟩ := Reading.step hread hconnected order
  have hhosts : ∀ t, events.foldl (DomainEvent.leaves t) (r.hosts? .configuration t) = Registration.wanted t (known' t) :=
    fun t => htakes.hosts (hpublished t) (hknown t)
  have hforward : (∀ t, ((b.forwardAll events).2.published.get? t).isSome =
        ((r.applyAll .configuration (b.forwardAll events).1).hosts? .configuration t).isSome) ∧
      ∀ t, (r.applyAll .configuration (b.forwardAll events).1).hosts? .configuration t =
        events.foldl (DomainEvent.leaves t) (r.hosts? .configuration t) := by
    rcases htakes.running with hrunning | rfl
    · have hserves : b.Serves r := ⟨hconnected, hrunning, hpublished⟩
      obtain ⟨hserves', hleaves⟩ := hserves.forwardAll hr events
      exact ⟨hserves'.published, hleaves⟩
    · exact ⟨hpublished, fun t => rfl⟩
  rw [hsent]
  exact ⟨hconnected', hpublished' ▸ hforward.1, known', fun t => (hforward.2 t).trans (hhosts t), hread'⟩

/-- When nothing is left for the bridge to read, what is registered is what the present configurations want. -/
theorem Follows.hosts?_of_isLast (h : b.Follows c r)
    (hlast : b.stopped = true ∨ (b.subscription.receive c.feed).1.isLast = true) (t : TenantId) :
    r.hosts? .configuration t = Registration.wanted t (c.configuration? t) := by
  obtain ⟨-, -, known, hknown, hread⟩ := h
  rw [hknown t, Reading.eq_of_isLast hread hlast t]

/-- When a step of the bridge would change nothing, what is registered is what the present configurations want. -/
theorem Follows.hosts?_of_isIdle (h : b.Follows c r) (hidle : b.isIdle c = true) (t : TenantId) :
    r.hosts? .configuration t = Registration.wanted t (c.configuration? t) := by
  refine h.hosts?_of_isLast ((Bool.or_eq_true_iff.1 hidle).imp_right fun hpending => ?_) t
  cases hreply : (b.subscription.receive c.feed).1 <;> simp_all [Reply.isLast]

/-! ## Progress -/

/-- Forwarding an event does not move the bridge in the feed. -/
theorem subscription_forward (b : Bridge) (e : DomainEvent) : (b.forward e).2.subscription = b.subscription := by
  unfold Bridge.forward
  split <;> rfl

theorem subscription_forwardAll (b : Bridge) (events : List DomainEvent) :
    (b.forwardAll events).2.subscription = b.subscription := by
  induction events generalizing b with
  | nil => rfl
  | cons e events ih =>
    rw [Bridge.forwardAll]
    split
    · rfl
    · exact (ih _).trans (subscription_forward b e)

/-- An idle bridge takes steps to no effect. -/
theorem step_of_isIdle (h : b.isIdle c = true) (order : List TenantId) : b.step c order = ([], b) := by
  by_cases hstopped : b.stopped = true
  · exact if_pos hstopped
  · rw [Bridge.step, if_neg hstopped]
    rcases Subscription.receive_due b.subscription c.feed with ⟨_, _, hreceive, -⟩ | ⟨_, _, hreceive, -⟩ | hreceive | ⟨_, hreceive⟩
    · simp [isIdle, hreceive, hstopped] at h
    · simp [isIdle, hreceive, hstopped] at h
    · rw [hreceive]
      rfl
    · simp [isIdle, hreceive, hstopped] at h

/-- A bridge that is not idle has less to receive after a step, or is idle then. -/
theorem due_step (b : Bridge) (c : Composer) (order : List TenantId) :
    b.isIdle c = true ∨ (b.step c order).2.isIdle c = true ∨
      (b.step c order).2.subscription.due c.feed < b.subscription.due c.feed := by
  by_cases hstopped : b.stopped = true
  · exact Or.inl (by simp [isIdle, hstopped])
  · rw [Bridge.step, if_neg hstopped]
    rcases Subscription.receive_due b.subscription c.feed with
      ⟨change, sub, hreceive, hless⟩ | ⟨missed, sub, hreceive, hdue⟩ | hreceive | ⟨sub, hreceive⟩
    · rw [hreceive]
      right
      right
      dsimp only
      rw [react, subscription_forward]
      exact hless
    · rw [hreceive]
      right
      right
      dsimp only
      rw [react, subscription_forwardAll, hdue, Composer.observe, Subscription.due_observe]
      exact Nat.lt_succ_self _
    · exact Or.inl (by simp [isIdle, hreceive])
    · rw [hreceive]
      exact Or.inr (Or.inl rfl)

/-! ## Steps until the bridge is idle -/

/-- What holds before the first step and after every further one, given what was forwarded by then, holds after so many steps at most. -/
theorem runUpTo_invariant {P : List DomainEvent → Bridge → Prop}
    (hstep : ∀ sent b, P sent b → P (sent ++ (b.step c).1) (b.step c).2) (n : Nat) {sent : List DomainEvent} (h : P sent b) :
    P (sent ++ (runUpTo n b c).1) (runUpTo n b c).2 := by
  induction n generalizing b sent with
  | zero => exact (List.append_nil sent).symm ▸ h
  | succ n ih =>
    rw [runUpTo]
    split
    · exact (List.append_nil sent).symm ▸ h
    · have hlater := ih (hstep sent b h)
      rw [List.append_assoc] at hlater
      exact hlater

/-- What holds of a bridge that has forwarded nothing, and is kept by its steps, holds when the bridge has run. -/
theorem run_invariant {P : List DomainEvent → Bridge → Prop} (h : P [] b)
    (hstep : ∀ sent b, P sent b → P (sent ++ (b.step c).1) (b.step c).2) : P (b.run c).1 (b.run c).2 :=
  runUpTo_invariant hstep _ h

/-- More steps than there is to receive leave the bridge idle. -/
theorem isIdle_runUpTo {n : Nat} (h : b.isIdle c = true ∨ b.subscription.due c.feed < n) : (runUpTo n b c).2.isIdle c = true := by
  induction n generalizing b with
  | zero => exact h.resolve_right (Nat.not_lt_zero _)
  | succ n ih =>
    rw [runUpTo]
    split
    · assumption
    · rename_i hnot
      rcases b.due_step c [] with hidle | hidle | hless
      · exact absurd hidle hnot
      · exact ih (Or.inl hidle)
      · exact ih (Or.inr (Nat.lt_of_lt_of_le hless (Nat.le_of_lt_succ (h.resolve_left hnot))))

/-- A bridge that has run is idle, whatever it had to receive and however far it had fallen behind. -/
theorem isIdle_run (b : Bridge) (c : Composer) : (b.run c).2.isIdle c = true :=
  isIdle_runUpTo (Or.inr (Nat.lt_succ_of_le (Subscription.due_le_unread b.subscription c.feed [])))

/-- A bridge that runs keeps the registrations in step with what it reads. -/
theorem Follows.run (h : b.Follows c r) (hr : r.Sound) : (b.run c).2.Follows c (r.applyAll .configuration (b.run c).1) := by
  refine run_invariant (P := fun sent b => b.Follows c (r.applyAll .configuration sent)) h fun sent b h => ?_
  have hstep := h.step (hr.applyAll .configuration sent) []
  rwa [← show _ = (r.applyAll .configuration sent).applyAll .configuration (b.step c).1 from List.foldl_append] at hstep

/-- When the bridge has run, what is registered is what the present configurations want. -/
theorem Follows.hosts?_run (h : b.Follows c r) (hr : r.Sound) (t : TenantId) :
    (r.applyAll .configuration (b.run c).1).hosts? .configuration t = Registration.wanted t (c.configuration? t) :=
  (h.run hr).hosts?_of_isIdle (isIdle_run b c) t

end Bridge

end TenantGateway
