import TenantGateway.Proofs.ControlPlane.Publishing
import TenantGateway.Proofs.Feed.Closing

/-!
# The bridge after the composer is closed

For every tenant, the last event that the bridge published about it is the one for what the bridge has read of its configuration
(`Bridge.Tells`). A closed composer stays what it is, so the bridge has ever less to receive: it ends with the feed
(`ControlPlane.stopped_after`), and it subscribes anew at most once more, because a fresh subscription to a closed feed is a snapshot
(`ControlPlane.resubscriptions_le_one`).
-/

namespace TenantGateway

namespace DomainEvent

variable {t : TenantId}

/-- Of two events, the one that decides about a tenant: the later one, if it touches the tenant. -/
def supersede (t : TenantId) (last e : DomainEvent) : DomainEvent := if e.Touches t then e else last

/-- The last event of a history that touches a tenant. Without such an event it is as if the tenant had been withdrawn. -/
def latest (t : TenantId) (events : List DomainEvent) : DomainEvent := events.foldl (supersede t) (.delete t)

/-- The last event about a tenant is that of the later events, if they have one. -/
theorem latest_append (t : TenantId) (events more : List DomainEvent) :
    latest t (events ++ more) = more.foldl (supersede t) (latest t events) :=
  List.foldl_append

/-- The last event about a tenant is the newest one, if it is about the tenant. -/
theorem latest_snoc (t : TenantId) (events : List DomainEvent) (e : DomainEvent) :
    latest t (events ++ [e]) = if e.Touches t then e else latest t events :=
  latest_append t events [e]

/-- The last event about a tenant is about it. -/
theorem touches_latest (t : TenantId) (events : List DomainEvent) : (latest t events).Touches t := by
  induction events using List.reverseRecOn with
  | nil => exact rfl
  | append_singleton events e ih =>
    rw [latest_snoc]
    split
    · assumption
    · exact ih

/-- Where the last event that touches a tenant stands. -/
theorem latest_cases (t : TenantId) (events : List DomainEvent) :
    (latest t events = .delete t ∧ ∀ e ∈ events, ¬e.Touches t) ∨
      ∃ before later, events = before ++ latest t events :: later ∧ ∀ e ∈ later, ¬e.Touches t := by
  induction events using List.reverseRecOn with
  | nil => exact Or.inl ⟨rfl, by simp⟩
  | append_singleton events e ih =>
    rw [latest_snoc]
    by_cases he : e.Touches t
    · rw [if_pos he]
      exact Or.inr ⟨events, [], rfl, by simp⟩
    · rw [if_neg he]
      rcases ih with ⟨hdelete, hnone⟩ | ⟨before, later, hsplit, hlater⟩
      · exact Or.inl ⟨hdelete, by simpa [or_imp, forall_and, he] using hnone⟩
      · refine Or.inr ⟨before, later ++ [e], ?_, by simpa [or_imp, forall_and, he] using hlater⟩
        rw [← List.cons_append, ← List.append_assoc, ← hsplit]

/-- A history leaves hosts to a tenant when the last event that touches the tenant is a put. -/
theorem isSome_hostsAfter_iff {events : List DomainEvent} :
    (hostsAfter t events).isSome = true ↔ ∃ registration, latest t events = .put registration := by
  induction events using List.reverseRecOn with
  | nil => simp [hostsAfter, latest]
  | append_singleton events e ih =>
    rw [hostsAfter_snoc, leaves_eq_ite, latest_snoc]
    by_cases he : e.Touches t
    · rw [if_pos he, if_pos he]
      cases e with
      | put registration =>
        have ht : registration.tenant = t := he
        simp [leaves, ht]
      | delete tenant => simp [leaves]
      | clear => simp [leaves]
    · rw [if_neg he, if_neg he]
      exact ih

/-- The event for the configuration that a tenant has, or for its having none. -/
def wanted (t : TenantId) : Option Configuration → DomainEvent
  | some configuration => .ofChange (.put t configuration)
  | none => .delete t

/-- The event for a configuration puts the hosts that it lists, if it lists any. -/
theorem wanted_of_list_ne_nil {configuration : Configuration} (h : configuration.list PropertyKey.routingDomains ≠ []) :
    wanted t (some configuration) = .put (.ofHosts t (configuration.list PropertyKey.routingDomains)) := by
  rw [wanted, ofChange]
  split
  · rename_i hnil
    exact absurd hnil h
  · rfl

/-- Without hosts a withdrawal is wanted. -/
theorem wanted_of_list_eq_nil {value : Option Configuration}
    (h : ∀ configuration, value = some configuration → configuration.list PropertyKey.routingDomains = []) :
    wanted t value = .delete t := by
  cases value with
  | none => rfl
  | some configuration => rw [wanted, ofChange, h configuration rfl]

/-- The event for what a tenant has is a put for it or withdraws it. -/
theorem wanted_cases (t : TenantId) (value : Option Configuration) :
    (∃ registration, wanted t value = .put registration) ∨ wanted t value = .delete t := by
  by_cases h : ∀ configuration, value = some configuration → configuration.list PropertyKey.routingDomains = []
  · exact Or.inr (wanted_of_list_eq_nil h)
  · push Not at h
    obtain ⟨configuration, rfl, hne⟩ := h
    exact Or.inl ⟨_, wanted_of_list_ne_nil hne⟩

/-- The event of a change supersedes the event wanted before it by the one wanted after it. -/
theorem supersede_ofChange (t : TenantId) (value : Option Configuration) {change : Change TenantId Configuration}
    (hclear : change ≠ .clear) : supersede t (wanted t value) (ofChange change) = wanted t (change.valueOf t value) := by
  cases change with
  | put tenant configuration =>
    by_cases ht : tenant = t
    · have htouches : (ofChange (.put tenant configuration)).Touches t := by
        rw [ofChange]
        split <;> exact ht
      rw [supersede, if_pos htouches, Change.valueOf, if_pos ht, ht]
      rfl
    · have haside : ¬(ofChange (.put tenant configuration)).Touches t := by
        rw [ofChange]
        split <;> exact ht
      rw [supersede, if_neg haside, Change.valueOf, if_neg ht]
  | remove tenant configuration =>
    by_cases ht : tenant = t <;> simp [supersede, ofChange, Touches, Change.valueOf, wanted, ht]
  | clear => exact absurd rfl hclear

/-- Withdrawing tenants supersedes what was published of them. -/
theorem foldl_supersede_delete (tenants : List TenantId) (t : TenantId) (last : DomainEvent) :
    (tenants.map delete).foldl (supersede t) last = if t ∈ tenants then .delete t else last := by
  induction tenants generalizing last with
  | nil => rfl
  | cons tenant tenants ih =>
    rw [List.map_cons, List.foldl_cons, ih]
    by_cases ht : tenant = t
    · simp [supersede, Touches, ht]
    · simp [supersede, Touches, ht, Ne.symm ht]

end DomainEvent

namespace Bridge

open DomainEvent (latest supersede wanted)

variable {b : Bridge} {c c' : Composer} {sent events : List DomainEvent} {known known' : TenantId → Option Configuration} {t : TenantId}

/-! ## The last event of every tenant -/

/-- A tenant is published when the last event published about it is a put. -/
theorem Accounts.published_iff (h : b.Accounts sent) (t : TenantId) :
    (b.published.get? t).isSome = true ↔ ∃ registration, latest t sent = .put registration := by
  rw [h.published t]
  exact DomainEvent.isSome_hostsAfter_iff

/-- Forwarding an event, whether it is published or not, makes it the last one of the tenants that it touches. -/
theorem Accounts.latest_forward (h : b.Accounts sent) (e : DomainEvent) (hclear : latest t sent ≠ .clear) :
    latest t (sent ++ (b.forward e).1) = supersede t (latest t sent) e := by
  cases hp : b.publishes e with
  | true =>
    have hforward : (b.forward e).1 = [e] := by rw [Bridge.forward, if_pos hp, h.connected]; rfl
    rw [hforward, DomainEvent.latest_append]
    rfl
  | false =>
    have hforward : (b.forward e).1 = [] := by rw [Bridge.forward, if_neg (by simp [hp])]
    rw [hforward, List.append_nil, supersede]
    split
    · rename_i htouches
      cases e with
      | put registration => simp [publishes] at hp
      | clear => simp [publishes] at hp
      | delete tenant =>
        obtain rfl : tenant = t := htouches
        have hgone : ¬∃ registration, latest tenant sent = .put registration := by
          rw [← h.published_iff tenant]
          simpa [publishes] using hp
        have htouched := DomainEvent.touches_latest tenant sent
        cases hlatest : latest tenant sent with
        | put registration => exact absurd ⟨registration, hlatest⟩ hgone
        | delete other =>
          rw [hlatest] at htouched
          exact congrArg _ htouched
        | clear => exact absurd hlatest hclear
    · rfl

/-- Forwarding events makes the last of them that touches a tenant the last one of the tenant. -/
theorem Accounts.latest_forwardAll (h : b.Accounts sent) (hrunning : b.stopped = false) (hevents : .clear ∉ events)
    (hclear : latest t sent ≠ .clear) :
    latest t (sent ++ (b.forwardAll events).1) = events.foldl (supersede t) (latest t sent) := by
  induction events generalizing b sent with
  | nil => simp [Bridge.forwardAll]
  | cons e events ih =>
    have he : e ≠ .clear := fun he => hevents (he ▸ List.mem_cons_self)
    have hfirst := h.latest_forward e hclear
    have hclear' : latest t (sent ++ (b.forward e).1) ≠ .clear := by
      rw [hfirst, supersede]
      split
      · exact he
      · exact hclear
    have hrunning' := (runs_forwardAll h.connected hrunning [e]).2
    rw [forwardAll_singleton hrunning] at hrunning'
    rw [Bridge.forwardAll, if_neg (by simp [hrunning]), List.foldl_cons, ← hfirst]
    dsimp only
    rw [← List.append_assoc]
    exact ih (h.forward e) hrunning' (fun hmem => hevents (List.mem_cons_of_mem e hmem)) hclear'

/-- What a step takes makes the last event of a tenant the one that is wanted by what is known after it. -/
theorem Takes.latest (h : b.Takes c known events known') (hkept : .clear ∉ b.subscription.ahead c.feed) {last : DomainEvent}
    (hpublished : (b.published.get? t).isSome = true ↔ ∃ registration, last = .put registration) (hlast : last = wanted t (known t)) :
    events.foldl (supersede t) last = wanted t (known' t) := by
  cases h with
  | change _ hahead => exact hlast ▸ DomainEvent.supersede_ofChange t (known t) fun he => hkept (he ▸ hahead)
  | lagged _ hgone =>
    rw [DomainEvent.foldl_supersede_delete]
    dsimp only
    by_cases hnone : c.configuration? t = none
    · rw [if_pos hnone]
      by_cases hstale : (b.published.get? t).isSome = true
      · exact if_pos ((hgone t).2 ⟨hstale, hnone⟩)
      · rw [if_neg fun hmem => hstale ((hgone t).1 hmem).1, hlast]
        refine (DomainEvent.wanted_cases t (known t)).resolve_left fun hput => ?_
        exact hstale (hpublished.2 (hlast ▸ hput))
    · rw [if_neg fun hmem => hnone ((hgone t).1 hmem).2, if_neg hnone]
      exact hlast
  | nothing => exact hlast

/-- No event that a step takes clears everything, when no change ahead does. -/
theorem Takes.clear_notMem (h : b.Takes c known events known') (hkept : .clear ∉ b.subscription.ahead c.feed) :
    .clear ∉ events := by
  cases h with
  | @change change _ hahead =>
    rw [List.mem_singleton]
    cases change with
    | put tenant configuration =>
      rw [DomainEvent.ofChange]
      split <;> simp
    | remove tenant configuration => simp [DomainEvent.ofChange]
    | clear => exact absurd hahead hkept
  | lagged => simp
  | nothing => simp

/-- Whether a step of the bridge learns of a lag, and so subscribes anew. -/
def resubscribes (b : Bridge) (c : Composer) : Bool := !b.stopped && (b.subscription.receive c.feed).1.isLag

/-- Where the bridge stands after a step. -/
theorem subscription_step (b : Bridge) (c : Composer) (order : List TenantId) :
    (b.step c order).2.subscription =
      if b.stopped then b.subscription
      else if b.resubscribes c then c.observe order else (b.subscription.receive c.feed).2 := by
  rw [Bridge.step, resubscribes]
  cases b.stopped with
  | true => rfl
  | false =>
    generalize b.subscription.receive c.feed = received
    obtain ⟨reply, subscription⟩ := received
    cases reply with
    | event change => exact subscription_forward _ _
    | lagged missed => exact subscription_forwardAll _ _
    | pending => rfl
    | finished => rfl

/-- A step leaves ahead what was ahead, or entries. -/
theorem clear_notMem_ahead_step (hkept : .clear ∉ b.subscription.ahead c.feed) (order : List TenantId) :
    .clear ∉ (b.step c order).2.subscription.ahead c.feed := by
  rw [subscription_step]
  split
  · exact hkept
  · split
    · rw [Composer.observe, Subscription.ahead_observe]
      simp
    · exact fun hmem => hkept (Subscription.ahead_receive_subset _ _ hmem)

/-- The bridge accounts for what it publishes, and the last event about each tenant is the one wanted by what the bridge has read. -/
structure Tells (b : Bridge) (c : Composer) (sent : List DomainEvent) : Prop where
  accounts : b.Accounts sent
  read : ∃ known, (∀ t, latest t sent = wanted t (known t)) ∧ b.Reading c known
  /-- Nobody clears the configurations. -/
  kept : .clear ∉ b.subscription.ahead c.feed

theorem tells_new (c : Composer) (order : List TenantId) : (Bridge.new c order).Tells c [] := by
  refine ⟨accounts_new c order, ⟨fun _ => none, fun _ => rfl, reading_new c order⟩, ?_⟩
  have hahead : (Bridge.new c order).subscription.ahead c.feed = _ := Subscription.ahead_observe c.feed order
  rw [hahead]
  simp

/-- What becomes of the configurations is ahead of the bridge. -/
theorem Tells.grow (h : b.Tells c sent) {since : List (Change TenantId Configuration)} (hsince : c.feed.GrowsBy since c'.feed)
    (hclear : .clear ∉ since) : b.Tells c' sent := by
  obtain ⟨known, hknown, hread⟩ := h.read
  refine ⟨h.accounts, ⟨known, hknown, hread.grow ⟨since, hsince⟩⟩, ?_⟩
  rcases hread with ⟨-, hattends, -⟩ | ⟨-, hclosed, -⟩
  · rw [hattends.ahead_grow hsince, List.mem_append, not_or]
    exact ⟨h.kept, hclear⟩
  · rw [hsince.closed hclosed]
    exact h.kept

/-- A step of the bridge tells what it has read. -/
theorem Tells.step (h : b.Tells c sent) (order : List TenantId) : (b.step c order).2.Tells c (sent ++ (b.step c order).1) := by
  obtain ⟨known, hknown, hread⟩ := h.read
  obtain ⟨events, known', htakes, hsent, -, -, hread'⟩ := hread.step h.accounts.connected order
  refine ⟨h.accounts.step c order, ⟨known', fun t => ?_, hread'⟩, clear_notMem_ahead_step h.kept order⟩
  have hclear : latest t sent ≠ .clear := by
    rw [hknown t]
    rcases DomainEvent.wanted_cases t (known t) with ⟨registration, hput⟩ | hdelete
    · exact fun he => nomatch hput.symm.trans he
    · exact fun he => nomatch hdelete.symm.trans he
  have hlatest : latest t (sent ++ (b.forwardAll events).1) = events.foldl (supersede t) (latest t sent) := by
    rcases htakes.running with hrunning | rfl
    · exact h.accounts.latest_forwardAll hrunning (htakes.clear_notMem h.kept) hclear
    · simp [Bridge.forwardAll]
  rw [hsent, hlatest]
  exact htakes.latest h.kept (h.accounts.published_iff t) (hknown t)

/-- A bridge that runs until it is idle tells what it has read. -/
theorem Tells.run (h : b.Tells c sent) : (b.run c).2.Tells c (sent ++ (b.run c).1) := by
  refine run_invariant (P := fun more b => b.Tells c (sent ++ more)) ((List.append_nil sent).symm ▸ h) fun more b h => ?_
  rw [← List.append_assoc]
  exact h.step []

/-! ## Ending -/

/-- Beside a closed composer a bridge that has not ended has something to do. -/
theorem isIdle_of_closed (h : c.feed.closed = true) (b : Bridge) : b.isIdle c = b.stopped := by
  have hreply := Subscription.receive_ne_pending h b.subscription
  rw [isIdle]
  cases b.stopped with
  | true => rfl
  | false =>
    rw [Bool.false_or]
    split
    · exact absurd ‹_› hreply
    · rfl

/-- Beside a closed composer a bridge that runs until it is idle has ended. -/
theorem stopped_run (h : c.feed.closed = true) (b : Bridge) : (b.run c).2.stopped = true := by
  rw [← isIdle_of_closed h]
  exact isIdle_run b c

/-- A bridge whose subscription is over does not subscribe anew. -/
theorem not_resubscribes_of_over (h : b.subscription.position = none) (c : Composer) : b.resubscribes c = false := by
  rw [resubscribes, (Subscription.receive_of_over h c.feed).1, Bool.and_false]

/-- Beside a closed composer a fresh subscription is over from the start, and one that is over stays so. -/
theorem over_step (hclosed : c.feed.closed = true) (h : b.resubscribes c = true ∨ b.subscription.position = none)
    (order : List TenantId) : (b.step c order).2.subscription.position = none := by
  rw [subscription_step]
  rcases h with hlag | hover
  · have hrunning : b.stopped = false := by simpa using (Bool.and_eq_true_iff.1 hlag).1
    rw [if_neg (by simp [hrunning]), if_pos hlag, Composer.observe, Feed.observe, if_pos hclosed]
  · rw [not_resubscribes_of_over hover]
    split
    · exact hover
    · exact (Subscription.receive_of_over hover c.feed).2

end Bridge

/-- Whether an operation is a step of the bridge. -/
def ControlOp.isBridge : ControlOp → Bool
  | .bridge _ => true
  | _ => false

namespace ControlPlane

/-- How often the bridge subscribes anew in a run. -/
def resubscriptions : ControlPlane → List ControlOp → Nat
  | _, [] => 0
  | p, op :: ops => (if op.isBridge && p.bridge.resubscribes p.composer then 1 else 0) + resubscriptions (p.perform op).2 ops

variable {p : ControlPlane} {sent : List DomainEvent}

/-- An operation merges and revokes, or closes the composer. -/
theorem writes_perform (p : ControlPlane) (op : ControlOp) :
    p.composer.Writes (p.perform op).2.composer ∨ (p.perform op).2.composer = p.composer.close := by
  cases op with
  | merge fragment =>
    rw [perform]
    split
    · exact Or.inl (.merge .refl ‹_›)
    · exact Or.inl .refl
  | revoke t id =>
    rw [perform]
    split
    · exact Or.inl (.revoke .refl ‹_›)
    · exact Or.inl .refl
  | closeComposer => exact Or.inr rfl
  | resource kind event order =>
    rw [perform]
    split
    · exact Or.inl (Sync.writes_handle ‹_›)
    · exact Or.inl .refl
  | domain origin event => exact Or.inl .refl
  | discovery event =>
    rw [perform]
    split <;> exact Or.inl .refl
  | bridge order => exact Or.inl .refl
  | resolve host => exact Or.inl .refl
  | route host => exact Or.inl .refl

/-- An operation on a closed composer leaves it as it is. -/
theorem composer_perform_of_closed (h : p.composer.feed.closed = true) (op : ControlOp) : (p.perform op).2.composer = p.composer := by
  rcases p.writes_perform op with hwrites | hclose
  · exact hwrites.eq_of_closed h
  · rw [hclose, Composer.close_of_closed h]

/-- A closed composer stays as it is in every run. -/
theorem composer_after_of_closed (h : p.composer.feed.closed = true) (ops : List ControlOp) : (p.after ops).composer = p.composer := by
  refine performAll_invariant (P := fun q : ControlPlane => q.composer = p.composer) (fun op _ q hq => ?_) rfl
  exact (composer_perform_of_closed (hq ▸ h) op).trans hq

/-- The bridge tells in a run what it has read. -/
theorem tells_performAll (h : p.bridge.Tells p.composer sent) (ops : List ControlOp) :
    (performAll perform p ops).2.bridge.Tells (performAll perform p ops).2.composer
      (sent ++ forwarded (performAll perform p ops).1) := by
  induction ops generalizing p sent with
  | nil => simpa [forwarded] using h
  | cons op ops ih =>
    have hstep : (p.perform op).2.bridge.Tells (p.perform op).2.composer (sent ++ (p.perform op).1.forwarded) := by
      by_cases hop : ∃ order, op = .bridge order
      · obtain ⟨order, rfl⟩ := hop
        exact h.step order
      · obtain ⟨hbridge, hnothing⟩ := p.perform_aside (not_exists.1 hop)
        rw [hbridge, hnothing, List.append_nil]
        rcases p.writes_perform op with hwrites | hclose
        · obtain ⟨since, hsince, hclear⟩ := hwrites.growsBy
          exact h.grow hsince hclear
        · rw [hclose]
          exact h.grow (Feed.growsBy_close p.composer.feed) List.not_mem_nil
    have hrest := ih hstep
    rw [List.append_assoc] at hrest
    exact hrest

/-- Beside a closed composer a step of the bridge either ends it or brings its end nearer. -/
theorem stopped_after (h : p.composer.feed.closed = true) {ops : List ControlOp}
    (hops : p.bridge.stopped = true ∨ p.bridge.subscription.due p.composer.feed < ops.countP ControlOp.isBridge) :
    (p.after ops).bridge.stopped = true := by
  induction ops generalizing p with
  | nil => exact hops.resolve_right (Nat.not_lt_zero _)
  | cons op ops ih =>
    have hcomposer := composer_perform_of_closed h op
    refine ih (p := (p.perform op).2) (hcomposer ▸ h) ?_
    rw [hcomposer]
    by_cases hop : ∃ order, op = .bridge order
    · obtain ⟨order, rfl⟩ := hop
      rw [List.countP_cons_of_pos rfl] at hops
      rcases hops with hstopped | hmore
      · have hstays : (p.bridge.step p.composer order).2 = p.bridge := congrArg Prod.snd (if_pos hstopped)
        exact Or.inl ((congrArg Bridge.stopped hstays).trans hstopped)
      · rcases p.bridge.due_step p.composer order with hidle | hidle | hless
        · have hstays := congrArg Prod.snd (Bridge.step_of_isIdle hidle order)
          rw [Bridge.isIdle_of_closed h] at hidle
          exact Or.inl ((congrArg Bridge.stopped hstays).trans hidle)
        · rw [Bridge.isIdle_of_closed h] at hidle
          exact Or.inl hidle
        · exact Or.inr (Nat.lt_of_lt_of_le hless (Nat.le_of_lt_succ hmore))
    · have haside := (p.perform_aside (not_exists.1 hop)).1
      rw [haside]
      rwa [List.countP_cons_of_neg] at hops
      cases op <;> simp_all [ControlOp.isBridge]

/-- Beside a closed composer the bridge subscribes anew at most once, and not at all when its subscription is over. -/
theorem resubscriptions_le (h : p.composer.feed.closed = true) (ops : List ControlOp) :
    p.resubscriptions ops ≤ if p.bridge.subscription.position = none then 0 else 1 := by
  induction ops generalizing p with
  | nil => exact Nat.zero_le _
  | cons op ops ih =>
    have hcomposer := composer_perform_of_closed h op
    have hrest := ih (p := (p.perform op).2) (hcomposer ▸ h)
    rw [resubscriptions]
    by_cases hop : ∃ order, op = .bridge order
    · obtain ⟨order, rfl⟩ := hop
      have hstep : (p.perform (.bridge order)).2.bridge = (p.bridge.step p.composer order).2 := rfl
      rw [hstep] at hrest
      by_cases hover : p.bridge.subscription.position = none
      · rw [if_pos (Bridge.over_step h (Or.inr hover) order)] at hrest
        simpa [Bridge.not_resubscribes_of_over hover, hover] using hrest
      · cases hlag : p.bridge.resubscribes p.composer with
        | true =>
          rw [if_pos (Bridge.over_step h (Or.inl hlag) order)] at hrest
          simpa [ControlOp.isBridge, hover] using hrest
        | false =>
          rw [if_neg hover]
          split at hrest <;> simp <;> omega
    · have haside := (p.perform_aside (not_exists.1 hop)).1
      have hnone : op.isBridge = false := by cases op <;> simp_all [ControlOp.isBridge]
      rw [haside] at hrest
      simpa [hnone] using hrest

/-- Let a bridge be created beside any composer, let anything go on, and then let the composer be closed, wherever the bridge stands:
with a snapshot or a backlog to receive, behind or not. Whatever goes on then, the bridge subscribes anew at most once more. As soon as
it has taken more steps than there are events that it has not received and tenants with a configuration, it has ended, and the last
event that it ever published about a tenant is the put for the configuration that the tenant had when the composer was closed. If that
configuration lists no hosts, or there was none, the last event about the tenant is a withdrawal, or there never was one. -/
theorem run_ends_after_close (c : Composer) (s : LabelSelector) (order : List TenantId) (ops more : List ControlOp) :
    let p := (joining c s order).after (ops ++ [.closeComposer])
    let sent := forwarded (performAll perform (joining c s order) (ops ++ .closeComposer :: more)).1
    p.resubscriptions more ≤ 1 ∧
    (p.bridge.subscription.unread p.composer.feed + p.composer.tenants.length < more.countP ControlOp.isBridge →
      (p.after more).bridge.stopped = true ∧
      ∀ t,
        (∀ configuration, p.composer.configuration? t = some configuration →
          configuration.list PropertyKey.routingDomains ≠ [] →
          ∃ before later, sent = before ++ .put (.ofHosts t (configuration.list PropertyKey.routingDomains)) :: later ∧
            ∀ e ∈ later, ¬e.Touches t) ∧
        ((∀ configuration, p.composer.configuration? t = some configuration →
          configuration.list PropertyKey.routingDomains = []) →
          (∀ e ∈ sent, ¬e.Touches t) ∨ ∃ before later, sent = before ++ .delete t :: later ∧ ∀ e ∈ later, ¬e.Touches t)) := by
  intro p sent
  have hclosed : p.composer.feed.closed = true := by
    have hlast : p = ((joining c s order).after ops).withComposer ((joining c s order).after ops).composer.close := by
      unfold p after
      rw [performAll_append]
      rfl
    rw [hlast]
    rfl
  refine ⟨?_, fun hmore => ?_⟩
  · refine (resubscriptions_le hclosed more).trans ?_
    split
    · exact Nat.zero_le 1
    · exact Nat.le_refl 1
  have hdue : p.bridge.subscription.due p.composer.feed < more.countP ControlOp.isBridge := by
    refine Nat.lt_of_le_of_lt (Subscription.due_le_unread _ _ []) (Nat.lt_of_le_of_lt (Nat.add_le_add_left ?_ _) hmore)
    rw [Subscription.unread, Subscription.length_snapshot_observe, Feed.observe, if_pos hclosed]
    exact Nat.le_of_eq (List.length_map _).symm
  have hstopped : (p.after more).bridge.stopped = true := stopped_after hclosed (Or.inr hdue)
  refine ⟨hstopped, fun t => ?_⟩
  have hrun : (performAll perform (joining c s order) (ops ++ .closeComposer :: more)).2 = p.after more := by
    rw [List.append_cons, performAll_append]
    rfl
  have hcomposer : (p.after more).composer = p.composer := composer_after_of_closed hclosed more
  have htells := tells_performAll (p := joining c s order) (Bridge.tells_new c order) (ops ++ .closeComposer :: more)
  rw [hrun, hcomposer, List.nil_append] at htells
  obtain ⟨known, hknown, hread⟩ := htells.read
  have hlatest : DomainEvent.latest t sent = .wanted t (p.composer.configuration? t) := by
    rw [← hread.eq_of_isLast (Or.inl hstopped) t]
    exact hknown t
  have hwhere := DomainEvent.latest_cases t sent
  rw [hlatest] at hwhere
  refine ⟨fun configuration hconfiguration hlist => ?_, fun hnone => ?_⟩
  · rw [hconfiguration, DomainEvent.wanted_of_list_ne_nil hlist] at hwhere
    refine hwhere.resolve_left ?_
    rintro ⟨hdelete, -⟩
    cases hdelete
  · rw [DomainEvent.wanted_of_list_eq_nil hnone] at hwhere
    exact hwhere.imp_left And.right

/-- A bridge with room for one event is behind when the composer is closed: two tenants came, one of them lost its hosts, and a third
one, which it had published, is gone. It subscribes anew once, withdraws the third one, publishes the first one and ends. -/
theorem run_ends_after_close_lagged :
    let a : TenantId := ⟨"a", by decide⟩
    let b : TenantId := ⟨"b", by decide⟩
    let d : TenantId := ⟨"d", by decide⟩
    let fragment (t : TenantId) (hosts : String) : Fragment := ⟨"f", t, .ofList [(PropertyKey.routingDomains, hosts)]⟩
    let start := joining (.after 1 [.merge (fragment d "d.org")]) .default []
    let ops : List ControlOp := [.bridge, .revoke d "f", .merge (fragment a "a.org"), .merge (fragment b "b.org"),
      .merge (fragment b ",")]
    let more : List ControlOp := [.bridge, .merge (fragment d "d.org"), .bridge [b], .bridge, .bridge, .bridge, .bridge, .bridge, .bridge]
    let p := start.after (ops ++ [.closeComposer])
    let sent : List DomainEvent := [.put (.ofHosts d ["d.org"]), .delete d, .put (.ofHosts a ["a.org"])]
    forwarded (performAll perform start (ops ++ .closeComposer :: more)).1 = sent ∧
      p.resubscriptions more = 1 ∧
      p.bridge.subscription.unread p.composer.feed + p.composer.tenants.length < more.countP ControlOp.isBridge ∧
      (p.after more).bridge.stopped = true ∧
      (∃ before later, sent = before ++ .put (.ofHosts a ["a.org"]) :: later ∧ ∀ e ∈ later, ¬e.Touches a) ∧
      ((∀ e ∈ sent, ¬e.Touches b) ∨ ∃ before later, sent = before ++ .delete b :: later ∧ ∀ e ∈ later, ¬e.Touches b) ∧
      ((∀ e ∈ sent, ¬e.Touches d) ∨ ∃ before later, sent = before ++ .delete d :: later ∧ ∀ e ∈ later, ¬e.Touches d) := by
  intro a b d fragment start ops more p sent
  have hsent : forwarded (performAll perform start (ops ++ .closeComposer :: more)).1 = sent := by decide +kernel
  have hmore : p.bridge.subscription.unread p.composer.feed + p.composer.tenants.length < more.countP ControlOp.isBridge := by
    decide +kernel
  have ha : p.composer.configuration? a = some ⟨[("f", (fragment a "a.org").properties)]⟩ := by decide +kernel
  have hb : p.composer.configuration? b = some ⟨[("f", (fragment b ",").properties)]⟩ := by decide +kernel
  have hd : p.composer.configuration? d = none := by decide +kernel
  have hlist : (⟨[("f", (fragment a "a.org").properties)]⟩ : Configuration).list PropertyKey.routingDomains = ["a.org"] := by decide
  have hblank : (⟨[("f", (fragment b ",").properties)]⟩ : Configuration).list PropertyKey.routingDomains = [] := by decide
  have hends := (run_ends_after_close (.after 1 [.merge (fragment d "d.org")]) .default [] ops more).2
  obtain ⟨hstopped, hlast⟩ := hends hmore
  have hputa := (hlast a).1 _ ha (by rw [hlist]; exact List.cons_ne_nil _ _)
  have hgoneb := (hlast b).2 fun configuration hconfiguration => by
    obtain rfl := Option.some.inj (hb.symm.trans hconfiguration)
    exact hblank
  have hgoned := (hlast d).2 fun configuration hconfiguration => nomatch hd.symm.trans hconfiguration
  rw [hsent] at hputa hgoneb hgoned
  rw [hlist] at hputa
  refine ⟨hsent, by decide +kernel, hmore, ?_, hputa, hgoneb, hgoned⟩
  dsimp only [p, start]
  exact hstopped

end ControlPlane

end TenantGateway
