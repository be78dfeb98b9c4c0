import TenantGateway.Proofs.Entries
import TenantGateway.Seed.Items

/-!
# What a replay sends

Sending a list of items stops at the first one whose feed nobody reads (`sendWhile_of_closed`), and sending two lists one after
the other goes on with the second when nothing stopped the first (`sendWhile_append`). So a replay, which sends three lists, each on
feeds of its own, sends the items of a seed as one list (`Seed.items_replay`). Main statement: what it sends are the items before
the first one refused, and the error names the feed of that one (`Seed.replay_sends_up_to_refusal`).
-/

namespace TenantGateway

section

variable {α β : Type} {isOpen : FeedName → Bool} {feedOf : α → FeedName}

/-! ## Sending a list -/

/-- A second list is sent behind the first, unless something of the first is refused. -/
theorem sendWhile_append (isOpen : FeedName → Bool) (feedOf : α → FeedName) (l m : List α) :
    sendWhile isOpen feedOf (l ++ m) =
      match sendWhile isOpen feedOf l with
      | (sent, some closed) => (sent, some closed)
      | (sent, none) => (sent ++ (sendWhile isOpen feedOf m).1, (sendWhile isOpen feedOf m).2) := by
  induction l with
  | nil => rfl
  | cons a l ih =>
    rw [List.cons_append, sendWhile, sendWhile, ih]
    by_cases ha : isOpen (feedOf a) = true
    · rw [if_pos ha, if_pos ha]
      rcases sendWhile isOpen feedOf l with ⟨sent, _ | closed⟩ <;> rfl
    · rw [if_neg ha, if_neg ha]

/-- Sending items in another form sends the same ones. -/
theorem sendWhile_map (isOpen : FeedName → Bool) (feedOf : α → FeedName) (f : β → α) (l : List β) :
    sendWhile isOpen feedOf (l.map f) =
      ((sendWhile isOpen (fun b => feedOf (f b)) l).1.map f, (sendWhile isOpen (fun b => feedOf (f b)) l).2) := by
  induction l with
  | nil => rfl
  | cons b l ih =>
    rw [List.map_cons, sendWhile, sendWhile, ih]
    by_cases hb : isOpen (feedOf (f b)) = true
    · rw [if_pos hb, if_pos hb]
      rfl
    · rw [if_neg hb, if_neg hb]
      rfl

/-- A list is sent as a whole when every feed of its items is read. -/
theorem sendWhile_of_open {l : List α} (h : ∀ a ∈ l, isOpen (feedOf a) = true) : sendWhile isOpen feedOf l = (l, none) := by
  induction l with
  | nil => rfl
  | cons a l ih =>
    obtain ⟨ha, hl⟩ := List.forall_mem_cons.1 h
    rw [sendWhile, if_pos ha, ih hl]

/-- A list is sent up to the first item whose feed is not read. -/
theorem sendWhile_of_closed {before later : List α} {a : α} (hbefore : ∀ b ∈ before, isOpen (feedOf b) = true)
    (ha : isOpen (feedOf a) = false) : sendWhile isOpen feedOf (before ++ a :: later) = (before, some ⟨feedOf a⟩) := by
  have hstop : sendWhile isOpen feedOf (a :: later) = ([], some ⟨feedOf a⟩) := by
    rw [sendWhile, if_neg (by simp [ha])]
  rw [sendWhile_append, sendWhile_of_open hbefore, hstop]
  simp

end

namespace Seed

variable {seed : Seed} {ends : FeedEnds}

/-! ## Replaying a seed -/

/-- The items that have a sender are the resources that are watched, and all registrations and instances. -/
theorem filter_hasSender_items (seed : Seed) (ends : FeedEnds) :
    seed.items.filter ends.hasSender =
      (seed.watchedResources ends).map .resource ++ seed.registrations.map .registration ++ seed.instances.map .listing := by
  have hregistrations : (seed.registrations.map SeedItem.registration).filter ends.hasSender =
      seed.registrations.map .registration := List.filter_eq_self.2 (by simp [FeedEnds.hasSender])
  have hinstances : (seed.instances.map SeedItem.listing).filter ends.hasSender = seed.instances.map .listing :=
    List.filter_eq_self.2 (by simp [FeedEnds.hasSender])
  rw [items, List.filter_append, List.filter_append, hregistrations, hinstances, List.filter_map]
  rfl

/-- A replay sends the items that have a sender as one list. -/
theorem items_replay (seed : Seed) (ends : FeedEnds) :
    ((seed.replay ends).1.items, (seed.replay ends).2) =
      sendWhile ends.isOpen SeedItem.feed (seed.items.filter ends.hasSender) := by
  rw [filter_hasSender_items, sendWhile_append, sendWhile_append, sendWhile_map, sendWhile_map, sendWhile_map]
  unfold replay SeedItem.feed
  dsimp only
  generalize sendWhile ends.isOpen (fun r : SeedResource => FeedName.resources r.kind) (seed.watchedResources ends) = resources
  generalize sendWhile ends.isOpen (fun _ : Registration => FeedName.domains) seed.registrations = registrations
  rcases resources with ⟨resources, _ | closed⟩
  · rcases registrations with ⟨registrations, _ | closed⟩
    · rfl
    · simp [items, empty]
  · simp [items, empty]

/-- Without an item that is refused, all items that have a sender are sent. -/
theorem items_replay_of_open (h : ∀ item ∈ seed.items, ends.refuses item = false) :
    (seed.replay ends).1.items = seed.items.filter ends.hasSender ∧ (seed.replay ends).2 = none := by
  have hall : sendWhile ends.isOpen SeedItem.feed (seed.items.filter ends.hasSender) =
      (seed.items.filter ends.hasSender, none) := by
    refine sendWhile_of_open fun item hitem => ?_
    obtain ⟨hitem, hsender⟩ := List.mem_filter.1 hitem
    simpa [FeedEnds.refuses, hsender] using h item hitem
  exact Prod.mk.inj ((items_replay seed ends).trans hall)

/-- The first item that is refused ends the replay. -/
theorem items_replay_of_refused {before later : List SeedItem} {item : SeedItem} (hitems : seed.items = before ++ item :: later)
    (hbefore : ∀ x ∈ before, ends.refuses x = false) (hitem : ends.refuses item = true) :
    (seed.replay ends).1.items = before.filter ends.hasSender ∧ (seed.replay ends).2 = some ⟨item.feed⟩ := by
  obtain ⟨hsender, hclosed⟩ : ends.hasSender item = true ∧ ends.isOpen item.feed = false := by
    simpa [FeedEnds.refuses] using hitem
  have hstop : sendWhile ends.isOpen SeedItem.feed (seed.items.filter ends.hasSender) =
      (before.filter ends.hasSender, some ⟨item.feed⟩) := by
    rw [hitems, List.filter_append, List.filter_cons_of_pos hsender]
    refine sendWhile_of_closed (fun x hx => ?_) hclosed
    obtain ⟨hx, hsends⟩ := List.mem_filter.1 hx
    simpa [FeedEnds.refuses, hsends] using hbefore x hx
  exact Prod.mk.inj ((items_replay seed ends).trans hstop)

/-- On the feed of a kind, the resources of the kind are the events that add them. -/
theorem filterMap_resourceEvent? (kind : ResourceKind) (resources : List SeedResource) :
    (resources.map SeedItem.resource).filterMap (·.resourceEvent? kind) =
      (resources.filter fun r => r.kind == kind).map fun r => .added r.resource := by
  induction resources with
  | nil => rfl
  | cons r resources ih =>
    rw [List.map_cons, List.filterMap_cons, ih, List.filter_cons]
    by_cases hr : r.kind = kind
    · simp [SeedItem.resourceEvent?, hr]
    · simp [SeedItem.resourceEvent?, hr]

/-- Accepting what was sent queues its items, each on its own feed. -/
theorem queued_accept (g : Gateway) (sent : Seed) : g.Queued (g.accept sent) sent.items := by
  refine ⟨fun kind => ?_, ?_, ?_, rfl⟩
  · have hresources : sent.items.filterMap (·.resourceEvent? kind) =
        (sent.resources.filter fun r => r.kind == kind).map fun r => .added r.resource := by
      rw [items, List.filterMap_append, List.filterMap_append, filterMap_resourceEvent?]
      simp [List.filterMap_map, SeedItem.resourceEvent?]
    rw [hresources]
    cases kind <;> rfl
  · simp [Gateway.accept, items, List.filterMap_map, SeedItem.domainEvent?, Function.comp_def]
  · simp [Gateway.accept, items, List.filterMap_map, SeedItem.discoveryEvent?, Function.comp_def]

/-- Let any feeds be closed, and let any kinds of resources have no sender. When an item of a seed is the first one, in the order
resources, registrations, instances, whose feed has a sender that nobody reads, a replay sends exactly the items before it that have
a sender; each of them is queued once, in the order of the seed and on its own feed, behind what was queued there, and the error
names the feed of the item. When there is no such item, every item that has a sender is sent and queued, and there is no error. So
an error names a feed that an item of the seed goes to. -/
theorem replay_sends_up_to_refusal (seed : Seed) (ends : FeedEnds) (g : Gateway) :
    let sent := (seed.replay ends).1
    let failure := (seed.replay ends).2
    (∀ before item later, seed.items = before ++ item :: later → (∀ x ∈ before, ends.refuses x = false) →
      ends.refuses item = true →
        sent.items = before.filter ends.hasSender ∧ g.Queued (g.accept sent) (before.filter ends.hasSender) ∧
          failure = some ⟨item.feed⟩ ∧ failure.map FeedClosed.message = some item.refusal) ∧
    ((∀ x ∈ seed.items, ends.refuses x = false) →
      sent.items = seed.items.filter ends.hasSender ∧ g.Queued (g.accept sent) (seed.items.filter ends.hasSender) ∧
        failure = none) ∧
    ∀ closed, failure = some closed → ∃ x ∈ seed.items, ends.refuses x = true ∧ x.feed = closed.feed := by
  intro sent failure
  have hqueued : g.Queued (g.accept sent) sent.items := queued_accept g sent
  refine ⟨fun before item later hitems hbefore hitem => ?_, fun hopen => ?_, fun closed hclosed => ?_⟩
  · obtain ⟨hsent, hfailure⟩ := items_replay_of_refused hitems hbefore hitem
    refine ⟨hsent, hsent ▸ hqueued, hfailure, ?_⟩
    rw [show failure = _ from hfailure]
    cases item <;> rfl
  · obtain ⟨hsent, hfailure⟩ := items_replay_of_open hopen
    exact ⟨hsent, hsent ▸ hqueued, hfailure⟩
  · cases hfirst : seed.items.find? ends.refuses with
    | none =>
      have hopen : ∀ x ∈ seed.items, ends.refuses x = false := fun x hx => by simpa using List.find?_eq_none.1 hfirst x hx
      rw [show failure = none from (items_replay_of_open hopen).2] at hclosed
      nomatch hclosed
    | some item =>
      obtain ⟨hitem, before, later, hitems, hbefore⟩ := List.find?_eq_some_iff_append.1 hfirst
      have hstop := (items_replay_of_refused hitems (fun x hx => by simpa using hbefore x hx) hitem).2
      rw [show failure = _ from hstop] at hclosed
      exact ⟨item, List.mem_of_find?_eq_some hfirst, hitem, congrArg FeedClosed.feed (Option.some.inj hclosed)⟩

/-- Secrets are watched and config maps are not. Nobody reads config maps or registrations: the registration is refused, after the
config map was passed over and the secret was queued, and without a registration the same ends refuse nothing. -/
theorem replay_sends_up_to_refusal_unwatched :
    let a : TenantId := ⟨"a", by decide⟩
    let r (uid : String) : Resource := ⟨uid, "r", .empty, .empty⟩
    let i : ServiceInstance := ⟨"i", a, ⟨"d", by decide⟩, "10.0.0.1", 80, false, .empty⟩
    let seed : Seed := ⟨[⟨.configMap, r "u"⟩, ⟨.secret, r "v"⟩], [⟨a, .empty⟩], [i]⟩
    let ends : FeedEnds := ⟨fun kind => kind == .secret, fun feed => feed == .resources .secret || feed == .discovery⟩
    let g := Gateway.start ⟨⟨"127.0.0.1", 3001⟩, none, ⟨none, .text⟩, ⟨"tenant", "kind", "config"⟩, 1, none⟩
    let before : List SeedItem := [.resource ⟨.configMap, r "u"⟩, .resource ⟨.secret, r "v"⟩]
    let listed : Seed := { seed with registrations := [] }
    seed.items = before ++ .registration ⟨a, .empty⟩ :: [.listing i] ∧ (∀ x ∈ before, ends.refuses x = false) ∧
      ends.refuses (.registration ⟨a, .empty⟩) = true ∧ (seed.replay ends).1.items = [.resource ⟨.secret, r "v"⟩] ∧
      (g.accept (seed.replay ends).1).queues.resources .secret = [.added (r "v")] ∧ (seed.replay ends).2 = some ⟨.domains⟩ ∧
      (∀ x ∈ listed.items, ends.refuses x = false) ∧
      (listed.replay ends).1.items = [.resource ⟨.secret, r "v"⟩, .listing i] ∧ (listed.replay ends).2 = none := by
  intro a r i seed ends g before listed
  have hbefore : ∀ x ∈ before, ends.refuses x = false := by decide
  have hopen : ∀ x ∈ listed.items, ends.refuses x = false := by decide
  obtain ⟨hsent, hqueued, hfailure, -⟩ :=
    (replay_sends_up_to_refusal seed ends g).1 before (.registration ⟨a, .empty⟩) [.listing i] rfl hbefore rfl
  obtain ⟨hall, -, hnone⟩ := (replay_sends_up_to_refusal listed ends g).2.1 hopen
  exact ⟨rfl, hbefore, rfl, hsent, hqueued.resources .secret, hfailure, hopen, hall, hnone⟩

end Seed

end TenantGateway
