import TenantGateway.Proofs.Feed.Delivery

/-!
# What a subscriber has ahead

Seen from one key, replaying changes is a matter of the value of that key (`Change.valueAfter`). What a subscriber that has not
lagged has ahead of it, replayed over what it has received, gives the present map; receiving takes the first change off what is
ahead (`Subscription.receive_cases`), and publishing adds to it (`Subscription.Attends.ahead_grow`).
-/

namespace TenantGateway

variable {κ α : Type}

/-! ## The value of one key -/

namespace Change

section

variable [DecidableEq κ]

/-- The value that a change leaves to a key that had a value, or had none. -/
def valueOf (k : κ) (value : Option α) : Change κ α → Option α
  | .put key a => if key = k then some a else value
  | .remove key _ => if key = k then none else value
  | .clear => none

/-- The value that changes in order leave to a key. -/
def valueAfter (k : κ) (value : Option α) (changes : List (Change κ α)) : Option α :=
  changes.foldl (valueOf k) value

/-- Changes replayed after others begin with the value that these leave. -/
theorem valueAfter_append (k : κ) (value : Option α) (changes more : List (Change κ α)) :
    valueAfter k value (changes ++ more) = valueAfter k (valueAfter k value changes) more :=
  List.foldl_append

/-- Puts of entries with distinct keys give a key the value of its entry, and leave it what it had when it has none. -/
theorem valueAfter_puts {l : List (κ × α)} (hl : Entries.Distinct l) (k : κ) (value : Option α) :
    valueAfter k value (l.map fun e => .put e.1 e.2) = (Entries.get? l k).or value := by
  induction l generalizing value with
  | nil => rfl
  | cons e l ih =>
    obtain ⟨hne, hl⟩ := Entries.distinct_cons.1 hl
    refine (ih hl (valueOf k value (.put e.1 e.2))).trans ?_
    rw [valueOf, Entries.get?_cons]
    by_cases he : e.1 = k
    · have hk : Entries.get? l k = none := Entries.get?_eq_none_iff.2 fun x hx => he ▸ hne x hx
      rw [if_pos he, if_pos he, hk]
      rfl
    · rw [if_neg he, if_neg he]

end

variable [TextKey κ] [DecidableEq κ]

/-- What a change does to a map, it does to the value of every key. -/
theorem get?_applyTo (d : Dictionary κ α) (change : Change κ α) (k : κ) :
    (change.applyTo d).get? k = change.valueOf k (d.get? k) := by
  cases change with
  | put key a => exact Dictionary.get?_insert d key a k
  | remove key a => exact Dictionary.get?_erase d key k
  | clear => rfl

/-- What changes do to a map, they do to the value of every key. -/
theorem get?_applyAll (d : Dictionary κ α) (changes : List (Change κ α)) (k : κ) :
    (applyAll d changes).get? k = valueAfter k (d.get? k) changes := by
  induction changes generalizing d with
  | nil => rfl
  | cons change changes ih =>
    refine (ih (change.applyTo d)).trans ?_
    rw [get?_applyTo]
    rfl

end Change

variable [TextKey κ]

/-- What was published since happened to the value of every key. -/
theorem Feed.GrowsBy.get? [DecidableEq κ] {f f' : Feed κ α} {since : List (Change κ α)} (h : f.GrowsBy since f') (k : κ) :
    f'.get? k = Change.valueAfter k (f.get? k) since := by
  rw [Feed.get?, h.entries, Change.get?_applyAll]
  rfl

/-! ## Subscriptions -/

namespace Subscription

/-- The changes that a subscriber has not received yet. -/
def ahead (sub : Subscription κ α) (f : Feed κ α) : List (Change κ α) :=
  sub.snapshot.map (fun e => .put e.1 e.2) ++
    match sub.position with
    | some n => f.published.drop n
    | none => []

/-- A subscriber has not lagged, and its subscription is over only if the feed is closed. -/
structure Attends (sub : Subscription κ α) (f : Feed κ α) : Prop where
  position_le : ∀ n, sub.position = some n → n ≤ f.published.length
  closed : sub.position = none → f.closed = true

variable {f f' : Feed κ α} {sub : Subscription κ α}

/-- Receiving brings the first change ahead, or tells of a lag, or tells that nothing is ahead. -/
theorem receive_cases (h : sub.Attends f) :
    (∃ change sub', sub.receive f = (.event change, sub') ∧ sub.ahead f = change :: sub'.ahead f ∧ sub'.Attends f) ∨
    (∃ missed sub', sub.receive f = (.lagged missed, sub')) ∨
    (sub.receive f = (.pending, sub) ∧ sub.ahead f = [] ∧ f.closed = false) ∨
    ∃ sub', sub.receive f = (.finished, sub') ∧ sub.ahead f = [] ∧ f.closed = true := by
  obtain ⟨snapshot, position⟩ := sub
  cases snapshot with
  | cons e rest => exact Or.inl ⟨.put e.1 e.2, ⟨rest, position⟩, rfl, rfl, h.position_le, h.closed⟩
  | nil =>
    cases position with
    | none => exact Or.inr (Or.inr (Or.inr ⟨⟨[], none⟩, rfl, rfl, h.closed rfl⟩))
    | some n =>
      by_cases hfar : f.slots < f.published.length - n
      · exact Or.inr (Or.inl ⟨_, _, receive_lagged hfar⟩)
      · cases hn : f.published[n]? with
        | some change =>
          have hlt := (List.getElem?_eq_some_iff.1 hn).1
          refine Or.inl ⟨change, ⟨[], some (n + 1)⟩, receive_event hfar hn, ?_, fun m hm => ?_, fun hm => (nomatch hm)⟩
          · obtain ⟨_, rfl⟩ := List.getElem?_eq_some_iff.1 hn
            exact List.drop_eq_getElem_cons hlt
          · obtain rfl : n + 1 = m := Option.some.inj hm
            exact hlt
        | none =>
          have hahead : ahead ⟨[], some n⟩ f = [] := List.drop_eq_nil_of_le (List.getElem?_eq_none_iff.1 hn)
          right
          right
          rw [receive_end hn]
          cases hc : f.closed with
          | true => exact Or.inr ⟨_, rfl, hahead, rfl⟩
          | false => exact Or.inl ⟨rfl, hahead, rfl⟩

/-- Receiving leaves nothing ahead that was not ahead before. -/
theorem ahead_receive_subset (sub : Subscription κ α) (f : Feed κ α) : (sub.receive f).2.ahead f ⊆ sub.ahead f := by
  obtain ⟨snapshot, position⟩ := sub
  cases snapshot with
  | cons e rest => exact List.subset_cons_self _ _
  | nil =>
    cases position with
    | none => exact List.Subset.refl _
    | some n =>
      by_cases hfar : f.slots < f.published.length - n
      · rw [receive_lagged hfar]
        exact List.nil_subset _
      · cases hn : f.published[n]? with
        | some change =>
          rw [receive_event hfar hn]
          exact (List.drop_sublist_drop_left f.published (Nat.le_succ n)).subset
        | none =>
          rw [receive_end hn]
          split
          · exact List.nil_subset _
          · exact List.Subset.refl _

/-- The number of replies that bring something, counted up to the news of a lag and then through a fresh subscription. -/
def due (sub : Subscription κ α) (f : Feed κ α) : Nat :=
  sub.snapshot.length +
    match sub.position with
    | some n => if f.slots < f.published.length - n then f.entries.size + 1 else f.published.length - n
    | none => 0

/-- A change leaves less to receive, the news of a lag comes when a fresh subscription is all that is left, and otherwise nothing is
left. -/
theorem receive_due (sub : Subscription κ α) (f : Feed κ α) :
    (∃ change sub', sub.receive f = (.event change, sub') ∧ sub'.due f < sub.due f) ∨
    (∃ missed sub', sub.receive f = (.lagged missed, sub') ∧ sub.due f = f.entries.size + 1) ∨
    sub.receive f = (.pending, sub) ∨ ∃ sub', sub.receive f = (.finished, sub') := by
  obtain ⟨snapshot, position⟩ := sub
  cases snapshot with
  | cons e rest =>
    refine Or.inl ⟨.put e.1 e.2, ⟨rest, position⟩, rfl, ?_⟩
    simp only [due, List.length_cons]
    omega
  | nil =>
    cases position with
    | none => exact Or.inr (Or.inr (Or.inr ⟨_, rfl⟩))
    | some n =>
      by_cases hfar : f.slots < f.published.length - n
      · exact Or.inr (Or.inl ⟨_, _, receive_lagged hfar, by simp [due, hfar]⟩)
      · cases hn : f.published[n]? with
        | some change =>
          have hlt := (List.getElem?_eq_some_iff.1 hn).1
          have hnear : ¬f.slots < f.published.length - (n + 1) := by omega
          refine Or.inl ⟨change, _, receive_event hfar hn, ?_⟩
          simp only [due, if_neg hfar, if_neg hnear]
          omega
        | none =>
          right
          right
          rw [receive_end hn]
          cases f.closed with
          | true => exact Or.inr ⟨_, rfl⟩
          | false => exact Or.inl rfl

/-! ## Subscribing, and what is published since -/

variable [DecidableEq κ]

/-- A new subscriber has the entries ahead, in any order. -/
theorem attends_observe (f : Feed κ α) (order : List κ) : (f.observe order).Attends f := by
  unfold Feed.observe
  cases hc : f.closed with
  | true => exact ⟨fun n hn => (nomatch hn), fun _ => hc⟩
  | false =>
    refine ⟨fun n hn => ?_, fun hn => (nomatch hn)⟩
    obtain rfl : f.published.length = n := Option.some.inj hn
    exact Nat.le_refl _

/-- A new subscriber has a put for every entry ahead. -/
theorem ahead_observe (f : Feed κ α) (order : List κ) :
    (f.observe order).ahead f = (Entries.arrange order f.entries.entries).map fun e => .put e.1 e.2 := by
  unfold Feed.observe ahead
  cases f.closed with
  | true => exact List.append_nil _
  | false => simp

/-- A new subscriber that has received what is ahead knows the value of every key. -/
theorem valueAfter_ahead_observe (f : Feed κ α) (order : List κ) (k : κ) (value : Option α) :
    Change.valueAfter k value ((f.observe order).ahead f) = (f.get? k).or value := by
  have hperm := Entries.arrange_perm order f.entries.distinct
  rw [ahead_observe, Change.valueAfter_puts (f.entries.distinct.perm hperm), Entries.get?_of_perm f.entries.distinct hperm]
  rfl

/-- What is published is ahead of every subscriber that has not lagged. -/
theorem Attends.ahead_grow (h : sub.Attends f) {since : List (Change κ α)} (hf : f.GrowsBy since f') :
    sub.ahead f' = sub.ahead f ++ since := by
  unfold ahead
  cases hp : sub.position with
  | some n =>
    dsimp only
    rw [hf.published, List.drop_append_of_le_length (h.position_le n hp), List.append_assoc]
  | none => rw [hf.eq_nil (h.closed hp), List.append_nil, List.append_nil]

/-- A subscriber that has not lagged has not lagged when more is published. -/
theorem Attends.grow (h : sub.Attends f) {since : List (Change κ α)} (hf : f.GrowsBy since f') : sub.Attends f' := by
  refine ⟨fun n hn => ?_, fun hn => ?_⟩
  · rw [hf.published, List.length_append]
    exact Nat.le_add_right_of_le (h.position_le n hn)
  · have hc := h.closed hn
    rw [hf.closed hc]
    exact hc

/-! ## Progress -/

/-- A new subscriber has one entry of its snapshot to receive for every key. -/
theorem length_snapshot_observe (f : Feed κ α) (order : List κ) : (f.observe order).snapshot.length = f.entries.size :=
  (Entries.arrange_perm order f.entries.distinct).length_eq

/-- A new subscriber has as much to receive as there are entries. -/
theorem due_observe (f : Feed κ α) (order : List κ) : (f.observe order).due f = f.entries.size := by
  rw [due, length_snapshot_observe]
  unfold Feed.observe
  cases f.closed <;> simp

/-- What a subscriber has to receive, a fresh subscription included, is bounded by what is unread. -/
theorem due_le_unread (sub : Subscription κ α) (f : Feed κ α) (order : List κ) :
    sub.due f ≤ sub.unread f + (f.observe order).unread f := by
  have hsize : f.entries.size ≤ (f.observe order).unread f := by
    rw [unread, length_snapshot_observe]
    exact Nat.le_add_right _ _
  rw [due, unread]
  cases sub.position with
  | none => exact Nat.le_add_right _ _
  | some n =>
    dsimp only
    split <;> omega

end Subscription

end TenantGateway
