import Mathlib.Algebra.Group.Nat.Defs
import TenantGateway.Proofs.Dictionary
import TenantGateway.Proofs.Feed.Growth

/-!
# What a subscriber receives

A subscriber has to receive its stream: the entries held when it subscribed and then everything published since. What it is told
next depends on the stream, on how much of it was received and on whether a lag was told (`Feed.nextReply`), so replies are a
prefix of the stream, except that they may break off with one lag (`Subscription.Follows`). Main statement:
`FeedSession.run_delivers_stream`.
-/

namespace TenantGateway

variable {κ α : Type}

/-! ## Replies and the stream -/

namespace Reply

/-- The changes among replies, in order. -/
def events (replies : List (Reply κ α)) : List (Change κ α) :=
  replies.filterMap fun
    | .event change => some change
    | _ => none

/-- Whether a reply tells of a lag. -/
def isLag : Reply κ α → Bool
  | .lagged _ => true
  | _ => false

/-- The events of replies one after the other are those of the first and those of the others. -/
theorem events_append (replies more : List (Reply κ α)) : events (replies ++ more) = events replies ++ events more :=
  List.filterMap_append

/-- A lag tells how many changes were missed. -/
theorem isLag_iff {reply : Reply κ α} : reply.isLag = true ↔ ∃ missed, reply = .lagged missed := by
  cases reply <;> simp [isLag]

end Reply

namespace Feed

variable [TextKey κ]

/-- There are so many slots as the least power of two that is not below the capacity, nor below one. -/
theorem slots_isLeast (f : Feed κ α) :
    (∃ e, f.slots = 2 ^ e) ∧ max f.capacity 1 ≤ f.slots ∧ ∀ e, max f.capacity 1 ≤ 2 ^ e → f.slots ≤ 2 ^ e := by
  have hpos : 1 ≤ max f.capacity 1 := Nat.le_max_right _ _
  have hslots : f.slots = 2 ^ Nat.log2 (2 * max f.capacity 1 - 1) := rfl
  rw [hslots]
  refine ⟨⟨_, rfl⟩, ?_, fun e he => ?_⟩
  · have hlt : 2 * max f.capacity 1 - 1 < 2 ^ (Nat.log2 (2 * max f.capacity 1 - 1) + 1) := Nat.lt_log2_self
    rw [Nat.pow_succ] at hlt
    omega
  · have hle : 2 ^ Nat.log2 (2 * max f.capacity 1 - 1) ≤ 2 * max f.capacity 1 - 1 := Nat.log2_self_le (by omega)
    have hlt : 2 ^ Nat.log2 (2 * max f.capacity 1 - 1) < 2 ^ (e + 1) := by
      rw [Nat.pow_succ]
      omega
    exact Nat.pow_le_pow_right (by omega) (Nat.le_of_lt_succ ((Nat.pow_lt_pow_iff_right (by omega)).1 hlt))

/-- Everything to be received by a subscriber who began with a snapshot when so many changes were published. -/
def stream (f : Feed κ α) (snapshot : List (κ × α)) (base : Nat) : List (Change κ α) :=
  snapshot.map (fun e => .put e.1 e.2) ++ f.published.drop base

/-- What such a subscriber is told next who has received so many changes and was told of a lag, or was not. -/
def nextReply (f : Feed κ α) (snapshot : List (κ × α)) (base got : Nat) (lag : Bool) : Reply κ α :=
  match lag, (f.stream snapshot base)[got]? with
  | true, _ => .finished
  | false, none => if f.closed then .finished else .pending
  | false, some change =>
    if got < snapshot.length ∨ (f.stream snapshot base).length - got ≤ f.slots then .event change
    else .lagged ((f.stream snapshot base).length - got - f.slots)

variable {f f' : Feed κ α} {snapshot : List (κ × α)} {base got : Nat}

/-- A stream has the entries of the snapshot and what was published since. -/
theorem length_stream : (f.stream snapshot base).length = snapshot.length + (f.published.length - base) := by
  rw [stream, List.length_append, List.length_map, List.length_drop]

/-- The snapshot comes first. -/
theorem stream_getElem?_of_lt (h : got < snapshot.length) :
    (f.stream snapshot base)[got]? = some (.put snapshot[got].1 snapshot[got].2) := by
  rw [stream, List.getElem?_append_left (by simpa using h), List.getElem?_map, List.getElem?_eq_getElem h]
  rfl

/-- What was published since comes after the snapshot. -/
theorem stream_getElem?_of_le (h : snapshot.length ≤ got) :
    (f.stream snapshot base)[got]? = f.published[base + (got - snapshot.length)]? := by
  rw [stream, List.getElem?_append_right (by simpa using h), List.getElem?_drop, List.length_map]

/-- A stream goes on with what is published. -/
theorem GrowsBy.stream [DecidableEq κ] {since : List (Change κ α)} (h : f.GrowsBy since f') (hb : base ≤ f.published.length) :
    f'.stream snapshot base = f.stream snapshot base ++ since := by
  rw [Feed.stream, Feed.stream, h.published, List.drop_append_of_le_length hb, List.append_assoc]

/-- The next change is told while it stands in the snapshot or has not dropped out of the slots. -/
theorem nextReply_event {change : Change κ α} (hnext : (f.stream snapshot base)[got]? = some change)
    (hnear : got < snapshot.length ∨ (f.stream snapshot base).length - got ≤ f.slots) :
    f.nextReply snapshot base got false = .event change := by
  unfold nextReply
  rw [hnext]
  exact if_pos hnear

/-- A subscriber that is too far behind is told how many changes it has missed. -/
theorem nextReply_lagged {change : Change κ α} (hnext : (f.stream snapshot base)[got]? = some change)
    (hfar : ¬(got < snapshot.length ∨ (f.stream snapshot base).length - got ≤ f.slots)) :
    f.nextReply snapshot base got false = .lagged ((f.stream snapshot base).length - got - f.slots) := by
  unfold nextReply
  rw [hnext]
  exact if_neg hfar

/-- A subscriber that has received everything waits, or is at the end. -/
theorem nextReply_none (hnext : (f.stream snapshot base)[got]? = none) :
    f.nextReply snapshot base got false = if f.closed then .finished else .pending := by
  unfold nextReply
  rw [hnext]

/-- When a subscriber is told what. -/
theorem nextReply_iff (f : Feed κ α) (snapshot : List (κ × α)) (base : Nat) {got : Nat} (lag : Bool) {undelivered : Nat}
    (hn : got + undelivered = (f.stream snapshot base).length) :
    let reply := f.nextReply snapshot base got lag
    (∀ change, reply = .event change ↔ lag = false ∧ (f.stream snapshot base)[got]? = some change ∧
      (got < snapshot.length ∨ undelivered ≤ f.slots)) ∧
    (∀ missed, reply = .lagged missed ↔
      lag = false ∧ snapshot.length ≤ got ∧ f.slots < undelivered ∧ missed = undelivered - f.slots) ∧
    (reply = .pending ↔ lag = false ∧ undelivered = 0 ∧ f.closed = false) ∧
    (reply = .finished ↔ lag = true ∨ undelivered = 0 ∧ f.closed = true) := by
  have hund : (f.stream snapshot base).length - got = undelivered := by omega
  cases lag with
  | true => simp [nextReply]
  | false =>
    cases hnext : (f.stream snapshot base)[got]? with
    | none =>
      obtain rfl : undelivered = 0 := by
        have := List.getElem?_eq_none_iff.1 hnext
        omega
      rw [nextReply_none hnext]
      cases f.closed <;> simp
    | some change =>
      have hpos : undelivered ≠ 0 := by
        have := (List.getElem?_eq_some_iff.1 hnext).1
        omega
      by_cases hnear : got < snapshot.length ∨ undelivered ≤ f.slots
      · have hno : ¬(snapshot.length ≤ got ∧ f.slots < undelivered) := by omega
        rw [nextReply_event hnext (hund.symm ▸ hnear)]
        refine ⟨fun change' => ?_, fun missed => ?_, ?_, ?_⟩
        · simp [hnear]
        · simp only [reduceCtorEq, true_and, false_iff]
          exact fun h => hno ⟨h.1, h.2.1⟩
        · simp [hpos]
        · simp [hpos]
      · have hlag : snapshot.length ≤ got ∧ f.slots < undelivered := by omega
        rw [nextReply_lagged hnext (hund.symm ▸ hnear), hund]
        refine ⟨fun change' => ?_, fun missed => ?_, ?_, ?_⟩
        · simp [hnear]
        · simp [hlag, eq_comm]
        · simp [hpos]
        · simp [hpos]

end Feed

/-! ## Where a subscriber stands -/

namespace Subscription

variable [TextKey κ]

/-- Where a subscriber stands that began with a snapshot when so many changes were published, has received so many changes, and
was told of a lag or was not. -/
inductive Stands (snapshot : List (κ × α)) (base : Nat) (f : Feed κ α) (got : Nat) : Bool → Subscription κ α → Prop
  | reading : Stands snapshot base f got false ⟨snapshot.drop got, some (base + (got - snapshot.length))⟩
  /-- Nothing will be published any more, and everything published was received. -/
  | ended (hclosed : f.closed = true) (hall : f.published.length = base + (got - snapshot.length)) :
    Stands snapshot base f got false ⟨snapshot.drop got, none⟩
  | lagged : Stands snapshot base f got true ⟨[], none⟩

variable {f f' : Feed κ α} {snapshot : List (κ × α)} {base got : Nat} {lag : Bool} {sub : Subscription κ α}

/-- A subscriber that has entries of the snapshot left receives the next of them. -/
theorem receive_snapshot (h : got < snapshot.length) (position : Option Nat) :
    receive ⟨snapshot.drop got, position⟩ f =
      (.event (.put snapshot[got].1 snapshot[got].2), ⟨snapshot.drop (got + 1), position⟩) := by
  rw [List.drop_eq_getElem_cons h]
  rfl

/-- A subscriber that is near enough receives the change at its position. -/
theorem receive_event {p : Nat} {change : Change κ α} (hnear : ¬f.slots < f.published.length - p)
    (hp : f.published[p]? = some change) : receive ⟨[], some p⟩ f = (.event change, ⟨[], some (p + 1)⟩) := by
  refine (if_neg hnear).trans ?_
  rw [hp]

/-- A subscriber that is too far behind loses its position. -/
theorem receive_lagged {p : Nat} (hfar : f.slots < f.published.length - p) :
    receive ⟨[], some p⟩ f = (.lagged (f.published.length - p - f.slots), ⟨[], none⟩) :=
  if_pos hfar

/-- A subscriber at the end of what was published waits, or is at the end of the feed. -/
theorem receive_end {p : Nat} (hp : f.published[p]? = none) :
    receive ⟨[], some p⟩ f = if f.closed then (.finished, ⟨[], none⟩) else (.pending, ⟨[], some p⟩) := by
  have hnear : ¬f.slots < f.published.length - p := by
    have := List.getElem?_eq_none_iff.1 hp
    omega
  refine (if_neg hnear).trans ?_
  rw [hp]

/-- A subscriber that has received the snapshot is told what is next, and stands behind it then. -/
theorem stands_receive_of_le (hle : snapshot.length ≤ got) (hb : base ≤ f.published.length)
    (hgot : got ≤ (f.stream snapshot base).length) :
    let reply := f.nextReply snapshot base got false
    let sub : Subscription κ α := ⟨[], some (base + (got - snapshot.length))⟩
    (sub.receive f).1 = reply ∧
      Stands snapshot base f (got + (Reply.events [reply]).length) reply.isLag (sub.receive f).2 := by
  intro reply sub
  obtain ⟨p, hp⟩ : ∃ p, p = base + (got - snapshot.length) := ⟨_, rfl⟩
  have hsub : sub = ⟨[], some p⟩ := by rw [hp]
  have hnext : (f.stream snapshot base)[got]? = f.published[p]? := hp ▸ Feed.stream_getElem?_of_le hle
  have hund : (f.stream snapshot base).length - got = f.published.length - p := by
    rw [Feed.length_stream]
    omega
  rw [Feed.length_stream] at hgot
  cases hpub : f.published[p]? with
  | some change =>
    by_cases hfar : f.slots < f.published.length - p
    · have hreply : reply = .lagged (f.published.length - p - f.slots) :=
        hund ▸ Feed.nextReply_lagged (hnext.trans hpub) (by omega)
      rw [hreply, hsub, receive_lagged hfar]
      exact ⟨rfl, .lagged⟩
    · have hreply : reply = .event change := Feed.nextReply_event (hnext.trans hpub) (by omega)
      have hdrop : [] = snapshot.drop (got + 1) := (List.drop_eq_nil_of_le (by omega)).symm
      have hstep : p + 1 = base + (got + 1 - snapshot.length) := by omega
      rw [hreply, hsub, receive_event hfar hpub, hdrop, hstep]
      exact ⟨rfl, .reading⟩
  | none =>
    have hreply : reply = if f.closed then .finished else .pending := Feed.nextReply_none (hnext.trans hpub)
    have hall := List.getElem?_eq_none_iff.1 hpub
    have hdrop : snapshot.drop got = [] := List.drop_eq_nil_of_le hle
    have hreading : Stands snapshot base f got false ⟨snapshot.drop got, some (base + (got - snapshot.length))⟩ := .reading
    rw [hdrop, ← hp] at hreading
    rw [hreply, hsub, receive_end hpub]
    cases hc : f.closed with
    | true =>
      have hover : Stands snapshot base f got false ⟨snapshot.drop got, none⟩ := .ended hc (by omega)
      rw [hdrop] at hover
      exact ⟨rfl, hover⟩
    | false => exact ⟨rfl, hreading⟩

/-- A subscriber is told what is next, and stands behind it then. -/
theorem Stands.receive (h : Stands snapshot base f got lag sub) (hb : base ≤ f.published.length)
    (hgot : got ≤ (f.stream snapshot base).length) :
    let reply := f.nextReply snapshot base got lag
    (sub.receive f).1 = reply ∧
      Stands snapshot base f (got + (Reply.events [reply]).length) (lag || reply.isLag) (sub.receive f).2 := by
  intro reply
  by_cases hlt : got < snapshot.length
  · have hreply : f.nextReply snapshot base got false = .event (.put snapshot[got].1 snapshot[got].2) :=
      Feed.nextReply_event (Feed.stream_getElem?_of_lt hlt) (Or.inl hlt)
    have hsub : got - snapshot.length = got + 1 - snapshot.length := by omega
    cases h with
    | lagged => exact ⟨rfl, .lagged⟩
    | reading =>
      rw [receive_snapshot hlt, show reply = _ from hreply, hsub]
      exact ⟨rfl, .reading⟩
    | ended hclosed hall =>
      rw [receive_snapshot hlt, show reply = _ from hreply]
      exact ⟨rfl, .ended hclosed (hsub ▸ hall)⟩
  · have hle : snapshot.length ≤ got := by omega
    have hdrop : snapshot.drop got = [] := List.drop_eq_nil_of_le hle
    cases h with
    | lagged => exact ⟨rfl, .lagged⟩
    | reading =>
      rw [hdrop]
      exact stands_receive_of_le hle hb hgot
    | ended hclosed hall =>
      have hnone : (f.stream snapshot base)[got]? = none := by
        rw [Feed.stream_getElem?_of_le hle, ← hall, List.getElem?_eq_none (Nat.le_refl _)]
      have hreply : reply = .finished := (Feed.nextReply_none hnone).trans (if_pos hclosed)
      have hover : Stands snapshot base f got false ⟨snapshot.drop got, none⟩ := .ended hclosed hall
      rw [hdrop] at hover ⊢
      rw [hreply]
      exact ⟨rfl, hover⟩

/-- A new subscriber stands at the beginning. -/
theorem stands_observe (f : Feed κ α) (snapshot : List (κ × α)) :
    Stands snapshot f.published.length f 0 false ⟨snapshot, if f.closed then none else some f.published.length⟩ := by
  cases hc : f.closed with
  | true => exact .ended hc (by omega)
  | false =>
    have hreading : Stands snapshot f.published.length f 0 false ⟨snapshot, some (f.published.length + (0 - snapshot.length))⟩ :=
      .reading
    rw [Nat.zero_sub] at hreading
    exact hreading

/-- What is published does not move a subscriber. -/
theorem Stands.grow [DecidableEq κ] (h : Stands snapshot base f got lag sub) {since : List (Change κ α)} (hf : f.GrowsBy since f') :
    Stands snapshot base f' got lag sub := by
  cases h with
  | reading => exact .reading
  | lagged => exact .lagged
  | ended hclosed hall =>
    rw [hf.closed hclosed]
    exact .ended hclosed hall

/-- A subscriber was told what it was, and stands where it stands, since it began with a snapshot when so many changes were
published. -/
structure Follows (snapshot : List (κ × α)) (base : Nat) (f : Feed κ α) (told : List (Reply κ α)) (sub : Subscription κ α) :
    Prop where
  base_le : base ≤ f.published.length
  /-- The changes received are the first ones of the stream. -/
  received : Reply.events told = (f.stream snapshot base).take (Reply.events told).length
  /-- A lag is the last news. -/
  settled : told.Pairwise fun earlier later => earlier.isLag = true → later = .finished
  stands : Stands snapshot base f (Reply.events told).length (told.any Reply.isLag) sub

variable {told : List (Reply κ α)}

/-- A new subscriber was told nothing. -/
theorem follows_observe (f : Feed κ α) (snapshot : List (κ × α)) :
    Follows snapshot f.published.length f [] ⟨snapshot, if f.closed then none else some f.published.length⟩ :=
  ⟨Nat.le_refl _, rfl, .nil, stands_observe f snapshot⟩

/-- No more was received than there is. -/
theorem Follows.received_le (h : Follows snapshot base f told sub) :
    (Reply.events told).length ≤ (f.stream snapshot base).length := by
  have hlen := congrArg List.length h.received
  rw [List.length_take] at hlen
  omega

/-- What is published does not change what was received. -/
theorem Follows.grow [DecidableEq κ] (h : Follows snapshot base f told sub) {since : List (Change κ α)} (hf : f.GrowsBy since f') :
    Follows snapshot base f' told sub := by
  refine ⟨?_, ?_, h.settled, h.stands.grow hf⟩
  · rw [hf.published, List.length_append]
    exact Nat.le_add_right_of_le h.base_le
  · rw [hf.stream h.base_le, List.take_append_of_le_length h.received_le]
    exact h.received

/-- Receiving tells what is next. -/
theorem Follows.receive (h : Follows snapshot base f told sub) :
    let reply := f.nextReply snapshot base (Reply.events told).length (told.any Reply.isLag)
    (sub.receive f).1 = reply ∧ Follows snapshot base f (told ++ [reply]) (sub.receive f).2 := by
  intro reply
  obtain ⟨hreply, hstands⟩ := h.stands.receive h.base_le h.received_le
  obtain ⟨hevent, -, -, hfinished⟩ := Feed.nextReply_iff f snapshot base (told.any Reply.isLag)
    (Nat.add_sub_cancel' h.received_le)
  refine ⟨hreply, h.base_le, ?_, ?_, ?_⟩
  · rw [Reply.events_append]
    cases hr : reply with
    | event change =>
      have hnext := ((hevent change).1 hr).2.1
      rw [show Reply.events [Reply.event change] = [change] from rfl, List.length_append, List.length_singleton,
        List.take_add_one, hnext, ← h.received]
      rfl
    | lagged missed => simpa [Reply.events] using h.received
    | pending => simpa [Reply.events] using h.received
    | finished => simpa [Reply.events] using h.received
  · refine List.pairwise_append.2 ⟨h.settled, List.pairwise_singleton _ _, fun earlier hearlier later hlater hlag => ?_⟩
    rw [List.mem_singleton.1 hlater]
    exact hfinished.2 (Or.inl (List.any_eq_true.2 ⟨earlier, hearlier, hlag⟩))
  · rw [Reply.events_append, List.length_append, List.any_append, List.any_cons, List.any_nil, Bool.or_false]
    exact hstands

end Subscription

/-! ## Sessions -/

/-- Whether an operation is about a subscriber of another name. -/
def FeedOp.isAside {σ : Type} [DecidableEq σ] (name : σ) : FeedOp σ κ α → Bool
  | .observe n _ => n ≠ name
  | .forget n => n ≠ name
  | .receive n => n ≠ name
  | _ => false

/-- Whether an operation is about the feed and not about a subscriber. -/
def FeedOp.isWrite {σ : Type} : FeedOp σ κ α → Bool
  | .observe _ _ => false
  | .forget _ => false
  | .receive _ => false
  | _ => true

namespace FeedSession

section

variable {σ : Type} [DecidableEq σ] {name : σ}

/-- The replies to a run are those to its first operation and those to the others. -/
theorem repliesTo_cons (op : FeedOp σ κ α) (ops : List (FeedOp σ κ α)) (answer : FeedAnswer κ α)
    (answers : List (FeedAnswer κ α)) :
    repliesTo name (op :: ops) (answer :: answers) = repliesTo name [op] [answer] ++ repliesTo name ops answers := by
  cases op with
  | receive n =>
    cases answer with
    | received reply =>
      simp only [repliesTo]
      split <;> rfl
    | _ => rfl
  | _ => rfl

theorem repliesTo_receive (name : σ) (reply : Reply κ α) :
    repliesTo name [.receive name] [.received reply] = [reply] :=
  if_pos rfl

/-- An operation is a write, is about another subscriber, or is one by which the subscriber begins, ends or receives. -/
theorem cases_op (name : σ) (op : FeedOp σ κ α) : op.isWrite = true ∨ op.isAside name = true ∨ (∃ order, op = .observe name order) ∨
    op = .forget name ∨ op = .receive name := by
  cases op with
  | observe n order => by_cases hn : n = name <;> simp [FeedOp.isAside, hn]
  | forget n => by_cases hn : n = name <;> simp [FeedOp.isAside, hn]
  | receive n => by_cases hn : n = name <;> simp [FeedOp.isAside, hn]
  | _ => exact Or.inl rfl

end

section

variable [TextKey κ] {σ : Type}

/-- A write leaves the subscribers alone. -/
theorem subscribers_afterWrite {β : Type} (s : FeedSession σ κ α) (answer : β → FeedAnswer κ α)
    (result : Except FeedError (β × Feed κ α)) : (s.afterWrite answer result).2.subscribers = s.subscribers := by
  cases result <;> rfl

/-- What a write leaves of the feed does not depend on the subscribers. -/
theorem feed_afterWrite {β : Type} {s t : FeedSession σ κ α} (h : s.feed = t.feed) (answer : β → FeedAnswer κ α)
    (result : Except FeedError (β × Feed κ α)) :
    (s.afterWrite answer result).2.feed = (t.afterWrite answer result).2.feed := by
  cases result with
  | ok r => rfl
  | error e => exact h

end

variable [TextKey κ] [DecidableEq κ] {σ : Type} [DecidableEq σ] {name : σ}

/-- A subscriber receives from the feed. -/
theorem perform_receive {s : FeedSession σ κ α} {sub : Subscription κ α}
    (h : Entries.get? s.subscribers name = some sub) :
    s.perform (.receive name) = (.received (sub.receive s.feed).1,
      { s with subscribers := Entries.put s.subscribers name (sub.receive s.feed).2 }) := by
  rw [perform, h]

/-- What another subscriber does touches neither the feed nor the subscriber. -/
theorem perform_of_isAside (s : FeedSession σ κ α) {op : FeedOp σ κ α} (h : op.isAside name = true) :
    (s.perform op).2.feed = s.feed ∧ Entries.get? (s.perform op).2.subscribers name = Entries.get? s.subscribers name ∧
      repliesTo name [op] [(s.perform op).1] = [] := by
  cases op with
  | observe n order =>
    have hn : n ≠ name := of_decide_eq_true h
    exact ⟨rfl, (Entries.get?_put _ _ _ _).trans (if_neg hn), rfl⟩
  | forget n =>
    have hn : n ≠ name := of_decide_eq_true h
    exact ⟨rfl, (Entries.get?_erase _ _ _).trans (if_neg hn), rfl⟩
  | receive n =>
    have hn : n ≠ name := of_decide_eq_true h
    cases hsub : Entries.get? s.subscribers n with
    | none =>
      rw [perform, hsub]
      exact ⟨rfl, rfl, rfl⟩
    | some sub =>
      rw [perform_receive hsub]
      exact ⟨rfl, (Entries.get?_put _ _ _ _).trans (if_neg hn), if_neg hn⟩
  | _ => exact absurd h Bool.false_ne_true

/-- A write touches no subscriber. -/
theorem perform_of_isWrite (s : FeedSession σ κ α) (name : σ) {op : FeedOp σ κ α} (h : op.isWrite = true) :
    (s.perform op).2.subscribers = s.subscribers ∧ ∀ answer, repliesTo name [op] [answer] = [] := by
  cases op with
  | put k a => exact ⟨subscribers_afterWrite _ _ _, fun _ => rfl⟩
  | remove k => exact ⟨subscribers_afterWrite _ _ _, fun _ => rfl⟩
  | modify k decide => exact ⟨subscribers_afterWrite _ _ _, fun _ => rfl⟩
  | clear => exact ⟨subscribers_afterWrite _ _ _, fun _ => rfl⟩
  | close => exact ⟨rfl, fun _ => rfl⟩
  | _ => nomatch h

/-- A write does the same to the feed whoever subscribes to it. -/
theorem feed_perform_of_isWrite {s t : FeedSession σ κ α} (h : s.feed = t.feed) {op : FeedOp σ κ α}
    (hop : op.isWrite = true) : (s.perform op).2.feed = (t.perform op).2.feed := by
  cases op with
  | put k a =>
    rw [perform, perform, h]
    exact feed_afterWrite h _ _
  | remove k =>
    rw [perform, perform, h]
    exact feed_afterWrite h _ _
  | modify k decide =>
    rw [perform, perform, h]
    exact feed_afterWrite h _ _
  | clear =>
    rw [perform, perform, h]
    exact feed_afterWrite h _ _
  | close => exact congrArg Feed.close h
  | _ => exact absurd hop Bool.false_ne_true

/-! ### Following the feed -/

/-- The subscriber of a name follows the feed since it began with a snapshot when so many changes were published. -/
def Serves (s : FeedSession σ κ α) (name : σ) (snapshot : List (κ × α)) (base : Nat) (told : List (Reply κ α)) : Prop :=
  ∃ sub, Entries.get? s.subscribers name = some sub ∧ sub.Follows snapshot base s.feed told

variable {snapshot : List (κ × α)} {base : Nat} {told : List (Reply κ α)}

/-- A new subscriber follows the feed. -/
theorem serves_observe (s : FeedSession σ κ α) (name : σ) (order : List κ) :
    (s.perform (.observe name order)).2.Serves name (Entries.arrange order s.feed.entries.entries)
      s.feed.published.length [] :=
  ⟨_, (Entries.get?_put _ _ _ _).trans (if_pos rfl), Subscription.follows_observe _ _⟩

/-- What a subscriber that follows the feed is told next. -/
theorem Serves.receive {s : FeedSession σ κ α} (h : s.Serves name snapshot base told) :
    let reply := s.feed.nextReply snapshot base (Reply.events told).length (told.any Reply.isLag)
    (s.perform (.receive name)).1 = .received reply ∧
      (s.perform (.receive name)).2.Serves name snapshot base (told ++ [reply]) := by
  intro reply
  obtain ⟨sub, hsub, hfollows⟩ := h
  obtain ⟨hreply, hnext⟩ := hfollows.receive
  rw [perform_receive hsub]
  exact ⟨congrArg _ hreply, _, (Entries.get?_put _ _ _ _).trans (if_pos rfl), hnext⟩

/-- A subscriber follows the feed through every operation that does not end its subscription. -/
theorem Serves.step {s : FeedSession σ κ α} (h : s.Serves name snapshot base told) {op : FeedOp σ κ α}
    (hop : op.resets name = false) :
    (s.perform op).2.Serves name snapshot base (told ++ repliesTo name [op] [(s.perform op).1]) := by
  obtain ⟨since, -, hgrows⟩ := stepsTo_perform s op
  rcases cases_op name op with hwrite | haside | ⟨order, rfl⟩ | rfl | rfl
  · obtain ⟨sub, hsub, hfollows⟩ := h
    obtain ⟨hsubs, hnone⟩ := perform_of_isWrite s name hwrite
    rw [hnone, List.append_nil]
    exact ⟨sub, hsubs ▸ hsub, hfollows.grow hgrows⟩
  · obtain ⟨sub, hsub, hfollows⟩ := h
    obtain ⟨-, hsubs, hnone⟩ := perform_of_isAside s haside
    rw [hnone, List.append_nil]
    exact ⟨sub, hsubs.trans hsub, hfollows.grow hgrows⟩
  · simp [FeedOp.resets] at hop
  · simp [FeedOp.resets] at hop
  · obtain ⟨hreply, hnext⟩ := h.receive
    rw [hreply, repliesTo_receive]
    exact hnext

/-- A subscriber follows the feed through every run that does not end its subscription. -/
theorem Serves.run {s : FeedSession σ κ α} (h : s.Serves name snapshot base told) {ops : List (FeedOp σ κ α)}
    (hops : ∀ op ∈ ops, op.resets name = false) :
    (performAll perform s ops).2.Serves name snapshot base (told ++ repliesTo name ops (performAll perform s ops).1) := by
  induction ops generalizing s told with
  | nil => exact (List.append_nil told).symm ▸ h
  | cons op ops ih =>
    have hrun := ih (h.step (hops op List.mem_cons_self)) fun op' hop => hops op' (List.mem_cons_of_mem op hop)
    rw [performAll_cons, repliesTo_cons, ← List.append_assoc]
    exact hrun

/-! ### Regardless of other subscribers -/

/-- Two sessions are the same to the subscriber of a name. -/
def AlikeTo (name : σ) (s t : FeedSession σ κ α) : Prop :=
  s.feed = t.feed ∧ Entries.get? s.subscribers name = Entries.get? t.subscribers name

/-- What is not about another subscriber brings the subscriber the same in sessions that are the same to it. -/
theorem AlikeTo.step {s t : FeedSession σ κ α} (h : AlikeTo name s t) {op : FeedOp σ κ α}
    (hop : op.isAside name = false) :
    repliesTo name [op] [(s.perform op).1] = repliesTo name [op] [(t.perform op).1] ∧
      AlikeTo name (s.perform op).2 (t.perform op).2 := by
  obtain ⟨hfeed, hsub⟩ := h
  rcases cases_op name op with hwrite | haside | ⟨order, rfl⟩ | rfl | rfl
  · obtain ⟨hs, hnone⟩ := perform_of_isWrite s name hwrite
    obtain ⟨ht, -⟩ := perform_of_isWrite t name hwrite
    rw [hnone, hnone]
    exact ⟨rfl, feed_perform_of_isWrite hfeed hwrite, by rw [hs, ht, hsub]⟩
  · rw [hop] at haside
    nomatch haside
  · refine ⟨rfl, hfeed, ?_⟩
    rw [perform, perform, Entries.get?_put, Entries.get?_put, hfeed, if_pos rfl, if_pos rfl]
  · refine ⟨rfl, hfeed, ?_⟩
    rw [perform, perform, Entries.get?_erase, Entries.get?_erase, hsub]
  · rw [perform, perform, ← hsub]
    cases hget : Entries.get? s.subscribers name with
    | none => exact ⟨rfl, hfeed, hsub⟩
    | some sub =>
      refine ⟨by rw [hfeed], hfeed, ?_⟩
      rw [hfeed, Entries.get?_put, Entries.get?_put, if_pos rfl, if_pos rfl]

/-- A run brings a subscriber what the run brings without the operations of other subscribers. -/
theorem AlikeTo.run {s t : FeedSession σ κ α} (h : AlikeTo name s t) (ops : List (FeedOp σ κ α)) :
    let alone := ops.filter fun op => !op.isAside name
    repliesTo name ops (performAll perform s ops).1 = repliesTo name alone (performAll perform t alone).1 ∧
      AlikeTo name (performAll perform s ops).2 (performAll perform t alone).2 := by
  induction ops generalizing s t with
  | nil => exact ⟨rfl, h⟩
  | cons op ops ih =>
    intro alone
    cases haside : op.isAside name with
    | true =>
      have halone : alone = ops.filter fun op => !op.isAside name := List.filter_cons_of_neg (by simp [haside])
      obtain ⟨hfeed, hsub, hnone⟩ := perform_of_isAside s haside
      have hnext : AlikeTo name (s.perform op).2 t := ⟨hfeed.trans h.1, hsub.trans h.2⟩
      rw [halone, performAll_cons, repliesTo_cons, hnone]
      exact ih hnext
    | false =>
      have halone : alone = op :: ops.filter fun op => !op.isAside name := List.filter_cons_of_pos (by simp [haside])
      obtain ⟨hreplies, hnext⟩ := h.step haside
      obtain ⟨hrest, hlast⟩ := ih hnext
      rw [halone, performAll_cons, performAll_cons]
      refine ⟨?_, hlast⟩
      rw [repliesTo_cons, hreplies, hrest, ← repliesTo_cons]

/-! ### What a run delivers -/

/-- A subscriber receives one put for each entry held when it subscribed, and then what was published since, in order and without
a gap: what it has received is always a prefix of that stream. Only when its snapshot is received and more changes are undelivered
than there are slots, it is told instead of the next one how many are too many, and then that nothing more comes. It waits
when all is delivered and the feed is open, and is finished when all is delivered and the feed is closed. The slots are the least
power of two that is not below the capacity, and all this is as it would be without the other subscribers. -/
theorem run_delivers_stream (capacity : Nat) (before after : List (FeedOp σ κ α)) (name : σ) (order : List κ)
    (hafter : ∀ op ∈ after, op.resets name = false) :
    let s₀ := (performAll perform (new capacity) before).2
    let run := performAll perform s₀ (.observe name order :: after)
    let s := run.2
    let told := repliesTo name (.observe name order :: after) run.1
    let got := Reply.events told
    let snapshot := Entries.arrange order s₀.feed.entries.entries
    let stream := snapshot.map (fun e => Change.put e.1 e.2) ++ s.feed.published.drop s₀.feed.published.length
    let undelivered := stream.length - got.length
    let lagged := ∃ missed, Reply.lagged missed ∈ told
    (snapshot.Perm s₀.feed.entries.entries ∧ (snapshot.map Prod.fst).Nodup ∧ s₀.feed.published <+: s.feed.published) ∧
    got = stream.take got.length ∧
    (told.Pairwise fun earlier later => (∃ missed, earlier = .lagged missed) → later = .finished) ∧
    (∃ reply, (s.perform (.receive name)).1 = .received reply ∧
      (∀ change, reply = .event change ↔
        ¬lagged ∧ stream[got.length]? = some change ∧ (got.length < snapshot.length ∨ undelivered ≤ s.feed.slots)) ∧
      (∀ missed, reply = .lagged missed ↔
        ¬lagged ∧ snapshot.length ≤ got.length ∧ s.feed.slots < undelivered ∧ missed = undelivered - s.feed.slots) ∧
      (reply = .pending ↔ ¬lagged ∧ undelivered = 0 ∧ s.feed.closed = false) ∧
      (reply = .finished ↔ lagged ∨ undelivered = 0 ∧ s.feed.closed = true)) ∧
    ((∃ e, s.feed.slots = 2 ^ e) ∧ max capacity 1 ≤ s.feed.slots ∧ ∀ e, max capacity 1 ≤ 2 ^ e → s.feed.slots ≤ 2 ^ e) ∧
    (let alone := fun ops : List (FeedOp σ κ α) => ops.filter fun op => !op.isAside name
      let t := (performAll perform (new capacity) (alone before)).2
      told = repliesTo name (.observe name order :: alone after)
        (performAll perform t (.observe name order :: alone after)).1) := by
  intro s₀ run s told got snapshot stream undelivered lagged
  have hserves : s.Serves name snapshot s₀.feed.published.length told :=
    (serves_observe s₀ name order).run hafter
  obtain ⟨hreply, -⟩ := hserves.receive
  obtain ⟨sub, -, hfollows⟩ := hserves
  obtain ⟨since, hbefore⟩ := growsTo_performAll (new capacity : FeedSession σ κ α) before
  obtain ⟨more, hgrows⟩ := growsTo_performAll s₀ (.observe name order :: after)
  have hperm : snapshot.Perm s₀.feed.entries.entries := Entries.arrange_perm order s₀.feed.entries.distinct
  have hlagged : (told.any Reply.isLag = true) ↔ lagged := by
    rw [List.any_eq_true]
    simp only [Reply.isLag_iff]
    exact ⟨fun ⟨_, hmem, missed, he⟩ => ⟨missed, he ▸ hmem⟩, fun ⟨missed, hmem⟩ => ⟨_, hmem, missed, rfl⟩⟩
  have hnot : (told.any Reply.isLag = false) ↔ ¬lagged := by rw [← hlagged, Bool.not_eq_true]
  refine ⟨⟨hperm, s₀.feed.entries.distinct.perm hperm, hgrows.published ▸ List.prefix_append _ _⟩, hfollows.received, ?_,
    ⟨_, hreply, ?_⟩, ?_, ?_⟩
  · simpa only [Reply.isLag_iff] using hfollows.settled
  · rw [← hnot, ← hlagged]
    exact Feed.nextReply_iff s.feed snapshot _ _ (Nat.add_sub_cancel' hfollows.received_le)
  · have hcapacity : s.feed.capacity = capacity := hgrows.capacity.trans hbefore.capacity
    rw [← hcapacity]
    exact Feed.slots_isLeast s.feed
  · intro alone t
    have hstart : AlikeTo name (new capacity : FeedSession σ κ α) (new capacity) := ⟨rfl, rfl⟩
    obtain ⟨-, halike⟩ := hstart.run before
    have halone : alone (.observe name order :: after) = .observe name order :: alone after :=
      List.filter_cons_of_pos (by simp [FeedOp.isAside])
    exact halone ▸ (halike.run (.observe name order :: after)).1

/-- With one slot, a subscriber that leaves two changes unread lags by one. -/
theorem run_delivers_stream_one_slot :
    let after : List (FeedOp Nat String Nat) := [.put "a" 1, .put "b" 2]
    (∀ op ∈ after, op.resets 0 = false) ∧
      ((performAll perform (new 1) (.observe 0 :: after)).2.perform (.receive 0)).1 = .received (.lagged 1) := by
  intro after
  have hafter : ∀ op ∈ after, op.resets 0 = false := by simp [after, FeedOp.resets]
  refine ⟨hafter, ?_⟩
  obtain ⟨-, -, -, ⟨reply, hreply, -, hlagged, -⟩, -⟩ := run_delivers_stream 1 [] after 0 [] hafter
  have hone : reply = .lagged 1 := by
    refine (hlagged 1).2 ⟨?_, Nat.le_refl 0, by decide, rfl⟩
    rintro ⟨missed, hmem⟩
    nomatch hmem
  exact hone ▸ hreply

end FeedSession

end TenantGateway
