import TenantGateway.Proofs.Feed.Delivery

/-!
# What is left to subscribers

A closed feed still tells a subscriber what it has not received yet, one reply at a time (`Subscription.receive_of_closed`): the
rest of its snapshot, and then what was published since and not received, or the lag when this is more than the feed keeps
(`Subscription.Follows.ending`).
-/

namespace TenantGateway

namespace Subscription

variable {κ α : Type} [TextKey κ]

/-- What is still received from a feed that publishes nothing more: the rest of the snapshot, and then what was published and not
received, or the news that this is too much. -/
def ending (s : Subscription κ α) (f : Feed κ α) : List (Reply κ α) :=
  s.snapshot.map (fun e => .event (.put e.1 e.2)) ++
    match s.position with
    | some n =>
      if f.slots < f.published.length - n then [.lagged (f.published.length - n - f.slots)]
      else (f.published.drop n).map .event
    | none => []

variable {f : Feed κ α}

/-- Receiving from a closed feed brings the first of what is left, or the news that nothing is. -/
theorem receive_of_closed (h : f.closed = true) (sub : Subscription κ α) :
    (sub.receive f).1 = (sub.ending f).headD .finished ∧ (sub.receive f).2.ending f = (sub.ending f).tail := by
  obtain ⟨snapshot, position⟩ := sub
  cases snapshot with
  | cons e rest => exact ⟨rfl, rfl⟩
  | nil =>
    cases position with
    | none => exact ⟨rfl, rfl⟩
    | some n =>
      have hending : ending ⟨[], some n⟩ f = if f.slots < f.published.length - n then
          [Reply.lagged (f.published.length - n - f.slots)] else (f.published.drop n).map .event := rfl
      by_cases hfar : f.slots < f.published.length - n
      · rw [receive_lagged hfar, hending, if_pos hfar]
        exact ⟨rfl, rfl⟩
      · rw [hending, if_neg hfar]
        cases hn : f.published[n]? with
        | some change =>
          obtain ⟨hlt, rfl⟩ := List.getElem?_eq_some_iff.1 hn
          have hnear : ¬f.slots < f.published.length - (n + 1) := by omega
          rw [receive_event hfar hn, List.drop_eq_getElem_cons hlt]
          exact ⟨rfl, if_neg hnear⟩
        | none =>
          rw [receive_end hn, if_pos h, List.drop_eq_nil_of_le (List.getElem?_eq_none_iff.1 hn)]
          exact ⟨rfl, rfl⟩

/-- A closed feed does not put a subscriber off. -/
theorem receive_ne_pending (h : f.closed = true) (sub : Subscription κ α) : (sub.receive f).1 ≠ .pending := by
  have hending : .pending ∉ sub.ending f := by
    unfold ending
    split
    · split <;> simp [-List.map_drop]
    · simp
  rw [(receive_of_closed h sub).1]
  cases hleft : sub.ending f with
  | nil => exact fun he => nomatch he
  | cons reply rest => exact fun he => hending (hleft ▸ he ▸ List.mem_cons_self)

/-- A subscription that is over tells of no lag, and stays over. -/
theorem receive_of_over {sub : Subscription κ α} (h : sub.position = none) (f : Feed κ α) :
    (sub.receive f).1.isLag = false ∧ (sub.receive f).2.position = none := by
  obtain ⟨snapshot, position⟩ := sub
  obtain rfl : position = none := h
  cases snapshot <;> exact ⟨rfl, rfl⟩

/-- To a subscriber of a closed feed the entries are left. -/
theorem ending_observe [DecidableEq κ] (h : f.closed = true) (order : List κ) :
    (f.observe order).ending f = (Entries.arrange order f.entries.entries).map fun e => .event (.put e.1 e.2) := by
  rw [Feed.observe, if_pos h]
  exact List.append_nil _

/-- What is left to a subscriber by what it was told. -/
theorem Follows.ending {snapshot : List (κ × α)} {base : Nat} {told : List (Reply κ α)} {sub : Subscription κ α}
    (h : Follows snapshot base f told sub) :
    let got := (Reply.events told).length
    let backlog := (f.published.drop base).drop (got - snapshot.length)
    sub.ending f = if told.any Reply.isLag then [] else
      (snapshot.drop got).map (fun e => .event (.put e.1 e.2)) ++
        if f.slots < backlog.length then [.lagged (backlog.length - f.slots)] else backlog.map .event := by
  intro got backlog
  have hbacklog : backlog = f.published.drop (base + (got - snapshot.length)) := List.drop_drop
  have hlength : backlog.length = f.published.length - (base + (got - snapshot.length)) := by rw [hbacklog, List.length_drop]
  have hstands : Stands snapshot base f got (told.any Reply.isLag) sub := h.stands
  rw [hlength, hbacklog]
  generalize told.any Reply.isLag = lag at hstands
  cases hstands with
  | reading => rfl
  | ended _ hall =>
    have hnone : f.published.length - (base + (got - snapshot.length)) = 0 := by omega
    rw [hnone, if_neg (Nat.not_lt_zero _), ← hall, List.drop_length]
    rfl
  | lagged => rfl

end Subscription

end TenantGateway
