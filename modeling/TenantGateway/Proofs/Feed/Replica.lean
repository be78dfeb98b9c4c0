import TenantGateway.Proofs.Feed.Backlog

/-!
# Rebuilding a feed

A subscriber that does to a map of its own what it is told holds what the feed held when the last change that it has received was
published (`FeedSession.run_rebuilds_entries`).
-/

namespace TenantGateway

variable {κ α : Type} [TextKey κ]

/-! ## Replaying a stream -/

namespace Change

variable [DecidableEq κ]

/-- Replaying a snapshot gives the map that it was taken of. -/
theorem applyAll_snapshot {d : Dictionary κ α} {snapshot : List (κ × α)} (h : snapshot.Perm d.entries) :
    applyAll .empty (snapshot.map fun e => .put e.1 e.2) = d := by
  refine Dictionary.ext_get? fun k => ?_
  rw [get?_applyAll, valueAfter_puts (d.distinct.perm h), Dictionary.get?_empty, Option.or_none,
    Entries.get?_of_perm d.distinct h]
  rfl

/-- Puts tell nothing of what the map held. -/
theorem allTrueOf_snapshot (d : Dictionary κ α) (snapshot : List (κ × α)) :
    AllTrueOf d (snapshot.map fun e => .put e.1 e.2) := by
  induction snapshot generalizing d with
  | nil => trivial
  | cons e snapshot ih => exact ⟨trivial, ih _⟩

end Change

namespace Feed

variable [DecidableEq κ] {f f' : Feed κ α} {since : List (Change κ α)} {snapshot : List (κ × α)}

/-- A stream is the snapshot and what was published since. -/
theorem GrowsBy.stream_eq (h : f.GrowsBy since f') :
    f'.stream snapshot f.published.length = snapshot.map (fun e => .put e.1 e.2) ++ since := by
  rw [Feed.stream, h.published, List.drop_left]

/-- Replaying a stream gives the map. -/
theorem GrowsBy.applyAll_stream (h : f.GrowsBy since f') (hs : snapshot.Perm f.entries.entries) :
    Change.applyAll .empty (f'.stream snapshot f.published.length) = f'.entries := by
  rw [h.stream_eq, Change.applyAll_append, Change.applyAll_snapshot hs, h.entries]

/-- What a stream tells of the map was so. -/
theorem GrowsBy.allTrueOf_stream (h : f.GrowsBy since f') (hs : snapshot.Perm f.entries.entries) :
    Change.AllTrueOf .empty (f'.stream snapshot f.published.length) := by
  rw [h.stream_eq, Change.allTrueOf_append, Change.applyAll_snapshot hs]
  exact ⟨Change.allTrueOf_snapshot _ _, h.truthful⟩

/-- The first part of a stream is the stream of a moment at which so much was published. -/
theorem GrowsBy.take_stream {base k : Nat} (h : f.GrowsBy since f') (hk : f.published.length = base + k) :
    (f'.stream snapshot base).take (snapshot.length + k) = f.stream snapshot base := by
  have hlen : snapshot.length + k = (f.stream snapshot base).length := by
    rw [length_stream]
    omega
  rw [h.stream (by omega), hlen, List.take_left]

end Feed

namespace FeedSession

/-! ## Writes that change nothing -/

/-- A write that is refused, or leaves the feed as it is, leaves the session as it is. -/
theorem afterWrite_eq_self {σ β : Type} {s : FeedSession σ κ α} {answer : β → FeedAnswer κ α}
    {result : Except FeedError (β × Feed κ α)} (h : ∀ b f', result = .ok (b, f') → f' = s.feed) :
    (s.afterWrite answer result).2 = s := by
  cases result with
  | error e => rfl
  | ok r =>
    obtain ⟨b, f'⟩ := r
    rw [afterWrite, h b f' rfl]

variable [DecidableEq κ] {σ : Type} [DecidableEq σ]

/-- Removing an absent key changes and publishes nothing. -/
theorem perform_remove_absent {s : FeedSession σ κ α} {key : κ} (h : s.feed.get? key = none) :
    (s.perform (.remove key)).2 = s := by
  refine afterWrite_eq_self fun b f' hf => ?_
  unfold Feed.remove at hf
  rw [h] at hf
  split at hf
  · nomatch hf
  · cases hf
    rfl

/-- Modifying a key changes and publishes nothing when it is to be kept, or is to be removed and absent. -/
theorem perform_modify_same {s : FeedSession σ κ α} {key : κ} {decide : Option α → Modification α}
    (h : decide (s.feed.get? key) = .keep ∨ decide (s.feed.get? key) = .remove ∧ s.feed.get? key = none) :
    (s.perform (.modify key decide)).2 = s := by
  refine afterWrite_eq_self fun b f' hf => ?_
  unfold Feed.modify at hf
  split at hf
  · cases hf
  · rcases h with hkeep | ⟨hremove, hnone⟩
    · rw [hkeep] at hf
      cases hf
      rfl
    · rw [hremove, hnone] at hf
      cases hf
      rfl

/-! ## What a run rebuilds -/

/-- A subscriber that has received its snapshot and `k` changes more has rebuilt, by replaying them over the empty map, what the
feed held when `k` changes were published since it subscribed; there is such a moment in the run, and when nothing is
undelivered it is the present. A removal that it receives carries the value that its own map holds for the key. A write that
changes nothing publishes nothing. -/
theorem run_rebuilds_entries (capacity : Nat) (before after : List (FeedOp σ κ α)) (name : σ) (order : List κ)
    (hafter : ∀ op ∈ after, op.resets name = false) :
    let s₀ := (performAll perform (new capacity) before).2
    let run := performAll perform s₀ (.observe name order :: after)
    let s := run.2
    let got := Reply.events (repliesTo name (.observe name order :: after) run.1)
    let base := s₀.feed.published.length
    (∀ k, got.length = s₀.feed.entries.size + k →
      (∃ mid rest, after = mid ++ rest ∧
        (performAll perform s₀ (.observe name order :: mid)).2.feed.published.length = base + k) ∧
      (∀ mid rest, after = mid ++ rest →
        (performAll perform s₀ (.observe name order :: mid)).2.feed.published.length = base + k →
        Change.applyAll .empty got = (performAll perform s₀ (.observe name order :: mid)).2.feed.entries) ∧
      (s.feed.published.length = base + k → Change.applyAll .empty got = s.feed.entries)) ∧
    (∀ earlier key value later, got = earlier ++ .remove key value :: later →
      (Change.applyAll .empty earlier).get? key = some value) ∧
    (∀ key, s.feed.get? key = none → (s.perform (.remove key)).2 = s) ∧
    ∀ key decide, decide (s.feed.get? key) = .keep ∨ decide (s.feed.get? key) = .remove ∧ s.feed.get? key = none →
      (s.perform (.modify key decide)).2 = s := by
  intro s₀ run s got base
  have hperm : (Entries.arrange order s₀.feed.entries.entries).Perm s₀.feed.entries.entries :=
    Entries.arrange_perm order s₀.feed.entries.distinct
  obtain ⟨sub, -, hfollows⟩ : s.Serves name _ base (repliesTo name (.observe name order :: after) run.1) :=
    (serves_observe s₀ name order).run hafter
  have hgot : got = (s.feed.stream _ base).take got.length := hfollows.received
  have hmid : ∀ k, got.length = s₀.feed.entries.size + k → ∀ mid rest, after = mid ++ rest →
      (performAll perform s₀ (.observe name order :: mid)).2.feed.published.length = base + k →
      Change.applyAll .empty got = (performAll perform s₀ (.observe name order :: mid)).2.feed.entries := by
    rintro k hk mid rest rfl hlen
    obtain ⟨since, hsince⟩ := growsTo_performAll s₀ (.observe name order :: mid)
    obtain ⟨more, hmore⟩ := growsTo_performAll (performAll perform s₀ (.observe name order :: mid)).2 rest
    have hs : s = (performAll perform (performAll perform s₀ (.observe name order :: mid)).2 rest).2 :=
      (congrArg Prod.snd (performAll_append perform s₀ (.observe name order :: mid) rest) :)
    rw [← hs] at hmore
    have hsize : s₀.feed.entries.size = (Entries.arrange order s₀.feed.entries.entries).length := hperm.length_eq.symm
    rw [hgot, hk, hsize, hmore.take_stream hlen]
    exact hsince.applyAll_stream hperm
  obtain ⟨since, hsince⟩ := growsTo_performAll s₀ (.observe name order :: after)
  refine ⟨fun k hk => ⟨?_, hmid k hk, fun hlen => hmid k hk after [] (List.append_nil after).symm hlen⟩, ?_,
    fun key => perform_remove_absent, fun key decide => perform_modify_same⟩
  · have hlast : base + k ≤ s.feed.published.length := by
      have hle := hfollows.received_le
      rw [Feed.length_stream, hperm.length_eq] at hle
      have hb := hfollows.base_le
      change got.length ≤ s₀.feed.entries.size + (s.feed.published.length - base) at hle
      omega
    exact exists_published_length (s₀.perform (.observe name order)).2 after (Nat.le_add_right base k) hlast
  · intro earlier key value later heq
    have htrue : Change.AllTrueOf .empty got := by
      have hall : Change.AllTrueOf .empty (s.feed.stream _ base) := hsince.allTrueOf_stream hperm
      rw [← List.take_append_drop got.length (s.feed.stream _ base), Change.allTrueOf_append] at hall
      exact hgot ▸ hall.1
    rw [heq] at htrue
    exact htrue.isTrueOf

/-- A subscriber that has received one entry and its removal holds nothing, as the feed did before the entry came again. -/
theorem run_rebuilds_entries_removed :
    let s₀ := (performAll perform (new 2 : FeedSession Nat String Nat) [.put "a" 1]).2
    let after : List (FeedOp Nat String Nat) := [.remove "a", .receive 0, .receive 0, .put "a" 2]
    let run := performAll perform s₀ (.observe 0 :: after)
    let got := Reply.events (repliesTo 0 (.observe 0 :: after) run.1)
    got = [.put "a" 1, .remove "a" 1] ∧
      Change.applyAll .empty got = (performAll perform s₀ [.observe 0, .remove "a"]).2.feed.entries ∧
      (Change.applyAll .empty [Change.put "a" 1]).get? "a" = some 1 := by
  intro s₀ after run got
  have hafter : ∀ op ∈ after, op.resets 0 = false := by simp [after, FeedOp.resets]
  have hgot : got = [.put "a" 1, .remove "a" 1] := by decide
  obtain ⟨hrebuilt, htrue, -⟩ := run_rebuilds_entries 2 [.put "a" 1] after 0 [] hafter
  obtain ⟨-, hmid, -⟩ := hrebuilt 1 (congrArg List.length hgot)
  exact ⟨hgot, hmid [.remove "a"] [.receive 0, .receive 0, .put "a" 2] rfl rfl, htrue [.put "a" 1] "a" 1 [] hgot⟩

end FeedSession

end TenantGateway
