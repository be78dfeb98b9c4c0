import TenantGateway.Feed.Replica
import TenantGateway.Feed.Session

/-!
# How a feed grows

An operation publishes one change or none (`Feed.StepsTo`), and what it publishes is what it does to the map. A run therefore only
adds to what was published, and replaying what it added over the map that there was gives the map that there is
(`Feed.GrowsBy`).
-/

namespace TenantGateway

variable {κ α : Type} [TextKey κ]

/-! ## Replaying changes -/

namespace Change

variable [DecidableEq κ]

/-- Whether every change tells truly what the map held when its turn came. -/
def AllTrueOf (d : Dictionary κ α) : List (Change κ α) → Prop
  | [] => True
  | change :: later => change.IsTrueOf d ∧ AllTrueOf (change.applyTo d) later

/-- Changes are replayed one list after the other. -/
theorem applyAll_append (d : Dictionary κ α) (changes more : List (Change κ α)) :
    applyAll d (changes ++ more) = applyAll (applyAll d changes) more :=
  List.foldl_append

/-- Whether every change relates to the map that there was when its turn came. -/
def InTurn (P : Dictionary κ α → Change κ α → Prop) (d : Dictionary κ α) : List (Change κ α) → Prop
  | [] => True
  | change :: later => P d change ∧ InTurn P (change.applyTo d) later

variable {P : Dictionary κ α → Change κ α → Prop}

/-- Changes relate to the map in turn when the first list does, and the second to the map that the first leaves. -/
theorem inTurn_append (d : Dictionary κ α) (changes more : List (Change κ α)) :
    InTurn P d (changes ++ more) ↔ InTurn P d changes ∧ InTurn P (applyAll d changes) more := by
  induction changes generalizing d with
  | nil => exact ⟨fun h => ⟨trivial, h⟩, fun h => h.2⟩
  | cons change changes ih =>
    rw [List.cons_append, InTurn, ih (change.applyTo d), InTurn, and_assoc]
    rfl

/-- A change in its turn relates to what the changes before it leave. -/
theorem InTurn.of_split {d : Dictionary κ α} {earlier later : List (Change κ α)} {change : Change κ α}
    (h : InTurn P d (earlier ++ change :: later)) : P (applyAll d earlier) change :=
  ((inTurn_append d earlier (change :: later)).1 h).2.1

/-- Changes are true of a map in turn when each is true of what those before it leave. -/
theorem allTrueOf_iff_inTurn (d : Dictionary κ α) (changes : List (Change κ α)) :
    AllTrueOf d changes ↔ InTurn (fun d change => change.IsTrueOf d) d changes := by
  induction changes generalizing d with
  | nil => exact Iff.rfl
  | cons change changes ih => exact and_congr_right fun _ => ih (change.applyTo d)

/-- Changes are true in turn when the first list is, and the second of the map that the first leaves. -/
theorem allTrueOf_append (d : Dictionary κ α) (changes more : List (Change κ α)) :
    AllTrueOf d (changes ++ more) ↔ AllTrueOf d changes ∧ AllTrueOf (applyAll d changes) more := by
  rw [allTrueOf_iff_inTurn, allTrueOf_iff_inTurn, allTrueOf_iff_inTurn]
  exact inTurn_append d changes more

/-- A change among true ones is true of what the changes before it leave. -/
theorem AllTrueOf.isTrueOf {d : Dictionary κ α} {earlier later : List (Change κ α)} {change : Change κ α}
    (h : AllTrueOf d (earlier ++ change :: later)) : change.IsTrueOf (applyAll d earlier) :=
  ((allTrueOf_iff_inTurn d _).1 h).of_split

end Change

namespace Feed

/-- Closing a closed feed changes nothing. -/
theorem close_of_closed {f : Feed κ α} (h : f.closed = true) : f.close = f := by
  obtain ⟨capacity, entries, published, closed⟩ := f
  obtain rfl : closed = true := h
  rfl

/-! ## What was published since -/

variable [DecidableEq κ]

/-- A feed has become another one by publishing the changes given, each of which happened to the map as it was published. -/
structure GrowsBy (f : Feed κ α) (since : List (Change κ α)) (f' : Feed κ α) : Prop where
  capacity : f'.capacity = f.capacity
  /-- The changes are added at the end. -/
  published : f'.published = f.published ++ since
  /-- Replaying the changes gives the map. -/
  entries : f'.entries = Change.applyAll f.entries since
  /-- A closed feed stays what it is. -/
  closed : f.closed = true → f' = f
  /-- What the changes tell of the map was so. -/
  truthful : Change.AllTrueOf f.entries since

/-- One operation has made one feed of the other: it has published one change or none. -/
def StepsTo (f f' : Feed κ α) : Prop := ∃ since : List (Change κ α), since.length ≤ 1 ∧ f.GrowsBy since f'

theorem GrowsBy.refl (f : Feed κ α) : f.GrowsBy [] f :=
  ⟨rfl, (List.append_nil _).symm, rfl, fun _ => rfl, trivial⟩

/-- What is published by two steps one after the other is what the first publishes and what the second does. -/
theorem GrowsBy.trans {f f' f'' : Feed κ α} {since more : List (Change κ α)} (h : f.GrowsBy since f')
    (h' : f'.GrowsBy more f'') : f.GrowsBy (since ++ more) f'' := by
  refine ⟨h'.capacity.trans h.capacity, ?_, ?_, ?_, ?_⟩
  · rw [h'.published, h.published, List.append_assoc]
  · rw [h'.entries, h.entries, Change.applyAll_append]
  · intro hc
    have he : f' = f := h.closed hc
    exact (h'.closed (he ▸ hc)).trans he
  · rw [Change.allTrueOf_append, ← h.entries]
    exact ⟨h.truthful, h'.truthful⟩

/-- A closed feed publishes nothing more. -/
theorem GrowsBy.eq_nil {f f' : Feed κ α} {since : List (Change κ α)} (h : f.GrowsBy since f') (hc : f.closed = true) :
    since = [] := by
  have hp := h.published
  rw [h.closed hc] at hp
  exact List.self_eq_append_right.1 hp

/-- One feed has become the other by publishing changes. -/
def GrowsTo (f f' : Feed κ α) : Prop := ∃ since : List (Change κ α), f.GrowsBy since f'

theorem GrowsTo.refl (f : Feed κ α) : f.GrowsTo f := ⟨[], .refl f⟩

theorem GrowsTo.trans {f f' f'' : Feed κ α} (h : f.GrowsTo f') (h' : f'.GrowsTo f'') : f.GrowsTo f'' := by
  obtain ⟨since, hsince⟩ := h
  obtain ⟨more, hmore⟩ := h'
  exact ⟨since ++ more, hsince.trans hmore⟩

/-- A feed that makes a step has grown. -/
theorem StepsTo.growsTo {f f' : Feed κ α} (h : f.StepsTo f') : f.GrowsTo f' := by
  obtain ⟨since, -, hsince⟩ := h
  exact ⟨since, hsince⟩

theorem StepsTo.refl (f : Feed κ α) : f.StepsTo f := ⟨[], Nat.zero_le 1, .refl f⟩

/-! ## What one operation publishes -/

/-- Publishing a change that is true, and doing it to the map, makes an open feed grow. -/
theorem growsBy_publish {f : Feed κ α} (hc : f.closed = false) (change : Change κ α) (ht : change.IsTrueOf f.entries) :
    f.GrowsBy [change] { f with entries := change.applyTo f.entries, published := f.published ++ [change] } :=
  ⟨rfl, rfl, rfl, fun h => (nomatch hc.symm.trans h), ht, trivial⟩

/-- Publishing a true change is a step. -/
theorem stepsTo_publish {f : Feed κ α} (hc : f.closed = false) (change : Change κ α) (ht : change.IsTrueOf f.entries) :
    f.StepsTo { f with entries := change.applyTo f.entries, published := f.published ++ [change] } :=
  ⟨[change], Nat.le_refl 1, growsBy_publish hc change ht⟩

theorem stepsTo_put {f f' : Feed κ α} {k : κ} {a : α} {b : Option α} (h : f.put k a = .ok (b, f')) : f.StepsTo f' := by
  unfold Feed.put at h
  split at h
  · nomatch h
  · rename_i hc
    cases h
    exact stepsTo_publish (Bool.not_eq_true _ ▸ hc) (.put k a) trivial

theorem stepsTo_remove {f f' : Feed κ α} {k : κ} {b : Option α} (h : f.remove k = .ok (b, f')) : f.StepsTo f' := by
  unfold Feed.remove at h
  split at h
  · nomatch h
  · rename_i hc
    split at h
    · rename_i a ha
      cases h
      exact stepsTo_publish (Bool.not_eq_true _ ▸ hc) (.remove k a) ha
    · cases h
      exact .refl f

theorem stepsTo_clear {f f' : Feed κ α} (h : f.clear = .ok f') : f.StepsTo f' := by
  unfold Feed.clear at h
  split at h
  · nomatch h
  · rename_i hc
    cases h
    exact stepsTo_publish (Bool.not_eq_true _ ▸ hc) .clear trivial

theorem stepsTo_modify {f f' : Feed κ α} {k : κ} {decide : Option α → Modification α} {b : Bool}
    (h : f.modify k decide = .ok (b, f')) : f.StepsTo f' := by
  unfold Feed.modify at h
  split at h
  · nomatch h
  · rename_i hc
    have hc : f.closed = false := Bool.not_eq_true _ ▸ hc
    split at h
    · cases h
      exact .refl f
    · rename_i a ha
      cases h
      exact stepsTo_publish hc (.put k a) trivial
    · split at h
      · rename_i a ha
        cases h
        exact stepsTo_publish hc (.remove k a) ha
      · cases h
        exact .refl f

/-- Closing publishes nothing. -/
theorem growsBy_close (f : Feed κ α) : f.GrowsBy [] f.close :=
  ⟨rfl, (List.append_nil _).symm, rfl, close_of_closed, trivial⟩

/-- A closing is a step that publishes nothing. -/
theorem stepsTo_close (f : Feed κ α) : f.StepsTo f.close := ⟨[], Nat.zero_le 1, growsBy_close f⟩

end Feed

/-! ## Sessions -/

namespace FeedSession

variable [DecidableEq κ] {σ : Type}

/-- A write is a step of the feed, and so is one that is refused. -/
theorem stepsTo_afterWrite {β : Type} {s : FeedSession σ κ α} {answer : β → FeedAnswer κ α}
    {result : Except FeedError (β × Feed κ α)} (h : ∀ b f', result = .ok (b, f') → s.feed.StepsTo f') :
    s.feed.StepsTo (s.afterWrite answer result).2.feed := by
  cases result with
  | ok r => exact h r.1 r.2 rfl
  | error e => exact .refl s.feed

variable [DecidableEq σ]

/-- An operation publishes one change or none. -/
theorem stepsTo_perform (s : FeedSession σ κ α) (op : FeedOp σ κ α) : s.feed.StepsTo (s.perform op).2.feed := by
  cases op with
  | put k a => exact stepsTo_afterWrite fun _ _ => Feed.stepsTo_put
  | remove k => exact stepsTo_afterWrite fun _ _ => Feed.stepsTo_remove
  | modify k decide => exact stepsTo_afterWrite fun _ _ => Feed.stepsTo_modify
  | clear =>
    refine stepsTo_afterWrite fun b f' h => ?_
    cases hf : s.feed.clear with
    | ok f =>
      rw [hf] at h
      cases h
      exact Feed.stepsTo_clear hf
    | error e =>
      rw [hf] at h
      nomatch h
  | close => exact Feed.stepsTo_close s.feed
  | observe name order => exact .refl s.feed
  | forget name => exact .refl s.feed
  | receive name =>
    rw [perform]
    split <;> exact .refl s.feed

/-- A run makes the feed grow. -/
theorem growsTo_performAll (s : FeedSession σ κ α) (ops : List (FeedOp σ κ α)) :
    s.feed.GrowsTo (performAll perform s ops).2.feed := by
  induction ops generalizing s with
  | nil => exact .refl s.feed
  | cons op ops ih => exact (stepsTo_perform s op).growsTo.trans (ih (s.perform op).2)

/-- A run passes through every number of published changes between the first and the last. -/
theorem exists_published_length (s : FeedSession σ κ α) (ops : List (FeedOp σ κ α)) {n : Nat}
    (hfirst : s.feed.published.length ≤ n) (hlast : n ≤ (performAll perform s ops).2.feed.published.length) :
    ∃ before later, ops = before ++ later ∧ (performAll perform s before).2.feed.published.length = n := by
  induction ops generalizing s with
  | nil => exact ⟨[], [], rfl, Nat.le_antisymm hfirst hlast⟩
  | cons op ops ih =>
    rcases Nat.eq_or_lt_of_le hfirst with he | hlt
    · exact ⟨[], op :: ops, rfl, he⟩
    · obtain ⟨since, hone, hop⟩ := stepsTo_perform s op
      have hnext : (s.perform op).2.feed.published.length ≤ n := by
        rw [hop.published, List.length_append]
        omega
      obtain ⟨before, later, rfl, hn⟩ := ih (s.perform op).2 hnext hlast
      exact ⟨op :: before, later, rfl, hn⟩

end FeedSession

end TenantGateway
