import TenantGateway.Proofs.Sync.Closing
import TenantGateway.Sync.WatchHistory

/-!
# Channels and registered watches

A channel is known by its kind, by whether it has ended and by whether it was asked to end. The watches registered since the last
closing are the channels that nobody asked to end, each of them once, and watches that are driven from outside (`Adapter.Registered`). So
a closing closes each of them as if it were the only one, and every channel was asked to end by then (`Adapter.Registered.close`).
-/

namespace TenantGateway

/-! ## Channels -/

/-- The channel that a watch is, if it is one. -/
def Watch.number? : Watch → Option Nat
  | .channel number => some number
  | .external _ _ _ => none

namespace Adapter

variable {a : Adapter} {n : Nat}

/-- A channel is what its kind, a request to end and its end make of it. -/
theorem channel_eq (a : Adapter) (n : Nat) : a.channels[n]? = (a.kind? n).map fun kind => ⟨kind, a.isAsked n, !a.isAlive n⟩ := by
  unfold kind? isAsked isAlive
  cases a.channels[n]? with
  | none => rfl
  | some channel =>
    rcases channel with ⟨kind, asked, ended⟩
    simp

/-- A channel that was never opened neither lives nor was asked to end. -/
theorem of_kind?_none (h : a.kind? n = none) : a.isAlive n = false ∧ a.isAsked n = false := by
  have hchannel : a.channels[n]? = none := Option.map_eq_none_iff.1 h
  unfold isAlive isAsked
  rw [hchannel]
  exact ⟨rfl, rfl⟩

/-- A channel that lives was opened. -/
theorem kind?_of_isAlive (h : a.isAlive n = true) : ∃ kind, a.kind? n = some kind := by
  cases hkind : a.kind? n with
  | none => exact absurd h (Bool.eq_false_iff.1 (of_kind?_none hkind).1)
  | some kind => exact ⟨kind, rfl⟩

/-- Stopping a channel ends this one and no other. -/
theorem isAlive_stop (a : Adapter) (n m : Nat) : (a.stop n).isAlive m = (a.isAlive m && decide (m ≠ n)) := by
  rw [isAlive, isAlive, stop, List.getElem?_modify]
  cases a.channels[m]? with
  | none => rfl
  | some channel => by_cases h : n = m <;> simp [h, eq_comm]

/-- Stopping a channel asks nobody. -/
theorem isAsked_stop (a : Adapter) (n m : Nat) : (a.stop n).isAsked m = a.isAsked m := by
  rw [isAsked, isAsked, stop, List.getElem?_modify]
  cases a.channels[m]? with
  | none => rfl
  | some channel => by_cases h : n = m <;> simp [h]

/-- A channel that is stopped keeps its kind. -/
theorem kind?_stop (a : Adapter) (n m : Nat) : (a.stop n).kind? m = a.kind? m := by
  rw [kind?, kind?, stop, List.getElem?_modify]
  cases a.channels[m]? with
  | none => rfl
  | some channel => by_cases h : n = m <;> simp [h]

/-- Asking a channel to end ends none. -/
theorem isAlive_ask (a : Adapter) (n m : Nat) : (a.ask n).isAlive m = a.isAlive m := by
  rw [isAlive, isAlive, ask, List.getElem?_modify]
  cases a.channels[m]? with
  | none => rfl
  | some channel => by_cases h : n = m <;> simp [h]

/-- Asking a channel that was opened asks this one and no other. -/
theorem isAsked_ask (hkind : (a.kind? n).isSome = true) (m : Nat) : (a.ask n).isAsked m = (a.isAsked m || decide (n = m)) := by
  have hopened : a.channels[n]?.isSome = true := by rwa [kind?, Option.isSome_map] at hkind
  rw [isAsked, isAsked, ask, List.getElem?_modify]
  by_cases h : n = m
  · subst h
    obtain ⟨channel, hchannel⟩ := Option.isSome_iff_exists.1 hopened
    simp [hchannel]
  · cases a.channels[m]? <;> simp [h]

/-- A channel that is asked to end keeps its kind. -/
theorem kind?_ask (a : Adapter) (n m : Nat) : (a.ask n).kind? m = a.kind? m := by
  rw [kind?, kind?, ask, List.getElem?_modify]
  cases a.channels[m]? with
  | none => rfl
  | some channel => by_cases h : n = m <;> simp [h]

/-- An event that is delivered to a channel is handled as its kind; the channel ends when the event is refused. -/
theorem deliver_cases {kind : ResourceKind} (hkind : a.kind? n = some kind) (halive : a.isAlive n = true) (event : ResourceEvent)
    (order : List TenantId) :
    (∃ outcome sync, a.sync.perform ⟨kind, event, order⟩ = (.ok outcome, sync) ∧ a.deliver n event order = { a with sync }) ∨
      ∃ e, a.sync.perform ⟨kind, event, order⟩ = (.error e, a.sync) ∧ a.deliver n event order = a.stop n := by
  rw [deliver, channel_eq, hkind, halive, Option.map_some, Bool.not_true]
  cases hhandle : a.sync.handle kind event order with
  | ok result =>
    have hperform : a.sync.perform ⟨kind, event, order⟩ = (.ok result.1, result.2) := by rw [Sync.perform, hhandle]
    exact Or.inl ⟨result.1, result.2, hperform, by simp only [hhandle]⟩
  | error e =>
    have hperform : a.sync.perform ⟨kind, event, order⟩ = (.error e, a.sync) := by rw [Sync.perform, hhandle]
    exact Or.inr ⟨e, hperform, by simp only [hhandle]⟩

/-- Nothing is delivered to a channel that has ended. -/
theorem deliver_of_ended (h : a.isAlive n = false) (event : ResourceEvent) (order : List TenantId) : a.deliver n event order = a := by
  rw [deliver, channel_eq, h]
  cases a.kind? n <;> rfl

/-! ## Closing -/

/-- What closing a watch answers, unless it is a channel that was asked to end before. -/
theorem closeWatch_fst {w : Watch} (hfresh : ∀ n, w = .channel n → a.isAsked n = false) : (a.closeWatch w).1 = a.failure? w := by
  cases w with
  | channel n =>
    rw [closeWatch, failure?, channel_eq, hfresh n rfl]
    cases a.kind? n with
    | none => cases a.isAlive n <;> rfl
    | some kind => cases a.isAlive n <;> rfl
  | external name kind fails => rfl

/-- Closing a watch asks its channel to end, which ends nothing yet. -/
theorem closeWatch_snd (a : Adapter) (w : Watch) :
    (a.closeWatch w).2.sync = a.sync ∧ (a.closeWatch w).2.watches = a.watches ∧ (∀ n, (a.closeWatch w).2.kind? n = a.kind? n) ∧
      (∀ n, (a.closeWatch w).2.isAlive n = a.isAlive n) ∧
      ∀ n, (a.kind? n).isSome = true → (a.closeWatch w).2.isAsked n = (a.isAsked n || decide (w = .channel n)) := by
  cases w with
  | channel m =>
    rw [closeWatch, channel_eq]
    cases hkind : a.kind? m with
    | none =>
      refine ⟨rfl, rfl, fun n => rfl, fun n => rfl, fun n hopened => ?_⟩
      have hne : m ≠ n := by
        rintro rfl
        rw [hkind] at hopened
        nomatch hopened
      simp [hne]
    | some kind =>
      cases hasked : a.isAsked m with
      | false =>
        refine ⟨rfl, rfl, a.kind?_ask m, a.isAlive_ask m, fun n _ => ?_⟩
        exact (isAsked_ask (hkind ▸ rfl) n).trans (by simp)
      | true =>
        refine ⟨rfl, rfl, fun n => rfl, fun n => rfl, fun n _ => ?_⟩
        by_cases hne : m = n
        · simp [← hne, hasked]
        · simp [hne]
  | external name kind fails => exact ⟨rfl, rfl, fun n => rfl, fun n => rfl, fun n _ => by simp [closeWatch]⟩

/-- Closing watches in order, no channel twice and none that was asked before: each is closed as if it were the only one. -/
theorem closeEach_eq {ws : List Watch} (hdistinct : (ws.filterMap Watch.number?).Nodup) (a : Adapter)
    (hfresh : ∀ n, .channel n ∈ ws → a.isAsked n = false) (hopened : ∀ n, .channel n ∈ ws → (a.kind? n).isSome = true) :
    (a.closeEach ws).1 = ws.map (fun w => (w, a.failure? w)) ∧
      (a.closeEach ws).2.sync = a.sync ∧ (a.closeEach ws).2.watches = a.watches ∧ (∀ n, (a.closeEach ws).2.kind? n = a.kind? n) ∧
      (∀ n, (a.closeEach ws).2.isAlive n = a.isAlive n) ∧
      ∀ n, (a.kind? n).isSome = true → (a.closeEach ws).2.isAsked n = (a.isAsked n || decide (.channel n ∈ ws)) := by
  induction ws generalizing a with
  | nil => exact ⟨rfl, rfl, rfl, fun n => rfl, fun n => rfl, fun n _ => by simp [closeEach]⟩
  | cons w ws ih =>
    have hrest : (ws.filterMap Watch.number?).Nodup :=
      hdistinct.sublist ((List.sublist_cons_self w ws).filterMap Watch.number?)
    have hothers : ∀ n, .channel n ∈ ws → w ≠ .channel n := by
      rintro n hn rfl
      exact (List.nodup_cons.1 hdistinct).1 (List.mem_filterMap.2 ⟨.channel n, hn, rfl⟩)
    obtain ⟨hsync, hwatches, hkinds, halive, hasked⟩ := a.closeWatch_snd w
    have hopened' : ∀ n, .channel n ∈ ws → ((a.closeWatch w).2.kind? n).isSome = true := fun n hn =>
      hkinds n ▸ hopened n (List.mem_cons_of_mem w hn)
    have hfresh' : ∀ n, .channel n ∈ ws → (a.closeWatch w).2.isAsked n = false := by
      intro n hn
      rw [hasked n (hopened n (List.mem_cons_of_mem w hn)), hfresh n (List.mem_cons_of_mem w hn),
        decide_eq_false (hothers n hn), Bool.false_or]
    obtain ⟨hlog, hsync', hwatches', hkinds', halive', hasked'⟩ := ih hrest (a.closeWatch w).2 hfresh' hopened'
    have hfailures : ∀ w' ∈ ws, (a.closeWatch w).2.failure? w' = a.failure? w' := by
      intro w' hw'
      cases w' with
      | external name kind fails => rfl
      | channel n => rw [failure?, failure?, hkinds, halive]
    refine ⟨?_, hsync'.trans hsync, hwatches'.trans hwatches, fun n => (hkinds' n).trans (hkinds n),
      fun n => (halive' n).trans (halive n), fun n hn => ?_⟩
    · have hfirst : (a.closeWatch w).1 = a.failure? w := closeWatch_fst fun n hw => hfresh n (hw ▸ List.mem_cons_self)
      rw [List.map_cons, ← hfirst, ← List.map_congr_left fun w' hw' => congrArg (Prod.mk w') (hfailures w' hw')]
      exact congrArg _ hlog
    · refine (hasked' n (hkinds n ▸ hn)).trans ?_
      rw [hasked n hn, Bool.or_assoc]
      congr 1
      simp [List.mem_cons, eq_comm]

/-! ## Registered watches -/

/-- The watches registered since the last closing are watches that are driven from outside and, once each, the channels that were opened
and not asked to end. -/
structure Registered (a : Adapter) : Prop where
  distinct : (a.watches.filterMap Watch.number?).Nodup
  mem_iff : ∀ n, .channel n ∈ a.watches ↔ (a.kind? n).isSome = true ∧ a.isAsked n = false

/-- An adapter without watches has nothing registered. -/
theorem registered_new (composer : Composer) (selector : LabelSelector) : (Adapter.new composer selector).Registered :=
  ⟨List.nodup_nil, fun n => by simp [Adapter.new, kind?]⟩

/-- Nothing but which channels live is different, and none lives that did not. -/
structure Keeps (a a' : Adapter) : Prop where
  watches : a'.watches = a.watches
  kinds : ∀ n, a'.kind? n = a.kind? n
  asked : ∀ n, a'.isAsked n = a.isAsked n
  alive : ∀ n, a'.isAlive n = true → a.isAlive n = true

/-- An adapter that stays as it is keeps everything. -/
theorem Keeps.refl (a : Adapter) : a.Keeps a := ⟨rfl, fun _ => rfl, fun _ => rfl, fun _ => id⟩

/-- Stopping a channel keeps everything else. -/
theorem keeps_stop (a : Adapter) (n : Nat) : a.Keeps (a.stop n) := by
  refine ⟨rfl, a.kind?_stop n, a.isAsked_stop n, fun m hm => ?_⟩
  rw [isAlive_stop, Bool.and_eq_true] at hm
  exact hm.1

/-- An event that is delivered keeps everything but the composer and the channel that handles it. -/
theorem keeps_deliver (a : Adapter) (n : Nat) (event : ResourceEvent) (order : List TenantId) : a.Keeps (a.deliver n event order) := by
  cases halive : a.isAlive n with
  | false =>
    rw [deliver_of_ended halive]
    exact .refl a
  | true =>
    obtain ⟨kind, hkind⟩ := kind?_of_isAlive halive
    rcases deliver_cases hkind halive event order with ⟨outcome, sync, -, hdelivered⟩ | ⟨e, -, hdelivered⟩
    · rw [hdelivered]
      exact ⟨rfl, fun _ => rfl, fun _ => rfl, fun _ => id⟩
    · rw [hdelivered]
      exact a.keeps_stop n

/-- A channel that lives handles what is delivered to it as its kind: the composer is what the event makes of it. -/
theorem sync_deliver {kind : ResourceKind} (hkind : a.kind? n = some kind) (halive : a.isAlive n = true) (event : ResourceEvent)
    (order : List TenantId) : (a.deliver n event order).sync = (a.sync.perform ⟨kind, event, order⟩).2 := by
  rcases deliver_cases hkind halive event order with ⟨outcome, sync, hperform, hdelivered⟩ | ⟨e, hperform, hdelivered⟩
  · rw [hdelivered, hperform]
  · rw [hdelivered, hperform]
    rfl

/-- A channel that lives ends when it handles an event that is refused. -/
theorem isAlive_deliver {kind : ResourceKind} (hkind : a.kind? n = some kind) (halive : a.isAlive n = true) (event : ResourceEvent)
    (order : List TenantId) (m : Nat) : (a.deliver n event order).isAlive m = true ↔
      a.isAlive m = true ∧ (m = n → (a.sync.perform ⟨kind, event, order⟩).1 ≠ .error .closed) := by
  rcases deliver_cases hkind halive event order with ⟨outcome, sync, hperform, hdelivered⟩ | ⟨e, hperform, hdelivered⟩
  · rw [hdelivered, hperform]
    exact ⟨fun h => ⟨h, fun _ => by simp⟩, And.left⟩
  · obtain rfl := Sync.refused_eq_closed (congrArg Prod.fst hperform)
    rw [hdelivered, hperform, isAlive_stop]
    simp

/-- A channel that looks whether it was asked to end keeps everything else. -/
theorem keeps_heed (a : Adapter) (n : Nat) : a.Keeps (a.heed n) := by
  rw [heed]
  split
  · exact a.keeps_stop n
  · exact .refl a

/-- One change that keeps everything may come after another one. -/
theorem Keeps.trans {b c : Adapter} (h : a.Keeps b) (h' : b.Keeps c) : a.Keeps c :=
  ⟨h'.watches.trans h.watches, fun n => (h'.kinds n).trans (h.kinds n), fun n => (h'.asked n).trans (h.asked n),
    fun n hn => h.alive n (h'.alive n hn)⟩

/-- What keeps everything leaves no channel to end on request that did not have to. -/
theorem Keeps.isClosing {a' : Adapter} (h : a.Keeps a') (hclosing : a.isClosing n = false) : a'.isClosing n = false := by
  refine Bool.eq_false_iff.2 fun hclosing' => Bool.eq_false_iff.1 hclosing ?_
  obtain ⟨halive, hasked⟩ := Bool.and_eq_true_iff.1 hclosing'
  exact Bool.and_eq_true_iff.2 ⟨h.alive n halive, (h.asked n).symm.trans hasked⟩

/-- A channel that looks whether it was asked to end has ended if so. -/
theorem isClosing_heed (a : Adapter) (n : Nat) : (a.heed n).isClosing n = false := by
  rw [heed]
  split
  · rw [isClosing, isAlive_stop]
    simp
  · rename_i hasked
    rw [isClosing, Bool.eq_false_iff.2 hasked, Bool.and_false]

/-- What keeps everything keeps the registered watches. -/
theorem Registered.keeps (h : a.Registered) {a' : Adapter} (hkeeps : a.Keeps a') : a'.Registered := by
  obtain ⟨hwatches, hkinds, hasked, -⟩ := hkeeps
  refine ⟨hwatches ▸ h.distinct, fun n => ?_⟩
  rw [hwatches, hkinds, hasked]
  exact h.mem_iff n

/-- Closing goes through the registered watches in order, and each is closed as if it were the only one. It ends no channel, and every
channel was asked to end by then. -/
theorem Registered.close (h : a.Registered) :
    a.close.1 = a.watches.map (fun w => (w, a.failure? w)) ∧ a.close.2.sync = a.sync ∧ a.close.2.watches = [] ∧
      (∀ n, a.close.2.kind? n = a.kind? n) ∧ (∀ n, a.close.2.isAlive n = a.isAlive n) ∧
      ∀ n, a.close.2.isAsked n = (a.kind? n).isSome := by
  obtain ⟨hlog, hsync, hwatches, hkinds, halive, hasked⟩ := closeEach_eq h.distinct { a with watches := [] }
    (fun n hn => ((h.mem_iff n).1 hn).2) (fun n hn => ((h.mem_iff n).1 hn).1)
  refine ⟨hlog, hsync, hwatches, hkinds, halive, fun n => ?_⟩
  cases hkind : a.kind? n with
  | none => exact (of_kind?_none ((hkinds n).trans hkind)).2
  | some kind =>
    have hopened : (a.kind? n).isSome = true := by rw [hkind]; rfl
    have hn : a.close.2.isAsked n = (a.isAsked n || decide (.channel n ∈ a.watches)) := hasked n hopened
    rw [hn, Option.isSome_some, Bool.or_eq_true, decide_eq_true_eq, h.mem_iff]
    cases a.isAsked n with
    | false => exact Or.inr ⟨hopened, rfl⟩
    | true => exact Or.inl rfl

/-- After a closing no watch is registered, and none has to be. -/
theorem Registered.closed (h : a.Registered) : a.close.2.Registered := by
  obtain ⟨-, -, hwatches, hkinds, -, hasked⟩ := h.close
  refine ⟨hwatches ▸ List.nodup_nil, fun n => ?_⟩
  rw [hwatches, hkinds, hasked]
  cases a.kind? n <;> simp

/-! ## Opening -/

/-- A channel that is opened takes the next number. -/
theorem channels_watch (a : Adapter) (kind : ResourceKind) (n : Nat) :
    (a.watch kind).2.channels[n]? = if n = a.channels.length then some ⟨kind, false, false⟩ else a.channels[n]? := by
  have hchannels : (a.watch kind).2.channels = a.channels ++ [⟨kind, false, false⟩] := rfl
  rw [hchannels]
  split
  · rename_i hn
    rw [hn, List.getElem?_concat_length]
  · rename_i hn
    rcases Nat.lt_or_gt_of_ne hn with hlt | hgt
    · exact List.getElem?_append_left hlt
    · rw [List.getElem?_eq_none (List.length_append ▸ hgt), List.getElem?_eq_none (Nat.le_of_lt hgt)]

/-- The kinds of the channels when another one is opened. -/
theorem kind?_watch (a : Adapter) (kind : ResourceKind) (n : Nat) :
    (a.watch kind).2.kind? n = if n = a.channels.length then some kind else a.kind? n := by
  rw [kind?, channels_watch]
  split <;> rfl

/-- A channel that is opened lives. -/
theorem isAlive_watch (a : Adapter) (kind : ResourceKind) (n : Nat) :
    (a.watch kind).2.isAlive n = if n = a.channels.length then true else a.isAlive n := by
  rw [isAlive, channels_watch]
  by_cases hn : n = a.channels.length
  · rw [if_pos hn, if_pos hn]
    rfl
  · rw [if_neg hn, if_neg hn]
    rfl

/-- A channel that is opened was not asked to end. -/
theorem isAsked_watch (a : Adapter) (kind : ResourceKind) (n : Nat) :
    (a.watch kind).2.isAsked n = if n = a.channels.length then false else a.isAsked n := by
  rw [isAsked, channels_watch]
  by_cases hn : n = a.channels.length
  · rw [if_pos hn, if_pos hn]
  · rw [if_neg hn, if_neg hn]
    rfl

/-- The next number is that of no channel. -/
theorem kind?_length (a : Adapter) : a.kind? a.channels.length = none := by
  rw [kind?, List.getElem?_eq_none (Nat.le_refl _)]
  rfl

/-- A channel that was opened does not have the next number. -/
theorem ne_length_of_kind? {kind : ResourceKind} (h : a.kind? n = some kind) : n ≠ a.channels.length := by
  rintro rfl
  nomatch a.kind?_length.symm.trans h

/-- A channel that is opened is another one than those that are registered. -/
theorem Registered.watch (h : a.Registered) (kind : ResourceKind) : (a.watch kind).2.Registered := by
  have hwatches : (a.watch kind).2.watches = a.watches ++ [.channel a.channels.length] := rfl
  have hfresh : .channel a.channels.length ∉ a.watches := fun hmem => by
    have hopened := ((h.mem_iff _).1 hmem).1
    rw [kind?_length] at hopened
    nomatch hopened
  refine ⟨?_, fun n => ?_⟩
  · rw [hwatches, List.filterMap_append]
    refine List.nodup_append.2 ⟨h.distinct, List.nodup_singleton _, fun n hn m hm => ?_⟩
    obtain ⟨w, hw, hnumber⟩ := List.mem_filterMap.1 hn
    cases w with
    | external name kind fails => nomatch hnumber
    | channel k =>
      obtain rfl := Option.some.inj hnumber
      rintro rfl
      exact hfresh (List.mem_singleton.1 hm ▸ hw)
  · rw [hwatches, List.mem_append, List.mem_singleton, Watch.channel.injEq, h.mem_iff, kind?_watch, isAsked_watch]
    by_cases hn : n = a.channels.length
    · simp [hn]
    · simp [hn]

/-- A watch that is driven from outside is no channel. -/
theorem Registered.register (h : a.Registered) (name : String) (kind : ResourceKind) (fails : Bool) :
    (a.register (.external name kind fails)).Registered := by
  have hwatches : (a.register (.external name kind fails)).watches = a.watches ++ [.external name kind fails] := rfl
  refine ⟨?_, fun n => ?_⟩
  · rw [hwatches, List.filterMap_append, List.filterMap_cons_none rfl, List.filterMap_nil, List.append_nil]
    exact h.distinct
  · rw [hwatches, List.mem_append, List.mem_singleton]
    exact (or_iff_left Watch.noConfusion).trans (h.mem_iff n)

end Adapter

end TenantGateway
