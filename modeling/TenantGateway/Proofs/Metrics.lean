import TenantGateway.Metrics

/-!
# What counting and setting do to readings

Counting adds one to one counter, setting changes one gauge. Every metric is kept by one part of the gateway (`Metric.keeper`), so the
readings that a part keeps are of its own metrics only; a counter that was counted never reads zero (`Metrics.KeptBy`).
-/

namespace TenantGateway

/-- The parts of the gateway that keep metrics. -/
inductive MetricKeeper
  | composer
  | sync
  | resolver
  | catalog
  | router
  deriving DecidableEq

/-- The part that keeps a metric. -/
def Metric.keeper : Metric → MetricKeeper
  | .merges | .revokes | .tenants => .composer
  | .skipped _ | .suppressed _ => .sync
  | .collisions | .registrations => .resolver
  | .instances => .catalog
  | .unrouted _ | .multipleCandidates => .router

namespace Metrics

variable {readings : Metrics} {keeper : MetricKeeper} {x : Metric}

/-- An increment counts one for its metric and nothing for the others. -/
theorem count_increment (m : Metrics) (x y : Metric) : (m.increment x).count y = m.count y + if x = y then 1 else 0 := by
  rw [count, get?_increment]
  split
  · rename_i hxy
    rw [hxy]
    rfl
  · rfl

/-- One more for a counter, if there is one to count. -/
def note (m : Metrics) : Option Metric → Metrics
  | some x => m.increment x
  | none => m

/-- Noting a metric counts one for it, and noting none counts nothing. -/
theorem count_note (m : Metrics) (x? : Option Metric) (y : Metric) :
    (m.note x?).count y = m.count y + if x? = some y then 1 else 0 := by
  cases x? with
  | none => rfl
  | some x => simp [note, count_increment]

/-- Setting a gauge leaves the other metrics alone. -/
theorem count_set_of_ne {y : Metric} (h : x ≠ y) (m : Metrics) (n : Nat) : (m.set x n).count y = m.count y := by
  rw [count, get?_set, if_neg h, count]

/-- The readings are of metrics that one part keeps, and no counter among them reads zero. -/
structure KeptBy (readings : Metrics) (keeper : MetricKeeper) : Prop where
  own : ∀ m, m.keeper ≠ keeper → readings.get? m = none
  counted : ∀ m, m.definition.type = .counter → readings.get? m ≠ some 0

theorem keptBy_empty (keeper : MetricKeeper) : empty.KeptBy keeper := ⟨fun _ _ => rfl, fun _ _ => (Option.some_ne_none 0).symm⟩

/-- Who increments metrics of its own keeps no others. -/
theorem KeptBy.increment (h : readings.KeptBy keeper) (hx : x.keeper = keeper) : (readings.increment x).KeptBy keeper := by
  refine ⟨fun m hm => ?_, fun m hm => ?_⟩
  · rw [get?_increment, if_neg fun he : x = m => hm (he ▸ hx)]
    exact h.own m hm
  · rw [get?_increment]
    split
    · simp
    · exact h.counted m hm

/-- Who notes metrics of its own keeps no others. -/
theorem KeptBy.note (h : readings.KeptBy keeper) {x? : Option Metric} (hx : ∀ x, x? = some x → x.keeper = keeper) :
    (readings.note x?).KeptBy keeper := by
  cases x? with
  | none => exact h
  | some x => exact h.increment (hx x rfl)

/-- Who sets gauges of its own keeps no others. -/
theorem KeptBy.set (h : readings.KeptBy keeper) (hx : x.keeper = keeper) (hgauge : x.definition.type = .gauge) (n : Nat) :
    (readings.set x n).KeptBy keeper := by
  refine ⟨fun m hm => ?_, fun m hm => ?_⟩
  · rw [get?_set, if_neg fun he : x = m => hm (he ▸ hx)]
    exact h.own m hm
  · rw [get?_set, if_neg fun he : x = m => by rw [← he, hgauge] at hm; cases hm]
    exact h.counted m hm

/-- A counter has a reading once it was counted. -/
theorem KeptBy.get?_eq (h : readings.KeptBy keeper) {m : Metric} (hm : m.definition.type = .counter) :
    readings.get? m = if readings.count m = 0 then none else some (readings.count m) := by
  have hcounted := h.counted m hm
  rw [count]
  cases hget : readings.get? m with
  | none => rfl
  | some n =>
    rw [hget] at hcounted
    exact (if_neg fun hn : n = 0 => hcounted (congrArg some hn)).symm

end Metrics

end TenantGateway
