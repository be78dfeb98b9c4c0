import TenantGateway.Proofs.Sync.Effect

/-!
# Independent resources

Events of different resources do not get in each other's way: what a run answers to the events of one resource, and the layers that
it leaves of this resource, are told by the events of this resource alone (`Sync.performAll_effects`). So two runs in which every
resource has the same events in the same order agree in all but the order of layers (`Sync.run_interleavings_agree`).
-/

namespace TenantGateway

/-- The layers that there were and the events decide what the events do, and the layers that there are after them. -/
theorem LayerHistory.unique {s : LabelSelector} {before after after' : TenantId → Option Properties}
    {events : List (ResourceKind × ResourceEvent)} {outcomes outcomes' : List SyncOutcome}
    (h : LayerHistory s before events outcomes after) (h' : LayerHistory s before events outcomes' after') :
    outcomes = outcomes' ∧ after = after' := by
  induction h generalizing outcomes' with
  | nil before =>
    cases h'
    exact ⟨rfl, rfl⟩
  | cons kind e hheld _ ih =>
    cases h' with
    | cons _ _ hheld' rest' =>
      obtain ⟨houtcomes, hafter⟩ := ih rest'
      have hsame := Bool.eq_iff_iff.2 (hheld.trans hheld'.symm)
      exact ⟨by rw [hsame, houtcomes], hafter⟩

/-- After the last event the tenants have the layers that it leaves, given those before it. -/
theorem LayerHistory.last {s : LabelSelector} {before after : TenantId → Option Properties}
    {events : List (ResourceKind × ResourceEvent)} {kind : ResourceKind} {e : ResourceEvent} {outcomes : List SyncOutcome}
    (h : LayerHistory s before (events ++ [(kind, e)]) outcomes after) :
    ∃ between, after = fun t => e.leavesLayer s kind between t := by
  induction events generalizing before outcomes with
  | nil =>
    cases h with
    | cons _ _ _ rest =>
      cases rest
      exact ⟨before, rfl⟩
  | cons first events ih =>
    cases h with
    | cons _ _ _ rest => exact ih rest

namespace Sync

theorem eventsAbout_cons (uid : String) (op : SyncOp) (ops : List SyncOp) :
    SyncOp.eventsAbout uid (op :: ops) =
      if op.event.uid = uid then op.report :: SyncOp.eventsAbout uid ops else SyncOp.eventsAbout uid ops := by
  rw [SyncOp.eventsAbout, List.map_cons, List.filter_cons]
  by_cases h : op.event.uid = uid <;> simp [h, SyncOp.report, SyncOp.eventsAbout]

theorem answersAbout_cons (s : Sync) (uid : String) (op : SyncOp) (ops : List SyncOp) :
    s.answersAbout uid (op :: ops) =
      if op.event.uid = uid then (op.report, (s.perform op).1) :: (s.perform op).2.answersAbout uid ops
      else (s.perform op).2.answersAbout uid ops := by
  rw [answersAbout, performAll_cons, List.map_cons, List.zip_cons_cons, List.filter_cons]
  by_cases h : op.event.uid = uid <;> simp [h, SyncOp.report, answersAbout]

/-- An event is about the resource of its uid. -/
theorem mem_eventsAbout {ops : List SyncOp} {e : ResourceKind × ResourceEvent} :
    (∃ uid, e ∈ SyncOp.eventsAbout uid ops) ↔ e ∈ ops.map SyncOp.report := by
  simp [SyncOp.eventsAbout]

variable {s : Sync} {layer : TenantId → String → Option Properties} {bare : TenantId → Prop}

/-- What a run answers to the events of a resource, and the layers that it leaves of it, are told by these events. The tenants that a
merge has given a layer are no longer bare. The labels looked for stay the same. -/
theorem performAll_effects (h : s.composer.HasLayers layer bare) {ops : List SyncOp} (hkeeps : ∀ op ∈ ops, op.event.KeepsUid) :
    (performAll perform s ops).2.selector = s.selector ∧ ∃ after, (performAll perform s ops).2.composer.HasLayers after
        (fun t => (∀ e ∈ ops.map SyncOp.report, ∀ f, e.2.merged? s.selector e.1 = some f → f.tenant ≠ t) ∧ bare t) ∧
      ∀ uid, ∃ outcomes, s.answersAbout uid ops = (SyncOp.eventsAbout uid ops).zip (outcomes.map .ok) ∧
        LayerHistory s.selector (fun t => layer t uid) (SyncOp.eventsAbout uid ops) outcomes fun t => after t uid := by
  induction ops generalizing s layer bare with
  | nil => exact ⟨rfl, layer, h.congr (fun _ _ => rfl) (by simp), fun uid => ⟨[], rfl, .nil _⟩⟩
  | cons op ops ih =>
    obtain ⟨held, hheld⟩ : ∃ held : Bool, held = true ↔ ∃ t, (layer t op.event.uid).isSome = true := by
      classical exact ⟨decide _, decide_eq_true_iff⟩
    obtain ⟨s', hhandle, hselector, hlayers⟩ := does_handle h (hkeeps op List.mem_cons_self) op.order hheld
    have hperform : s.perform op = (.ok (op.event.outcome s.selector op.kind held), s') := by
      rw [perform, hhandle]
    obtain ⟨hsame, after, hafter, huids⟩ := ih hlayers fun op' hop => hkeeps op' (List.mem_cons_of_mem op hop)
    rw [hselector] at hsame hafter huids
    refine ⟨?_, after, ?_, fun uid => ?_⟩
    · rw [performAll_cons, hperform]
      exact hsame
    · rw [performAll_cons, hperform]
      refine hafter.congr (fun _ _ => rfl) fun t => ?_
      rw [List.map_cons, List.forall_mem_cons, and_left_comm, ← and_assoc]
      rfl
    · obtain ⟨outcomes, hanswers, hhistory⟩ := huids uid
      rw [answersAbout_cons, eventsAbout_cons, hperform]
      by_cases huid : op.event.uid = uid
      · refine ⟨op.event.outcome s.selector op.kind held :: outcomes, ?_, ?_⟩
        · rw [if_pos huid, if_pos huid, hanswers]
          rfl
        · rw [if_pos huid, ← huid]
          rw [← huid] at hhistory
          simp only [if_true] at hhistory
          exact .cons op.kind op.event hheld hhistory
      · rw [if_neg huid, if_neg huid]
        simp only [if_neg huid] at hhistory
        exact ⟨outcomes, hanswers, hhistory⟩

/-- Independent resources commute. On an open composer, two runs interleave the same sequences of events, one for each resource, in
any order that keeps every sequence. Then every event is answered the same, and the composers hold the same layers, each possibly in
another order. -/
theorem run_interleavings_agree (s : Sync) (hopen : s.composer.feed.closed = false)
    (sent : String → List (ResourceKind × ResourceEvent)) (hkeeps : ∀ uid, ∀ e ∈ sent uid, e.2.KeepsUid) (ops ops' : List SyncOp)
    (hops : ∀ uid, SyncOp.eventsAbout uid ops = sent uid) (hops' : ∀ uid, SyncOp.eventsAbout uid ops' = sent uid) :
    (∀ uid, s.answersAbout uid ops = s.answersAbout uid ops') ∧
      (performAll perform s ops).2.composer.SameLayers (performAll perform s ops').2.composer := by
  have hmem : ∀ {l : List SyncOp}, (∀ uid, SyncOp.eventsAbout uid l = sent uid) →
      ∀ e, e ∈ l.map SyncOp.report ↔ ∃ uid, e ∈ sent uid := by
    intro l hl e
    rw [← mem_eventsAbout]
    exact exists_congr fun uid => hl uid ▸ Iff.rfl
  have hkeepsOf : ∀ {l : List SyncOp}, (∀ uid, SyncOp.eventsAbout uid l = sent uid) → ∀ op ∈ l, op.event.KeepsUid := by
    intro l hl op hop
    obtain ⟨uid, he⟩ := (hmem hl _).1 (List.mem_map_of_mem hop)
    exact hkeeps uid _ he
  have h := Composer.hasLayers_of_open hopen
  obtain ⟨-, after, hafter, huids⟩ := performAll_effects h (hkeepsOf hops)
  obtain ⟨-, after', hafter', huids'⟩ := performAll_effects h (hkeepsOf hops')
  have hagree : ∀ uid, s.answersAbout uid ops = s.answersAbout uid ops' ∧ ∀ t, after t uid = after' t uid := by
    intro uid
    obtain ⟨outcomes, hanswers, hhistory⟩ := huids uid
    obtain ⟨outcomes', hanswers', hhistory'⟩ := huids' uid
    rw [hops] at hanswers hhistory
    rw [hops'] at hanswers' hhistory'
    obtain ⟨rfl, hsame⟩ := hhistory.unique hhistory'
    exact ⟨hanswers.trans hanswers'.symm, congrFun hsame⟩
  refine ⟨fun uid => (hagree uid).1, hafter.sameLayers (hafter'.congr (fun t uid => ((hagree uid).2 t).symm) fun t => ?_)⟩
  refine and_congr_left' (forall_congr' fun e => ?_)
  rw [hmem hops, hmem hops']

/-- A resource moves to the tenant of a second one, which is deleted without labels at the end. One run adds the second resource after
the move, the other before it. -/
theorem run_interleavings_agree_moved :
    let a : TenantId := ⟨"a", by decide⟩
    let b : TenantId := ⟨"b", by decide⟩
    let s : Sync := .new (.new 1) ⟨"tenant", "kind", "config"⟩
    let resource (uid tenant : String) : Resource := ⟨uid, "r", .ofList [("kind", "config"), ("tenant", tenant)], .ofList [("k", "1")]⟩
    let add : SyncOp := ⟨.configMap, .added (resource "u" "a"), []⟩
    let move : SyncOp := ⟨.configMap, .updated (resource "u" "a") (resource "u" "b"), []⟩
    let other : SyncOp := ⟨.configMap, .added (resource "v" "b"), []⟩
    let delete (order : List TenantId) : SyncOp := ⟨.secret, .deleted ⟨"v", "r", .empty, .empty⟩ true, order⟩
    let ops := [add, move, other, delete [a]]
    let ops' := [other, add, move, delete [b]]
    let left := (performAll perform s ops).2.composer
    let left' := (performAll perform s ops').2.composer
    s.composer.feed.closed = false ∧ (∀ uid, ∀ e ∈ SyncOp.eventsAbout uid ops, e.2.KeepsUid) ∧
      (∀ uid, SyncOp.eventsAbout uid ops' = SyncOp.eventsAbout uid ops) ∧
      (∀ uid, s.answersAbout uid ops = s.answersAbout uid ops') ∧ left.SameLayers left' ∧ left.tenants = [b] := by
  intro a b s resource add move other delete ops ops' left left'
  have hopen : s.composer.feed.closed = false := rfl
  have hkeeps : ∀ uid, ∀ e ∈ SyncOp.eventsAbout uid ops, e.2.KeepsUid := by
    intro uid e he
    have hall : ∀ e ∈ ops.map SyncOp.report, e.2.KeepsUid := by decide
    exact hall e (List.mem_of_mem_filter he)
  have hsame : ∀ uid, SyncOp.eventsAbout uid ops' = SyncOp.eventsAbout uid ops := by
    intro uid
    by_cases hu : "u" = uid
    · subst hu
      decide
    · by_cases hv : "v" = uid
      · subst hv
        decide
      · simp [SyncOp.eventsAbout, SyncOp.report, ops, ops', add, move, other, delete, resource, ResourceEvent.uid, hu, hv]
  obtain ⟨hanswers, hlayers⟩ := run_interleavings_agree s hopen _ hkeeps ops ops' (fun _ => rfl) hsame
  exact ⟨hopen, hkeeps, hsame, hanswers, hlayers, by decide⟩

end Sync

end TenantGateway
