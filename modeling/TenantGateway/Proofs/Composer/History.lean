import TenantGateway.Composer.History
import TenantGateway.Proofs.Composer
import TenantGateway.Proofs.Run

/-!
# Configuration as a function of history

A history of merges and revokes leaves a tenant one layer for each fragment that was merged and not touched since, in the order of
these merges (`ComposerOp.layers`). One more operation files or erases one layer (`ComposerOp.layers_snoc`), which is what the composer
does (`Composer.Carries.perform`), so the composer carries the layers of its history after every run (`Composer.carries_after`), and
whatever it answers can be read off the history (`Composer.run_composes_last_merges`).
-/

namespace TenantGateway

namespace ComposerOp

variable {t : TenantId} {id : String}

/-! ## One operation -/

/-- The layers that an operation leaves to a tenant, given those that it had. -/
def leaves (t : TenantId) (before : List (String × Properties)) : ComposerOp → List (String × Properties)
  | merge fragment => if fragment.tenant = t then Entries.file before fragment.id fragment.properties else before
  | revoke tenant id => if tenant = t then Entries.erase before id else before
  | close => before

/-- The properties that an operation gives to the layer it decides about. -/
def properties? : ComposerOp → Option Properties
  | merge fragment => some fragment.properties
  | _ => none

/-- An operation decides about one layer and leaves the others alone. -/
theorem get?_leaves (op : ComposerOp) (t : TenantId) (before : List (String × Properties)) (id : String) :
    Entries.get? (op.leaves t before) id = if op.Touches t id then op.properties? else Entries.get? before id := by
  cases op with
  | merge fragment =>
    dsimp only [leaves]
    by_cases ht : fragment.tenant = t
    · rw [if_pos ht, Entries.get?_file]
      simp [Touches, ht, properties?]
    · simp [Touches, ht]
  | revoke tenant f =>
    dsimp only [leaves]
    by_cases ht : tenant = t
    · rw [if_pos ht, Entries.get?_erase]
      simp [Touches, ht, properties?]
    · simp [Touches, ht]
  | close => simp [leaves, Touches]

/-- An operation takes away the layer that it touches, wherever it stands. -/
theorem leaves_cons (op : ComposerOp) (t : TenantId) (first : String × Properties) (rest : List (String × Properties)) :
    op.leaves t (first :: rest) = if op.Touches t first.1 then op.leaves t rest else first :: op.leaves t rest := by
  have herase : ∀ id, Entries.erase (first :: rest) id =
      if id = first.1 then Entries.erase rest id else first :: Entries.erase rest id := by
    intro id
    by_cases hid : id = first.1
    · simp [Entries.erase, hid]
    · simp [Entries.erase, hid, Ne.symm hid]
  cases op with
  | merge fragment =>
    dsimp only [leaves, Entries.file]
    rw [herase]
    by_cases ht : fragment.tenant = t <;> by_cases hid : fragment.id = first.1 <;> simp [Touches, ht, hid]
  | revoke tenant id =>
    dsimp only [leaves]
    rw [herase]
    by_cases ht : tenant = t <;> by_cases hid : id = first.1 <;> simp [Touches, ht, hid]
  | close => simp [leaves, Touches]

/-- An operation leaves the layers of other tenants alone. -/
theorem leaves_of_tenant?_ne {op : ComposerOp} (h : op.tenant? ≠ some t) (before : List (String × Properties)) :
    op.leaves t before = before := by
  cases op with
  | merge fragment => exact if_neg fun ht => h (congrArg some ht)
  | revoke tenant id => exact if_neg fun ht => h (congrArg some ht)
  | close => rfl

/-- An operation leaves a tenant layers with distinct names. -/
theorem distinct_leaves {before : List (String × Properties)} (h : Entries.Distinct before) (op : ComposerOp) :
    Entries.Distinct (op.leaves t before) := by
  unfold leaves
  split
  · split
    · exact h.file _ _
    · exact h
  · split
    · exact h.erase _
    · exact h
  · exact h

/-! ## Histories -/

/-- The last operation of a history files the layer of a fragment, or erases it. -/
theorem layers_snoc (t : TenantId) (ops : List ComposerOp) (op : ComposerOp) :
    layers t (ops ++ [op]) = op.leaves t (layers t ops) := by
  induction ops with
  | nil => cases op <;> simp [layers, leaves, Entries.file, Entries.erase]
  | cons first ops ih =>
    cases first with
    | merge fragment =>
      rw [List.cons_append, layers, layers, ih]
      by_cases ht : fragment.tenant = t ∧ ¬∃ later ∈ ops, later.Touches t fragment.id
      · rw [if_pos ht, leaves_cons]
        by_cases hop : op.Touches t fragment.id
        · rw [if_pos hop, if_neg]
          exact fun hall => hall.2 ⟨op, by simp, hop⟩
        · rw [if_neg hop, if_pos]
          refine ⟨ht.1, ?_⟩
          rintro ⟨later, hlater, htouches⟩
          rcases List.mem_append.1 hlater with hlater | hlater
          · exact ht.2 ⟨later, hlater, htouches⟩
          · exact hop (List.mem_singleton.1 hlater ▸ htouches)
      · rw [if_neg ht, if_neg]
        refine fun hall => ht ⟨hall.1, ?_⟩
        rintro ⟨later, hlater, htouches⟩
        exact hall.2 ⟨later, List.mem_append_left _ hlater, htouches⟩
    | revoke tenant id => exact ih
    | close => exact ih

/-- No fragment has two layers. -/
theorem distinct_layers (t : TenantId) (ops : List ComposerOp) : Entries.Distinct (layers t ops) := by
  induction ops using List.reverseRecOn with
  | nil => exact Entries.Distinct.nil
  | append_singleton ops op ih =>
    rw [layers_snoc]
    exact distinct_leaves ih op

/-- A fragment has a layer exactly when the last operation on it merged it, with the properties of that merge. -/
theorem get?_layers_eq_some_iff {t : TenantId} {ops : List ComposerOp} {id : String} {properties : Properties} :
    Entries.get? (layers t ops) id = some properties ↔
      ∃ before later, ops = before ++ merge ⟨id, t, properties⟩ :: later ∧ ∀ op ∈ later, ¬op.Touches t id := by
  have hsnoc : ∀ ops op, Entries.get? (layers t (ops ++ [op])) id =
      if op.Touches t id then op.properties? else Entries.get? (layers t ops) id := by
    intro ops op
    rw [layers_snoc, get?_leaves]
  rw [eq_some_iff_last (fun ops => Entries.get? (layers t ops) id) (Touches t id) properties? rfl hsnoc]
  constructor
  · rintro ⟨before, op, later, rfl, ⟨htouches, hproperties⟩, hlater⟩
    cases op with
    | merge fragment =>
      obtain ⟨rfl, rfl⟩ := htouches
      obtain rfl := Option.some.inj hproperties
      exact ⟨before, later, rfl, hlater⟩
    | revoke tenant f => nomatch hproperties
    | close => nomatch hproperties
  · rintro ⟨before, later, rfl, hlater⟩
    exact ⟨before, _, later, rfl, ⟨⟨rfl, rfl⟩, rfl⟩, hlater⟩

/-- The fragments that a tenant holds are those that it has layers of. -/
theorem holds_iff {t : TenantId} {id : String} {ops : List ComposerOp} :
    Holds t id ops ↔ (Entries.get? (layers t ops) id).isSome = true := by
  rw [Option.isSome_iff_exists]
  constructor
  · rintro ⟨before, fragment, later, rfl, rfl, rfl, hlater⟩
    exact ⟨fragment.properties, get?_layers_eq_some_iff.2 ⟨before, later, rfl, hlater⟩⟩
  · rintro ⟨properties, hget⟩
    obtain ⟨before, later, hops, hlater⟩ := get?_layers_eq_some_iff.1 hget
    exact ⟨before, _, later, hops, rfl, rfl, hlater⟩

/-- A tenant without layers holds no fragment. -/
theorem layers_eq_nil_iff {t : TenantId} {ops : List ComposerOp} : layers t ops = [] ↔ ∀ id, ¬Holds t id ops := by
  constructor
  · intro hnil id hholds
    rw [holds_iff, hnil] at hholds
    nomatch hholds
  · intro hnone
    refine List.eq_nil_iff_forall_not_mem.2 fun l hl => hnone l.1 (holds_iff.2 ?_)
    rw [(Entries.get?_eq_some_iff (distinct_layers t ops)).2 hl]
    rfl

/-- Only the operations on a tenant matter to its layers. -/
theorem layers_filter_tenant? (t : TenantId) (ops : List ComposerOp) :
    layers t (ops.filter fun op => op.tenant? = some t) = layers t ops := by
  induction ops using List.reverseRecOn with
  | nil => rfl
  | append_singleton ops op ih =>
    rw [List.filter_append, layers_snoc]
    by_cases hop : op.tenant? = some t
    · rw [List.filter_cons_of_pos (by simpa using hop), List.filter_nil, layers_snoc, ih]
    · rw [List.filter_cons_of_neg (by simpa using hop), List.filter_nil, List.append_nil, ih, leaves_of_tenant?_ne hop _]

/-- Merging a fragment that a tenant does not hold and revoking it again leaves the layers of every tenant as they were. -/
theorem layers_merge_revoke {ops : List ComposerOp} {f : Fragment} (h : ¬Holds f.tenant f.id ops) (t : TenantId) :
    layers t (ops ++ [merge f, revoke f.tenant f.id]) = layers t ops := by
  have hsplit : ops ++ [merge f, revoke f.tenant f.id] = ops ++ [merge f] ++ [revoke f.tenant f.id] := by simp
  rw [hsplit, layers_snoc, layers_snoc]
  dsimp only [leaves]
  by_cases ht : f.tenant = t
  · have habsent : ∀ e ∈ layers t ops, e.1 ≠ f.id := by
      rw [← Entries.get?_eq_none_iff, ← Option.not_isSome_iff_eq_none, ← holds_iff, ← ht]
      exact h
    rw [if_pos ht, if_pos ht, Entries.file, Entries.erase_append, Entries.erase_erase, Entries.erase_eq_self habsent]
    simp [Entries.erase]
  · rw [if_neg ht, if_neg ht]

/-- What an operation on an open composer answers, given the layers of every tenant. -/
def answer (layers : TenantId → List (String × Properties)) : ComposerOp → ComposerAnswer
  | merge _ => .merged
  | revoke t id => .revoked (Entries.get? (layers t) id).isSome
  | close => .closed

end ComposerOp

namespace Composer

variable {c : Composer} {layers : TenantId → List (String × Properties)}

/-- An open composer refuses no operation, and files and erases layers as the operation says. -/
theorem Carries.perform (h : c.Carries layers) {op : ComposerOp} (hop : op ≠ .close) :
    (c.perform op).1 = op.answer layers ∧ (c.perform op).2.Carries fun t => op.leaves t (layers t) := by
  cases op with
  | merge fragment =>
    obtain ⟨c', hmerge, -, hcarries⟩ := h.merge fragment
    rw [Composer.perform, hmerge]
    exact ⟨rfl, hcarries⟩
  | revoke tenant id =>
    obtain ⟨c', hrevoke, -, hcarries⟩ := h.revoke tenant id
    rw [Composer.perform, hrevoke]
    exact ⟨rfl, hcarries⟩
  | close => exact absurd rfl hop

/-- A tenant is listed when it has layers. -/
theorem Carries.mem_tenants (h : c.Carries layers) {t : TenantId} : t ∈ c.tenants ↔ layers t ≠ [] := by
  have hkeys : t ∈ c.tenants ↔ ∃ configuration, c.configuration? t = some configuration := c.feed.entries.mem_keys
  rw [hkeys, ← Option.isSome_iff_exists, Option.isSome_iff_ne_none, h.configuration t, Ne, Configuration.ofLayers?_eq_none_iff]

/-- No tenant is listed twice among the owners of a fragment. -/
theorem nodup_owners (c : Composer) (id : String) (order : List TenantId) : (c.owners id order).Nodup := by
  have harranged := (Entries.arrange_perm order c.feed.entries.distinct).map Prod.fst
  exact (harranged.nodup_iff.2 c.feed.entries.distinct).filter _

/-- The tenants of a composer are listed once each. -/
theorem nodup_tenants (c : Composer) : c.tenants.Nodup := c.feed.entries.distinct

/-- After merges and revokes every tenant has the layers that they left to it. -/
theorem carries_after (capacity : Nat) {ops : List ComposerOp} (hopen : .close ∉ ops) :
    (after capacity ops).Carries fun t => ComposerOp.layers t ops := by
  induction ops using List.reverseRecOn with
  | nil => exact carries_new capacity
  | append_singleton ops op ih =>
    have hbefore := ih fun hmem => hopen (List.mem_append_left _ hmem)
    have hop : op ≠ .close := by
      rintro rfl
      exact hopen (by simp)
    have hafter : after capacity (ops ++ [op]) = ((after capacity ops).perform op).2 := by
      rw [after, performAll_append]
      rfl
    rw [hafter]
    exact (hbefore.perform hop).2.congr fun t => (ComposerOp.layers_snoc t ops op).symm

/-- What an operation of a run answers, by the operations before it. -/
theorem answer_of_append (capacity : Nat) {before later : List ComposerOp} {op : ComposerOp}
    (hopen : .close ∉ before ++ op :: later) :
    (performAll perform (.new capacity) (before ++ op :: later)).1[before.length]? =
      some (op.answer fun t => ComposerOp.layers t before) := by
  have hbefore := carries_after capacity fun hmem => hopen (List.mem_append_left _ hmem)
  have hop : op ≠ .close := by
    rintro rfl
    exact hopen (by simp)
  rw [performAll_getElem?]
  exact congrArg some (hbefore.perform hop).1

/-- After every sequence of merges and revokes on an open composer without configuration: no merge was refused, and every revoke told
whether the last operation before it on the fragment under the tenant was a merge. A tenant has one layer for each fragment whose last
operation under the tenant is a merge, with the properties of that merge, in the order of those merges, and no configuration when
there is no such fragment. The tenants listed are those with such a fragment, the owners of a fragment those that hold it. Only the
operations on a tenant matter to its configuration. Merging a fragment that its tenant does not hold and revoking it again leaves every
configuration as it was, or absent. -/
theorem run_composes_last_merges (capacity : Nat) (ops : List ComposerOp) (hopen : .close ∉ ops) :
    let run := performAll perform (.new capacity) ops
    let c := run.2
    (∀ before fragment later, ops = before ++ .merge fragment :: later → run.1[before.length]? = some .merged) ∧
    (∀ before t id later, ops = before ++ .revoke t id :: later →
      ∃ any, run.1[before.length]? = some (.revoked any) ∧ (any = true ↔ ComposerOp.Holds t id before)) ∧
    (∀ t,
      c.configuration? t = Configuration.ofLayers? (ComposerOp.layers t ops) ∧
      ((ComposerOp.layers t ops).map Prod.fst).Nodup ∧
      (∀ id properties, ((c.configuration? t).bind fun configuration => configuration.layer? id) = some properties ↔
        ∃ before later, ops = before ++ .merge ⟨id, t, properties⟩ :: later ∧ ∀ op ∈ later, ¬op.Touches t id) ∧
      (c.configuration? t = none ↔ ∀ id, ¬ComposerOp.Holds t id ops) ∧
      (t ∈ c.tenants ↔ ∃ id, ComposerOp.Holds t id ops) ∧
      (∀ id order, t ∈ c.owners id order ↔ ComposerOp.Holds t id ops) ∧
      (∀ capacity', (after capacity' (ops.filter fun op => op.tenant? = some t)).configuration? t = c.configuration? t) ∧
      ∀ fragment, ¬ComposerOp.Holds fragment.tenant fragment.id ops →
        (after capacity (ops ++ [.merge fragment, .revoke fragment.tenant fragment.id])).configuration? t = c.configuration? t) ∧
    c.tenants.Nodup ∧ ∀ id order, (c.owners id order).Nodup := by
  intro run c
  have hcarries : c.Carries fun t => ComposerOp.layers t ops := carries_after capacity hopen
  refine ⟨?_, ?_, fun t => ⟨hcarries.configuration t, ComposerOp.distinct_layers t ops, fun id properties => ?_, ?_, ?_,
    fun id order => ?_, fun capacity' => ?_, fun fragment hnew => ?_⟩, nodup_tenants c, nodup_owners c⟩
  · rintro before fragment later rfl
    exact answer_of_append capacity hopen
  · rintro before t id later rfl
    exact ⟨_, answer_of_append capacity hopen, ComposerOp.holds_iff.symm⟩
  · rw [hcarries.configuration t, Configuration.layer?_ofLayers?]
    exact ComposerOp.get?_layers_eq_some_iff
  · rw [hcarries.configuration t, Configuration.ofLayers?_eq_none_iff, ComposerOp.layers_eq_nil_iff]
  · rw [hcarries.mem_tenants, Ne, ComposerOp.layers_eq_nil_iff, not_forall_not]
  · exact hcarries.mem_owners.trans ComposerOp.holds_iff.symm
  · have hown : .close ∉ ops.filter fun op => op.tenant? = some t := fun hmem => hopen (List.mem_filter.1 hmem).1
    rw [(carries_after capacity' hown).configuration t, hcarries.configuration t, ComposerOp.layers_filter_tenant?]
  · have hmore : .close ∉ ops ++ [.merge fragment, .revoke fragment.tenant fragment.id] := by simp [hopen]
    rw [(carries_after capacity hmore).configuration t, hcarries.configuration t, ComposerOp.layers_merge_revoke hnew]

/-- A fragment that is merged again stands last, one that is revoked is gone, and another tenant's fragment of the same name stays. -/
theorem run_composes_last_merges_again :
    let a : TenantId := ⟨"a", by decide⟩
    let b : TenantId := ⟨"b", by decide⟩
    let value (text : String) : Properties := .ofList [("k", text)]
    let ops : List ComposerOp := [.merge ⟨"u", a, value "1"⟩, .merge ⟨"v", a, value "2"⟩, .merge ⟨"v", b, value "3"⟩,
      .merge ⟨"w", a, value "4"⟩, .merge ⟨"u", a, value "5"⟩, .revoke a "v", .revoke a "v"]
    let run := performAll perform (.new 1) ops
    .close ∉ ops ∧
      run.1 = [.merged, .merged, .merged, .merged, .merged, .revoked true, .revoked false] ∧
      run.2.configuration? a = some ⟨[("w", value "4"), ("u", value "5")]⟩ ∧
      run.2.configuration? a = Configuration.ofLayers? (ComposerOp.layers a ops) ∧
      ¬ComposerOp.Holds a "v" ops ∧ ComposerOp.Holds b "v" ops ∧
      (after 1 (ops ++ [.merge ⟨"v", a, value "6"⟩, .revoke a "v"])).configuration? a = run.2.configuration? a := by
  intro a b value ops run
  have hopen : .close ∉ ops := by decide
  obtain ⟨-, -, htenants, -, -⟩ := run_composes_last_merges 1 ops hopen
  obtain ⟨hlayers, -, -, -, -, howners, -, hrestored⟩ := htenants a
  obtain ⟨-, -, -, -, -, howned, -, -⟩ := htenants b
  have hnone : ¬ComposerOp.Holds a "v" ops := mt (howners "v" []).2 (by decide)
  exact ⟨hopen, by decide, by decide, hlayers, hnone, (howned "v" []).1 (by decide), hrestored ⟨"v", a, value "6"⟩ hnone⟩

end Composer

end TenantGateway
