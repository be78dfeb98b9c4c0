import TenantGateway.Composer
import TenantGateway.Proofs.Dictionary
import TenantGateway.Proofs.Feed.Growth

/-!
# What merging and revoking do to layers

In whatever state a composer is, a merge or a revoke that is not refused makes its feed grow, a merge gives the layer that it names
and a revoke takes it, and no other (`Composer.holds_of_merge`, `Composer.holds_of_revoke`). An open composer is described by the
layers of every tenant: a tenant has a configuration exactly when it has layers (`Composer.Carries`). Merging files a layer with its
tenant and revoking erases one (`Carries.merge`, `Carries.revoke`); neither is ever refused.
-/

namespace TenantGateway

/-- The configuration with the layers given; without layers there is none. -/
def Configuration.ofLayers? : List (String × Properties) → Option Configuration
  | [] => none
  | layers => some ⟨layers⟩

namespace Configuration

/-- A configuration made of layers has these layers. -/
theorem layers_getD_ofLayers? (layers : List (String × Properties)) : ((ofLayers? layers).getD .empty).layers = layers := by
  cases layers <;> rfl

/-- Some layers make a configuration. -/
theorem ofLayers?_of_ne_nil {layers : List (String × Properties)} (h : layers ≠ []) : ofLayers? layers = some ⟨layers⟩ := by
  cases layers with
  | nil => exact absurd rfl h
  | cons e layers => rfl

/-- There is no configuration without layers. -/
theorem ofLayers?_eq_none_iff {layers : List (String × Properties)} : ofLayers? layers = none ↔ layers = [] := by
  cases layers <;> simp [ofLayers?]

/-- A layer of a configuration made of layers is one of these. -/
theorem layer?_ofLayers? (layers : List (String × Properties)) (id : String) :
    ((ofLayers? layers).bind fun configuration => configuration.layer? id) = Entries.get? layers id := by
  cases layers <;> rfl

end Configuration

/-- Two calls in a row succeed when the first does and the second does with its answer. -/
theorem bind_eq_ok {ε α β : Type} {x : Except ε α} {f : α → Except ε β} {b : β} :
    x >>= f = .ok b ↔ ∃ a, x = .ok a ∧ f a = .ok b := by
  cases x with
  | error e => exact ⟨fun h => (nomatch h), fun ⟨_, h, _⟩ => (nomatch h)⟩
  | ok a => exact ⟨fun h => ⟨a, rfl, h⟩, fun ⟨_, ha, h⟩ => Except.ok.inj ha ▸ h⟩

theorem Feed.modify_of_open {κ α : Type} [TextKey κ] [DecidableEq κ] {f : Feed κ α} (h : f.closed = false) (k : κ)
    (decide : Option α → Modification α) :
    f.modify k decide =
      match decide (f.get? k) with
      | .keep => .ok (false, f)
      | .put a => .ok (true, f.publishPut k a)
      | .remove =>
        match f.get? k with
        | some a => .ok (true, f.publishRemove k a)
        | none => .ok (false, f) :=
  if_neg (by simp [h])

/-- A closed feed refuses to be modified. -/
theorem Feed.isOpen_of_modify {κ α : Type} [TextKey κ] [DecidableEq κ] {f f' : Feed κ α} {k : κ}
    {decide : Option α → Modification α} {b : Bool} (h : f.modify k decide = .ok (b, f')) : f.closed = false := by
  cases hc : f.closed with
  | false => rfl
  | true =>
    rw [modify, if_pos hc] at h
    nomatch h

namespace Composer

/-! ## Any composer -/

section

variable {c c' : Composer} {t : TenantId} {id : String}

/-- The configurations after one of them was set. -/
theorem configuration?_publishPut (c : Composer) (metric : Metric) (t : TenantId) (value : Configuration) (x : TenantId) :
    (c.recorded metric (c.feed.publishPut t value)).configuration? x = if t = x then some value else c.configuration? x :=
  Dictionary.get?_insert c.feed.entries t value x

/-- The configurations after one of them was removed. -/
theorem configuration?_publishRemove (c : Composer) (metric : Metric) (t : TenantId) (value : Configuration) (x : TenantId) :
    (c.recorded metric (c.feed.publishRemove t value)).configuration? x = if t = x then none else c.configuration? x :=
  Dictionary.get?_erase c.feed.entries t x

/-- A tenant holds a layer when its configuration has it. -/
theorem holds_eq (c : Composer) (t : TenantId) (id : String) :
    c.holds t id = ((c.configuration? t).bind fun conf => conf.layer? id).isSome := by
  rw [holds]
  cases c.configuration? t <;> rfl

/-- The configurations after a tenant was left some layers of its configuration: without layers it has none. -/
theorem configuration?_publishRest (c : Composer) (t : TenantId) (configuration rest : Configuration) (x : TenantId) :
    (c.recorded .revokes (if rest.isEmpty then c.feed.publishRemove t configuration
      else c.feed.publishPut t rest)).configuration? x =
      if t = x then Configuration.ofLayers? rest.layers else c.configuration? x := by
  obtain ⟨layers⟩ := rest
  cases layers with
  | nil => exact configuration?_publishRemove c .revokes t configuration x
  | cons e layers => exact configuration?_publishPut c .revokes t ⟨e :: layers⟩ x

/-- What merging into an open composer does: the layer stands last in the configuration of its tenant. -/
theorem merge_of_open (h : c.feed.closed = false) (f : Fragment) :
    c.merge f = .ok (c.recorded .merges (c.feed.publishPut f.tenant
      (((c.configuration? f.tenant).getD .empty).insertLayer f.id f.properties))) := by
  have hmodify := Feed.modify_of_open h f.tenant fun current =>
    .put ((current.getD .empty).insertLayer f.id f.properties)
  rw [merge, hmodify]
  rfl

/-- What revoking from an open composer does: nothing when the tenant has no such layer; else the tenant is left its other layers.
-/
theorem revoke_of_open (h : c.feed.closed = false) (t : TenantId) (id : String) :
    c.revoke t id = .ok (match c.configuration? t with
      | some configuration =>
        if (configuration.layer? id).isNone then (false, c)
        else (true, c.recorded .revokes (if (configuration.removeLayer id).isEmpty then c.feed.publishRemove t configuration
          else c.feed.publishPut t (configuration.removeLayer id)))
      | none => (false, c)) := by
  rw [revoke, Feed.modify_of_open h]
  cases hconf : c.configuration? t with
  | none =>
    have hget : c.feed.get? t = none := hconf
    rw [hget]
    rfl
  | some configuration =>
    have hget : c.feed.get? t = some configuration := hconf
    rw [hget, withoutLayer]
    dsimp only
    cases (configuration.layer? id).isNone with
    | true => rfl
    | false => cases (configuration.removeLayer id).isEmpty <;> rfl

/-- What revoking that is not refused did. -/
theorem revoke_cases {any : Bool} (h : c.revoke t id = .ok (any, c')) :
    (any = false ∧ c.holds t id = false ∧ c' = c) ∨
    (any = true ∧ c.holds t id = true ∧ ∃ configuration, c.configuration? t = some configuration ∧
      c' = c.recorded .revokes (if (configuration.removeLayer id).isEmpty then c.feed.publishRemove t configuration
        else c.feed.publishPut t (configuration.removeLayer id))) := by
  obtain ⟨⟨revoked, feed⟩, hmodify, -⟩ := bind_eq_ok.1 h
  rw [revoke_of_open (Feed.isOpen_of_modify hmodify)] at h
  have hresult := Except.ok.inj h
  rw [holds_eq]
  cases hconf : c.configuration? t with
  | none =>
    rw [hconf] at hresult
    obtain ⟨rfl, rfl⟩ := Prod.mk.inj hresult
    exact Or.inl ⟨rfl, rfl, rfl⟩
  | some configuration =>
    rw [hconf] at hresult
    dsimp only at hresult
    rw [Option.bind_some]
    cases hlayer : configuration.layer? id with
    | none =>
      rw [hlayer] at hresult
      obtain ⟨rfl, rfl⟩ := Prod.mk.inj hresult
      exact Or.inl ⟨rfl, rfl, rfl⟩
    | some properties =>
      rw [hlayer] at hresult
      obtain ⟨rfl, rfl⟩ := Prod.mk.inj hresult
      exact Or.inr ⟨rfl, rfl, configuration, rfl, rfl⟩

/-- Revoking that is not refused tells whether the tenant held the layer, and takes this layer and no other. -/
theorem holds_of_revoke {any : Bool} (h : c.revoke t id = .ok (any, c')) :
    any = c.holds t id ∧ ∀ x f, c'.holds x f = if t = x ∧ id = f then false else c.holds x f := by
  rcases revoke_cases h with ⟨rfl, hholds, rfl⟩ | ⟨rfl, hholds, configuration, hconf, rfl⟩
  · refine ⟨hholds.symm, fun x f => ?_⟩
    split
    · rename_i hx
      rw [← hx.1, ← hx.2, hholds]
    · rfl
  · refine ⟨hholds.symm, fun x f => ?_⟩
    rw [holds_eq, configuration?_publishRest, holds_eq]
    by_cases hx : t = x
    · rw [if_pos hx, ← hx, hconf, Configuration.layer?_ofLayers?, Configuration.removeLayer, Entries.get?_erase, Option.bind_some]
      by_cases hf : id = f
      · simp [hf]
      · simp [hf, Configuration.layer?]
    · rw [if_neg hx, if_neg fun hboth => hx hboth.1]

/-- Revoking from several tenants that is not refused takes the layer from each of them. -/
theorem holds_of_revokeAll {tenants : List TenantId} (h : c.revokeAll id tenants = .ok c') (x : TenantId) :
    c'.holds x id = if x ∈ tenants then false else c.holds x id := by
  induction tenants generalizing c with
  | nil =>
    obtain rfl := Except.ok.inj h
    rfl
  | cons t tenants ih =>
    obtain ⟨⟨any, middle⟩, hrevoke, hrest⟩ := bind_eq_ok.1 h
    rw [ih hrest, (holds_of_revoke hrevoke).2 x id]
    by_cases hx : x ∈ tenants
    · simp [hx]
    · by_cases ht : t = x
      · simp [ht]
      · simp [hx, ht, Ne.symm ht]

/-- A call that was not refused found the composer open. -/
theorem isOpen_of_merge {f : Fragment} (h : c.merge f = .ok c') : c.feed.closed = false := by
  obtain ⟨⟨any, feed⟩, hmodify, -⟩ := bind_eq_ok.1 h
  exact Feed.isOpen_of_modify hmodify

/-- A revoke that is not refused finds the feed open. -/
theorem isOpen_of_revoke {any : Bool} (h : c.revoke t id = .ok (any, c')) : c.feed.closed = false := by
  obtain ⟨⟨revoked, feed⟩, hmodify, -⟩ := bind_eq_ok.1 h
  exact Feed.isOpen_of_modify hmodify

/-- The configurations after a merge that was not refused. -/
theorem configuration?_of_merge {f : Fragment} (h : c.merge f = .ok c') (x : TenantId) :
    c'.configuration? x =
      if f.tenant = x then some (((c.configuration? x).getD .empty).insertLayer f.id f.properties) else c.configuration? x := by
  rw [← Except.ok.inj ((merge_of_open (isOpen_of_merge h) f).symm.trans h), configuration?_publishPut]
  split
  · rename_i hx
    rw [hx]
  · rfl

/-- Merging that is not refused gives the tenant the layer, and changes who holds no other. -/
theorem holds_of_merge {f : Fragment} (h : c.merge f = .ok c') (x : TenantId) (id : String) :
    c'.holds x id = if f.tenant = x ∧ f.id = id then true else c.holds x id := by
  rw [holds_eq, configuration?_of_merge h, holds_eq]
  by_cases hx : f.tenant = x
  · rw [if_pos hx, Option.bind_some, Configuration.insertLayer, Configuration.layer?, Entries.get?_file]
    by_cases hid : f.id = id
    · simp [hx, hid]
    · rw [if_neg hid, if_neg fun hboth => hid hboth.2]
      cases c.configuration? x <;> rfl
  · rw [if_neg hx, if_neg fun hboth => hx hboth.1]

theorem growsTo_merge {f : Fragment} (h : c.merge f = .ok c') : c.feed.GrowsTo c'.feed := by
  obtain ⟨⟨any, feed⟩, hmodify, hresult⟩ := bind_eq_ok.1 h
  obtain rfl := Except.ok.inj hresult
  exact (Feed.stepsTo_modify hmodify).growsTo

theorem growsTo_revoke {any : Bool} (h : c.revoke t id = .ok (any, c')) : c.feed.GrowsTo c'.feed := by
  obtain ⟨⟨revoked, feed⟩, hmodify, hresult⟩ := bind_eq_ok.1 h
  obtain ⟨-, rfl⟩ := Prod.mk.inj (Except.ok.inj hresult)
  cases revoked with
  | true => exact (Feed.stepsTo_modify hmodify).growsTo
  | false => exact .refl c.feed

/-- Merging and revoking leave an open composer open. -/
theorem closed_of_merge {f : Fragment} (h : c.merge f = .ok c') : c'.feed.closed = c.feed.closed := by
  have hmerge := merge_of_open (isOpen_of_merge h) f
  rw [← Except.ok.inj (hmerge.symm.trans h)]
  rfl

theorem closed_of_revoke {any : Bool} (h : c.revoke t id = .ok (any, c')) : c'.feed.closed = c.feed.closed := by
  rcases revoke_cases h with ⟨-, -, rfl⟩ | ⟨-, -, configuration, -, rfl⟩
  · rfl
  · cases (configuration.removeLayer id).isEmpty <;> rfl

/-- A revoke that is not refused leaves an open composer. -/
theorem isOpen_after_revoke {any : Bool} (h : c.revoke t id = .ok (any, c')) : c'.feed.closed = false :=
  (closed_of_revoke h).trans (isOpen_of_revoke h)

/-- An open composer does not refuse to revoke. -/
theorem exists_revoke (h : c.feed.closed = false) (t : TenantId) (id : String) : ∃ any c', c.revoke t id = .ok (any, c') := by
  rw [revoke_of_open h]
  exact ⟨_, _, rfl⟩

/-- Merges and revokes, none of them refused, have made one composer of the other. -/
inductive Writes (c : Composer) : Composer → Prop
  | refl : Writes c c
  | merge {c' c'' : Composer} {f : Fragment} : Writes c c' → c'.merge f = .ok c'' → Writes c c''
  | revoke {c' c'' : Composer} {t : TenantId} {id : String} {any : Bool} :
    Writes c c' → c'.revoke t id = .ok (any, c'') → Writes c c''

theorem Writes.trans {c'' : Composer} (h : c.Writes c') (h' : c'.Writes c'') : c.Writes c'' := by
  induction h' with
  | refl => exact h
  | merge _ hmerge ih => exact ih.merge hmerge
  | revoke _ hrevoke ih => exact ih.revoke hrevoke

/-- Merges and revokes publish what they do, and never that everything is gone. -/
theorem Writes.growsBy (h : c.Writes c') : ∃ since, c.feed.GrowsBy since c'.feed ∧ .clear ∉ since := by
  induction h with
  | refl => exact ⟨[], .refl c.feed, List.not_mem_nil⟩
  | @merge c' c'' f _ hmerge ih =>
    obtain ⟨since, hsince, hclear⟩ := ih
    have hopen := isOpen_of_merge hmerge
    obtain rfl := Except.ok.inj ((merge_of_open hopen f).symm.trans hmerge)
    exact ⟨since ++ [.put f.tenant _], hsince.trans (Feed.growsBy_publish hopen (.put f.tenant _) trivial), by simp [hclear]⟩
  | @revoke c' c'' t id any _ hrevoke ih =>
    obtain ⟨since, hsince, hclear⟩ := ih
    have hopen := isOpen_of_revoke hrevoke
    rcases revoke_cases hrevoke with ⟨-, -, rfl⟩ | ⟨-, -, configuration, hconf, rfl⟩
    · exact ⟨since, hsince, hclear⟩
    · cases (configuration.removeLayer id).isEmpty with
      | true =>
        exact ⟨since ++ [.remove t configuration],
          hsince.trans (Feed.growsBy_publish hopen (.remove t configuration) hconf), by simp [hclear]⟩
      | false => exact ⟨since ++ [.put t _], hsince.trans (Feed.growsBy_publish hopen (.put t _) trivial), by simp [hclear]⟩

/-- Merges and revokes only add to what is published. -/
theorem Writes.growsTo (h : c.Writes c') : c.feed.GrowsTo c'.feed := by
  obtain ⟨since, hsince, -⟩ := h.growsBy
  exact ⟨since, hsince⟩

/-- Merges and revokes neither open nor close the feed. -/
theorem Writes.closed (h : c.Writes c') : c'.feed.closed = c.feed.closed := by
  induction h with
  | refl => rfl
  | merge _ hmerge ih => exact (closed_of_merge hmerge).trans ih
  | revoke _ hrevoke ih => exact (closed_of_revoke hrevoke).trans ih

/-- Revoking a layer from several tenants is a sequence of revokes. -/
theorem writes_revokeAll {tenants : List TenantId} (h : c.revokeAll id tenants = .ok c') : c.Writes c' := by
  induction tenants generalizing c with
  | nil =>
    obtain rfl := Except.ok.inj h
    exact .refl
  | cons t tenants ih =>
    obtain ⟨⟨any, middle⟩, hrevoke, hrest⟩ := bind_eq_ok.1 h
    exact (Writes.refl.revoke hrevoke).trans (ih hrest)

/-- A closed composer refuses to merge and to revoke. -/
theorem merge_of_closed (h : c.feed.closed = true) (f : Fragment) : c.merge f = .error .closed := by
  rw [merge, Feed.modify, if_pos h]
  rfl

/-- A closed composer refuses every revoke. -/
theorem revoke_of_closed (h : c.feed.closed = true) (t : TenantId) (id : String) : c.revoke t id = .error .closed := by
  rw [revoke, Feed.modify, if_pos h]
  rfl

/-- A closed composer stays what it is. -/
theorem Writes.eq_of_closed (h : c.Writes c') (hc : c.feed.closed = true) : c' = c := by
  induction h with
  | refl => rfl
  | merge _ hmerge ih =>
    rw [ih, merge_of_closed hc] at hmerge
    nomatch hmerge
  | revoke _ hrevoke ih =>
    rw [ih, revoke_of_closed hc] at hrevoke
    nomatch hrevoke

/-- Closing a closed composer changes nothing. -/
theorem close_of_closed (h : c.feed.closed = true) : c.close = c := by
  rw [close, Feed.close_of_closed h]

/-- Who holds a layer has a configuration. -/
theorem mem_tenants_of_holds (h : c.holds t id = true) : t ∈ c.tenants := by
  rw [holds_eq] at h
  obtain ⟨configuration, hconf, -⟩ := Option.bind_eq_some_iff.1 (Option.eq_some_of_isSome h)
  exact c.feed.entries.mem_keys.2 ⟨configuration, hconf⟩

/-- The owners of a fragment are the tenants that hold its layer. -/
theorem mem_owners {order : List TenantId} : t ∈ c.owners id order ↔ c.holds t id = true := by
  rw [owners, List.mem_filter, and_iff_right_iff_imp]
  intro hholds
  exact ((Entries.arrange_perm order c.feed.entries.distinct).map Prod.fst).mem_iff.2 (mem_tenants_of_holds hholds)

end

/-! ## Open composers by their layers -/

/-- The composer is open, and its tenants have the layers given. -/
structure Carries (c : Composer) (layers : TenantId → List (String × Properties)) : Prop where
  isOpen : c.feed.closed = false
  configuration : ∀ t, c.configuration? t = Configuration.ofLayers? (layers t)

variable {c : Composer} {layers : TenantId → List (String × Properties)}

/-- A new composer has no layers. -/
theorem carries_new (capacity : Nat) : (Composer.new capacity).Carries fun _ => [] := ⟨rfl, fun _ => rfl⟩

theorem Carries.congr (h : c.Carries layers) {layers' : TenantId → List (String × Properties)}
    (hl : ∀ t, layers t = layers' t) : c.Carries layers' :=
  ⟨h.isOpen, fun t => hl t ▸ h.configuration t⟩

/-- A tenant holds the layers that it has. -/
theorem Carries.holds (h : c.Carries layers) (t : TenantId) (id : String) :
    c.holds t id = (Entries.get? (layers t) id).isSome := by
  rw [holds_eq, h.configuration t, Configuration.layer?_ofLayers?]

/-- The owners of a fragment are the tenants that have its layer. -/
theorem Carries.mem_owners (h : c.Carries layers) {t : TenantId} {id : String} {order : List TenantId} :
    t ∈ c.owners id order ↔ (Entries.get? (layers t) id).isSome = true := by
  rw [Composer.mem_owners, h.holds]

/-- Merging registers the layer last with its tenant. -/
theorem Carries.merge (h : c.Carries layers) (f : Fragment) : ∃ c', c.merge f = .ok c' ∧ c.feed.GrowsTo c'.feed ∧
    c'.Carries fun t => if f.tenant = t then Entries.file (layers t) f.id f.properties else layers t := by
  have hmerge := merge_of_open h.isOpen f
  refine ⟨_, hmerge, growsTo_merge hmerge, h.isOpen, fun t => ?_⟩
  rw [configuration?_publishPut]
  by_cases ht : f.tenant = t
  · rw [if_pos ht, if_pos ht, ← ht, h.configuration f.tenant, Configuration.insertLayer,
      Configuration.layers_getD_ofLayers?]
    exact (Configuration.ofLayers?_of_ne_nil (List.append_ne_nil_of_right_ne_nil _ (List.cons_ne_nil _ _))).symm
  · rw [if_neg ht, if_neg ht]
    exact h.configuration t

/-- Revoking erases the layer from the tenant, and tells whether there was one. -/
theorem Carries.revoke (h : c.Carries layers) (t : TenantId) (id : String) :
    ∃ c', c.revoke t id = .ok ((Entries.get? (layers t) id).isSome, c') ∧ c.feed.GrowsTo c'.feed ∧
      c'.Carries fun x => if t = x then Entries.erase (layers x) id else layers x := by
  have hrevoke := revoke_of_open h.isOpen t id
  rw [h.configuration t] at hrevoke
  cases hlayer : Entries.get? (layers t) id with
  | none =>
    have hnothing : c.revoke t id = .ok (false, c) := by
      rw [hrevoke]
      cases hlayers : layers t with
      | nil => rfl
      | cons e rest =>
        have hnone : (⟨e :: rest⟩ : Configuration).layer? id = none := hlayers ▸ hlayer
        simp [Configuration.ofLayers?, hnone]
    refine ⟨c, hnothing, .refl c.feed, h.congr fun x => ?_⟩
    by_cases hx : t = x
    · rw [if_pos hx, ← hx, Entries.erase_eq_self (Entries.get?_eq_none_iff.1 hlayer)]
    · rw [if_neg hx]
  | some properties =>
    have hne : layers t ≠ [] := by
      intro hnil
      rw [hnil] at hlayer
      nomatch hlayer
    have hhas : (⟨layers t⟩ : Configuration).layer? id = some properties := hlayer
    rw [Configuration.ofLayers?_of_ne_nil hne] at hrevoke
    simp only [hhas, Option.isNone_some, Bool.false_eq_true, if_false] at hrevoke
    refine ⟨_, hrevoke, growsTo_revoke hrevoke, ?_, fun x => ?_⟩
    · cases (Configuration.removeLayer ⟨layers t⟩ id).isEmpty <;> exact h.isOpen
    · rw [configuration?_publishRest]
      by_cases hx : t = x
      · rw [if_pos hx, if_pos hx, ← hx]
        rfl
      · rw [if_neg hx, if_neg hx]
        exact h.configuration x

/-- Revoking from several tenants erases the layer from each of them. -/
theorem Carries.revokeAll (h : c.Carries layers) (id : String) (tenants : List TenantId) :
    ∃ c', c.revokeAll id tenants = .ok c' ∧ c.feed.GrowsTo c'.feed ∧
      c'.Carries fun x => if x ∈ tenants then Entries.erase (layers x) id else layers x := by
  induction tenants generalizing c layers with
  | nil => exact ⟨c, rfl, .refl c.feed, h.congr fun x => by simp⟩
  | cons t tenants ih =>
    obtain ⟨c', hrevoke, hgrows, hc'⟩ := h.revoke t id
    obtain ⟨c'', hrest, hgrows', hc''⟩ := ih hc'
    refine ⟨c'', ?_, hgrows.trans hgrows', hc''.congr fun x => ?_⟩
    · rw [Composer.revokeAll, hrevoke]
      exact hrest
    · by_cases hx : t = x
      · by_cases hmem : x ∈ tenants <;> simp [hx, hmem, Entries.erase_erase]
      · have hx' : x ≠ t := fun he => hx he.symm
        by_cases hmem : x ∈ tenants <;> simp [hx, hx', hmem]

/-- Revoking from the owners erases the layer from every tenant. -/
theorem Carries.revokeAll_owners (h : c.Carries layers) (id : String) (order : List TenantId) :
    ∃ c', c.revokeAll id (c.owners id order) = .ok c' ∧ c.feed.GrowsTo c'.feed ∧
      c'.Carries fun x => Entries.erase (layers x) id := by
  obtain ⟨c', hrevoke, hgrows, hc'⟩ := h.revokeAll id (c.owners id order)
  refine ⟨c', hrevoke, hgrows, hc'.congr fun x => ?_⟩
  by_cases hmem : x ∈ c.owners id order
  · rw [if_pos hmem]
  · have hnone : Entries.get? (layers x) id = none := by simpa using mt h.mem_owners.2 hmem
    rw [if_neg hmem, Entries.erase_eq_self (Entries.get?_eq_none_iff.1 hnone)]

end Composer

end TenantGateway
