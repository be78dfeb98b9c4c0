import TenantGateway.Catalog.History
import TenantGateway.Proofs.Run
import TenantGateway.Proofs.Store.Run

/-!
# The catalog lists the live instances

A catalog that has gone through a history of discovery lists the instances that the history leaves, each once under its
identity (`Catalog.Lists`), and finds those of a tenant (`Lists.ofTenant_perm`). An instance is live when the last event about it
is an addition that succeeded (`DiscoveryEvent.mem_live_iff`).
-/

namespace TenantGateway

/-- The operation on the instances that an event stands for. -/
def DiscoveryEvent.storeOp : DiscoveryEvent → StoreOp String String ServiceInstance
  | .add i => .add i
  | .remove id => .remove id

/-- Adding an instance without identity changes nothing. -/
theorem DiscoveryEvent.applyTo_add_none {live : List (String × ServiceInstance)} {i : ServiceInstance}
    (h : i.identity? = none) : (DiscoveryEvent.add i).applyTo live = live := by
  simp only [applyTo, h]

/-- Adding an instance files it under its identity, behind the others. -/
theorem DiscoveryEvent.applyTo_add_some {live : List (String × ServiceInstance)} {i : ServiceInstance} {id : String}
    (h : i.identity? = some id) : (DiscoveryEvent.add i).applyTo live = Entries.file live id i := by
  simp only [applyTo, h]

theorem ServiceInstance.identity?_eq_some {i : ServiceInstance} {id : String} (h : i.identity? = some id) : i.id = id := by
  unfold identity? at h
  split at h
  · nomatch h
  · exact Option.some.inj h

namespace DiscoveryEvent

/-- An instance is live when the last event about its identity is its addition. -/
theorem get?_live_eq_some_iff {events : List DiscoveryEvent} {id : String} {i : ServiceInstance} :
    Entries.get? (live events) id = some i ↔ ∃ before later, events = before ++ .add i :: later ∧ i.identity? = some id ∧
      ∀ e ∈ later, ¬e.Touches id := by
  have hsnoc : ∀ events (e : DiscoveryEvent),
      Entries.get? (live (events ++ [e])) id = if e.Touches id then e.instance? else Entries.get? (live events) id := by
    intro events e
    have hlive : live (events ++ [e]) = e.applyTo (live events) := List.foldl_append
    rw [hlive]
    cases e with
    | add i =>
      cases hi : i.identity? with
      | none => simp [applyTo_add_none hi, Touches, hi]
      | some id' => simp [applyTo_add_some hi, Touches, hi, Entries.get?_file, instance?]
    | remove removed => exact Entries.get?_erase _ _ _
  rw [eq_some_iff_last (fun events => Entries.get? (live events) id) (Touches id) instance? rfl hsnoc]
  constructor
  · rintro ⟨before, e, later, rfl, ⟨htouches, hadds⟩, hlater⟩
    cases e with
    | add j =>
      obtain rfl := Option.some.inj hadds
      exact ⟨before, later, rfl, htouches, hlater⟩
    | remove removed => cases hadds
  · rintro ⟨before, later, rfl, hid, hlater⟩
    exact ⟨before, .add i, later, rfl, ⟨hid, rfl⟩, hlater⟩

end DiscoveryEvent

namespace Catalog

/-- The catalog lists the instances given, each under its identity, by tenant and by deployment. -/
structure Lists (c : Catalog) (live : List (String × ServiceInstance)) : Prop where
  sound : c.instances.Sound
  plain : c.instances.plain = ⟨ServiceInstance.identity?, live, [tenantKeys, deploymentKeys]⟩
  identity : ∀ e ∈ live, e.2.identity? = some e.1

variable {c : Catalog} {live : List (String × ServiceInstance)}

theorem lists_new : Catalog.new.Lists [] := by
  obtain ⟨-, hr, hs⟩ := Store.after_refines ServiceInstance.identity? [.createIndex tenantKeys, .createIndex deploymentKeys]
  exact ⟨hs, hr.plain_eq, fun e he => nomatch he⟩

theorem Lists.items (h : c.Lists live) : c.instances.items = live := congrArg PlainStore.items h.plain

/-- An identity is found where it is listed. -/
theorem Lists.get?_eq (h : c.Lists live) (id : String) : c.get? id = Entries.get? live id :=
  congrArg (fun items => Entries.get? items id) h.items

/-- An instance that is added under its identity stands last. -/
theorem Lists.distinct (h : c.Lists live) : Entries.Distinct live := h.items ▸ h.sound.distinct

/-- Applying an event performs its operation on the instances; an event that cannot be applied changes nothing. -/
theorem instances_apply (c : Catalog) (e : DiscoveryEvent) :
    ((c.apply e).toOption.getD c).instances = (c.instances.perform e.storeOp).2 := by
  cases e with
  | add i =>
    cases hadd : c.instances.add i with
    | ok result => simp [Catalog.apply, Catalog.add, DiscoveryEvent.storeOp, Store.perform, hadd]; rfl
    | error error => simp [Catalog.apply, Catalog.add, DiscoveryEvent.storeOp, Store.perform, hadd]; rfl
  | remove id =>
    cases hget : c.instances.get? id with
    | none => simp [Catalog.apply, Catalog.remove, DiscoveryEvent.storeOp, Store.perform, Store.remove, hget]; rfl
    | some i => simp [Catalog.apply, Catalog.remove, DiscoveryEvent.storeOp, Store.perform, Store.remove, hget]; rfl

/-- An event does to the list of instances what a history says. -/
theorem Lists.apply (h : c.Lists live) (e : DiscoveryEvent) :
    ((c.apply e).toOption.getD c).Lists (e.applyTo live) := by
  have hplain := h.sound.plain_perform e.storeOp
  rw [← instances_apply, h.plain] at hplain
  refine ⟨instances_apply c e ▸ h.sound.perform _, hplain.trans ?_, fun x hx => ?_⟩
  · cases e with
    | add i =>
      cases hid : i.identity? with
      | none => rw [DiscoveryEvent.applyTo_add_none hid, DiscoveryEvent.storeOp, PlainStore.perform_add_none (by exact hid)]
      | some id => rw [DiscoveryEvent.applyTo_add_some hid, DiscoveryEvent.storeOp, PlainStore.perform_add_some (by exact hid)]
    | remove id => rfl
  · cases e with
    | add i =>
      cases hid : i.identity? with
      | none =>
        rw [DiscoveryEvent.applyTo_add_none hid] at hx
        exact h.identity x hx
      | some id =>
        rw [DiscoveryEvent.applyTo_add_some hid] at hx
        rcases List.mem_append.1 hx with hx | hx
        · exact h.identity x (Entries.mem_erase.1 hx).1
        · rw [List.mem_singleton.1 hx]
          exact hid
    | remove id => exact h.identity x (Entries.mem_erase.1 hx).1

/-- The instances found for a tenant are those of the tenant, in some order. -/
theorem Lists.ofTenant_perm (h : c.Lists live) (t : TenantId) :
    (c.ofTenant t.text).Perm ((live.map Prod.snd).filter fun i => i.tenant = t) := by
  have hlookup := h.sound.lookup_perm (Store.refines_plain c.instances) 0 t.text
  rw [h.plain] at hlookup
  refine hlookup.trans (List.Perm.of_eq (List.filter_congr fun i _ => ?_))
  have htext : t.text ∈ [i.tenant.text] ↔ i.tenant = t := by
    rw [List.mem_singleton]
    exact ⟨fun ht => Identifier.eq_of_text_eq ht.symm, fun ht => ht ▸ rfl⟩
  exact decide_eq_decide.2 htext

/-- The listed instances are those that are found under their identities. -/
theorem Lists.get?_id_eq_some_iff (h : c.Lists live) {i : ServiceInstance} :
    Entries.get? live i.id = some i ↔ i ∈ live.map Prod.snd := by
  rw [Entries.get?_eq_some_iff h.distinct]
  constructor
  · exact fun hmem => List.mem_map_of_mem hmem
  · intro hmem
    obtain ⟨e, he, rfl⟩ := List.mem_map.1 hmem
    rw [ServiceInstance.identity?_eq_some (h.identity e he)]
    exact he

/-- The instances found for a tenant are those of the tenant that are found under their identities. -/
theorem Lists.mem_ofTenant (h : c.Lists live) {t : TenantId} {i : ServiceInstance} :
    i ∈ c.ofTenant t.text ↔ i.tenant = t ∧ c.get? i.id = some i := by
  rw [(h.ofTenant_perm t).mem_iff, List.mem_filter, ← h.get?_id_eq_some_iff, ← h.get?_eq, decide_eq_true_iff, and_comm]

/-- Instances with the same identity are one. -/
theorem Lists.eq_of_id_eq (h : c.Lists live) {i j : ServiceInstance} (hi : i ∈ live.map Prod.snd)
    (hj : j ∈ live.map Prod.snd) (hid : i.id = j.id) : i = j := by
  obtain ⟨e, he, rfl⟩ := List.mem_map.1 hi
  obtain ⟨d, hd, rfl⟩ := List.mem_map.1 hj
  have hkey : e.1 = d.1 := by
    rw [← ServiceInstance.identity?_eq_some (h.identity e he), ← ServiceInstance.identity?_eq_some (h.identity d hd), hid]
  rw [List.inj_on_of_nodup_map h.distinct he hd hkey]

/-- An instance can be added when it has an identity. -/
theorem Lists.exists_add_eq_ok_iff (h : c.Lists live) {i : ServiceInstance} :
    (∃ result, c.add i = .ok result) ↔ i.identity? = some i.id := by
  have hidentity : c.instances.identity = ServiceInstance.identity? := congrArg PlainStore.identity h.plain
  cases hid : i.identity? with
  | none =>
    have hadd : c.instances.add i = .error .missingIdentity := by rw [Store.add, hidentity, hid]
    rw [add, hadd]
    refine ⟨?_, fun hnone => by cases hnone⟩
    rintro ⟨result, hresult⟩
    cases hresult
  | some id =>
    obtain ⟨result, hadd⟩ : ∃ result, c.instances.add i = .ok result := by
      rw [Store.add, hidentity, hid]
      exact ⟨_, rfl⟩
    rw [add, hadd]
    exact ⟨fun _ => congrArg some (ServiceInstance.identity?_eq_some hid).symm, fun _ => ⟨_, rfl⟩⟩

/-- After a history of discovery the catalog lists the live instances. -/
theorem lists_applyAll (events : List DiscoveryEvent) : (Catalog.new.applyAll events).Lists (DiscoveryEvent.live events) := by
  induction events using List.reverseRecOn with
  | nil => exact lists_new
  | append_singleton events e ih =>
    rw [applyAll, DiscoveryEvent.live, List.foldl_append, List.foldl_append]
    exact ih.apply e

end Catalog

namespace DiscoveryEvent

/-- The live instances are those whose last event is their addition. -/
theorem mem_live_iff {events : List DiscoveryEvent} {i : ServiceInstance} :
    i ∈ (live events).map Prod.snd ↔ LastAdds events i := by
  rw [← (Catalog.lists_applyAll events).get?_id_eq_some_iff, get?_live_eq_some_iff]
  refine exists_congr fun before => exists_congr fun later => and_congr_right fun _ => and_congr_left fun _ => ?_
  exact (Catalog.lists_applyAll before).exists_add_eq_ok_iff.symm

end DiscoveryEvent

end TenantGateway
