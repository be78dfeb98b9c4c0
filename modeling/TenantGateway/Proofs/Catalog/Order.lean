import TenantGateway.Proofs.Router.Choice
import TenantGateway.Proofs.Store.Order

/-!
# The order of a catalog

The instances of a tenant and of a deployment are found in the order in which they were last added (`Catalog.Lists.ofTenant_eq`,
`Catalog.Lists.ofDeployment?_eq`). An instance that is added again as it is goes to the end of its lists. Everything that does not
depend on the order stays what it was, the routes among it; the first instance of a deployment stays the same unless it is the one added
again and has others behind it (`Catalog.add_again_keeps_iff`).
-/

namespace TenantGateway

namespace Entries

variable {κ α : Type} [DecidableEq κ] {l : List (κ × α)} {k : κ} {a : α}

/-- A list with distinct keys is split at the entry of a key; erasing the key leaves what stands before and after it. -/
theorem exists_split (hl : Distinct l) (h : get? l k = some a) :
    ∃ before after, l = before ++ (k, a) :: after ∧ erase l k = before ++ after := by
  obtain ⟨before, after, rfl⟩ := List.append_of_mem (mem_of_get? h)
  have hnodup : (before.map Prod.fst ++ k :: after.map Prod.fst).Nodup := by
    simpa [Distinct] using hl
  have hbefore : ∀ e ∈ before, e.1 ≠ k := fun e he =>
    (List.nodup_append.1 hnodup).2.2 e.1 (List.mem_map_of_mem he) k List.mem_cons_self
  have hafter : ∀ e ∈ after, e.1 ≠ k := fun e he hk =>
    (List.nodup_cons.1 (List.nodup_append.1 hnodup).2.1).1 (hk ▸ List.mem_map_of_mem he)
  refine ⟨before, after, rfl, ?_⟩
  rw [erase_append, erase_eq_self hbefore, erase, List.filter_cons_of_neg (by simp)]
  exact congrArg _ (erase_eq_self hafter)

/-- Filing an entry again as it is only changes the order. -/
theorem file_perm (hl : Distinct l) (h : get? l k = some a) : (file l k a).Perm l :=
  (List.perm_append_singleton _ _).trans (cons_erase_perm hl h)

end Entries

section

variable {α : Type} {before after : List α} {a : α}

/-- The first of a list is the same when one that occurs once is moved to the end, unless it was the first and not the only one. -/
theorem head?_moved_iff (hbefore : a ∉ before) (hafter : a ∉ after) :
    (before ++ after ++ [a]).head? = (before ++ a :: after).head? ↔
      ((before ++ a :: after).head? = some a → ∀ b ∈ before ++ a :: after, b = a) := by
  cases before with
  | cons b before =>
    have hb : b ≠ a := fun hb => hbefore (hb ▸ List.mem_cons_self)
    simp [hb]
  | nil =>
    cases after with
    | nil => simp
    | cons b after =>
      have hb : b ≠ a := fun hb => hafter (hb ▸ List.mem_cons_self)
      refine iff_of_false (fun hsame => hb (Option.some.inj hsame)) fun hall => hb (hall rfl b ?_)
      exact List.mem_cons_of_mem a List.mem_cons_self

/-- The first that passes a test is the same when one that occurs once is moved to the end, unless it was the first one and not the only
one to pass. -/
theorem head?_filter_moved_iff (hbefore : a ∉ before) (hafter : a ∉ after) (p : α → Bool) :
    ((before ++ after ++ [a]).filter p).head? = ((before ++ a :: after).filter p).head? ↔
      (((before ++ a :: after).filter p).head? = some a → ∀ b ∈ before ++ a :: after, p b = true → b = a) := by
  simp only [← and_imp, ← List.mem_filter]
  cases hp : p a with
  | true =>
    have hbefore' : a ∉ before.filter p := fun hmem => hbefore (List.mem_filter.1 hmem).1
    have hafter' : a ∉ after.filter p := fun hmem => hafter (List.mem_filter.1 hmem).1
    simpa [hp] using head?_moved_iff hbefore' hafter'
  | false =>
    have hkept : (before ++ a :: after).filter p = (before ++ after ++ [a]).filter p := by simp [hp]
    refine iff_of_true (congrArg List.head? hkept.symm) fun hfirst => ?_
    have hmem := (List.mem_filter.1 (List.mem_of_head? hfirst)).2
    nomatch hp.symm.trans hmem

end

namespace Catalog

variable {c : Catalog} {live : List (String × ServiceInstance)}

theorem inOrder_new : Catalog.new.instances.InOrder := by
  have hsound : ∀ ops, (Store.after ServiceInstance.identity? ops : Store String String ServiceInstance).Sound := fun ops =>
    (Store.after_refines ServiceInstance.identity? ops).2.2
  have hcreated : ∀ {s : Store String String ServiceInstance}, s.InOrder → s.Sound → ∀ keysOf,
      (s.perform (.createIndex keysOf [])).2.InOrder := by
    intro s h hs keysOf
    refine h.perform hs fun _ order he => ?_
    cases he
    rfl
  exact hcreated (hcreated (Store.inOrder_new _) (hsound []) _) (hsound [.createIndex tenantKeys]) _

/-- An event keeps the indices in the order of the instances. -/
theorem inOrder_apply (h : c.instances.InOrder) (hs : c.instances.Sound) (e : DiscoveryEvent) :
    ((c.apply e).toOption.getD c).instances.InOrder := by
  rw [instances_apply]
  refine h.perform hs fun keysOf order he => ?_
  cases e <;> nomatch he

/-- The indices of a catalog are in order after every history of discovery. -/
theorem inOrder_applyAll (events : List DiscoveryEvent) : (Catalog.new.applyAll events).instances.InOrder := by
  induction events using List.reverseRecOn with
  | nil => exact inOrder_new
  | append_singleton events e ih =>
    rw [applyAll, List.foldl_append]
    exact inOrder_apply ih (lists_applyAll events).sound e

/-! ## What is found -/

/-- The instances of a tenant are found in the order in which they were last added. -/
theorem Lists.ofTenant_eq (h : c.Lists live) (ho : c.instances.InOrder) (tenant : String) :
    c.ofTenant tenant = (live.map Prod.snd).filter fun i => i.tenant.text = tenant := by
  rw [ofTenant, ho.lookup, h.plain]
  refine List.filter_congr fun i _ => decide_eq_decide.2 ?_
  exact List.mem_singleton.trans eq_comm

/-- The instance found for a deployment is the one of its instances whose last addition came first. -/
theorem Lists.ofDeployment?_eq (h : c.Lists live) (ho : c.instances.InOrder) (deployment : String) :
    c.ofDeployment? deployment = ((live.map Prod.snd).filter fun i => i.deployment.text = deployment).head? := by
  rw [ofDeployment?, ho.lookup, h.plain]
  refine congrArg List.head? (List.filter_congr fun i _ => decide_eq_decide.2 ?_)
  exact List.mem_singleton.trans eq_comm

theorem Lists.size_eq (h : c.Lists live) : c.size = live.length := congrArg List.length h.items

/-! ## Adding again -/

/-- Adding an instance with an identity answers the instance that had the identity, and files the new one last. -/
theorem Lists.add (h : c.Lists live) {i : ServiceInstance} {id : String} (hid : i.identity? = some id) :
    ∃ c', c.add i = .ok (Entries.get? live id, c') ∧ (c.apply (.add i)).toOption.getD c = c' ∧
      c'.Lists (Entries.file live id i) := by
  have hidentity : c.instances.identity = ServiceInstance.identity? := congrArg PlainStore.identity h.plain
  obtain ⟨instances, hadd⟩ : ∃ instances, c.instances.add i = .ok (c.get? id, instances) := by
    rw [Store.add, hidentity, hid]
    exact ⟨_, rfl⟩
  rw [h.get?_eq] at hadd
  have hc : c.add i = .ok (Entries.get? live id, c.recorded instances) := by
    rw [Catalog.add, hadd]
    rfl
  have happly : (c.apply (.add i)).toOption.getD c = c.recorded instances := by
    rw [Catalog.apply, hc]
    rfl
  refine ⟨_, hc, happly, ?_⟩
  have hlists := h.apply (.add i)
  rwa [happly, DiscoveryEvent.applyTo_add_some hid] at hlists

/-- The first instance of a deployment is the same when one is filed again, unless it was the first and there are others. -/
theorem Lists.head?_file_iff (h : c.Lists live) {i : ServiceInstance} (hget : Entries.get? live i.id = some i) (d : String) :
    (((Entries.file live i.id i).map Prod.snd).filter fun j => j.deployment.text = d).head? =
        ((live.map Prod.snd).filter fun j => j.deployment.text = d).head? ↔
      (((live.map Prod.snd).filter fun j => j.deployment.text = d).head? = some i →
        ∀ j ∈ live.map Prod.snd, j.deployment.text = d → j = i) := by
  obtain ⟨before, after, hlive, herase⟩ := Entries.exists_split h.distinct hget
  have haside : ∀ e ∈ before ++ after, e.2 ≠ i := by
    rintro e he rfl
    obtain ⟨hmem, hkey⟩ := Entries.mem_erase.1 (herase ▸ he)
    exact hkey (ServiceInstance.identity?_eq_some (h.identity e hmem)).symm
  have hbefore : i ∉ before.map Prod.snd := fun hmem => by
    obtain ⟨e, he, hi⟩ := List.mem_map.1 hmem
    exact haside e (List.mem_append_left _ he) hi
  have hafter : i ∉ after.map Prod.snd := fun hmem => by
    obtain ⟨e, he, hi⟩ := List.mem_map.1 hmem
    exact haside e (List.mem_append_right _ he) hi
  have hmoved := head?_filter_moved_iff hbefore hafter fun j => decide (j.deployment.text = d)
  rw [Entries.file, herase, hlive]
  simpa only [List.map_append, List.map_cons, List.map_nil, decide_eq_true_eq] using hmoved

/-- Whatever a history of discovery has made of a catalog, adding a listed instance again as it is answers this instance. Then the same
instances are found under their identities, as many as before, and the same ones for every tenant; every host is routed alike, whatever
the resolver. The instance found for a deployment is the same exactly unless it was the one added again and the deployment has another
one. -/
theorem add_again_keeps_iff (events : List DiscoveryEvent) (i : ServiceInstance)
    (h : (Catalog.new.applyAll events).get? i.id = some i) :
    let c := Catalog.new.applyAll events
    ∃ c', c.add i = .ok (some i, c') ∧ (∀ id, c'.get? id = c.get? id) ∧ c'.size = c.size ∧
      (∀ t, (c'.ofTenant t).Perm (c.ofTenant t)) ∧
      (∀ d, c'.ofDeployment? d = c.ofDeployment? d ↔
        (c.ofDeployment? d = some i → ∀ j, c.get? j.id = some j → j.deployment.text = d → j = i)) ∧
      ∀ resolver metrics metrics' host,
        ((⟨resolver, c', metrics'⟩ : Router).route host).1 = ((⟨resolver, c, metrics⟩ : Router).route host).1 := by
  intro c
  have hlists : c.Lists (DiscoveryEvent.live events) := lists_applyAll events
  have horder : c.instances.InOrder := inOrder_applyAll events
  have hget : Entries.get? (DiscoveryEvent.live events) i.id = some i := hlists.get?_eq i.id ▸ h
  have hid : i.identity? = some i.id := hlists.identity _ (Entries.mem_of_get? hget)
  obtain ⟨c', hadd, happly, hlists'⟩ := hlists.add hid
  rw [hget] at hadd
  have hc' : Catalog.new.applyAll (events ++ [.add i]) = c' := by
    rw [applyAll, List.foldl_append]
    exact happly
  have horder' : c'.instances.InOrder := hc' ▸ inOrder_applyAll (events ++ [.add i])
  have hperm := Entries.file_perm hlists.distinct hget
  refine ⟨c', hadd, fun id => ?_, ?_, fun t => ?_, fun d => ?_, fun resolver metrics metrics' host => ?_⟩
  · rw [hlists'.get?_eq, hlists.get?_eq, Entries.get?_file]
    split
    · rename_i he
      rw [← he, hget]
    · rfl
  · rw [hlists'.size_eq, hlists.size_eq, hperm.length_eq]
  · rw [hlists'.ofTenant_eq horder', hlists.ofTenant_eq horder]
    exact (hperm.map Prod.snd).filter _
  · have hdeployment := hlists.ofDeployment?_eq horder d
    have hfirst := hlists.head?_file_iff hget d
    rw [← hlists'.ofDeployment?_eq horder', ← hdeployment] at hfirst
    simp only [← hlists.get?_id_eq_some_iff, ← hlists.get?_eq] at hfirst
    exact hfirst
  · have hlists'' : c'.Lists (DiscoveryEvent.live (events ++ [.add i])) := hc' ▸ lists_applyAll _
    have hlive : DiscoveryEvent.live (events ++ [.add i]) = Entries.file (DiscoveryEvent.live events) i.id i :=
      hlists''.items.symm.trans hlists'.items
    refine Router.route_congr (r := ⟨resolver, c, metrics⟩) (q := ⟨resolver, c', metrics'⟩) rfl hlists hlists'' (fun j => ?_) host
    rw [← DiscoveryEvent.mem_live_iff, ← DiscoveryEvent.mem_live_iff, hlive]
    exact (hperm.map Prod.snd).mem_iff

/-- The second of two instances of a deployment is added again: the first one is still found for the deployment, and requests still go
to it. -/
theorem add_again_keeps_iff_second :
    let a : TenantId := ⟨"a", by decide⟩
    let i : ServiceInstance := ⟨"i", a, ⟨"d", by decide⟩, "10.0.0.1", 80, false, .empty⟩
    let j : ServiceInstance := ⟨"j", a, ⟨"d", by decide⟩, "10.0.0.2", 80, false, .empty⟩
    let c := Catalog.new.applyAll [.add i, .add j]
    let resolver := Resolver.new.apply .feed (.put (.ofHosts a ["x.org"]))
    c.get? "j" = some j ∧ ∃ c', c.add j = .ok (some j, c') ∧ c'.size = 2 ∧ c'.ofDeployment? "d" = some i ∧
      ((⟨resolver, c', .empty⟩ : Router).route "x.org").1 = .ok i := by
  intro a i j c resolver
  have hget : c.get? "j" = some j := by decide
  obtain ⟨c', hadd, -, hsize, -, hdeployment, hroute⟩ := add_again_keeps_iff [.add i, .add j] j hget
  have hfirst : c.ofDeployment? "d" = some i := by decide
  have hij : i ≠ j := by decide
  have hsame := (hdeployment "d").2 fun hj => absurd (Option.some.inj (hfirst.symm.trans hj)) hij
  have hrouted : ((⟨resolver, c, .empty⟩ : Router).route "x.org").1 = .ok i := by decide
  exact ⟨hget, c', hadd, hsize.trans (by decide), hsame.trans hfirst, (hroute resolver .empty .empty "x.org").trans hrouted⟩

/-- The first of two instances of a deployment is added again: now the second one is found for the deployment. -/
theorem add_again_keeps_iff_first :
    let a : TenantId := ⟨"a", by decide⟩
    let i : ServiceInstance := ⟨"i", a, ⟨"d", by decide⟩, "10.0.0.1", 80, false, .empty⟩
    let j : ServiceInstance := ⟨"j", a, ⟨"d", by decide⟩, "10.0.0.2", 80, false, .empty⟩
    let c := Catalog.new.applyAll [.add i, .add j]
    c.get? "i" = some i ∧ c.ofDeployment? "d" = some i ∧
      (c.add i).map (fun result => (result.1, result.2.ofDeployment? "d")) = .ok (some i, some j) := by
  decide

end Catalog

end TenantGateway
