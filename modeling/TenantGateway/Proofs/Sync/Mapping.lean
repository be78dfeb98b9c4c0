import TenantGateway.Proofs.Base64
import TenantGateway.Proofs.Dictionary
import TenantGateway.Proofs.Text.Blank
import TenantGateway.Sync.Mapping

/-!
# Secrets decode exactly

The payload of a secret stands for the properties whose base64 texts are its values, trimmed
(`ResourceKind.decode_secret_eq_some_iff`), and for nothing when one of its values is no such text. So a secret contributes what a
config map with the decoded values would (`LabelSelector.secret_decodes_exactly`).
-/

namespace TenantGateway

/-! ## Payloads -/

namespace ResourceKind

variable {data properties : Properties}

/-- A value that is found is an entry, and an entry is found. -/
theorem forall_entries_iff {P : String → Prop} :
    (∀ e ∈ data.entries, P e.2) ↔ ∀ k v, data.get? k = some v → P v := by
  constructor
  · exact fun h k v hv => h (k, v) (data.mem_entries.2 hv)
  · exact fun h e he => h e.1 e.2 (data.mem_entries.1 he)

/-- A secret is decoded when each of its values is the base64 text of some text. -/
theorem exists_decode_secret_iff :
    (∃ properties, ResourceKind.secret.decode data = some properties) ↔
      ∀ k v, data.get? k = some v → ∃ text, Base64.encodeText text = Text.trimmed v := by
  rw [← forall_entries_iff (P := fun v => ∃ text, Base64.encodeText text = Text.trimmed v)]
  have hvalues := Entries.exists_mapM_eq_some_iff (f := fun v => Base64.decodeText (Text.trimmed v)) (l := data.entries)
  simp only [Base64.decodeText_eq_some_iff] at hvalues
  simp only [eq_comm (a := Base64.encodeText _), ← hvalues, decode, Option.map_eq_some_iff]
  exact ⟨fun ⟨_, m, hm, _⟩ => ⟨m, hm⟩, fun ⟨m, hm⟩ => ⟨_, m, hm, rfl⟩⟩

/-- A decoded secret has the properties whose base64 texts are its values. -/
theorem get?_of_decode_secret (h : ResourceKind.secret.decode data = some properties) (k : String) :
    (properties.get? k).map Base64.encodeText = (data.get? k).map Text.trimmed := by
  have hread := exists_decode_secret_iff.1 ⟨properties, h⟩
  obtain ⟨m, hm, rfl⟩ := Option.map_eq_some_iff.1 h
  obtain ⟨hkeys, hget⟩ := Entries.get?_of_mapM (f := fun v => Base64.decodeText (Text.trimmed v)) hm
  have hdistinct : Entries.Distinct m := by
    rw [Entries.Distinct, hkeys]
    exact data.distinct
  rw [Dictionary.get?_ofList hdistinct, hget]
  change ((data.get? k).bind _).map _ = _
  cases hv : data.get? k with
  | none => rfl
  | some v =>
    obtain ⟨text, htext⟩ := hread k v hv
    have hdecode : Base64.decodeText (Text.trimmed v) = some text := Base64.decodeText_eq_some_iff.2 htext.symm
    simp only [Option.bind_some, hdecode, Option.map_some, htext]

/-- A secret is decoded to the properties whose base64 texts are its values, and to no others. -/
theorem decode_secret_eq_some_iff : ResourceKind.secret.decode data = some properties ↔
    ∀ k, (properties.get? k).map Base64.encodeText = (data.get? k).map Text.trimmed := by
  refine ⟨fun h => get?_of_decode_secret h, fun h => ?_⟩
  have hread : ∀ k v, data.get? k = some v → ∃ text, Base64.encodeText text = Text.trimmed v := by
    intro k v hv
    have hk := h k
    rw [hv, Option.map_some] at hk
    obtain ⟨text, -, htext⟩ := Option.map_eq_some_iff.1 hk
    exact ⟨text, htext⟩
  obtain ⟨decoded, hdecoded⟩ := exists_decode_secret_iff.2 hread
  have hsame : decoded = properties := Dictionary.ext_get? fun k =>
    Option.map_injective (fun _ _ => Base64.encodeText_injective) ((get?_of_decode_secret hdecoded k).trans (h k).symm)
  rw [hdecoded, hsame]

/-- The base64 texts of the values of a config map, with blanks around them, decode to these values. -/
theorem decode_secret_of_encoded {encoded : Properties} {before after : String → String}
    (hblank : ∀ k, Text.isBlank (before k) = true ∧ Text.isBlank (after k) = true)
    (hencoded : ∀ k, encoded.get? k = (data.get? k).map fun text => before k ++ Base64.encodeText text ++ after k) :
    ResourceKind.secret.decode encoded = some data := by
  refine decode_secret_eq_some_iff.2 fun k => ?_
  rw [hencoded]
  cases data.get? k with
  | none => rfl
  | some text =>
    have htrimmed : Text.trimmed (before k ++ Base64.encodeText text ++ after k) = Base64.encodeText text := by
      refine Text.trimmed_append (hblank k).1 (fun c hc => ?_) (hblank k).2
      rw [Base64.encodeText, String.toList_ofList] at hc
      exact Base64.not_blank_of_mem_encode hc
    simp only [Option.map_some, htrimmed]

end ResourceKind

/-! ## Fragments -/

namespace LabelSelector

variable {s : LabelSelector} {r : Resource} {kind : ResourceKind}

/-- The labels name a tenant for the uid of the resource. -/
theorem identify_uid {tenant : TenantId} {id : String} (h : s.identify r = some (tenant, id)) : id = r.uid := by
  unfold identify at h
  split at h
  · obtain ⟨tenant', -, h⟩ := Option.bind_eq_some_iff.1 h
    exact (Prod.mk.inj (Option.some.inj h)).2.symm
  · cases h

/-- A fragment has the uid of its resource, and goes to the tenant that the labels name. -/
theorem fragment?_eq_some {f : Fragment} (h : s.fragment? kind r = some f) :
    f.id = r.uid ∧ s.identify r = some (f.tenant, r.uid) := by
  obtain ⟨⟨tenant, id⟩, hid, h⟩ := Option.bind_eq_some_iff.1 h
  obtain ⟨properties, -, h⟩ := Option.bind_eq_some_iff.1 h
  obtain rfl := Option.some.inj h
  exact ⟨LabelSelector.identify_uid hid, LabelSelector.identify_uid hid ▸ hid⟩

/-- A resource whose labels name a tenant contributes what its payload stands for. -/
theorem fragment?_of_identify {tenant : TenantId} {id : String} (h : s.identify r = some (tenant, id)) :
    s.fragment? kind r = (kind.decode r.data).map (Fragment.mk r.uid tenant) := by
  obtain rfl := identify_uid h
  rw [fragment?, h]
  cases kind.decode r.data <;> rfl

/-- A secret whose labels name a tenant contributes a fragment exactly when each of its values, trimmed, is the padded base64 text
of the UTF-8 bytes of some text; the fragment has the uid of the secret, the tenant named, and these texts as its properties. One
value that is no such text makes the whole secret contribute nothing. So the base64 texts of a payload, with blanks around them,
contribute as a secret what the payload contributes as a config map. -/
theorem secret_decodes_exactly (s : LabelSelector) (r : Resource) {tenant : TenantId} {id : String}
    (hid : s.identify r = some (tenant, id)) :
    (∀ f, s.fragment? .secret r = some f ↔ f.id = r.uid ∧ f.tenant = tenant ∧
      ∀ k, (f.properties.get? k).map Base64.encodeText = (r.data.get? k).map Text.trimmed) ∧
    ((∃ f, s.fragment? .secret r = some f) ↔
      ∀ k v, r.data.get? k = some v → ∃ text, Base64.encodeText text = Text.trimmed v) ∧
    (∀ k v, r.data.get? k = some v → (∀ text, Base64.encodeText text ≠ Text.trimmed v) → s.fragment? .secret r = none) ∧
    ∀ (m encoded : Properties) (before after : String → String),
      (∀ k, Text.isBlank (before k) = true ∧ Text.isBlank (after k) = true) →
      (∀ k, encoded.get? k = (m.get? k).map fun text => before k ++ Base64.encodeText text ++ after k) →
      s.fragment? .secret { r with data := encoded } = s.fragment? .configMap { r with data := m } ∧
        s.fragment? .configMap { r with data := m } = some ⟨r.uid, tenant, m⟩ := by
  have hfragment : ∀ data kind, s.fragment? kind { r with data := data } = (kind.decode data).map (Fragment.mk r.uid tenant) :=
    fun data kind => fragment?_of_identify (r := { r with data := data }) hid
  have hexists : (∃ f, s.fragment? .secret r = some f) ↔
      ∀ k v, r.data.get? k = some v → ∃ text, Base64.encodeText text = Text.trimmed v := by
    rw [← ResourceKind.exists_decode_secret_iff, fragment?_of_identify hid]
    simp only [Option.map_eq_some_iff]
    exact ⟨fun ⟨_, properties, h, _⟩ => ⟨properties, h⟩, fun ⟨properties, h⟩ => ⟨_, properties, h, rfl⟩⟩
  refine ⟨fun f => ?_, hexists, fun k v hv hbad => ?_, fun m encoded before after hblank hencoded => ?_⟩
  · simp only [fragment?_of_identify hid, Option.map_eq_some_iff, ResourceKind.decode_secret_eq_some_iff]
    constructor
    · rintro ⟨properties, h, rfl⟩
      exact ⟨rfl, rfl, h⟩
    · rintro ⟨huid, rfl, h⟩
      exact ⟨f.properties, h, by rw [← huid]⟩
  · rw [← Option.not_isSome_iff_eq_none, Option.isSome_iff_exists, hexists]
    exact fun h => (h k v hv).elim hbad
  · rw [hfragment, hfragment, ResourceKind.decode_secret_of_encoded hblank hencoded]
    exact ⟨rfl, rfl⟩

/-- A value between blanks is decoded; with a bit set that no byte uses, it keeps the whole secret from contributing. -/
theorem secret_decodes_exactly_padded :
    let t : TenantId := ⟨"a", by decide⟩
    let s : LabelSelector := ⟨"tenant", "kind", "config"⟩
    let labels : Properties := .ofList [("kind", "config"), ("tenant", "a")]
    let r : Resource := ⟨"u", "r", labels, .ofList [("key", " czNjcmU=\n"), ("other", "")]⟩
    let bad : Resource := ⟨"u", "r", labels, .ofList [("key", "czNjcmV="), ("other", "")]⟩
    s.identify r = some (t, "u") ∧
      s.fragment? .secret r = some ⟨"u", t, .ofList [("key", "s3cre"), ("other", "")]⟩ ∧
      (∀ k v, r.data.get? k = some v → ∃ text, Base64.encodeText text = Text.trimmed v) ∧
      s.fragment? .secret bad = none ∧ ¬∀ k v, bad.data.get? k = some v → ∃ text, Base64.encodeText text = Text.trimmed v := by
  intro t s labels r bad
  have hid : s.identify r = some (t, "u") := by decide
  have hbad : s.identify bad = some (t, "u") := by decide
  have hdecoded : s.fragment? .secret r = some ⟨"u", t, .ofList [("key", "s3cre"), ("other", "")]⟩ := by decide
  have hrefused : s.fragment? .secret bad = none := by decide
  refine ⟨hid, hdecoded, (secret_decodes_exactly s r hid).2.1.1 ⟨_, hdecoded⟩, hrefused, fun h => ?_⟩
  obtain ⟨f, hf⟩ := (secret_decodes_exactly s bad hbad).2.1.2 h
  rw [hrefused] at hf
  nomatch hf

end LabelSelector

end TenantGateway
