import TenantGateway.Host.Spelling
import TenantGateway.Proofs.Host

/-!
# Every spelling of a host has the same normal form

Trimming leaves the host, its brackets and its port of a spelling (`Spelling.trim_text`), dropping the port leaves the name and the dots
behind it (`withoutPort_of_port`, `withoutPort_of_brackets`), and the name is the normal form but for its case. So all spellings of a
normalised host normalise to it, and among them is the authority of every instance with this host (`Host.spellings_agree`).
-/

namespace TenantGateway

namespace Host

/-! ## Normal forms -/

/-- What the normal form of a host looks like: it is trimmed, begins with no bracket, and has neither dots at the end nor capital
letters. -/
structure Normal (name : List Char) : Prop where
  ne_nil : name ≠ []
  trimmed : Text.trim name = name
  unbracketed : ∀ rest, name ≠ '[' :: rest
  undotted : name.rdropWhile (· == '.') = name
  lower : name.map Char.toLower = name

/-- A host that normalises to itself has the shape of a normal form. -/
theorem normal_of_normalize {name : String} (h : normalize name = some name) : Normal name.toList := by
  obtain ⟨hchars, hne⟩ := normalize_eq_some_iff.1 h
  have hbare : Bare name := (normalize_eq_self_iff h).1 h
  have hdots := rdropWhile_normalizeChars name.toList
  have hlower := map_toLower_normalizeChars name.toList
  rw [hchars] at hdots hlower
  exact ⟨hne, hbare.trimmed, hbare.unbracketed, hdots, hlower⟩

/-! ## Names up to the case of letters -/

section

variable {written name : List Char}

/-- Characters that are no letters occur in a name whatever its case. -/
theorem mem_of_map_toLower_eq (h : written.map Char.toLower = name.map Char.toLower) {d : Char}
    (hd : d.toNat < 65 ∨ 90 < d.toNat ∧ d.toNat < 97 ∨ 122 < d.toNat) : d ∈ written ↔ d ∈ name := by
  have hmem : ∀ cs : List Char, d ∈ cs.map Char.toLower ↔ d ∈ cs := by
    intro cs
    simp [List.mem_map, toLower_eq_iff hd]
  rw [← hmem, h, hmem]

/-- A name is trimmed whatever its case. -/
theorem trim_of_map_toLower_eq (h : written.map Char.toLower = name.map Char.toLower) (hname : Text.trim name = name) :
    Text.trim written = written := by
  have hends : ∀ cs : List Char, Text.trim cs = cs ↔ Text.trim (cs.map Char.toLower) = cs.map Char.toLower := by
    intro cs
    rw [Text.trim_eq_self_iff, Text.trim_eq_self_iff]
    simp [isBlankChar_toLower]
  rwa [hends, h, ← hends]

/-- A name begins with no bracket whatever its case. -/
theorem unbracketed_of_map_toLower_eq (h : written.map Char.toLower = name.map Char.toLower) (hname : ∀ rest, name ≠ '[' :: rest)
    (rest : List Char) : written ≠ '[' :: rest := by
  rintro rfl
  obtain ⟨c, cs, rfl, hc, -⟩ := List.map_eq_cons_iff.1 h.symm
  obtain rfl : c = '[' := (toLower_eq_iff (by decide)).1 hc
  exact hname cs rfl

/-- A name has no dots at the end whatever its case. -/
theorem rdropWhile_of_map_toLower_eq (h : written.map Char.toLower = name.map Char.toLower)
    (hname : name.rdropWhile (· == '.') = name) : written.rdropWhile (· == '.') = written := by
  have hlength := congrArg List.length (rdropWhile_map_toLower written)
  rw [h, rdropWhile_map_toLower, hname, ← h, List.length_map, List.length_map] at hlength
  exact (List.rdropWhile_prefix _ _).eq_of_length_le (Nat.le_of_eq hlength)

end

/-! ## Dropping the port -/

/-- A text without a bracket in front has none when something is added behind it. -/
theorem unbracketed_append {cs : List Char} (hne : cs ≠ []) (hfirst : ∀ rest, cs ≠ '[' :: rest) (ds rest : List Char) :
    cs ++ ds ≠ '[' :: rest := by
  cases cs with
  | nil => exact absurd rfl hne
  | cons c cs =>
    intro he
    obtain ⟨rfl, -⟩ := List.cons.inj he
    exact hfirst cs rfl

/-- The port is dropped with its colon when there is no other colon. -/
theorem withoutPort_of_port {cs port : List Char} (hne : cs ≠ []) (hfirst : ∀ rest, cs ≠ '[' :: rest) (hcolon : ':' ∉ cs)
    (hport : port.all Char.isDigit = true) : withoutPort (cs ++ ':' :: port) = cs := by
  have hdrop : (cs ++ ':' :: port).dropWhile (· != ':') = ':' :: port := dropWhile_eq_colon_iff.2 ⟨cs, rfl, hcolon⟩
  have hkeep : ∀ c ∈ cs, (c != ':') = true := fun c hc => bne_iff_ne.2 fun he => hcolon (he ▸ hc)
  unfold withoutPort
  split
  · rename_i rest hrest
    exact absurd hrest (unbracketed_append hne hfirst _ rest)
  · split
    · rename_i port' hport'
      obtain rfl : port' = port := (List.cons.inj (hport'.symm.trans hdrop)).2
      rw [if_pos hport, List.takeWhile_append_of_pos hkeep]
      simp
    · rename_i hnone
      exact absurd hdrop (hnone port)

/-- Without a colon there is no port. -/
theorem withoutPort_of_no_colon {cs : List Char} (hfirst : ∀ rest, cs ≠ '[' :: rest) (hcolon : ':' ∉ cs) : withoutPort cs = cs := by
  refine (withoutPort_eq_self_iff cs).2 ⟨hfirst, ?_⟩
  rintro before port rfl -
  exact absurd (by simp) hcolon

/-- What stands in brackets stays, and what stands behind them is dropped. -/
theorem withoutPort_of_brackets {cs behind : List Char} (hbracket : ']' ∉ cs) :
    withoutPort ('[' :: cs ++ ']' :: behind) = cs := by
  have hkeep : ∀ c ∈ cs, (c != ']') = true := fun c hc => bne_iff_ne.2 fun he => hbracket (he ▸ hc)
  change (cs ++ ']' :: behind).takeWhile (· != ']') = cs
  rw [List.takeWhile_append_of_pos hkeep]
  simp

/-! ## Spellings -/

/-- No digit is blank. -/
theorem not_blank_of_isDigit {c : Char} (h : c.isDigit = true) : Text.isBlankChar c = false := by
  have hbounds : 48 ≤ c.toNat ∧ c.toNat ≤ 57 := by
    simp only [Char.isDigit, Bool.and_eq_true, decide_eq_true_eq, ge_iff_le, UInt32.le_iff_toNat_le] at h
    exact h
  simp only [Text.isBlankChar, Bool.or_eq_false_iff, Bool.and_eq_false_iff, decide_eq_false_iff_not, beq_eq_false_iff_ne]
  omega

namespace Spelling

variable {s : Spelling} {name : String}

/-- A port is nothing, or a colon with digits behind it. -/
theorem toList_portText (s : Spelling) :
    s.portText.toList = [] ∨ ∃ port, s.portText.toList = ':' :: port ∧ port.all Char.isDigit = true := by
  unfold portText
  split
  · rename_i port hport
    exact Or.inr ⟨port.toList, by simp, s.port_digits port hport⟩
  · exact Or.inl rfl

/-- A port holds no blanks. -/
theorem not_blank_of_mem_portText {c : Char} (h : c ∈ s.portText.toList) : Text.isBlankChar c = false := by
  rcases toList_portText s with hnone | ⟨port, hsome, hport⟩
  · rw [hnone] at h
    nomatch h
  · rw [hsome] at h
    rcases List.mem_cons.1 h with rfl | hc
    · decide
    · exact not_blank_of_isDigit (List.all_eq_true.1 hport c hc)

theorem toList_dotted (s : Spelling) : s.dotted.toList = s.name.toList ++ List.replicate s.dots '.' := by
  simp [dotted]

/-- A name with a colon stands in brackets, and the port behind them. -/
theorem toList_host (s : Spelling) : s.host.toList =
    (if s.name.toList.contains ':' then '[' :: s.dotted.toList ++ [']'] else s.dotted.toList) ++ s.portText.toList := by
  unfold host
  split <;> simp

/-- Trimming leaves the host with its brackets and its port. -/
theorem trim_text (hname : Text.trim s.name.toList = s.name.toList) (hne : s.name.toList ≠ []) :
    Text.trim s.text.toList = s.host.toList := by
  rw [text, String.toList_append, String.toList_append]
  refine Text.trim_append_of_trimmed (List.all_eq_true.1 s.before_blank) ?_ (List.all_eq_true.1 s.after_blank)
  rw [toList_host]
  split
  · refine Text.trim_append_of_not_blank (Text.trim_eq_self_iff.2 ⟨fun c hc => ?_, fun c hc => ?_⟩) (List.cons_ne_nil _ _)
      fun c => not_blank_of_mem_portText
    · obtain rfl := Option.some.inj hc
      decide
    · rw [List.getLast?_concat] at hc
      obtain rfl := Option.some.inj hc
      decide
  · rw [toList_dotted, List.append_assoc]
    refine Text.trim_append_of_not_blank hname hne fun c hc => ?_
    rcases List.mem_append.1 hc with hdot | hport
    · rw [(List.mem_replicate.1 hdot).2]
      decide
    · exact not_blank_of_mem_portText hport

/-- Dropping the port leaves the name and the dots behind it. -/
theorem withoutPort_host (hne : s.name.toList ≠ []) (hfirst : ∀ rest, s.name.toList ≠ '[' :: rest)
    (hbracket : ':' ∈ s.name.toList → ']' ∉ s.name.toList) : withoutPort s.host.toList = s.dotted.toList := by
  have hmark : ∀ c : Char, c ≠ '.' → (c ∈ s.dotted.toList ↔ c ∈ s.name.toList) := by
    intro c hc
    simp [toList_dotted, hc]
  rw [toList_host]
  split
  · rename_i hcolon
    rw [List.append_assoc, List.singleton_append]
    refine withoutPort_of_brackets ?_
    rw [hmark _ (by decide)]
    exact hbracket (List.contains_iff_mem.1 hcolon)
  · rename_i hcolon
    rw [List.contains_iff_mem, ← hmark _ (by decide)] at hcolon
    have hfirst' : ∀ rest, s.dotted.toList ≠ '[' :: rest := by
      rw [toList_dotted]
      exact unbracketed_append hne hfirst _
    rcases toList_portText s with hnone | ⟨port, hsome, hport⟩
    · rw [hnone, List.append_nil]
      exact withoutPort_of_no_colon hfirst' hcolon
    · rw [hsome]
      refine withoutPort_of_port ?_ hfirst' hcolon hport
      simp [toList_dotted, hne]

/-- Dropping the dots leaves the name. -/
theorem rdropWhile_dotted (hdots : s.name.toList.rdropWhile (· == '.') = s.name.toList) :
    s.dotted.toList.rdropWhile (· == '.') = s.name.toList := by
  have hall : ∀ c ∈ List.replicate s.dots '.', (c == '.') = true := by simp
  refine Eq.trans ?_ hdots
  rw [toList_dotted, List.rdropWhile, List.reverse_append, List.reverse_replicate, List.dropWhile_append_of_pos hall]
  rfl

/-- A spelling of a normalised host normalises to it. -/
theorem normalizeChars_text (h : Normal name.toList) (hs : s.Names name) (hbracket : ':' ∈ name.toList → ']' ∉ name.toList) :
    normalizeChars s.text.toList = name.toList := by
  have hne : s.name.toList ≠ [] := by
    intro hnil
    rw [Names, hnil, h.lower] at hs
    exact h.ne_nil hs.symm
  have htrim := trim_of_map_toLower_eq hs h.trimmed
  have hfirst := unbracketed_of_map_toLower_eq hs h.unbracketed
  have hdots := rdropWhile_of_map_toLower_eq hs h.undotted
  have hbracket' : ':' ∈ s.name.toList → ']' ∉ s.name.toList := by
    rwa [mem_of_map_toLower_eq hs (by decide), mem_of_map_toLower_eq hs (by decide)]
  rw [normalizeChars, trim_text htrim hne, withoutPort_host hne hfirst hbracket', Text.dropEnding_eq_rdropWhile,
    rdropWhile_dotted hdots, hs, h.lower]

end Spelling

end Host

/-- The authority of an instance is its spelling. -/
theorem ServiceInstance.authority_eq_text (i : ServiceInstance) : i.authority = i.spelling.text := by
  have hdotted : i.spelling.dotted = i.host := String.append_empty
  have hport : i.spelling.portText = ":" ++ toString i.port.toNat := rfl
  rw [← String.toList_inj, authority, Host.Spelling.text, Host.Spelling.host, hdotted, hport]
  change _ = ("" ++ ((if i.host.toList.contains ':' then "[" ++ i.host ++ "]" else i.host) ++ _) ++ "").toList
  split <;> simp

namespace Host

/-- Let a host be normalised, and hold no closing bracket when it holds a colon. Then every spelling of it normalises to it: its name
in any case, any number of dots behind it, and any port or none, with brackets around the name and its dots when there are colons
in them, and any blanks around the whole. So does the authority of every instance with this host, whatever its port. -/
theorem spellings_agree (name : String) (hname : normalize name = some name) (hbracket : ':' ∈ name.toList → ']' ∉ name.toList) :
    (∀ s : Spelling, s.Names name → normalize s.text = some name) ∧
    ∀ i : ServiceInstance, i.host = name → normalize i.authority = some name := by
  have hnormal := normal_of_normalize hname
  have hspelling : ∀ s : Spelling, s.Names name → normalize s.text = some name := fun s hs =>
    normalize_eq_some_iff.2 ⟨Spelling.normalizeChars_text hnormal hs hbracket, hnormal.ne_nil⟩
  refine ⟨hspelling, ?_⟩
  rintro i rfl
  rw [i.authority_eq_text]
  exact hspelling i.spelling rfl

/-- A host in capital letters with dots, a port and blanks, and an instance with a numeric address. -/
theorem spellings_agree_shop :
    let s : Spelling := ⟨"\t ", "Shop.EXAMPLE", 2, some "0080", "\n", by decide, by decide, by decide⟩
    let address := "fd00::7"
    s.text = "\t Shop.EXAMPLE..:0080\n" ∧ normalize "shop.example" = some "shop.example" ∧ normalize s.text = some "shop.example" ∧
      ∀ i : ServiceInstance, i.host = address → normalize i.authority = some address := by
  intro s address
  have hname : normalize "shop.example" = some "shop.example" := by decide
  have haddress : normalize address = some address := by decide
  exact ⟨by decide, hname, (spellings_agree "shop.example" hname (by decide)).1 s (by decide),
    (spellings_agree address haddress (by decide)).2⟩

end Host

end TenantGateway
