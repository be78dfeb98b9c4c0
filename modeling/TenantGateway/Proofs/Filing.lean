import TenantGateway.Proofs.Gateway.Readiness

/-!
# Filing entries in turn

Filing a list of entries in turn moves every one of their keys to the end, again and again. What is left are the entries of other keys,
and behind them the last occurrences in the list, in their order (`Entries.fileAll_eq`); so filing the same list once more changes nothing
(`Entries.fileAll_fileAll`). Merging layers in turn files them in a configuration (`Configuration.withLayers_eq`).
-/

namespace TenantGateway

namespace Entries

variable {κ α : Type} [DecidableEq κ]

/-- The entries after others were filed in turn. -/
def fileAll (l items : List (κ × α)) : List (κ × α) :=
  items.foldl (fun l e => file l e.1 e.2) l

/-- The entries whose keys others do not have. -/
def besides (l items : List (κ × α)) : List (κ × α) :=
  l.filter fun e => e.1 ∉ items.map Prod.fst

/-- The entries beside given ones are found part by part. -/
theorem besides_append (l m items : List (κ × α)) : besides (l ++ m) items = besides l items ++ besides m items :=
  List.filter_append _ _

theorem besides_singleton (e : κ × α) (items : List (κ × α)) :
    besides [e] items = if e.1 ∈ items.map Prod.fst then [] else [e] := by
  by_cases hmem : e.1 ∈ items.map Prod.fst
  · rw [if_pos hmem, besides, List.filter_cons_of_neg (by simpa using hmem)]
    rfl
  · rw [if_neg hmem, besides, List.filter_cons_of_pos (by simpa using hmem)]
    rfl

/-- What is beside given entries is all beside them. -/
theorem besides_besides (l items : List (κ × α)) : besides (besides l items) items = besides l items := by
  simp only [besides, List.filter_filter, Bool.and_self]

/-- The last occurrences in a list have its keys. -/
theorem besides_lastOccurrences (items : List (κ × α)) : besides (lastOccurrences Prod.fst items) items = [] := by
  refine List.filter_eq_nil_iff.2 fun e he => ?_
  have hmem := (mem_lastOccurrences.1 he).mem
  simpa using ⟨e.2, hmem⟩

/-- Filing entries in turn leaves the entries of other keys, and behind them the last one filed under every key. -/
theorem fileAll_eq (l items : List (κ × α)) : fileAll l items = besides l items ++ lastOccurrences Prod.fst items := by
  induction items generalizing l with
  | nil => simp [fileAll, besides, lastOccurrences]
  | cons e items ih =>
    have hother : besides (erase l e.1) items = besides l (e :: items) := by
      rw [besides, erase, List.filter_filter]
      refine List.filter_congr fun x _ => ?_
      by_cases hx : x.1 = e.1 <;> simp [hx]
    refine (ih (file l e.1 e.2)).trans ?_
    rw [file, besides_append, hother, List.append_assoc, lastOccurrences]
    by_cases hmem : e.1 ∈ items.map Prod.fst
    · have hany : (items.any fun b => b.1 = e.1) = true := by simpa using hmem
      rw [if_pos hany, besides_singleton, if_pos hmem]
      rfl
    · have hany : ¬(items.any fun b => b.1 = e.1) = true := by simpa using hmem
      rw [if_neg hany, besides_singleton, if_neg hmem]
      rfl

/-- Filing the same entries once more changes nothing. -/
theorem fileAll_fileAll (l items : List (κ × α)) : fileAll (fileAll l items) items = fileAll l items := by
  rw [fileAll_eq (fileAll l items), fileAll_eq l, besides_append, besides_besides, besides_lastOccurrences, List.append_nil]

end Entries

namespace Configuration

/-- The configuration that layers merged in turn make of what a tenant has. -/
def withLayers (current : Option Configuration) (layers : List (String × Properties)) : Option Configuration :=
  layers.foldl (fun current l => some ((current.getD .empty).insertLayer l.1 l.2)) current

/-- Layers are added to a configuration part by part. -/
theorem withLayers_append (current : Option Configuration) (layers more : List (String × Properties)) :
    withLayers current (layers ++ more) = withLayers (withLayers current layers) more :=
  List.foldl_append

/-- Merging layers in turn files them with the layers there are; merging none leaves a tenant without configuration without one. -/
theorem withLayers_eq (current : Option Configuration) (layers : List (String × Properties)) :
    withLayers current layers =
      if layers = [] then current else some ⟨Entries.fileAll (current.getD .empty).layers layers⟩ := by
  have hsome : ∀ (layers : List (String × Properties)) (c : Configuration),
      withLayers (some c) layers = some ⟨Entries.fileAll c.layers layers⟩ := by
    intro layers
    induction layers with
    | nil => exact fun _ => rfl
    | cons l layers ih => exact fun c => ih _
  cases layers with
  | nil => rfl
  | cons l layers => exact hsome layers _

/-- The layers are filed with those there are. -/
theorem layers_withLayers (current : Option Configuration) (layers : List (String × Properties)) :
    ((withLayers current layers).getD .empty).layers = Entries.fileAll (current.getD .empty).layers layers := by
  rw [withLayers_eq]
  split
  · rename_i hnil
    rw [hnil]
    rfl
  · rfl

/-- Merging the same layers once more changes nothing, the order of the layers included. -/
theorem withLayers_withLayers (current : Option Configuration) (layers : List (String × Properties)) :
    withLayers (withLayers current layers) layers = withLayers current layers := by
  rw [withLayers_eq (withLayers current layers), withLayers_eq]
  split
  · rfl
  · rw [Option.getD_some, Entries.fileAll_fileAll]

end Configuration

end TenantGateway
