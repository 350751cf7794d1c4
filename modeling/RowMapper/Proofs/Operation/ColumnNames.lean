import RowMapper.Mapped

/-!
The columns of a collection have different names, and a view of a collection has columns of the collection
only.
-/
namespace RowMapper

namespace Columns

theorem mem_putIn {c d : Column} {cs : List Column} (h : c ∈ putIn d cs) : c = d ∨ c ∈ cs := by
  induction cs with
  | nil => exact .inl (List.mem_singleton.mp h)
  | cons e rest ih =>
    simp only [putIn] at h
    split at h
    · rcases List.mem_cons.mp h with same | h
      · exact .inl same
      · exact .inr (List.mem_cons_of_mem e h)
    · rcases List.mem_cons.mp h with same | h
      · exact .inr (same ▸ List.mem_cons_self)
      · rcases ih h with same | h
        · exact .inl same
        · exact .inr (List.mem_cons_of_mem e h)

theorem mem_addAll {c : Column} (cs : Columns) {more : List Column}
    (h : c ∈ (cs.addAll more).items) : c ∈ cs.items ∨ c ∈ more := by
  induction more generalizing cs with
  | nil => exact .inl h
  | cons d rest ih =>
    rcases ih (cs.add d) h with h | h
    · rcases mem_putIn h with same | h
      · exact .inr (same ▸ List.mem_cons_self)
      · exact .inl h
    · exact .inr (List.mem_cons_of_mem d h)

theorem mem_of_mem_filter {c : Column} {cs : Columns} {keep : Column → Bool}
    (h : c ∈ (cs.filter keep).items) : c ∈ cs.items := by
  rcases mem_addAll _ h with h | h
  · simp [qualified] at h
  · exact (List.mem_filter.mp h).1

theorem mem_of_mem_view {c : Column} {cs : Columns} {v : View} (h : c ∈ (cs.view v).items) :
    c ∈ cs.items :=
  mem_of_mem_filter h

theorem names_putIn (c : Column) (cs : List Column) :
    (putIn c cs).map (·.columnName) =
      if c.columnName ∈ cs.map (·.columnName) then cs.map (·.columnName)
      else cs.map (·.columnName) ++ [c.columnName] := by
  induction cs with
  | nil => simp [putIn]
  | cons d rest ih =>
    simp only [putIn]
    by_cases same : d.columnName = c.columnName
    · simp [same]
    · have other : c.columnName ≠ d.columnName := fun h => same h.symm
      simp only [if_neg same, List.map_cons, ih, List.mem_cons, other, false_or]
      split <;> simp

theorem nodup_addAll (cs : Columns) (h : cs.bareNames.Nodup) (more : List Column) :
    (cs.addAll more).bareNames.Nodup := by
  induction more generalizing cs with
  | nil => exact h
  | cons c rest ih =>
    refine ih (cs.add c) ?_
    simp only [bareNames, add, names_putIn] at h ⊢
    split
    · exact h
    · rename_i new
      rw [List.nodup_append]
      refine ⟨h, by simp, fun a ha b hb => ?_⟩
      rintro rfl
      exact new (List.mem_singleton.mp hb ▸ ha)

theorem putIn_of_new {c : Column} {cs : List Column} (new : c.columnName ∉ cs.map (·.columnName)) :
    putIn c cs = cs ++ [c] := by
  induction cs with
  | nil => rfl
  | cons d rest ih =>
    obtain ⟨other, later⟩ := not_or.mp (new ∘ List.mem_cons.mpr)
    rw [putIn, if_neg fun same => other same.symm, ih later, List.cons_append]

theorem putIn_of_there {c : Column} {cs : List Column} {i : Nat}
    (distinct : (cs.map (·.columnName)).Nodup)
    (there : (cs.map (·.columnName))[i]? = some c.columnName) : putIn c cs = cs.set i c := by
  induction cs generalizing i with
  | nil => simp at there
  | cons d rest ih =>
    obtain ⟨unique, distinct⟩ := List.nodup_cons.mp distinct
    cases i with
    | zero =>
      have same : d.columnName = c.columnName := Option.some.inj there
      rw [putIn, if_pos same, List.set_cons_zero]
    | succ i =>
      have later : c.columnName ∈ rest.map (·.columnName) := List.mem_of_getElem? there
      have other : d.columnName ≠ c.columnName := by
        intro same
        rw [← same] at later
        exact unique later
      rw [putIn, if_neg other, List.set_cons_succ, ih distinct there]

theorem items_addAll (cs : Columns) (more : List Column)
    (distinct : ((cs.items ++ more).map (·.columnName)).Nodup) :
    (cs.addAll more).items = cs.items ++ more := by
  induction more generalizing cs with
  | nil => exact (List.append_nil _).symm
  | cons c rest ih =>
    have new : c.columnName ∉ cs.items.map (·.columnName) := by
      intro there
      rw [List.map_append, List.nodup_append] at distinct
      exact distinct.2.2 _ there _ (List.mem_map_of_mem List.mem_cons_self) rfl
    have put : (cs.add c).items = cs.items ++ [c] := putIn_of_new new
    have behind : (cs.add c).items ++ rest = cs.items ++ c :: rest := by
      rw [put, List.append_assoc, List.singleton_append]
    rw [← behind]
    exact ih (cs.add c) (behind ▸ distinct)

theorem qualifier_addAll (cs : Columns) (more : List Column) :
    (cs.addAll more).qualifier = cs.qualifier := by
  induction more generalizing cs with
  | nil => rfl
  | cons c rest ih => exact ih (cs.add c)

theorem items_withQualifier {cs : Columns} (distinct : cs.bareNames.Nodup) (qualifier : String) :
    (cs.withQualifier qualifier).items = cs.items :=
  items_addAll (qualified qualifier) cs.items distinct

theorem withQualifier_self {cs : Columns} (distinct : cs.bareNames.Nodup) :
    cs.withQualifier cs.qualifier = cs := by
  have items := items_withQualifier distinct cs.qualifier
  have qualifier : (cs.withQualifier cs.qualifier).qualifier = cs.qualifier := qualifier_addAll _ _
  calc cs.withQualifier cs.qualifier
    _ = ⟨(cs.withQualifier cs.qualifier).qualifier, (cs.withQualifier cs.qualifier).items⟩ := rfl
    _ = cs := by rw [items, qualifier]

theorem find?_columnName {items : List Column} (distinct : (items.map (·.columnName)).Nodup) {c : Column}
    (h : c ∈ items) : items.find? (·.columnName == c.columnName) = some c := by
  induction items with
  | nil => cases h
  | cons d rest ih =>
    obtain ⟨unique, distinct⟩ := List.nodup_cons.mp distinct
    rcases List.mem_cons.mp h with rfl | later
    · rw [List.find?_cons_of_pos (by simp)]
    · have other : d.columnName ≠ c.columnName := by
        intro same
        have there : c.columnName ∈ rest.map (·.columnName) := List.mem_map_of_mem later
        rw [← same] at there
        exact unique there
      rw [List.find?_cons_of_neg (by simpa using other), ih distinct later]

theorem nodup_filter (cs : Columns) (keep : Column → Bool) : (cs.filter keep).bareNames.Nodup :=
  nodup_addAll (qualified cs.qualifier) List.nodup_nil _

theorem items_filter {cs : Columns} (distinct : cs.bareNames.Nodup) (keep : Column → Bool) :
    (cs.filter keep).items = cs.items.filter keep :=
  items_addAll (qualified cs.qualifier) _ (distinct.sublist (List.filter_sublist.map _))

theorem items_view {cs : Columns} (distinct : cs.bareNames.Nodup) (v : View) :
    (cs.view v).items = cs.items.filter v.keeps :=
  items_filter distinct v.keeps

theorem eq_of_columnName {cs : Columns} (distinct : cs.bareNames.Nodup) {c d : Column}
    (hc : c ∈ cs.items) (hd : d ∈ cs.items) (same : c.columnName = d.columnName) : c = d := by
  have found := find?_columnName distinct hc
  rw [same, find?_columnName distinct hd] at found
  exact (Option.some.inj found).symm

theorem has_iff {cs : Columns} {name : String} :
    cs.has name = true ↔ ∃ c ∈ cs.items, c.columnName = name := by
  simp only [has, List.any_eq_true, beq_iff_eq]

theorem has_eq {cs ds : Columns} {keep : Column → Bool} (items : cs.items = ds.items.filter keep)
    (distinct : ds.bareNames.Nodup) {c : Column} (hc : c ∈ ds.items) : cs.has c.columnName = keep c := by
  rw [Bool.eq_iff_iff, has_iff, items]
  constructor
  · rintro ⟨d, hd, same⟩
    obtain ⟨there, kept⟩ := List.mem_filter.mp hd
    exact eq_of_columnName distinct there hc same ▸ kept
  · intro kept
    exact ⟨c, List.mem_filter.mpr ⟨hc, kept⟩, rfl⟩

theorem items_filter_filter {cs : Columns} (distinct : cs.bareNames.Nodup) (keep more : Column → Bool) :
    ((cs.filter keep).filter more).items = cs.items.filter fun c => keep c && more c := by
  rw [items_filter (nodup_filter cs keep), items_filter distinct, List.filter_filter]
  exact List.filter_congr fun c _ => Bool.and_comm _ _

theorem lookup_name {cs : Columns} (distinct : cs.bareNames.Nodup) {c : Column} (h : c ∈ cs.items) :
    cs.lookup (cs.qualifier ++ c.columnName) = some c := by
  have front : Text.dropFront? cs.qualifier.toList (cs.qualifier ++ c.columnName).toList =
      some c.columnName.toList := Text.dropFront?_eq_some.mpr String.toList_append
  simp only [lookup, front, String.ofList_toList]
  exact find?_columnName distinct h

theorem lookup_eq_some_iff {cs : Columns} (distinct : cs.bareNames.Nodup) {name : String} {c : Column} :
    cs.lookup name = some c ↔ c ∈ cs.items ∧ name = cs.qualifier ++ c.columnName := by
  constructor
  · intro found
    simp only [lookup] at found
    split at found
    · rename_i bare front
      have named : c.columnName = String.ofList bare := eq_of_beq (List.find?_some found :)
      refine ⟨List.mem_of_find?_eq_some found, ?_⟩
      rw [named, ← String.toList_inj, String.toList_append, String.toList_ofList]
      exact Text.dropFront?_eq_some.mp front
    · cases found
  · rintro ⟨there, rfl⟩
    exact lookup_name distinct there

end Columns

theorem MappedType.nodup_columns (t : MappedType) : t.columns.bareNames.Nodup :=
  Columns.nodup_addAll .empty List.nodup_nil _

end RowMapper
