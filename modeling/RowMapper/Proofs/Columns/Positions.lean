import RowMapper.Collection
import RowMapper.Proofs.Operation.ColumnNames

/-!
The index of a collection. It says of every name where its column stands, also after a column was put in
or taken out, and so a collection with an index has the columns of the plain collection.
-/
namespace RowMapper.Collection

variable {c : Collection} {d : Column} {name : String}

/-- The index finds every column by its name, and nothing else. -/
structure Indexed (c : Collection) : Prop where
  distinct : c.plain.bareNames.Nodup
  found : ∀ name i, c.position? name = some i ↔ c.plain.bareNames[i]? = some name

theorem Indexed.new (h : c.Indexed) (unknown : c.position? name = none) :
    name ∉ c.plain.bareNames := by
  intro there
  obtain ⟨i, hi⟩ := List.mem_iff_getElem?.mp there
  have known := (h.found name i).mpr hi
  simp [unknown] at known

theorem indexed_qualified (qualifier : String) : (qualified qualifier).Indexed := by
  refine ⟨List.nodup_nil, fun name i => ?_⟩
  simp [position?, qualified, valueOf?, plain, Columns.bareNames]

theorem push_of_there {i : Nat} (there : c.position? d.columnName = some i) :
    c.push d = { c with columns := c.columns.set i d } := by
  simp only [push, there]

theorem push_of_new (new : c.position? d.columnName = none) :
    c.push d = { c with
      columns := c.columns ++ [d]
      index := insertByKey d.columnName c.columns.length c.index } := by
  simp only [push, new]

theorem position?_push (c : Collection) (d : Column) (name : String) :
    (c.push d).position? name =
      if d.columnName = name then some ((c.position? name).getD c.columns.length) else c.position? name := by
  cases known : c.position? d.columnName with
  | some i =>
    have put : (c.push d).position? name = c.position? name := by rw [push_of_there known]; rfl
    rw [put]
    split
    · rename_i same
      rw [← same, known, Option.getD_some]
    · rfl
  | none =>
    have put : (c.push d).position? name =
        if d.columnName = name then some c.columns.length else c.position? name := by
      rw [push_of_new known]
      exact valueOf?_insertByKey _ _ _ _
    rw [put]
    split
    · rename_i same
      rw [← same, known, Option.getD_none]
    · rfl

theorem columns_push (h : c.Indexed) (d : Column) :
    (c.push d).columns = Columns.putIn d c.columns := by
  cases known : c.position? d.columnName with
  | none =>
    rw [push_of_new known]
    exact (Columns.putIn_of_new (h.new known)).symm
  | some i =>
    rw [push_of_there known]
    exact (Columns.putIn_of_there h.distinct ((h.found _ i).mp known)).symm

theorem qualifier_push (c : Collection) (d : Column) : (c.push d).qualifier = c.qualifier := by
  simp only [push]
  split <;> rfl

theorem made_push (c : Collection) (d : Column) : (c.push d).made = c.made := by
  simp only [push]
  split <;> rfl

theorem bareNames_push_of_there (h : c.Indexed) {i : Nat} (there : c.position? d.columnName = some i) :
    (c.push d).plain.bareNames = c.plain.bareNames := by
  obtain ⟨inside, same⟩ := List.getElem?_eq_some_iff.mp ((h.found _ i).mp there)
  simp only [push_of_there there, plain, Columns.bareNames, List.map_set]
  exact same ▸ List.set_getElem_self inside

theorem bareNames_push_of_new (new : c.position? d.columnName = none) :
    (c.push d).plain.bareNames = c.plain.bareNames ++ [d.columnName] := by
  simp [push_of_new new, plain, Columns.bareNames]

/-- A name that is put at the end of others, among which it is not, stands in the last place and in no other. -/
theorem getElem?_append_new {names : List String} (absent : name ∉ names) (i : Nat) :
    (names ++ [name])[i]? = some name ↔ names.length = i := by
  constructor
  · intro there
    rw [List.getElem?_append] at there
    split at there
    · exact absurd (List.mem_of_getElem? there) absent
    · rename_i past
      have inside := (List.getElem?_eq_some_iff.mp there).1
      simp only [List.length_singleton] at inside
      omega
  · rintro rfl
    simp

theorem getElem?_append_other {names : List String} {last : String} (other : last ≠ name) (i : Nat) :
    (names ++ [last])[i]? = some name ↔ names[i]? = some name := by
  rw [List.getElem?_append]
  split
  · rfl
  · rename_i past
    have outside : names[i]? = none := List.getElem?_eq_none (Nat.le_of_not_lt past)
    rw [outside, List.getElem?_singleton]
    split <;> simp [other]

theorem Indexed.push (h : c.Indexed) (d : Column) : (c.push d).Indexed := by
  have distinct : (c.push d).plain.bareNames.Nodup := by
    have put : (c.push d).plain.bareNames = (c.plain.addAll [d]).bareNames := by
      simp only [plain, columns_push h]
      rfl
    exact put ▸ Columns.nodup_addAll c.plain h.distinct [d]
  refine ⟨distinct, fun name i => ?_⟩
  cases known : c.position? d.columnName with
  | some j =>
    have kept : (c.push d).position? name = c.position? name := by rw [push_of_there known]; rfl
    rw [bareNames_push_of_there h known, kept, h.found]
  | none =>
    rw [bareNames_push_of_new known, position?_push]
    by_cases same : d.columnName = name
    · subst same
      have length : c.columns.length = c.plain.bareNames.length := by rw [Columns.bareNames, List.length_map]; rfl
      rw [if_pos rfl, known, Option.getD_none, Option.some.injEq, length]
      exact (getElem?_append_new (h.new known) i).symm
    · rw [if_neg same, h.found]
      exact (getElem?_append_other same i).symm

theorem Indexed.pushAll (h : c.Indexed) (ds : List Column) : (c.pushAll ds).Indexed := by
  induction ds generalizing c with
  | nil => exact h
  | cons d rest ih => exact ih (h.push d)

theorem plain_pushAll (h : c.Indexed) (ds : List Column) :
    (c.pushAll ds).plain = c.plain.addAll ds := by
  induction ds generalizing c with
  | nil => rfl
  | cons d rest ih =>
    have put : (c.push d).plain = c.plain.add d := by
      simp only [plain, columns_push h, qualifier_push]
      rfl
    have rest_put := ih (h.push d)
    rw [put] at rest_put
    exact rest_put

theorem indexed_gather (qualifier : String) (ds : List Column) : (gather qualifier ds).Indexed :=
  (indexed_qualified qualifier).pushAll ds

theorem plain_gather (qualifier : String) (ds : List Column) :
    (gather qualifier ds).plain = (Columns.qualified qualifier).addAll ds :=
  plain_pushAll (indexed_qualified qualifier) ds

theorem made_gather (qualifier : String) (ds : List Column) : (gather qualifier ds).made = [] := by
  have keeps (c : Collection) : (c.pushAll ds).made = c.made := by
    induction ds generalizing c with
    | nil => rfl
    | cons d rest ih => exact (ih (c.push d)).trans (made_push c d)
  exact keeps (qualified qualifier)

/-- Only the last of equal names keeps its position; among different names each has its own. -/
theorem valueOf?_positionsFrom (ds : List Column) (distinct : (ds.map (·.columnName)).Nodup)
    (start : Nat) (index : List (String × Nat)) (name : String) (i : Nat) :
    valueOf? name (positionsFrom start ds index) = some i ↔
      (start ≤ i ∧ (ds.map (·.columnName))[i - start]? = some name) ∨
        (name ∉ ds.map (·.columnName) ∧ valueOf? name index = some i) := by
  induction ds generalizing start index with
  | nil => simp [positionsFrom]
  | cons d rest ih =>
    obtain ⟨unique, distinct⟩ := List.nodup_cons.mp distinct
    rw [positionsFrom, ih distinct, valueOf?_insertByKey, List.map_cons, List.mem_cons]
    -- No later column has the name of this one, so its entry in the index is not overwritten.
    by_cases here : d.columnName = name
    · subst here
      have not_later (j : Nat) : (rest.map (·.columnName))[j]? ≠ some d.columnName :=
        fun there => unique (List.mem_of_getElem? there)
      simp only [unique, not_false_eq_true, if_true, Option.some.injEq, true_and, not_true_eq_false, false_and,
        or_false, not_later, and_false, false_or]
      constructor
      · rintro rfl
        simp
      · rintro ⟨le, there⟩
        cases past : i - start with
        | zero => omega
        | succ j =>
          rw [past, List.getElem?_cons_succ] at there
          exact absurd there (not_later j)
    · have elsewhere : name ≠ d.columnName := fun same => here same.symm
      simp only [if_neg here, elsewhere, false_or]
      refine or_congr_left ?_
      constructor
      · rintro ⟨le, there⟩
        obtain ⟨j, rfl⟩ := Nat.exists_eq_add_of_le le
        refine ⟨by omega, ?_⟩
        rw [show start + 1 + j - start = j + 1 by omega, List.getElem?_cons_succ]
        rwa [Nat.add_sub_cancel_left] at there
      · rintro ⟨le, there⟩
        cases past : i - start with
        | zero =>
          rw [past] at there
          exact absurd (Option.some.inj there) here
        | succ j =>
          rw [past, List.getElem?_cons_succ] at there
          refine ⟨by omega, ?_⟩
          rwa [show i - (start + 1) = j by omega]

theorem columns_remove (h : c.Indexed) (name : String) :
    (c.remove name).columns = c.columns.filter (·.columnName != name) := by
  cases known : c.position? name with
  | some i => simp only [remove, known]
  | none =>
    have absent := h.new known
    simp only [remove, known]
    refine (List.filter_eq_self.mpr fun d hd => ?_).symm
    exact bne_iff_ne.mpr fun same => absent (same ▸ List.mem_map_of_mem hd)

theorem Indexed.remove (h : c.Indexed) (name : String) : (c.remove name).Indexed := by
  have distinct : (c.remove name).plain.bareNames.Nodup := by
    simp only [plain, columns_remove h]
    exact h.distinct.sublist (List.filter_sublist.map _)
  refine ⟨distinct, fun other i => ?_⟩
  cases known : c.position? name with
  | none =>
    simp only [Collection.remove, known]
    exact h.found other i
  | some j =>
    simp only [Collection.remove, known, plain, Columns.bareNames] at distinct ⊢
    have found := valueOf?_positionsFrom _ distinct 0 [] other i
    simp only [Nat.zero_le, true_and, Nat.sub_zero] at found
    rw [position?, found]
    simp [valueOf?]

end RowMapper.Collection
