import RowMapper.Operation
import RowMapper.Proofs.Results

/-!
What the drafts of the operations are made of, whenever an operation comes to one.
-/
namespace RowMapper

variable {t : MappedType} {r : Record} {d : Draft} {cs : Columns}

theorem keysOf_ok {keys : Columns} (h : t.keysOf cs = .ok keys) : keys = cs.view .primaryKeys := by
  simp only [MappedType.keysOf] at h
  split at h
  · simp at h
  · exact (Except.ok.inj h).symm

theorem mappedColumns_ok (h : t.mappedColumns = .ok cs) : cs = t.columns := by
  simp only [MappedType.mappedColumns] at h
  split at h
  · simp at h
  · exact (Except.ok.inj h).symm

theorem getDraft_ok {ids : List Param} (h : t.getDraft ids = .ok d) :
    ids.length = (t.selected.view .primaryKeys).size ∧ d.values = ids ∧
      d.statement = .selectByKey t.table t.selected.bareNames (t.selected.view .primaryKeys).bareNames ∧
      d.label = some (t.labelOf "get") := by
  obtain ⟨_, -, h⟩ := bind_eq_ok.mp h
  obtain ⟨keys, hk, h⟩ := bind_eq_ok.mp h
  obtain rfl := keysOf_ok hk
  split at h
  · rename_i length
    obtain rfl := Except.ok.inj h
    exact ⟨length, rfl, rfl, rfl⟩
  · simp at h

theorem getAllDraft_ok (h : t.getAllDraft = .ok d) :
    d.values = [] ∧ d.statement = .selectAll t.table t.selected.bareNames ∧
      d.label = some (t.labelOf "get_all") := by
  obtain ⟨_, -, h⟩ := bind_eq_ok.mp h
  obtain rfl := Except.ok.inj h
  exact ⟨rfl, rfl, rfl⟩

theorem insertDraft_ok {i : Insertion} (h : t.insertDraft r i = .ok d) :
    ∃ values, i.columns.values t r = .ok values ∧ d.values = boundParams values ∧
      d.statement = .insert t.table i.columns.bareNames 1 i.conflict i.returning.bareNames ∧
      d.label = some i.label := by
  obtain ⟨values, hv, h⟩ := bind_eq_ok.mp h
  obtain rfl := Except.ok.inj h
  exact ⟨values, hv, rfl, rfl, rfl⟩

theorem batchDraft_ok {kind : BatchKind} {rs : List Record}
    (h : t.batchDraft kind rs = .ok (some d)) :
    ∃ rows, rs.mapM ((t.columns.view .inserted).values t) = .ok rows ∧
      d.values = boundParams rows.flatten ∧
      d.statement = .insert t.table (t.columns.view .inserted).bareNames rs.length
        (t.batchConflict kind) [] ∧
      d.label = none := by
  obtain ⟨columns, hc, h⟩ := bind_eq_ok.mp h
  obtain rfl := mappedColumns_ok hc
  simp only at h
  split at h
  · simp at h
  · split at h
    · simp at h
    · split at h
      · simp at h
      · obtain ⟨rows, hr, h⟩ := bind_eq_ok.mp h
        obtain rfl := Option.some.inj (Except.ok.inj h)
        exact ⟨rows, hr, rfl, rfl, rfl⟩

theorem updateDraft_ok (h : t.updateDraft r = .ok d) :
    ∃ values keyValues, (t.columns.view .updated).values t r = .ok values ∧
      (t.columns.view .primaryKeys).values t r = .ok keyValues ∧
      d.values = boundParams (values ++ keyValues) ∧
      d.statement = .update t.table (t.columns.view .updated).bareNames
        (t.columns.view .primaryKeys).bareNames ∧
      d.label = some (t.labelOf "update") := by
  obtain ⟨columns, hc, h⟩ := bind_eq_ok.mp h
  obtain rfl := mappedColumns_ok hc
  obtain ⟨keys, hk, h⟩ := bind_eq_ok.mp h
  obtain rfl := keysOf_ok hk
  simp only at h
  split at h
  · simp at h
  · obtain ⟨values, hv, h⟩ := bind_eq_ok.mp h
    obtain ⟨keyValues, hkv, h⟩ := bind_eq_ok.mp h
    obtain rfl := Except.ok.inj h
    exact ⟨values, keyValues, hv, hkv, rfl, rfl, rfl⟩

theorem existsDraft_ok (h : t.existsDraft r = .ok d) :
    ∃ values, (t.columns.view .primaryKeys).values t r = .ok values ∧
      d.values = boundParams values ∧
      d.statement = .exists t.table (t.columns.view .primaryKeys).bareNames ∧
      d.label = some (t.labelOf "exists") := by
  obtain ⟨columns, hc, h⟩ := bind_eq_ok.mp h
  obtain rfl := mappedColumns_ok hc
  obtain ⟨keys, hk, h⟩ := bind_eq_ok.mp h
  obtain rfl := keysOf_ok hk
  obtain ⟨values, hv, h⟩ := bind_eq_ok.mp h
  obtain rfl := Except.ok.inj h
  exact ⟨values, hv, rfl, rfl, rfl⟩

theorem deleteDraft_ok (h : t.deleteDraft r = .ok d) :
    ∃ values, (t.columns.view .primaryKeys).values t r = .ok values ∧
      d.values = boundParams values ∧
      d.statement = .delete t.table (t.columns.view .primaryKeys).bareNames ∧
      d.label = some (t.labelOf "delete") := by
  obtain ⟨columns, hc, h⟩ := bind_eq_ok.mp h
  obtain rfl := mappedColumns_ok hc
  obtain ⟨keys, hk, h⟩ := bind_eq_ok.mp h
  obtain rfl := keysOf_ok hk
  obtain ⟨values, hv, h⟩ := bind_eq_ok.mp h
  obtain rfl := Except.ok.inj h
  exact ⟨values, hv, rfl, rfl, rfl⟩

end RowMapper
