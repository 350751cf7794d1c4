import RowMapper.Proofs.Operation.Keys

/-!
Inserts that may meet a row with their key, and updates. Which columns decide whether the row is there, which
are inserted, and which are set in the row that is there, follow from the flags of the columns.
-/
namespace RowMapper

def MappedType.batchKeys (t : MappedType) : List Column :=
  let unique := t.columns.items.filter (·.flags.uniqueKey)
  if unique.isEmpty then t.keyColumns else unique

def MappedType.settable (t : MappedType) : List Column :=
  t.columns.items.filter fun c => !c.flags.readOnly && !c.flags.primaryKey

/-- An insert of records into a table that may have them. -/
structure Merge where
  rows : List Record
  target : List Column
  assigned : List Column

namespace Operation

def merge? (t : MappedType) : Operation → Option Merge
  | .insert .createIfNew r => some ⟨[r], t.keyColumns, []⟩
  | .insert .upsert r => some ⟨[r], t.keyColumns, t.settable.filter fun c => !c.flags.auto⟩
  | .insertMany .upsert rs =>
    some ⟨rs, t.batchKeys, t.columns.items.filter fun c =>
      !c.flags.readOnly && !c.flags.auto && !t.batchKeys.contains c⟩
  | _ => none

def written (t : MappedType) : Operation → Columns
  | .insert kind r => (t.insertion r kind).columns
  | _ => t.columns.view .inserted

/-- An upsert of one record inserts the generated columns that the record has values for. -/
def bringsAutos : Operation → Bool
  | .insert .upsert _ => true
  | _ => false

def isBatch : Operation → Bool
  | .insertMany _ _ => true
  | _ => false

end Operation

variable {t : MappedType} {o : Operation} {m : Merge} {d : Draft} {r : Record} {c : Column}

theorem items_inserted (t : MappedType) :
    (t.columns.view .inserted).items = t.columns.items.filter fun c => !c.flags.readOnly && !c.flags.auto :=
  Columns.items_view t.nodup_columns .inserted

theorem items_updated (t : MappedType) : (t.columns.view .updated).items = t.settable :=
  Columns.items_view t.nodup_columns .updated

theorem has_presentAutos (hc : c ∈ t.columns.items) :
    (t.presentAutos r).has c.columnName = (c.flags.auto && !t.isZero r c.path) :=
  Columns.has_eq (Columns.items_filter_filter t.nodup_columns _ _) t.nodup_columns hc

theorem items_upsertColumns (t : MappedType) (r : Record) :
    (t.upsertColumns r).items =
      t.columns.items.filter fun c => !c.flags.readOnly && (!c.flags.auto || !t.isZero r c.path) := by
  rw [MappedType.upsertColumns, Columns.items_filter t.nodup_columns]
  refine List.filter_congr fun c hc => ?_
  rw [has_presentAutos hc]
  cases c.flags.auto <;> rfl

theorem items_upsertSet (t : MappedType) (r : Record) :
    (t.upsertSet r).items = t.settable.filter fun c => !c.flags.auto := by
  have both : (t.upsertSet r).items = t.settable.filter fun c =>
      !c.flags.auto && (t.upsertColumns r).has c.columnName := by
    rw [← items_updated]
    exact Columns.items_filter (Columns.nodup_filter _ _) _
  rw [both]
  refine List.filter_congr fun c hc => ?_
  obtain ⟨there, writable⟩ := List.mem_filter.mp hc
  rw [Columns.has_eq (items_upsertColumns t r) t.nodup_columns there]
  simp only [Bool.and_eq_true] at writable
  rw [writable.1]
  cases c.flags.auto <;> rfl

theorem items_batchTarget (t : MappedType) : t.batchTarget.items = t.batchKeys := by
  have unique : (t.columns.view .uniqueKeys).items = t.columns.items.filter (·.flags.uniqueKey) :=
    Columns.items_view t.nodup_columns .uniqueKeys
  simp only [MappedType.batchTarget, MappedType.batchKeys, Columns.isEmpty, unique]
  split
  · exact items_keys t
  · exact unique

theorem batchKeys_subset (hc : c ∈ t.batchKeys) : c ∈ t.columns.items := by
  simp only [MappedType.batchKeys] at hc
  split at hc <;> exact List.mem_of_mem_filter hc

theorem has_batchTarget (hc : c ∈ t.columns.items) :
    t.batchTarget.has c.columnName = t.batchKeys.contains c := by
  rw [Bool.eq_iff_iff, Columns.has_iff, items_batchTarget, List.contains_iff_mem]
  constructor
  · rintro ⟨e, he, same⟩
    exact Columns.eq_of_columnName t.nodup_columns (batchKeys_subset he) hc same ▸ he
  · intro there
    exact ⟨c, there, rfl⟩

theorem items_batchSet (t : MappedType) :
    t.batchSet.items = t.columns.items.filter fun c =>
      !c.flags.readOnly && !c.flags.auto && !t.batchKeys.contains c := by
  have both : t.batchSet.items = t.columns.items.filter fun c =>
      (!c.flags.readOnly && !c.flags.auto) && !t.batchTarget.has c.columnName :=
    Columns.items_filter_filter t.nodup_columns _ _
  rw [both]
  exact List.filter_congr fun c hc => by rw [has_batchTarget hc]

theorem merge_cases (merges : o.merge? t = some m) :
    (∃ r, o = .insert .createIfNew r ∧ m = ⟨[r], t.keyColumns, []⟩) ∨
      (∃ r, o = .insert .upsert r ∧ m = ⟨[r], t.keyColumns, t.settable.filter fun c => !c.flags.auto⟩) ∨
      ∃ rs, o = .insertMany .upsert rs ∧ m = ⟨rs, t.batchKeys, t.columns.items.filter fun c =>
        !c.flags.readOnly && !c.flags.auto && !t.batchKeys.contains c⟩ := by
  cases o with
  | get | getAll | update | delete | contains | truncate => cases merges
  | insert kind r =>
    cases kind with
    | create => cases merges
    | createIfNew => exact .inl ⟨r, rfl, (Option.some.inj merges).symm⟩
    | upsert => exact .inr (.inl ⟨r, rfl, (Option.some.inj merges).symm⟩)
  | insertMany kind rs =>
    cases kind with
    | create => cases merges
    | upsert => exact .inr (.inr ⟨rs, rfl, (Option.some.inj merges).symm⟩)

theorem mem_written (merges : o.merge? t = some m) :
    c ∈ (o.written t).items ↔ c ∈ t.columns.items ∧ c.flags.readOnly = false ∧
      (c.flags.auto = false ∨ o.bringsAutos = true ∧ ∀ r ∈ m.rows, t.isZero r c.path = false) := by
  obtain ⟨r, rfl, rfl⟩ | ⟨r, rfl, rfl⟩ | ⟨rs, rfl, rfl⟩ := merge_cases merges
  · simp only [Operation.written, MappedType.insertion, items_inserted, List.mem_filter]
    simp [Operation.bringsAutos]
  · simp only [Operation.written, MappedType.insertion, items_upsertColumns, List.mem_filter]
    simp [Operation.bringsAutos]
  · simp only [Operation.written, items_inserted, List.mem_filter]
    simp [Operation.bringsAutos]

theorem merge_drafted (merges : o.merge? t = some m) (h : o.draft? t = .ok (some d)) :
    ∃ returning, d.statement.render =
      insertHead t.table (o.written t).bareNames m.rows.length ++
        conflictText (m.target.map (·.columnName)) (m.assigned.map (·.columnName)) ++
          returningText returning ∧ d.Fills t m.rows (o.written t) := by
  have filled := (paired_of_draft h).1
  obtain ⟨r, rfl, rfl⟩ | ⟨r, rfl, rfl⟩ | ⟨rs, rfl, rfl⟩ := merge_cases merges
  · obtain ⟨_, -, -, text, -⟩ := insert_ok h
    refine ⟨(t.insertion r .createIfNew).returning.bareNames, ?_, filled⟩
    rw [text, Statement.render_insert]
    simp only [MappedType.insertion, Conflict.target, Conflict.set, bareNames_of_items (items_keys t)]
    rfl
  · obtain ⟨_, -, -, text, -⟩ := insert_ok h
    refine ⟨(t.insertion r .upsert).returning.bareNames, ?_, filled⟩
    rw [text, Statement.render_insert]
    simp only [MappedType.insertion, Conflict.target, Conflict.set, bareNames_of_items (items_keys t),
      bareNames_of_items (items_upsertSet t r)]
    rfl
  · obtain ⟨_, -, -, text, -⟩ := batchDraft_ok h
    refine ⟨[], ?_, filled⟩
    rw [text, Statement.render_insert]
    simp only [MappedType.batchConflict, Conflict.target, Conflict.set,
      bareNames_of_items (items_batchTarget t), bareNames_of_items (items_batchSet t)]
    rfl

theorem target_subset (merges : o.merge? t = some m) (hc : c ∈ m.target) : c ∈ t.columns.items := by
  obtain ⟨r, rfl, rfl⟩ | ⟨r, rfl, rfl⟩ | ⟨rs, rfl, rfl⟩ := merge_cases merges
  · exact List.mem_of_mem_filter hc
  · exact List.mem_of_mem_filter hc
  · exact batchKeys_subset hc

/-- An insert of records with a value in every column of its target writes these columns, each with the
record's own value, unless they are read-only; an upsert of one record does so for generated columns as well. A
read-only column is never written, so a row is not told by it. -/
theorem conflict_by_own_values (t : MappedType) (o : Operation) (m : Merge) (d : Draft)
    (merges : o.merge? t = some m) (drafted : o.draft? t = .ok (some d)) :
    ∃ (inserted : Columns) (set returning : List String),
      d.statement.render = insertHead t.table inserted.bareNames m.rows.length ++
        conflictText (m.target.map (·.columnName)) set ++ returningText returning ∧
      d.Fills t m.rows inserted ∧
      (∀ c ∈ m.target, c.flags.readOnly = true → c ∉ inserted.items) ∧
      ((∀ c ∈ m.target, ∀ r ∈ m.rows, t.isZero r c.path = false) →
        ∀ c ∈ m.target, c.flags.readOnly = false → (c.flags.auto = false ∨ o.bringsAutos = true) →
          ∃ i, inserted.items[i]? = some c ∧
            ∀ j r, m.rows[j]? = some r → d.Binds t r c (j * inserted.size + i + 1)) := by
  obtain ⟨returning, text, filled⟩ := merge_drafted merges drafted
  refine ⟨o.written t, _, returning, text, filled, ?_, ?_⟩
  · intro c _ fixed there
    rw [mem_written merges, fixed] at there
    cases there.2.1
  · intro valued c hc writable brought
    have there : c ∈ (o.written t).items :=
      (mem_written merges).mpr
        ⟨target_subset merges hc, writable, brought.imp_right fun b => ⟨b, valued c hc⟩⟩
    obtain ⟨i, hi⟩ := List.mem_iff_getElem?.mp there
    exact ⟨i, hi, fun j r hr => filled.bound j i r c hr hi⟩

def upserted : Draft :=
  ⟨.insert "person" ["id", "name", "street"] 1 (.doUpdate ["id"] ["name", "street"]) [],
    [⟨.plain .int64, .int64 7⟩, ⟨.plain .text, .text "Ada"⟩, ⟨.plain .text, .text "Elm Street"⟩],
    some "person_upsert"⟩

theorem conflict_by_own_values_person :
    (Operation.insert .upsert resident).draft? person = .ok (some upserted) ∧
      (∀ c ∈ person.keyColumns, ∀ r ∈ [resident], person.isZero r c.path = false) ∧
      ∃ inserted : Columns, ∀ c ∈ person.keyColumns, ∃ i, inserted.items[i]? = some c ∧
        ∀ j r, [resident][j]? = some r → upserted.Binds person r c (j * inserted.size + i + 1) := by
  have drafted : (Operation.insert .upsert resident).draft? person = .ok (some upserted) := by
    decide +kernel
  have valued : ∀ c ∈ person.keyColumns, ∀ r ∈ [resident], person.isZero r c.path = false := by
    decide +kernel
  have writable : ∀ c ∈ person.keyColumns, c.flags.readOnly = false := by decide +kernel
  obtain ⟨inserted, _, _, -, -, -, bound⟩ :=
    conflict_by_own_values person (.insert .upsert resident) _ upserted rfl drafted
  dsimp only at bound
  exact ⟨drafted, valued, inserted, fun c hc => bound valued c hc (writable c hc) (.inr rfl)⟩

def stamped : MappedType where
  typeName := "Note"
  table := "notes"
  cacheKey := none
  fields := [.mk 0 "id" "id,pk,readonly" "String" (.plain (.plain .text)) none,
    .mk 1 "body" "body" "String" (.plain (.plain .text)) none]
  ownPopulation := none

/-- A key that the table fills by itself decides and is not written. -/
theorem stamped_not_written :
    ¬ ∀ (t : MappedType) (o : Operation) (m : Merge) (d : Draft), o.merge? t = some m →
      o.draft? t = .ok (some d) → (∀ c ∈ m.target, ∀ r ∈ m.rows, t.isZero r c.path = false) →
        ∀ table columns rows conflict returning,
          d.statement = .insert table columns rows conflict returning →
            ∀ c ∈ m.target, c.columnName ∈ columns := by
  intro claimed
  have valued : ∀ c ∈ stamped.keyColumns, ∀ r ∈ [[.plain (.text "k7"), .plain (.text "x")]],
      stamped.isZero r c.path = false := by decide +kernel
  have written := claimed stamped (.insert .upsert [.plain (.text "k7"), .plain (.text "x")]) _
    ⟨.insert "notes" ["body"] 1 (.doUpdate ["id"] ["body"]) [], [⟨.plain .text, .text "x"⟩],
      some "notes_upsert"⟩ rfl (by decide +kernel) valued _ _ _ _ _ rfl
  revert written
  decide +kernel

theorem settable_of_update (h : t.updateDraft r = .ok d) : t.settable ≠ [] := by
  intro none
  obtain ⟨columns, hc, h⟩ := bind_eq_ok.mp h
  obtain rfl := mappedColumns_ok hc
  obtain ⟨keys, -, h⟩ := bind_eq_ok.mp h
  simp only [Columns.isEmpty, items_updated, none, List.isEmpty_nil, ↓reduceIte] at h
  cases h

theorem assigned_inserted (merges : o.merge? t = some m) (hc : c ∈ m.assigned) :
    c ∈ (o.written t).items ∧ c.flags.readOnly = false ∧ c.flags.auto = false ∧ c ∉ m.target := by
  rw [mem_written merges]
  obtain ⟨r, rfl, rfl⟩ | ⟨r, rfl, rfl⟩ | ⟨rs, rfl, rfl⟩ := merge_cases merges
  · cases hc
  · simp only [MappedType.settable, List.mem_filter, Bool.and_eq_true, Bool.not_eq_true'] at hc
    obtain ⟨⟨there, writable, other⟩, given⟩ := hc
    refine ⟨⟨there, writable, .inl given⟩, writable, given, fun key => ?_⟩
    rw [(List.mem_filter.mp key).2] at other
    cases other
  · simp only [List.mem_filter, Bool.and_eq_true, Bool.not_eq_true'] at hc
    obtain ⟨there, ⟨writable, given⟩, other⟩ := hc
    refine ⟨⟨there, writable, .inl given⟩, writable, given, fun key => ?_⟩
    rw [List.contains_iff_mem.mpr key] at other
    cases other

/-- The key is left alone by a batch when it decides itself, or when all of it is out of reach. -/
theorem batch_spares_key_iff :
    (∀ c ∈ t.columns.items.filter fun c =>
        !c.flags.readOnly && !c.flags.auto && !t.batchKeys.contains c, c.flags.primaryKey = false) ↔
      (∀ c ∈ t.columns.items, c.flags.uniqueKey = false) ∨
        ∀ c ∈ t.keyColumns, c.flags.readOnly = true ∨ c.flags.auto = true ∨ c.flags.uniqueKey = true := by
  -- Without unique columns the key itself tells the rows, and is not set.
  by_cases plain : ∀ c ∈ t.columns.items, c.flags.uniqueKey = false
  · have whole : t.batchKeys = t.keyColumns := by
      have none : t.columns.items.filter (·.flags.uniqueKey) = [] :=
        List.filter_eq_nil_iff.mpr fun c hc => by simp [plain c hc]
      rw [MappedType.batchKeys, none]
      rfl
    refine iff_of_true (fun c hc => ?_) (.inl plain)
    simp only [whole, List.mem_filter, Bool.and_eq_true, Bool.not_eq_true'] at hc
    by_contra key
    have there : c ∈ t.keyColumns := List.mem_filter.mpr ⟨hc.1, by simpa using key⟩
    rw [List.contains_iff_mem.mpr there] at hc
    cases hc.2.2
  · have unique : t.batchKeys = t.columns.items.filter (·.flags.uniqueKey) := by
      have some_unique : (t.columns.items.filter (·.flags.uniqueKey)).isEmpty = false := by
        rw [Bool.eq_false_iff, Ne, List.isEmpty_iff, List.filter_eq_nil_iff]
        exact fun none => plain fun c hc => by simpa using none c hc
      simp only [MappedType.batchKeys, some_unique, Bool.false_eq_true, ↓reduceIte]
    have decides {c : Column} (hc : c ∈ t.columns.items) :
        t.batchKeys.contains c = c.flags.uniqueKey := by
      rw [unique, Bool.eq_iff_iff, List.contains_iff_mem, List.mem_filter]
      exact and_iff_right hc
    rw [or_iff_right plain]
    constructor
    · intro spared c hc
      obtain ⟨there, key⟩ := List.mem_filter.mp hc
      by_contra reached
      simp only [not_or, Bool.not_eq_true] at reached
      have free : t.batchKeys.contains c = false := (decides there).trans reached.2.2
      have assigned := spared c (List.mem_filter.mpr ⟨there, by rw [free]; simp [reached]⟩)
      rw [key] at assigned
      cases assigned
    · intro sheltered c hc
      obtain ⟨there, reached⟩ := List.mem_filter.mp hc
      by_contra key
      simp only [decides there, Bool.and_eq_true, Bool.not_eq_true'] at reached
      rcases sheltered c (List.mem_filter.mpr ⟨there, by simpa using key⟩) with h | h | h <;>
        simp [h] at reached

/-- Neither an update nor an insert that meets a row with its key sets a read-only column, and no insert sets a
generated column or one that decides. What is set is inserted too, with the record's own value; there is something
to set, or the text says that nothing is to be done. A column of the primary key is set in one case only: by a
batch whose rows are told by unique columns, when it is writable, not generated and not unique. -/
theorem assigned_columns (t : MappedType) :
    (∀ r d, (Operation.update r).draft? t = .ok (some d) →
      d.statement.render = "UPDATE " ++ t.table ++ " SET " ++
        pairText ", " 1 (t.settable.map (·.columnName)) ++ " WHERE " ++
          pairText " AND " (t.settable.length + 1) (t.keyColumns.map (·.columnName)) ∧
      t.settable ≠ [] ∧
      ∀ c ∈ t.settable, c ∈ t.columns.items ∧ c.flags.readOnly = false ∧ c.flags.primaryKey = false) ∧
    (∀ (o : Operation) (m : Merge) (d : Draft), o.merge? t = some m → o.draft? t = .ok (some d) →
      ∃ (inserted : Columns) (returning : List String),
        d.statement.render = insertHead t.table inserted.bareNames m.rows.length ++
          conflictText (m.target.map (·.columnName)) (m.assigned.map (·.columnName)) ++
            returningText returning ∧
        d.Fills t m.rows inserted ∧
        ∀ c ∈ m.assigned, c ∈ inserted.items ∧ c.flags.readOnly = false ∧ c.flags.auto = false ∧
          c ∉ m.target) ∧
    ∀ (o : Operation) (m : Merge), o.merge? t = some m →
      ((∀ c ∈ m.assigned, c.flags.primaryKey = false) ↔
        (o.isBatch = true → (∀ c ∈ t.columns.items, c.flags.uniqueKey = false) ∨
          ∀ c ∈ t.keyColumns,
            c.flags.readOnly = true ∨ c.flags.auto = true ∨ c.flags.uniqueKey = true)) := by
  refine ⟨fun r d h => ?_, fun o m d merges h => ?_, fun o m merges => ?_⟩
  · have addressed := render_of_address (o := .update r) rfl h
    refine ⟨?_, settable_of_update (some_of_map h), fun c hc => ?_⟩
    · rw [addressed]
      simp only [Address.text, bareNames_of_items (items_updated t), Columns.size, items_updated]
    · simpa [MappedType.settable] using hc
  · obtain ⟨returning, text, filled⟩ := merge_drafted merges h
    exact ⟨o.written t, returning, text, filled, fun c hc => assigned_inserted merges hc⟩
  · obtain ⟨r, rfl, rfl⟩ | ⟨r, rfl, rfl⟩ | ⟨rs, rfl, rfl⟩ := merge_cases merges
    · simp [Operation.isBatch]
    · refine iff_of_true (fun c hc => ?_) (by simp [Operation.isBatch])
      have settable := List.mem_of_mem_filter hc
      simp only [MappedType.settable, List.mem_filter, Bool.and_eq_true, Bool.not_eq_true'] at settable
      exact settable.2.2
    · rw [batch_spares_key_iff]
      simp [Operation.isBatch]

def member : MappedType where
  typeName := "Member"
  table := "people"
  cacheKey := none
  fields := [.mk 0 "id" "id,pk" "String" (.plain (.plain .text)) none,
    .mk 1 "email" "email,uk" "String" (.plain (.plain .text)) none,
    .mk 2 "name" "name" "String" (.plain (.plain .text)) none]
  ownPopulation := none

def joined : Record := [.plain (.text "b"), .plain (.text "ada@example.org"), .plain (.text "Ada")]

def enrolled : Draft :=
  ⟨.insert "people" ["id", "email", "name"] 1 (.doUpdate ["email"] ["id", "name"]) [],
    [⟨.plain .text, .text "b"⟩, ⟨.plain .text, .text "ada@example.org"⟩, ⟨.plain .text, .text "Ada"⟩], none⟩

/-- A batch tells members by their addresses; one that is there gets the id of the record. -/
theorem assigned_columns_member :
    (Operation.insertMany .upsert [joined]).draft? member = .ok (some enrolled) ∧
      ∃ (inserted : Columns) (returning : List String),
        enrolled.statement.render = insertHead "people" inserted.bareNames 1 ++
          " ON CONFLICT (email) DO UPDATE SET id = EXCLUDED.id, name = EXCLUDED.name" ++
            returningText returning ∧
        enrolled.Fills member [joined] inserted := by
  have drafted : (Operation.insertMany .upsert [joined]).draft? member = .ok (some enrolled) := by
    decide +kernel
  obtain ⟨-, merged, -⟩ := assigned_columns member
  obtain ⟨inserted, returning, text, filled, -⟩ :=
    merged (.insertMany .upsert [joined]) _ enrolled rfl drafted
  have conflict : conflictText (member.batchKeys.map (·.columnName))
      ((member.columns.items.filter fun c => !c.flags.readOnly && !c.flags.auto &&
        !member.batchKeys.contains c).map (·.columnName)) =
      " ON CONFLICT (email) DO UPDATE SET id = EXCLUDED.id, name = EXCLUDED.name" := by decide +kernel
  dsimp only at text filled
  rw [conflict] at text
  exact ⟨drafted, inserted, returning, text, filled⟩

/-- So a batch may set a column of the primary key. -/
theorem member_key_assigned :
    ¬ ∀ (t : MappedType) (rs : List Record) (d : Draft),
      (Operation.insertMany .upsert rs).draft? t = .ok (some d) →
        ∀ table columns rows target set returning,
          d.statement = .insert table columns rows (.doUpdate target set) returning →
            ∀ c ∈ t.columns.items, c.columnName ∈ set → c.flags.primaryKey = false := by
  intro claimed
  have spared := claimed member [joined] enrolled (by decide +kernel) _ _ _ _ _ _ rfl
  revert spared
  decide +kernel

end RowMapper
