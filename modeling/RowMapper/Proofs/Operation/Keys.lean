import RowMapper.Proofs.Operation.Pairing
import RowMapper.Proofs.Operation.Texts
import RowMapper.Proofs.Session.Returning

/-!
The rows that the operations on one record are about. They are found by a condition on key columns. An update,
a removal and a test for existence take all key columns of the type; a row is loaded by those of them that are
read.
-/
namespace RowMapper

def MappedType.keyColumns (t : MappedType) : List Column :=
  t.columns.items.filter (·.flags.primaryKey)

/-- The key columns that are read together with the others. -/
def MappedType.readableKeys (t : MappedType) : List Column :=
  t.keyColumns.filter fun c => !c.flags.readOnly

/-- How a statement finds its rows: a condition on key columns stands behind everything else, with places from
a first one on. -/
structure Address where
  front : String
  first : Nat
  keys : List Column
  deriving DecidableEq

def Address.text (a : Address) : String :=
  a.front ++ " WHERE " ++ pairText " AND " a.first (a.keys.map (·.columnName))

namespace Operation

def address? (t : MappedType) : Operation → Option Address
  | .get _ _ =>
    some ⟨"SELECT " ++ ",".intercalate t.selected.bareNames ++ " FROM " ++ t.table, 1, t.readableKeys⟩
  | .contains _ => some ⟨"SELECT 1 FROM " ++ t.table, 1, t.keyColumns⟩
  | .update _ =>
    let set := t.columns.view .updated
    some ⟨"UPDATE " ++ t.table ++ " SET " ++ pairText ", " 1 set.bareNames, set.size + 1, t.keyColumns⟩
  | .delete _ => some ⟨"DELETE FROM " ++ t.table, 1, t.keyColumns⟩
  | _ => none

def loads : Operation → Bool
  | .get _ _ => true
  | _ => false

end Operation

variable {t : MappedType} {o : Operation} {a : Address} {d : Draft} {e : Error} {r : Record}

theorem items_keys (t : MappedType) : (t.columns.view .primaryKeys).items = t.keyColumns :=
  Columns.items_view t.nodup_columns .primaryKeys

theorem items_readableKeys (t : MappedType) :
    (t.selected.view .primaryKeys).items = t.readableKeys := by
  have both : (t.selected.view .primaryKeys).items =
      t.columns.items.filter fun c => !c.flags.readOnly && c.flags.primaryKey :=
    Columns.items_filter_filter t.nodup_columns _ _
  rw [both, MappedType.readableKeys, MappedType.keyColumns, List.filter_filter]

theorem keysOf_error {cs : Columns} :
    t.keysOf cs = .error e ↔ (cs.view .primaryKeys).items = [] ∧ .noPrimaryKey t.table = e := by
  simp only [MappedType.keysOf, Columns.isEmpty, List.isEmpty_iff]
  split <;> simp [*]

theorem value_ne_noPrimaryKey {path : List Nat} {table : String} :
    t.value r path ≠ .error (.noPrimaryKey table) := by
  intro h
  simp only [MappedType.value] at h
  split at h
  · rename_i leaf _
    obtain ⟨f, slot⟩ := leaf
    cases slot with
    | document document =>
      simp only [leafValue, Json.Document.bound] at h
      split at h <;> cases h
    | plain v =>
      simp only [leafValue] at h
      split at h <;> cases h
    | record slots => cases h
  · cases h

theorem values_ne_noPrimaryKey {cs : Columns} {table : String} :
    cs.values t r ≠ .error (.noPrimaryKey table) := by
  intro h
  obtain ⟨_, c, _, -, -, failed⟩ := mapM_eq_error.mp h
  exact value_ne_noPrimaryKey failed

theorem mappedColumns_of (mapped : t.columns.isEmpty = false) : t.mappedColumns = .ok t.columns := by
  simp [MappedType.mappedColumns, mapped]

theorem keyed_refused {f : Columns → Except Error Draft} {cs : Columns}
    (later : ∀ keys, f keys ≠ .error (.noPrimaryKey t.table)) :
    (t.keysOf cs >>= f).map some = .error (.noPrimaryKey t.table) ↔ (cs.view .primaryKeys).items = [] := by
  rw [map_eq_error, bind_eq_error, keysOf_error]
  constructor
  · rintro (⟨none, -⟩ | ⟨keys, -, failed⟩)
    · exact none
    · exact absurd failed (later keys)
  · intro none
    exact .inl ⟨none, rfl⟩

theorem refused_iff (mapped : t.columns.isEmpty = false) (addressed : o.address? t = some a) :
    o.draft? t = .error (.noPrimaryKey t.table) ↔ a.keys = [] := by
  cases o with
  | getAll | insert | insertMany | truncate => cases addressed
  | get ids r =>
    obtain rfl := Option.some.inj addressed
    simp only [Operation.draft?, MappedType.getDraft, mappedColumns_of mapped]
    rw [← items_readableKeys]
    refine keyed_refused fun keys => ?_
    split <;> simp [MappedType.wrongIds]
  | update r =>
    obtain rfl := Option.some.inj addressed
    simp only [Operation.draft?, MappedType.updateDraft, mappedColumns_of mapped]
    rw [← items_keys]
    refine keyed_refused fun keys failed => ?_
    split at failed
    · cases failed
    · rcases bind_eq_error.mp failed with failed | ⟨_, -, failed⟩
      · exact values_ne_noPrimaryKey failed
      · rcases bind_eq_error.mp failed with failed | ⟨_, -, failed⟩
        · exact values_ne_noPrimaryKey failed
        · cases failed
  | delete r =>
    obtain rfl := Option.some.inj addressed
    simp only [Operation.draft?, MappedType.deleteDraft, mappedColumns_of mapped]
    rw [← items_keys]
    refine keyed_refused fun keys failed => ?_
    rcases bind_eq_error.mp failed with failed | ⟨_, -, failed⟩
    · exact values_ne_noPrimaryKey failed
    · cases failed
  | contains r =>
    obtain rfl := Option.some.inj addressed
    simp only [Operation.draft?, MappedType.existsDraft, mappedColumns_of mapped]
    rw [← items_keys]
    refine keyed_refused fun keys failed => ?_
    rcases bind_eq_error.mp failed with failed | ⟨_, -, failed⟩
    · exact values_ne_noPrimaryKey failed
    · cases failed

theorem bareNames_of_items {cs : Columns} {items : List Column} (same : cs.items = items) :
    cs.bareNames = items.map (·.columnName) := by
  rw [Columns.bareNames, same]

theorem render_of_address (addressed : o.address? t = some a) (h : o.draft? t = .ok (some d)) :
    d.statement.render = a.text := by
  have all := bareNames_of_items (items_keys t)
  cases o with
  | getAll | insert | insertMany | truncate => cases addressed
  | get ids r =>
    obtain rfl := Option.some.inj addressed
    obtain ⟨-, -, text, -⟩ := getDraft_ok (some_of_map h)
    rw [text, Statement.render_selectByKey, bareNames_of_items (items_readableKeys t)]
    rfl
  | update r =>
    obtain rfl := Option.some.inj addressed
    obtain ⟨_, _, -, -, -, text, -⟩ := updateDraft_ok (some_of_map h)
    rw [text, Statement.render_update, all, Columns.bareNames, List.length_map]
    rfl
  | delete r =>
    obtain rfl := Option.some.inj addressed
    obtain ⟨_, -, -, text, -⟩ := deleteDraft_ok (some_of_map h)
    rw [text, Statement.render_delete, all]
    rfl
  | contains r =>
    obtain rfl := Option.some.inj addressed
    obtain ⟨_, -, -, text, -⟩ := existsDraft_ok (some_of_map h)
    rw [text, Statement.render_exists, all]
    rfl

theorem keys_of_address (addressed : o.address? t = some a) :
    a.keys = if o.loads then t.readableKeys else t.keyColumns := by
  cases o with
  | getAll | insert | insertMany | truncate => cases addressed
  | get | update | delete | contains => exact Option.some.inj addressed ▸ rfl

theorem draft_ne_none (addressed : o.address? t = some a) : o.draft? t ≠ .ok none := by
  intro h
  cases o with
  | getAll | insert | insertMany | truncate => cases addressed
  | get | update | delete | contains =>
    obtain ⟨_, -, absent⟩ := map_eq_ok.mp h
    cases absent

theorem readableKeys_eq_iff :
    t.readableKeys = t.keyColumns ↔ ∀ c ∈ t.keyColumns, c.flags.readOnly = false := by
  simp only [MappedType.readableKeys, List.filter_eq_self, Bool.not_eq_true']

/-- Each of these operations compares the key columns of its address, each once and in their order, and does
not come to a statement exactly when there are none. These are all key columns of the type, except that a row is
not loaded by a key column that is read-only. An operation that comes to no statement sends nothing. -/
theorem row_addressed (t : MappedType) (mapped : t.columns.isEmpty = false) (o : Operation) (a : Address)
    (addressed : o.address? t = some a) :
    (o.draft? t = .error (.noPrimaryKey t.table) ↔ a.keys = []) ∧
    (∀ e, o.draft? t = .error e → ∀ (s : Session) (c : Call),
      (s.operate c t o).1.halt? = some (.error e) ∧ (s.operate c t o).2 = s.finish c.callback ∧
        (s.operate c t o).2.server = s.server) ∧
    o.draft? t ≠ .ok none ∧
    (∀ d, o.draft? t = .ok (some d) →
      d.statement.render = a.text ∧ o.Paired t d ∧
      ∀ (s : Session) (c : Call),
        s.perform c t o = (s.carryOut c d.label d.statement.render d.values (o.use t)).2) ∧
    a.keys.Sublist t.columns.items ∧ (a.keys.map (·.columnName)).Nodup ∧
    a.keys = (if o.loads then t.readableKeys else t.keyColumns) ∧
    (a.keys = t.keyColumns ↔ o.loads = true → ∀ c ∈ t.keyColumns, c.flags.readOnly = false) := by
  have keys := keys_of_address addressed
  have ordered : a.keys.Sublist t.columns.items := by
    have all : t.keyColumns.Sublist t.columns.items := List.filter_sublist
    rw [keys]
    split
    · exact List.filter_sublist.trans all
    · exact all
  refine ⟨refused_iff mapped addressed, fun e h s c => ?_, draft_ne_none addressed, fun d h => ?_, ordered,
    t.nodup_columns.sublist (ordered.map _), keys, ?_⟩
  · obtain ⟨halt, ended⟩ := Session.operate_refused h s c
    exact ⟨halt, ended, by rw [ended]; rfl⟩
  · refine ⟨render_of_address addressed h, (paired_of_draft h).1, fun s c => ?_⟩
    rw [Session.perform_eq, h]
  · rw [keys]
    cases o.loads with
    | true => simp [readableKeys_eq_iff]
    | false => simp

def tenanted : MappedType where
  typeName := "Document"
  table := "docs"
  cacheKey := none
  fields := [.mk 0 "tenant" "tenant,pk,readonly" "i64" (.plain (.plain .int64)) none,
    .mk 1 "id" "id,pk" "i64" (.plain (.plain .int64)) none,
    .mk 2 "body" "body" "String" (.plain (.plain .text)) none]
  ownPopulation := none

/-- A row is loaded by a part of its key: the tenant is not among the columns that are read. -/
theorem row_addressed_tenanted :
    tenanted.columns.isEmpty = false ∧
      (Operation.get [⟨.plain .int64, .int64 7⟩] []).address? tenanted =
        some ⟨"SELECT id,body FROM docs", 1, tenanted.readableKeys⟩ ∧
      ∃ d, (Operation.get [⟨.plain .int64, .int64 7⟩] []).draft? tenanted = .ok (some d) ∧
        d.statement.render = "SELECT id,body FROM docs WHERE id = $1" := by
  have mapped : tenanted.columns.isEmpty = false := by decide +kernel
  have addressed : (Operation.get [⟨.plain .int64, .int64 7⟩] []).address? tenanted =
      some ⟨"SELECT id,body FROM docs", 1, tenanted.readableKeys⟩ := by decide +kernel
  obtain ⟨-, -, -, text, -⟩ := row_addressed tenanted mapped (.get [⟨.plain .int64, .int64 7⟩] []) _ addressed
  have drafted : (Operation.get [⟨.plain .int64, .int64 7⟩] []).draft? tenanted =
      .ok (some ⟨.selectByKey "docs" ["id", "body"] ["id"], [⟨.plain .int64, .int64 7⟩],
        some "docs_get"⟩) := by decide +kernel
  refine ⟨mapped, addressed, _, drafted, (text _ drafted).1.trans ?_⟩
  decide +kernel

/-- So it is not always the whole key that the row is found by. -/
theorem tenanted_part_of_key :
    ¬ ∀ (t : MappedType) (o : Operation) (a : Address) (d : Draft), t.columns.isEmpty = false →
      o.address? t = some a → o.draft? t = .ok (some d) →
        d.statement.render = ({ a with keys := t.keyColumns } : Address).text := by
  intro claimed
  have whole := claimed tenanted (.get [⟨.plain .int64, .int64 7⟩] []) _
    ⟨.selectByKey "docs" ["id", "body"] ["id"], [⟨.plain .int64, .int64 7⟩], some "docs_get"⟩
    (by decide +kernel) rfl (by decide +kernel)
  revert whole
  decide +kernel

end RowMapper
