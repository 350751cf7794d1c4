import RowMapper.Mapped
import RowMapper.Statement

/-!
The operations on records as statements with values. Each either fails before anything happens or
comes to one draft, whose values stand in the order of the places in its text.
-/
namespace RowMapper

structure Draft where
  statement : Statement
  values : List Param
  /-- The label that it runs under unless the caller has another. -/
  label : Option String
  deriving DecidableEq, Repr, Inhabited

inductive InsertKind where
  | create
  | createIfNew
  | upsert
  deriving DecidableEq, Repr, Inhabited

inductive BatchKind where
  | create
  | upsert
  deriving DecidableEq, Repr, Inhabited

structure Insertion where
  columns : Columns
  conflict : Conflict
  returning : Columns
  label : String
  deriving DecidableEq, Repr, Inhabited

def maxParams : Nat := 65535

def boundParams (bs : List Bound) : List Param := bs.map Bound.param

namespace MappedType

def labelOf (t : MappedType) (operation : String) : String :=
  t.table ++ "_" ++ operation

def keysOf (t : MappedType) (cs : Columns) : Except Error Columns :=
  let keys := cs.view .primaryKeys
  if keys.isEmpty then .error (.noPrimaryKey t.table) else .ok keys

def selected (t : MappedType) : Columns := t.columns.view .notReadOnly

def wrongIds (t : MappedType) (expected got : Nat) : Error :=
  .invalidIds ("`" ++ t.table ++ "` has " ++ toString expected ++
    " primary key column(s), got " ++ toString got ++ " value(s)")

def getDraft (t : MappedType) (ids : List Param) : Except Error Draft := do
  let _ ← t.mappedColumns
  let keys ← t.keysOf t.selected
  if ids.length = keys.size then
    .ok ⟨.selectByKey t.table t.selected.bareNames keys.bareNames, ids, some (t.labelOf "get")⟩
  else .error (t.wrongIds keys.size ids.length)

def getAllDraft (t : MappedType) : Except Error Draft := do
  let _ ← t.mappedColumns
  .ok ⟨.selectAll t.table t.selected.bareNames, [], some (t.labelOf "get_all")⟩

def presentAutos (t : MappedType) (r : Record) : Columns :=
  (t.columns.view .autos).notZero t r

/-- The columns that an upsert inserts: generated ones only where the record has a value. -/
def upsertColumns (t : MappedType) (r : Record) : Columns :=
  t.columns.filter fun c =>
    !c.flags.readOnly && (!c.flags.auto || (t.presentAutos r).has c.columnName)

def upsertSet (t : MappedType) (r : Record) : Columns :=
  (t.columns.view .updated).filter fun c =>
    !c.flags.auto && (t.upsertColumns r).has c.columnName

def upsertLabel (t : MappedType) (r : Record) : String :=
  let autos := t.presentAutos r
  if autos.isEmpty then t.labelOf "upsert"
  else t.labelOf ("upsert_with_" ++ "_".intercalate autos.names)

/-- A value can be read back only when it is clear which. -/
def upsertReturning (t : MappedType) : Columns :=
  let autos := t.columns.view .autos
  if autos.size = 1 then autos else .empty

def insertion (t : MappedType) (r : Record) : InsertKind → Insertion
  | .create =>
    ⟨t.columns.view .inserted, .none, t.columns.view .autos, t.labelOf "create"⟩
  | .createIfNew =>
    ⟨t.columns.view .inserted, .doNothing (t.columns.view .primaryKeys).bareNames,
      t.columns.view .autos, t.labelOf "create_if_not_exists"⟩
  | .upsert =>
    ⟨t.upsertColumns r,
      .doUpdate (t.columns.view .primaryKeys).bareNames (t.upsertSet r).bareNames,
      t.upsertReturning, t.upsertLabel r⟩

def insertDraft (t : MappedType) (r : Record) (i : Insertion) : Except Error Draft := do
  let values ← i.columns.values t r
  .ok ⟨.insert t.table i.columns.bareNames 1 i.conflict i.returning.bareNames,
    boundParams values, some i.label⟩

def batchTarget (t : MappedType) : Columns :=
  if (t.columns.view .uniqueKeys).isEmpty then t.columns.view .primaryKeys
  else t.columns.view .uniqueKeys

def batchSet (t : MappedType) : Columns :=
  (t.columns.view .inserted).filter fun c => !t.batchTarget.has c.columnName

def batchConflict (t : MappedType) : BatchKind → Conflict
  | .create => .none
  | .upsert => .doUpdate t.batchTarget.bareNames t.batchSet.bareNames

def tooManyParams (total : Nat) : Error :=
  .validation (toString total ++ " parameters exceed the limit of " ++ toString maxParams ++
    "; split the batch")

/-- One statement for all records; none for no records. -/
def batchDraft (t : MappedType) (kind : BatchKind) (rs : List Record) :
    Except Error (Option Draft) := do
  let columns ← t.mappedColumns
  let inserted := columns.view .inserted
  if rs.isEmpty then .ok none
  else if inserted.isEmpty then
    .error (.validation ("`" ++ t.table ++ "` has no insertable columns"))
  else if maxParams < rs.length * inserted.size then
    .error (tooManyParams (rs.length * inserted.size))
  else
    let values ← rs.mapM (inserted.values t)
    .ok (some ⟨.insert t.table inserted.bareNames rs.length (t.batchConflict kind) [],
      boundParams values.flatten, none⟩)

def updateDraft (t : MappedType) (r : Record) : Except Error Draft := do
  let columns ← t.mappedColumns
  let keys ← t.keysOf columns
  let set := columns.view .updated
  if set.isEmpty then .error (.validation ("`" ++ t.table ++ "` has no updatable columns"))
  else
    let values ← set.values t r
    let keyValues ← keys.values t r
    .ok ⟨.update t.table set.bareNames keys.bareNames, boundParams (values ++ keyValues),
      some (t.labelOf "update")⟩

def existsDraft (t : MappedType) (r : Record) : Except Error Draft := do
  let columns ← t.mappedColumns
  let keys ← t.keysOf columns
  let values ← keys.values t r
  .ok ⟨.exists t.table keys.bareNames, boundParams values, some (t.labelOf "exists")⟩

def deleteDraft (t : MappedType) (r : Record) : Except Error Draft := do
  let columns ← t.mappedColumns
  let keys ← t.keysOf columns
  let values ← keys.values t r
  .ok ⟨.delete t.table keys.bareNames, boundParams values, some (t.labelOf "delete")⟩

def truncateDraft (t : MappedType) : Draft :=
  ⟨.truncate t.table, [], some (t.labelOf "truncate")⟩

/-- A statement for one key touches one row at most. -/
def singleRow (t : MappedType) (operation : String) (affected : Nat) : Except Error Bool :=
  if 1 < affected then
    .error (.tooManyRows (operation ++ " on `" ++ t.table ++ "` affected " ++ toString affected ++
      " rows"))
  else .ok (affected == 1)

end MappedType

end RowMapper
