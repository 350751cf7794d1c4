import RowMapper.Record

/-!
Types whose records are mapped to the rows of a table.
-/
namespace RowMapper

inductive Breakdown where
  | error (e : Error)
  | panic (payload : PanicPayload)
  deriving DecidableEq, Repr, Inhabited

structure MappedType where
  typeName : String
  table : String
  /-- Tells apart types that would otherwise share their columns. -/
  cacheKey : Option String
  fields : List Field
  /-- A population of the type's own, in place of the one by columns. -/
  ownPopulation : Option (Row → List Slot → List Slot × Except Breakdown Unit)
  deriving Inhabited

abbrev Record := List Slot

namespace MappedType

def columns (t : MappedType) : Columns :=
  .ofList (Column.flatten t.table [] t.fields)

/-- The columns of a type that has any. They are its own as long as no other type is looked up under its key; see
`Catalog.mappedColumns_eq_resolved`. -/
def mappedColumns (t : MappedType) : Except Error Columns :=
  if t.columns.isEmpty then .error (.unmappedType t.typeName) else .ok t.columns

def newRecord (t : MappedType) : Record :=
  initialSlots t.fields

def value (t : MappedType) (r : Record) (path : List Nat) : Except Error Bound :=
  match leafAt t.typeName path t.fields r with
  | .ok leaf => leafValue leaf
  | .error stray => .error stray.error

/-- Reads a cell into the leaf at a path. A failure leaves the record as it was. -/
def read (t : MappedType) (r : Record) (path : List Nat) (row : Row) (index : Nat) :
    Record × Except Error Unit :=
  match leafAt t.typeName path t.fields r with
  | .error stray => (r, .error stray.error)
  | .ok leaf =>
    match readLeaf row index leaf with
    | .error e => (r, .error e)
    | .ok new => (setLeaf new path t.fields r, .ok ())

def isZero (t : MappedType) (r : Record) (path : List Nat) : Bool :=
  match leafAt t.typeName path t.fields r with
  | .ok leaf => leafIsZero leaf
  | .error _ => false

def catalogKey (t : MappedType) : String :=
  t.typeName ++ "_" ++ t.cacheKey.getD t.table

end MappedType

namespace Columns

def zero (cs : Columns) (t : MappedType) (r : Record) : Columns :=
  cs.filter fun c => t.isZero r c.path

def notZero (cs : Columns) (t : MappedType) (r : Record) : Columns :=
  cs.filter fun c => !t.isZero r c.path

/-- The values of a record in the order of the columns, or the first failure. -/
def values (cs : Columns) (t : MappedType) (r : Record) : Except Error (List Bound) :=
  cs.items.mapM fun c => t.value r c.path

end Columns

end RowMapper
