import RowMapper.Mapped

/-!
Filling records from rows, by the names of the cells or by their order.
-/
namespace RowMapper

namespace MappedType

def populateCells (t : MappedType) (cs : Columns) (row : Row) :
    List (Nat × Option String) → Record → Record × Except Error Unit
  | [], r => (r, .ok ())
  | (index, name) :: rest, r =>
    match name.bind cs.lookup with
    | none => populateCells t cs row rest r
    | some c =>
      match t.read r c.path row index with
      | (r, .error e) => (r, .error e)
      | (r, .ok ()) => populateCells t cs row rest r

def numberedNames (row : Row) : List (Nat × Option String) :=
  (List.range row.size).map fun i => (i, row.name? i)

def populateByName (t : MappedType) (cs : Columns) (row : Row) (r : Record) :
    Record × Except Error Unit :=
  populateCells t cs row (numberedNames row) r

def populateColumns (t : MappedType) (row : Row) : Nat → List Column → Record →
    Record × Except Error Unit
  | _, [], r => (r, .ok ())
  | index, c :: rest, r =>
    match t.read r c.path row index with
    | (r, .error e) => (r, .error e)
    | (r, .ok ()) => populateColumns t row (index + 1) rest r

def populateInOrder (t : MappedType) (cs : Columns) (row : Row) (r : Record) :
    Record × Except Error Unit :=
  if row.size < cs.size then
    (r, .error (.decode t.table ("row has " ++ toString row.size ++ " columns, expected " ++
      toString cs.size)))
  else populateColumns t row 0 cs.items r

def asBreakdown (r : Record × Except Error Unit) : Record × Except Breakdown Unit :=
  (r.1, match r.2 with
    | .ok () => .ok ()
    | .error e => .error (.error e))

/-- Populates a record its own way, if its type has one, and by name otherwise. -/
def populate (t : MappedType) (row : Row) (r : Record) : Record × Except Breakdown Unit :=
  match t.ownPopulation with
  | some own => own row r
  | none =>
    match t.mappedColumns with
    | .error e => (r, .error (.error e))
    | .ok cs => asBreakdown (t.populateByName cs row r)

def populateGenerated (t : MappedType) (cs : Columns) (row : Row) (r : Record) :
    Record × Except Breakdown Unit :=
  match t.ownPopulation with
  | some own => own row r
  | none => asBreakdown (t.populateInOrder cs row r)

end MappedType

inductive OwnPopulation where
  | leave
  | fail (reason : String)
  | breakOff (reason : String)
  | cells (order : List (List Nat × Nat))
  deriving DecidableEq, Repr, Inhabited

def readCells (t : MappedType) (row : Row) : List (List Nat × Nat) → Record →
    Record × Except Breakdown Unit
  | [], r => (r, .ok ())
  | (path, index) :: rest, r =>
    match t.read r path row index with
    | (r, .error e) => (r, .error (.error e))
    | (r, .ok ()) => readCells t row rest r

def OwnPopulation.run (t : MappedType) (row : Row) (r : Record) :
    OwnPopulation → Record × Except Breakdown Unit
  | .leave => (r, .ok ())
  | .fail reason => (r, .error (.error (.validation reason)))
  | .breakOff reason => (r, .error (.panic (.text reason)))
  | .cells order => readCells t row order r

def MappedType.populatedBy (t : MappedType) (own : OwnPopulation) : MappedType :=
  { t with ownPopulation := some fun row r => own.run t row r }

end RowMapper
