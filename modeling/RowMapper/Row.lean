import RowMapper.Error
import RowMapper.Value

/-!
Rows of named cells, and reading a cell as a value of a given type. A row in memory tells what is
wrong with a cell; a row from the server only says which cell it is.
-/
namespace RowMapper

structure Cell where
  name : Option String
  type : WireType
  raw : Option (List UInt8)
  deriving DecidableEq, Repr, Inhabited

inductive RowSource where
  | memory
  | server
  deriving DecidableEq, Repr, Inhabited

structure Row where
  source : RowSource
  cells : List Cell
  deriving DecidableEq, Repr, Inhabited

namespace Row

def size (r : Row) : Nat := r.cells.length

def name? (r : Row) (index : Nat) : Option String :=
  r.cells[index]?.bind (·.name)

def outOfRange (r : Row) (index : Nat) : Error :=
  .decode ("#" ++ toString index)
    (match r.source with
    | .memory => "out of range"
    | .server => "row has " ++ toString r.size ++ " columns")

def unreadable (r : Row) (index : Nat) (c : Cell) (reason : String) : Error :=
  .decode (c.name.getD "")
    (match r.source with
    | .memory => reason
    | .server => (ClientFault.column index).message)

def scan (r : Row) (t : HostType) (index : Nat) : Except Error Value :=
  match r.cells[index]? with
  | none => .error (r.outOfRange index)
  | some c =>
    if !t.accepts c.type then .error (r.unreadable index c ("cannot decode " ++ c.type.label))
    else match t.read c.type c.raw with
      | .ok v => .ok v
      | .error reason => .error (r.unreadable index c reason)

end Row

/-- A place that takes a cell: a variable of some type, or one that takes any cell whole. -/
inductive Target where
  | typed (type : HostType) (value : Value)
  | whole (cell : Option Cell)
  deriving DecidableEq, Repr, Inhabited

def Target.take (r : Row) (index : Nat) : Target → Except Error Target
  | .typed type _ => (r.scan type index).map (.typed type)
  | .whole _ =>
    match r.cells[index]? with
    | some c => .ok (.whole (some c))
    | none => .error (r.outOfRange index)

/-- Fills the targets from the cells in order, up to the first that cannot be read. -/
def scanTargets (r : Row) : Nat → List Target → List Target × Except Error Unit
  | _, [] => ([], .ok ())
  | index, t :: rest =>
    match t.take r index with
    | .error e => (t :: rest, .error e)
    | .ok t =>
      let (rest, result) := scanTargets r (index + 1) rest
      (t :: rest, result)

end RowMapper
