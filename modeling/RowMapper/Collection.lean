import RowMapper.KeyOrder
import RowMapper.Mapped

/-!
Collections of columns as they are kept: with the position of each name, and with the views that have been
asked for. A view is made once; when the columns change, all views are given up.
-/
namespace RowMapper

structure Collection where
  qualifier : String
  columns : List Column
  index : List (String × Nat)
  /-- The views that have been made, each with the views that have been made of it. -/
  made : List (View × Collection)
  deriving Inhabited

namespace Collection

def qualified (qualifier : String) : Collection := ⟨qualifier, [], [], []⟩

def empty : Collection := qualified ""

def plain (c : Collection) : Columns := ⟨c.qualifier, c.columns⟩

def position? (c : Collection) (name : String) : Option Nat := valueOf? name c.index

/-- A column takes the place of the one with its name, or the last place. -/
def push (c : Collection) (d : Column) : Collection :=
  match c.position? d.columnName with
  | some i => { c with columns := c.columns.set i d }
  | none =>
    { c with
      columns := c.columns ++ [d]
      index := insertByKey d.columnName c.columns.length c.index }

def pushAll (c : Collection) (columns : List Column) : Collection :=
  columns.foldl push c

def gather (qualifier : String) (columns : List Column) : Collection :=
  (qualified qualifier).pushAll columns

def ofList (columns : List Column) : Collection := gather "" columns

def filter (c : Collection) (keep : Column → Bool) : Collection :=
  gather c.qualifier (c.columns.filter keep)

def copy (c : Collection) : Collection := gather c.qualifier c.columns

def withQualifier (c : Collection) (qualifier : String) : Collection :=
  gather qualifier c.columns

/-- The columns of both, without a qualifier. -/
def concat (c d : Collection) : Collection :=
  gather "" (c.columns ++ d.columns)

def zero (c : Collection) (t : MappedType) (r : Record) : Collection :=
  c.filter fun d => t.isZero r d.path

def notZero (c : Collection) (t : MappedType) (r : Record) : Collection :=
  c.filter fun d => !t.isZero r d.path

def add (c : Collection) (d : Column) : Collection :=
  { c.push d with made := [] }

def positionsFrom (start : Nat) : List Column → List (String × Nat) → List (String × Nat)
  | [], index => index
  | d :: rest, index => positionsFrom (start + 1) rest (insertByKey d.columnName start index)

def remove (c : Collection) (name : String) : Collection :=
  match c.position? name with
  | none => c
  | some _ =>
    let columns := c.columns.filter (·.columnName != name)
    { c with columns := columns, index := positionsFrom 0 columns [], made := [] }

def has (c : Collection) (name : String) : Bool := (c.position? name).isSome

def lookup (c : Collection) (name : String) : Option Column :=
  match Text.dropFront? c.qualifier.toList name.toList with
  | some bare => (c.position? (String.ofList bare)).bind fun i => c.columns[i]?
  | none => none

def made? (c : Collection) (v : View) : Option Collection :=
  (c.made.find? (·.1 == v)).map (·.2)

/-- A view, as it was made when it was first asked for. -/
def view (c : Collection) (v : View) : Collection :=
  (c.made? v).getD (c.filter v.keeps)

def keep (c : Collection) (v : View) (made : Collection) : Collection :=
  { c with made := (v, made) :: c.made.filter (·.1 != v) }

/-- Asks for a view, for a view of that, and so on: the last of them, and the collection with all of them
made. -/
def request (c : Collection) : List View → Collection × Collection
  | [] => (c, c)
  | v :: rest =>
    let (answer, made) := (c.view v).request rest
    (answer, c.keep v made)

end Collection

end RowMapper
