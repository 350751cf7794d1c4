import RowMapper.Column
import RowMapper.Text.Quoted

/-!
Ordered collections of columns, one for each name, and their views. Names are reported with the
collection's qualifier in front of them.
-/
namespace RowMapper

structure Columns where
  qualifier : String
  items : List Column
  deriving DecidableEq, Repr, Inhabited

inductive View where
  | primaryKeys
  | notPrimaryKeys
  | uniqueKeys
  | notUniqueKeys
  | autos
  | notAutos
  | readOnly
  | notReadOnly
  | inserted
  | updated
  deriving DecidableEq, Repr, Inhabited

def View.all : List View :=
  [.primaryKeys, .notPrimaryKeys, .uniqueKeys, .notUniqueKeys, .autos, .notAutos, .readOnly,
    .notReadOnly, .inserted, .updated]

def View.name : View → String
  | .primaryKeys => "primary_keys"
  | .notPrimaryKeys => "not_primary_keys"
  | .uniqueKeys => "unique_keys"
  | .notUniqueKeys => "not_unique_keys"
  | .autos => "autos"
  | .notAutos => "not_autos"
  | .readOnly => "read_only"
  | .notReadOnly => "not_read_only"
  | .inserted => "insert_columns"
  | .updated => "update_columns"

def View.ofName? (name : String) : Option View :=
  View.all.find? (·.name == name)

def View.keeps (v : View) (c : Column) : Bool :=
  match v with
  | .primaryKeys => c.flags.primaryKey
  | .notPrimaryKeys => !c.flags.primaryKey
  | .uniqueKeys => c.flags.uniqueKey
  | .notUniqueKeys => !c.flags.uniqueKey
  | .autos => c.flags.auto
  | .notAutos => !c.flags.auto
  | .readOnly => c.flags.readOnly
  | .notReadOnly => !c.flags.readOnly
  | .inserted => !c.flags.readOnly && !c.flags.auto
  | .updated => !c.flags.readOnly && !c.flags.primaryKey

namespace Columns

def qualified (qualifier : String) : Columns := ⟨qualifier, []⟩

def empty : Columns := qualified ""

/-- A column takes the place of the one with its name, or the last place. -/
def putIn (c : Column) : List Column → List Column
  | [] => [c]
  | d :: rest => if d.columnName = c.columnName then c :: rest else d :: putIn c rest

def add (cs : Columns) (c : Column) : Columns :=
  { cs with items := putIn c cs.items }

def addAll (cs : Columns) (more : List Column) : Columns :=
  more.foldl add cs

def ofList (columns : List Column) : Columns :=
  empty.addAll columns

def remove (cs : Columns) (name : String) : Columns :=
  { cs with items := cs.items.filter (·.columnName != name) }

def filter (cs : Columns) (keep : Column → Bool) : Columns :=
  (qualified cs.qualifier).addAll (cs.items.filter keep)

def view (cs : Columns) (v : View) : Columns :=
  cs.filter v.keeps

def copy (cs : Columns) : Columns :=
  (qualified cs.qualifier).addAll cs.items

def withQualifier (cs : Columns) (qualifier : String) : Columns :=
  (qualified qualifier).addAll cs.items

/-- The columns of both, those of the second in place of equally named ones, without a qualifier. -/
def concat (cs ds : Columns) : Columns :=
  empty.addAll (cs.items ++ ds.items)

def size (cs : Columns) : Nat := cs.items.length

def isEmpty (cs : Columns) : Bool := cs.items.isEmpty

def has (cs : Columns) (name : String) : Bool :=
  cs.items.any (·.columnName == name)

def first? (cs : Columns) : Option Column := cs.items.head?

def lookup (cs : Columns) (name : String) : Option Column :=
  match Text.dropFront? cs.qualifier.toList name.toList with
  | some bare => cs.items.find? (·.columnName == String.ofList bare)
  | none => none

def bareNames (cs : Columns) : List String :=
  cs.items.map (·.columnName)

def names (cs : Columns) : List String :=
  cs.bareNames.map (cs.qualifier ++ ·)

def aliasedNames (cs : Columns) (tableAlias : String) : List String :=
  cs.bareNames.map fun name =>
    if cs.qualifier.isEmpty then tableAlias ++ "." ++ name
    else tableAlias ++ "." ++ name ++ " as " ++ cs.qualifier ++ name

def csv (names : List String) : String := ",".intercalate names

def text (cs : Columns) : String := ", ".intercalate cs.names

def describe (cs : Columns) : String :=
  "ColumnCollection \x7b prefix: " ++ Text.quoted cs.qualifier ++ ", columns: " ++
    Text.quotedList cs.names ++ " \x7d"

end Columns

end RowMapper
