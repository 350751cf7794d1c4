import RowMapper.Json.Shape
import RowMapper.Text.Blank
import RowMapper.Text.LowerCase
import RowMapper.Text.Search
import RowMapper.Value

/-!
Columns and the field tags that describe them. A tag is a name and flags, separated by commas; a
single `-` leaves the field out. Nested fields that are inlined give their own columns.
-/
namespace RowMapper

structure Flags where
  primaryKey : Bool
  uniqueKey : Bool
  auto : Bool
  nullable : Bool
  readOnly : Bool
  json : Bool
  inlined : Bool
  deriving DecidableEq, Repr, Inhabited

namespace Flags

def none : Flags := ⟨false, false, false, false, false, false, false⟩

/-- A flag is set when its keyword occurs anywhere in the text, in any case of its letters. -/
def ofChars (cs : List Char) : Flags :=
  let text := Text.lower cs
  let has := fun keyword : String => Text.hasPart keyword.toList text
  { primaryKey := has "pk"
    uniqueKey := has "uk"
    auto := has "serial" || has "auto"
    nullable := has "nullable"
    readOnly := has "readonly"
    json := has "json"
    inlined := has "inline" }

def names (f : Flags) : List String :=
  [(f.primaryKey, "pk"), (f.uniqueKey, "uk"), (f.auto, "auto"), (f.nullable, "nullable"),
    (f.readOnly, "readonly"), (f.json, "json"), (f.inlined, "inline")].filterMap fun (set, name) =>
      if set then some name else Option.none

end Flags

inductive Holding where
  | plain (type : HostType)
  | document (form : Json.Form)
  deriving Inhabited

/-- A field of a record type. The fields of a nested record carry the name of its type. -/
inductive Field where
  | mk (index : Nat) (name tag typeText : String) (holding : Holding)
    (nested : Option (String × List Field))
  deriving Inhabited

namespace Field

def index : Field → Nat
  | .mk index _ _ _ _ _ => index

def name : Field → String
  | .mk _ name _ _ _ _ => name

def tag : Field → String
  | .mk _ _ tag _ _ _ => tag

def typeText : Field → String
  | .mk _ _ _ typeText _ _ => typeText

def holding : Field → Holding
  | .mk _ _ _ _ holding _ => holding

def nested : Field → Option (String × List Field)
  | .mk _ _ _ _ _ nested => nested

end Field

structure Parent where
  fieldName : String
  columnName : String
  tableName : String
  path : List Nat
  deriving DecidableEq, Repr, Inhabited

structure Column where
  columnName : String
  fieldName : String
  fieldType : String
  tableName : String
  index : Nat
  /-- The positions of the fields from the outermost record down to this one. -/
  path : List Nat
  /-- The nearest first. -/
  parents : List Parent
  flags : Flags
  deriving DecidableEq, Repr, Inhabited

/-- What a tag says: the column name, unless it is left open, and the flags. -/
structure Tag where
  columnName : Option String
  flags : Flags
  deriving DecidableEq, Repr, Inhabited

namespace Tag

/-- None for a tag that leaves its field out. -/
def parse? (tag : List Char) : Option Tag :=
  let tag := Text.trim tag
  if tag = ['-'] then none
  else if tag.isEmpty then some ⟨none, .none⟩
  else match Text.splitAt ',' tag with
    | [] => some ⟨none, .none⟩
    | first :: rest =>
      let name := Text.trim first
      some ⟨if name.isEmpty then none else some (String.ofList name),
        Flags.ofChars (Text.joinWith [','] rest)⟩

end Tag

namespace Column

def ofField? (f : Field) : Option Column :=
  (Tag.parse? f.tag.toList).map fun tag =>
    { columnName := tag.columnName.getD (Text.lowered f.name)
      fieldName := f.name
      fieldType := f.typeText
      tableName := ""
      index := f.index
      path := [f.index]
      parents := []
      flags := tag.flags }

def asParent (c : Column) : Parent :=
  ⟨c.fieldName, c.columnName, c.tableName, c.path⟩

def placed (table : String) (parents : List Parent) (c : Column) : Column :=
  { c with
    tableName := table
    parents := parents
    path := match parents with
      | p :: _ => p.path ++ [c.index]
      | [] => c.path }

mutual
/-- The columns of a list of fields, from left to right, inlined ones replaced by theirs. -/
def flatten (table : String) (parents : List Parent) : List Field → List Column
  | [] => []
  | f :: rest => ofTree table parents f ++ flatten table parents rest

def ofTree (table : String) (parents : List Parent) : Field → List Column
  | .mk index name tag typeText holding nested =>
    match ofField? (.mk index name tag typeText holding none) with
    | none => []
    | some c =>
      let c := c.placed table parents
      match nested with
      | some (_, fields) =>
        if c.flags.inlined then flatten table (c.asParent :: parents) fields else [c]
      | none => [c]
end

end Column

end RowMapper
