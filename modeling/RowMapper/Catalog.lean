import RowMapper.Mapped

/-!
The columns of types, made once for each key and handed out again after that.
-/
namespace RowMapper

structure Catalog where
  /-- In the order of their making; the position is the instance. -/
  entries : List (String × Columns)
  deriving Inhabited

namespace Catalog

def empty : Catalog := ⟨[]⟩

def find? (key : String) : List (String × Columns) → Option (Nat × Columns)
  | [] => none
  | (k, cs) :: rest =>
    if k = key then some (0, cs) else (find? key rest).map fun (i, cs) => (i + 1, cs)

structure Resolved where
  instanceNumber : Nat
  columns : Columns
  built : Bool
  deriving Inhabited

def resolveWith (c : Catalog) (key : String) (build : Columns) : Resolved × Catalog :=
  match find? key c.entries with
  | some (i, cs) => (⟨i, cs, false⟩, c)
  | none => (⟨c.entries.length, build, true⟩, ⟨c.entries ++ [(key, build)]⟩)

def resolve (c : Catalog) (t : MappedType) : Resolved × Catalog :=
  c.resolveWith t.catalogKey t.columns

def contains (c : Catalog) (key : String) : Bool :=
  (find? key c.entries).isSome

def size (c : Catalog) : Nat := c.entries.length

end Catalog

end RowMapper
