import RowMapper.Declaration.Basic
import RowMapper.Declaration.Options

/-!
The mapping that a declaration stands for: the table and the options of the type, its fields, and for
each accessor the functions that it calls for them.
-/
namespace RowMapper.Declaration

structure FieldMapping where
  index : Nat
  name : String
  tag : String
  typeText : String
  role : Role
  deriving DecidableEq, Repr, Inhabited

def FieldMapping.nestedType? (f : FieldMapping) : Option String :=
  if f.role = .inlined then some f.typeText else none

inductive Accessor where
  | value
  | set
  | zero
  deriving DecidableEq, Repr, Inhabited

/-- What an accessor calls for a field; nothing for one that is left out. -/
def Accessor.function? : Accessor → Role → Option String
  | _, .skipped => none
  | .value, .plain => some "field_value"
  | .value, .json => some "json_value"
  | .value, .inlined => some "column_value"
  | .set, .plain => some "set_field"
  | .set, .json => some "set_json"
  | .set, .inlined => some "set_column"
  | .zero, .plain => some "is_zero"
  | .zero, .json => some "is_json_zero"
  | .zero, .inlined => some "is_zero_column"

structure Arm where
  index : Nat
  goesOn : Bool
  function : String
  deriving DecidableEq, Repr, Inhabited

structure Mapping where
  target : String
  parameters : String
  conditions : String
  table : String
  cacheKey : Option String
  populatable : Bool
  fields : List FieldMapping
  deriving DecidableEq, Repr, Inhabited

inductive Refusal where
  | unreadable
  | rejected (f : Fault)
  deriving DecidableEq, Repr, Inhabited

namespace FieldMapping

def ofField (index : Nat) (f : FieldDeclaration) : Except Fault FieldMapping :=
  (tagOf f.attributes).map fun tag =>
    ⟨index, f.name, tag, Tree.compact f.type, Role.ofTag tag.toList⟩

/-- The fields from a position on; the first fault wins. -/
def ofFields (index : Nat) : List FieldDeclaration → Except Fault (List FieldMapping)
  | [] => .ok []
  | f :: rest =>
    match ofField index f with
    | .error e => .error e
    | .ok m => (ofFields (index + 1) rest).map (m :: ·)

end FieldMapping

namespace Mapping

def arms (m : Mapping) (a : Accessor) : List Arm :=
  m.fields.filterMap fun f => (a.function? f.role).map fun function =>
    ⟨f.index, f.role == .inlined, function⟩

/-- The kind of the type is looked at first, then its attributes, then its fields. -/
def ofDeclaration (d : TypeDeclaration) : Except Fault Mapping :=
  match d.body with
  | .alternatives => .error .notStructure
  | .unnamed => .error .unnamedFields
  | .named fields =>
    match Options.ofAttributes d.attributes with
    | .error f => .error f
    | .ok options =>
      (FieldMapping.ofFields 0 fields).map fun fields =>
        { target := d.name ++ Tree.compact (Parameter.write Parameter.asArgument d.parameters)
          parameters := Tree.compact (Parameter.write Parameter.asDeclared d.parameters)
          conditions := Tree.compact d.conditions
          table := options.table.getD (Text.lowered d.name)
          cacheKey := options.cacheKey
          populatable := options.populatable
          fields := fields }

def ofSource (source : String) : Except Refusal Mapping :=
  match TypeDeclaration.read? source with
  | none => .error .unreadable
  | some d =>
    match ofDeclaration d with
    | .ok m => .ok m
    | .error f => .error (.rejected f)

end Mapping

end RowMapper.Declaration
