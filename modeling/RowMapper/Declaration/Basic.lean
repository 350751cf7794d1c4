import RowMapper.Declaration.Attribute
import RowMapper.Declaration.Source

/-!
The declaration of a type: its attributes, name, parameters, conditions and fields.
-/
namespace RowMapper.Declaration

open TreeReader

structure FieldDeclaration where
  attributes : List Attribute
  name : String
  type : List Tree
  deriving Repr, Inhabited

namespace FieldDeclaration

def ofTrees (f : FieldTrees) : FieldDeclaration :=
  ⟨Attribute.ofTrees f.attributes, Tree.compact f.name, f.type⟩

end FieldDeclaration

inductive Body where
  | named (fields : List FieldDeclaration)
  /-- Fields without names, or none at all. -/
  | unnamed
  | alternatives
  deriving Repr, Inhabited

structure TypeDeclaration where
  attributes : List Attribute
  name : String
  /-- Each parameter with whether a comma follows it. -/
  parameters : List (Parameter × Bool)
  conditions : List Tree
  body : Body
  deriving Repr, Inhabited

namespace TypeDeclaration

variable (g : Grammar)

def structBody (ts : List Tree) : Option (List Tree × Body) :=
  if fits (group .round) ts then
    match (g.unnamedFields ts).bind fun (_, ts) => g.conditions ts with
    | some (conditions, [.leaf (.mark ';' _)]) => some (conditions, .unnamed)
    | _ => none
  else
    match g.conditions ts with
    | some (conditions, [.group .curly inner]) =>
      (g.namedFields? (inner.length + 1) inner).map fun fields =>
        (conditions, .named (fields.map FieldDeclaration.ofTrees))
    | some (conditions, [.leaf (.mark ';' _)]) => some (conditions, .unnamed)
    | _ => none

def otherBody (inside : TreeReader) (ts : List Tree) : Option (List Tree × Body) :=
  match g.conditions ts with
  | none => none
  | some (conditions, ts) =>
    match inside ts with
    | some (_, []) => some (conditions, .alternatives)
    | _ => none

def bodyOf (keyword : String) (ts : List Tree) : Option (List Tree × Body) :=
  match keyword with
  | "struct" => structBody g ts
  | "enum" => otherBody g g.typeAlternatives ts
  | "union" => otherBody g g.namedFields ts
  | _ => none

def ofTreesBy? (ts : List Tree) : Option TypeDeclaration :=
  match g.attributes ts with
  | none => none
  | some (attributes, ts) =>
    match Grammar.visibility ts with
    | some (_, .leaf (.word keyword false) :: .leaf name :: ts) =>
      if !name.isName then none
      else match g.parameters? ts with
        | none => none
        | some (parameters, ts) =>
          (bodyOf g keyword ts).map fun (conditions, body) =>
            ⟨Attribute.ofTrees attributes, name.spelling, parameters, conditions, body⟩
    | _ => none

def ofTrees? (ts : List Tree) : Option TypeDeclaration := ofTreesBy? (Grammar.forTrees ts) ts

def read? (source : String) : Option TypeDeclaration := (Tree.read? source).bind ofTrees?

end TypeDeclaration

end RowMapper.Declaration
