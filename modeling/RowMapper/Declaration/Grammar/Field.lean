import RowMapper.Declaration.Grammar.Bound

/-!
The fields of a type, with and without names, and alternatives that have fields.
-/
namespace RowMapper.Declaration

structure FieldTrees where
  attributes : List Tree
  visibility : List Tree
  name : List Tree
  colon : List Tree
  type : List Tree
  comma : List Tree
  deriving Repr, Inhabited

def FieldTrees.trees (f : FieldTrees) : List Tree :=
  f.attributes ++ f.visibility ++ f.name ++ f.colon ++ f.type ++ f.comma

namespace Grammar

open TreeReader

variable (g : Grammar)

/-- The type of a field without a name may be given by its fields. -/
def nestedFields : TreeReader :=
  verbatim (andThen (wordOf ["struct", "union"]) (within .curly g.fields))

def fieldType (name : List Tree) : TreeReader := fun ts =>
  let isNested := fits (word "struct") ts || fits (andThen (word "union") (group .curly)) ts
  if isNested && fits (word "_") name then nestedFields g ts else g.anyType ts

def namedField? (ts : List Tree) : Option (FieldTrees × List Tree) :=
  match g.attributes ts with
  | none => none
  | some (attributes, ts) =>
    match visibility ts with
    | none => none
    | some (visibility, ts) =>
      match either TreeReader.name (word "_") ts with
      | none => none
      | some (name, ts) =>
        match mark ':' ts with
        | none => none
        | some (colon, ts) =>
          match fieldType g name ts with
          | none => none
          | some (type, ts) =>
            (if ts.isEmpty then some ([], ts) else mark ',' ts).map fun (comma, ts) =>
              (⟨attributes, visibility, name, colon, type, comma⟩, ts)

/-- Fields with names, to the end. The bound is on their number. -/
def namedFields? : Nat → List Tree → Option (List FieldTrees)
  | 0, _ => none
  | n + 1, ts =>
    if ts.isEmpty then some []
    else match namedField? g ts with
      | none => none
      | some (f, ts) => (namedFields? n ts).map (f :: ·)

def readFields : TreeReader := fun ts =>
  (namedFields? g (ts.length + 1) ts).map fun fs => (fs.flatMap FieldTrees.trees, [])

def namedFields : TreeReader := within .curly (readFields g)

def unnamedFields : TreeReader :=
  within .round (listed (all [g.attributes, visibility, g.anyType]))

/-- An alternative, maybe with fields and a number. Who may see it is not kept. -/
def alternative : TreeReader :=
  all [g.attributes, without visibility, TreeReader.name,
    wherever (fits (group .round)) (unnamedFields g), wherever (fits (group .curly)) (namedFields g),
    whenever (mark '=') g.anyExpression]

def typeAlternatives : TreeReader := within .curly (listed (alternative g))

def typeBody (keyword : String) : TreeReader := fun ts =>
  match keyword with
  | "enum" => andThen (conditions g) (typeAlternatives g) ts
  | "union" => andThen (conditions g) (namedFields g) ts
  | _ =>
    if fits (group .round) ts then all [unnamedFields g, conditions g, mark ';'] ts
    else andThen (conditions g) (either (mark ';') (namedFields g)) ts

end Grammar

end RowMapper.Declaration
