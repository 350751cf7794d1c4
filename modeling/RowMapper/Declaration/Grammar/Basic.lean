import RowMapper.Declaration.TreeReader

/-!
What the readers of the grammar share. The parts of a declaration stand inside one another, so each
reader is given the readers of the parts inside; these are again made from readers one level down.
-/
namespace RowMapper.Declaration

/-- What was read as a type, as far as it matters for what follows. -/
inductive TypeForm where
  /-- A path of one name, which may have arguments. -/
  | name
  /-- Any other path that does not start from a type. -/
  | path
  | bound
  | other
  deriving DecidableEq, Repr, Inhabited

inductive ValueForm where
  | range
  | comparison
  /-- It ends a statement by itself. -/
  | block
  | blockMacro
  | other
  deriving DecidableEq, Repr, Inhabited

inductive PatternForm where
  | rest
  /-- A range with one end only. -/
  | openRange
  | other
  deriving DecidableEq, Repr, Inhabited

/-- The readers of the parts that may stand inside others. -/
structure Grammar where
  /-- A type; with `true`, bounds joined by plus signs count as one. -/
  type : Bool → FormReader TypeForm
  bound : TreeReader
  /-- An expression; with `true`, a name with members in curly brackets counts as one. -/
  expression : Bool → FormReader ValueForm
  operand : Bool → FormReader ValueForm
  /-- An expression that ends behind a block at its front, unless a member of it follows. -/
  clause : FormReader ValueForm
  pattern : FormReader PatternForm
  statements : TreeReader
  attributeInside : TreeReader
  item : TreeReader
  fields : TreeReader

namespace Grammar

open TreeReader

def empty : Grammar :=
  { type := fun _ _ => none
    bound := fun _ => none
    expression := fun _ _ => none
    operand := fun _ _ => none
    clause := fun _ => none
    pattern := fun _ => none
    statements := fun _ => none
    attributeInside := fun _ => none
    item := fun _ => none
    fields := fun _ => none }

variable (g : Grammar)

/-- A type where bounds may be joined by plus signs. -/
def anyType : TreeReader := formless (g.type true)

/-- A type that ends before a plus sign. -/
def tightType : TreeReader := formless (g.type false)

def anyExpression : TreeReader := formless (g.expression true)

/-- An expression that ends before a curly bracket. -/
def condition : TreeReader := formless (g.expression false)

def anyPattern : TreeReader := formless g.pattern

/-! ### Attributes and blocks -/

def attributes : TreeReader :=
  during (fits (mark '#')) (andThen (mark '#') (within .square g.attributeInside))

def innerAttributes : TreeReader :=
  during (fits (andThen (mark '#') (mark '!')))
    (all [mark '#', mark '!', within .square g.attributeInside])

def block : TreeReader := within .curly g.statements

def attributedBlock : TreeReader := within .curly (andThen g.innerAttributes g.statements)

def constant : TreeReader := any [literal, name, g.attributedBlock]

def startsConstant : List Tree → Bool := fits (either literal (group .curly))

/-! ### Paths without arguments -/

def plainSegment : TreeReader := either name (wordOf ["super", "self", "Self", "crate"])

def plainPath : TreeReader :=
  all [optional pathMark, plainSegment, during (fits pathMark) (andThen pathMark plainSegment)]

def visibility : TreeReader := fun ts =>
  match word "pub" ts with
  | none => some ([], ts)
  | some (read, .group .round (t :: inner) :: rest) =>
    let scope := [Tree.group .round (t :: inner)]
    if fits (wordOf ["crate", "self", "super"]) [t] && inner.isEmpty then some (read ++ scope, rest)
    else if fits (word "in") [t] then
      (within .round (andThen (word "in") plainPath) scope).map fun (inside, _) =>
        (read ++ inside, rest)
    else some (read, scope ++ rest)
  | some (read, rest) => some (read, rest)

def interface : TreeReader := whenever (word "extern") (optional text)

end Grammar

end RowMapper.Declaration
