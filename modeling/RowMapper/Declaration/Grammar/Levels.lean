import RowMapper.Declaration.Grammar.Item
import RowMapper.Declaration.Grammar.Statement

/-!
The whole grammar. What stands inside a part is read one level down, so as many levels as a text has
trees are enough.
-/
namespace RowMapper.Declaration.Grammar

open TreeReader

/-! ### Attributes -/

def attributePath : TreeReader := either (word "unsafe") plainPath

/-- The value of an attribute: a literal, or an expression that has no attributes itself. -/
def attributeValue (g : Grammar) : TreeReader := fun ts =>
  match literal ts with
  | some (read, []) => some (read, [])
  | _ => if fits (andThen (mark '#') (group .square)) ts then none else g.anyExpression ts

def readAttribute (g : Grammar) : TreeReader :=
  andThen attributePath fun ts =>
    if fits anyGroup ts then anyGroup ts else whenever (mark '=') (attributeValue g) ts

/-! ### Levels -/

def next (g : Grammar) : Grammar :=
  { type := readType g
    bound := formless (readBound g false true)
    expression := readExpression g
    operand := readOperand g
    clause := readClause g
    pattern := readPattern g
    statements := readStatements g
    attributeInside := readAttribute g
    item := readItem g
    fields := readFields g }

def above (g : Grammar) : Nat → Grammar
  | 0 => g
  | n + 1 => above g.next n

/-- The grammar for trees: no part of them is so deep that the levels run out. -/
def forTrees (ts : List Tree) : Grammar := empty.above (4 * Tree.sizeOfAll ts + 12)

end RowMapper.Declaration.Grammar
