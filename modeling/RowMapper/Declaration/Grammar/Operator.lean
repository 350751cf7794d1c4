import RowMapper.Declaration.Grammar.Basic

/-!
Operators between two operands, and how tightly they hold them together.
-/
namespace RowMapper.Declaration

/-- From the loosest to the tightest. -/
inductive Tightness where
  | loosest
  | assignment
  | range
  | disjunction
  | conjunction
  | comparison
  | bitOr
  | bitXor
  | bitAnd
  | shift
  | sum
  | product
  | cast
  deriving DecidableEq, Repr, Inhabited

namespace Tightness

def height : Tightness → Nat
  | loosest => 0
  | assignment => 1
  | range => 2
  | disjunction => 3
  | conjunction => 4
  | comparison => 5
  | bitOr => 6
  | bitXor => 7
  | bitAnd => 8
  | shift => 9
  | sum => 10
  | product => 11
  | cast => 12

def isBelow (a b : Tightness) : Bool := a.height < b.height

end Tightness

namespace Operator

open TreeReader

/-- The operators in the order in which they are tried: none comes behind its own beginning. -/
def spellings : List (String × Tightness) :=
  [("+=", .assignment), ("-=", .assignment), ("*=", .assignment), ("/=", .assignment),
    ("%=", .assignment), ("^=", .assignment), ("&=", .assignment), ("|=", .assignment),
    ("<<=", .assignment), (">>=", .assignment), ("&&", .conjunction), ("||", .disjunction),
    ("<<", .shift), (">>", .shift), ("==", .comparison), ("<=", .comparison), ("!=", .comparison),
    (">=", .comparison), ("+", .sum), ("-", .sum), ("*", .product), ("/", .product),
    ("%", .product), ("^", .bitXor), ("&", .bitAnd), ("|", .bitOr), ("<", .comparison),
    (">", .comparison)]

def read : FormReader Tightness := fun ts =>
  spellings.findSome? fun (spelling, tightness) => withForm tightness (symbol spelling) ts

def startsAssignment (ts : List Tree) : Bool := fits (mark '=') ts && !fits (symbol "=>") ts

def tightnessAt (ts : List Tree) : Tightness :=
  match read ts with
  | some ((tightness, _), _) => tightness
  | none =>
    if startsAssignment ts then .assignment
    else if fits (symbol "..") ts then .range
    else if fits (word "as") ts then .cast
    else .loosest

end Operator

end RowMapper.Declaration
