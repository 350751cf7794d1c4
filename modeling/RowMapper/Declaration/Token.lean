import RowMapper.Text.LowerCase
import RowMapper.Text.WordTable

/-!
The words and marks of a type declaration. Brackets enclose what stands between them, so that a
declaration is a list of trees.
-/
namespace RowMapper.Declaration

inductive Bracket where
  | round
  | square
  | curly
  deriving DecidableEq, Repr, Inhabited

namespace Bracket

def opening : Bracket → Char
  | .round => '('
  | .square => '['
  | .curly => '{'

def closing : Bracket → Char
  | .round => ')'
  | .square => ']'
  | .curly => '}'

def ofOpening? (c : Char) : Option Bracket :=
  [round, square, curly].find? (·.opening == c)

def ofClosing? (c : Char) : Option Bracket :=
  [round, square, curly].find? (·.closing == c)

end Bracket

inductive Token where
  /-- A name or a keyword. With `r#` in front of it a word is always a name. -/
  | word (name : String) (raw : Bool)
  | lifetime (name : String)
  /-- A character of punctuation; it is joined to the next one if that follows at once. -/
  | mark (c : Char) (joined : Bool)
  | text (value spelling : String)
  | literal (spelling : String)
  deriving DecidableEq, Repr, Inhabited

inductive Tree where
  | leaf (t : Token)
  | group (b : Bracket) (inner : List Tree)
  deriving Repr, Inhabited

/-! ### Characters -/

def isWordStart (c : Char) : Bool :=
  if c.toNat < 128 then c.isAlpha || c == '_' else Text.inRuns Text.wordStartRuns c.toNat

def isWordRest (c : Char) : Bool :=
  isWordStart c || c.isDigit || Text.inRuns Text.wordRestRuns c.toNat

def isMark (c : Char) : Bool :=
  "~!@#$%^&*-=+|;:,<.>/?'".toList.contains c

/-! ### Words -/

def keywords : List String :=
  ["_", "abstract", "as", "async", "await", "become", "box", "break", "const", "continue", "crate",
    "do", "dyn", "else", "enum", "extern", "false", "final", "fn", "for", "if", "impl", "in", "let",
    "loop", "macro", "match", "mod", "move", "mut", "override", "priv", "pub", "ref", "return",
    "Self", "self", "static", "struct", "super", "trait", "true", "try", "type", "typeof", "unsafe",
    "unsized", "use", "virtual", "where", "while", "yield"]

namespace Token

def isName : Token → Bool
  | .word name raw => raw || !keywords.contains name
  | _ => false

def spelling : Token → String
  | .word name raw => if raw then "r#" ++ name else name
  | .lifetime name => "'" ++ name
  | .mark c _ => String.singleton c
  | .text _ spelling => spelling
  | .literal spelling => spelling

end Token

mutual

def Tree.chars : Tree → List Char
  | .leaf t => t.spelling.toList
  | .group b inner => b.opening :: (Tree.charsOfAll inner ++ [b.closing])

def Tree.charsOfAll : List Tree → List Char
  | [] => []
  | t :: rest => t.chars ++ Tree.charsOfAll rest

end

mutual

def Tree.size : Tree → Nat
  | .leaf _ => 1
  | .group _ inner => Tree.sizeOfAll inner + 1

def Tree.sizeOfAll : List Tree → Nat
  | [] => 0
  | t :: rest => t.size + Tree.sizeOfAll rest

end

/-- The text of trees without spaces, also without those inside literals. -/
def Tree.compact (ts : List Tree) : String :=
  String.ofList ((Tree.charsOfAll ts).filter (· != ' '))

end RowMapper.Declaration
