import RowMapper.KeyOrder
import RowMapper.Number.DoubleText
import RowMapper.Text.Hex

/-!
Documents and their compact text. The members of an object are kept in the order of their keys, one
for each key.
-/
namespace RowMapper.Json

inductive Document where
  | null
  | bool (b : Bool)
  | int (n : Int)
  /-- The bits of a finite double. -/
  | double (bits : UInt64)
  | text (s : String)
  | list (items : List Document)
  | dict (members : List (String × Document))
  /-- A value that refuses to be written, and why. -/
  | failing (reason : String)
  deriving Inhabited, Repr, BEq

def escapeChar (c : Char) : List Char :=
  if c = '"' then ['\\', '"']
  else if c = '\\' then ['\\', '\\']
  else if c.toNat == 8 then ['\\', 'b']
  else if c.toNat == 9 then ['\\', 't']
  else if c.toNat == 10 then ['\\', 'n']
  else if c.toNat == 12 then ['\\', 'f']
  else if c.toNat == 13 then ['\\', 'r']
  else if c.toNat < 32 then
    ['\\', 'u', '0', '0', Text.hexDigit (c.toNat / 16), Text.hexDigit (c.toNat % 16)]
  else [c]

def escaped (s : String) : String :=
  if s.toList.all fun c => c ≠ '"' && c ≠ '\\' && 32 ≤ c.toNat then s
  else String.ofList (s.toList.flatMap escapeChar)

def textOf (s : String) : String :=
  "\"" ++ escaped s ++ "\""

namespace Document

mutual
/-- The compact text of a document in which nothing refuses to be written. -/
def render : Document → String
  | .null => "null"
  | .bool b => if b then "true" else "false"
  | .int n => toString n
  | .double bits => Number.doubleText bits
  | .text s => textOf s
  | .list items => "[" ++ renderItems items ++ "]"
  | .dict members => "\x7b" ++ renderMembers members ++ "\x7d"
  | .failing _ => ""

def renderItems : List Document → String
  | [] => ""
  | [d] => render d
  | d :: e :: rest => render d ++ "," ++ renderItems (e :: rest)

def renderMembers : List (String × Document) → String
  | [] => ""
  | [(k, d)] => textOf k ++ ":" ++ render d
  | (k, d) :: m :: rest => textOf k ++ ":" ++ render d ++ "," ++ renderMembers (m :: rest)
end

def get? (d : Document) (key : String) : Option Document :=
  match d with
  | .dict members => valueOf? key members
  | _ => none

def isNull : Document → Bool
  | .null => true
  | _ => false

mutual
/-- The reason of the first value in the order of writing that refuses to be written. -/
def refusal? : Document → Option String
  | .failing reason => some reason
  | .list items => refusalIn? items
  | .dict members => refusalAmong? members
  | _ => none

def refusalIn? : List Document → Option String
  | [] => none
  | d :: rest => refusal? d <|> refusalIn? rest

def refusalAmong? : List (String × Document) → Option String
  | [] => none
  | (_, d) :: rest => refusal? d <|> refusalAmong? rest
end

def serialize (d : Document) : Except String String :=
  match d.refusal? with
  | some reason => .error reason
  | none => .ok d.render

/-- A document is zero when it is written as `null`. -/
def isZero (d : Document) : Bool :=
  d.isNull

end Document

end RowMapper.Json
