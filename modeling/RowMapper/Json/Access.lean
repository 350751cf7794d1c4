import RowMapper.Json.Document

/-!
Looking into documents. A member that is missing reads as `null`, and what has another form than the
one asked for gives nothing, or the value that stands in for it.
-/
namespace RowMapper.Json.Document

def text? : Document → Option String
  | .text s => some s
  | _ => none

def int? : Document → Option Int
  | .int n => some n
  | _ => none

def nat? (d : Document) : Option Nat := d.int?.map Int.toNat

def items : Document → List Document
  | .list xs => xs
  | _ => []

def texts (d : Document) : List String := d.items.filterMap text?

def member (d : Document) (key : String) : Document := (d.get? key).getD .null

def has (d : Document) (key : String) : Bool := !(d.member key).isNull

def textAt? (d : Document) (key : String) : Option String := (d.member key).text?

def textAt (d : Document) (key : String) (fallback : String) : String :=
  (d.textAt? key).getD fallback

def natAt? (d : Document) (key : String) : Option Nat := (d.member key).nat?

def natAt (d : Document) (key : String) (fallback : Nat) : Nat := (d.natAt? key).getD fallback

def isTrueAt (d : Document) (key : String) : Bool :=
  match d.member key with
  | .bool b => b
  | _ => false

def itemsAt (d : Document) (key : String) : List Document := (d.member key).items

def ofTexts (ss : List String) : Document := .list (ss.map .text)

def ofText? : Option String → Document
  | some s => .text s
  | none => .null

def ofNat (n : Nat) : Document := .int n

end RowMapper.Json.Document
