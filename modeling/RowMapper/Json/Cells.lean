import RowMapper.Json.Access
import RowMapper.Mapped
import RowMapper.Row

/-!
Cells, values and records as documents. Numbers, texts and truth values stand for themselves; bytes
are an object with their digits, a double is an object with the digits of its bits.
-/
namespace RowMapper

def bytesDocument (bs : List UInt8) : Json.Document := .dict [("hex", .text (Text.hexOfBytes bs))]

def bitsDocument (bs : List UInt8) : Json.Document := .dict [("f64", .text (Text.hexOfBytes bs))]

def documentBytes (d : Json.Document) : List UInt8 :=
  Text.bytesOfHex ((d.textAt? "hex").getD (d.textAt "f64" ""))

namespace Value

def toDocument : Value → Json.Document
  | .null => .null
  | .int16 n => .int n.toInt
  | .int32 n => .int n.toInt
  | .int64 n => .int n.toInt
  | .bool b => .bool b
  | .double bits => bitsDocument (Number.toBigEndian 8 bits.toNat)
  | .text s => .text s
  | .bytes bs => bytesDocument bs

/-- The value of a type that a document stands for; `null` is its zero. -/
def ofDocument (t : HostType) (d : Json.Document) : Value :=
  let n := d.int?.getD 0
  if d.isNull then t.zero
  else match t.scalar with
    | .int16 => .int16 (.ofInt n)
    | .int32 => .int32 (.ofInt n)
    | .int64 => .int64 (.ofInt n)
    | .bool => .bool (match d with
      | .bool b => b
      | _ => false)
    | .double => .double (.ofNat (Number.ofBigEndian (documentBytes d)))
    | .bytes => .bytes (documentBytes d)
    | _ => .text (d.text?.getD "")

end Value

namespace WireType

def numberSize : WireType → Nat
  | .int2 => 2
  | .int4 => 4
  | _ => 8

def rawOf (t : WireType) : Json.Document → Option (List UInt8)
  | .null => none
  | .bool b => some [if b then 1 else 0]
  | .int n => some (Number.toBigEndian t.numberSize (n % Number.byteRange t.numberSize).toNat)
  | .text s => some (Scalar.encode t (.text s))
  | d => some (documentBytes d)

def signedNumber (bs : List UInt8) : Int :=
  let n := Number.ofBigEndian bs
  if n < Nat.pow 2 (8 * bs.length - 1) then n else n - Number.byteRange bs.length

/-- A text, or the whole cell where its bytes are none. -/
def textDocument (whole bs : List UInt8) : Json.Document :=
  match Text.Utf8.decode bs with
  | .ok s => .text s
  | .error _ => bytesDocument whole

def documentOf (t : WireType) : Option (List UInt8) → Json.Document
  | none => .null
  | some bs =>
    match t with
    | .int2 | .int4 | .int8 =>
      if bs.length = t.numberSize then .int (signedNumber bs) else bytesDocument bs
    | .bool =>
      match bs with
      | [b] => .bool (b != 0)
      | bs => bytesDocument bs
    | .float8 => bitsDocument bs
    | .jsonb =>
      match bs with
      | 1 :: rest => textDocument bs rest
      | bs => bytesDocument bs
    | .bytea | .uuid => bytesDocument bs
    | _ => textDocument bs bs

end WireType

def Cell.toDocument (c : Cell) : Json.Document := c.type.documentOf c.raw

mutual
/-- What a field holds after an object; a missing member leaves what a new record has. -/
def Field.slotOf (d : Json.Document) : Field → Slot
  | .mk index name tag typeText holding nested =>
    match (Field.mk index name tag typeText holding (nested.map fun n => (n.1, []))).role, nested with
    | .inlined, some (_, fields) => .record (slotsOf (d.member name) fields)
    | _, _ =>
      match holding with
      | .plain t => .plain (.ofDocument t (d.member name))
      | .document form =>
        .document (if d.has name then (form.document? (d.member name).source).getD form.initial
          else form.initial)

def slotsOf (d : Json.Document) : List Field → List Slot
  | [] => []
  | f :: rest => f.slotOf d :: slotsOf d rest
end

mutual
def Slot.documentIn (f : Field) : Slot → Json.Document
  | .plain v => v.toDocument
  | .document d => d
  | .record slots =>
    match f.nested with
    | some (_, fields) => .dict (orderByKey (slotMembers fields slots))
    | none => .null

def slotMembers : List Field → List Slot → List (String × Json.Document)
  | f :: fields, s :: slots => (f.name, s.documentIn f) :: slotMembers fields slots
  | _, _ => []
end

namespace MappedType

def recordOf (t : MappedType) (d : Json.Document) : Record := slotsOf d t.fields

def documentOf (t : MappedType) (r : Record) : Json.Document :=
  .dict (orderByKey (slotMembers t.fields r))

end MappedType

end RowMapper
