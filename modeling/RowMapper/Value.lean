import RowMapper.Number.BigEndian
import RowMapper.Text.Search
import RowMapper.Text.Utf8
import RowMapper.WireType

/-!
Values, the types that fields have for them, and their bytes. Numbers are big-endian, texts are
UTF-8, and a document in the binary form has a version byte in front.
-/
namespace RowMapper

inductive Scalar where
  | int16
  | int32
  | int64
  | bool
  | double
  | text
  | bytes
  | document
  deriving DecidableEq, Repr, Inhabited

inductive Value where
  | null
  | int16 (n : Int16)
  | int32 (n : Int32)
  | int64 (n : Int64)
  | bool (b : Bool)
  | double (bits : UInt64)
  | text (s : String)
  | bytes (bs : List UInt8)
  deriving DecidableEq, Repr, Inhabited

namespace Scalar

def accepts : Scalar → WireType → Bool
  | .int16, t => t = .int2
  | .int32, t => t = .int4
  | .int64, t => t = .int8
  | .bool, t => t = .bool
  | .double, t => t = .float8
  | .text, t => t.isText
  | .bytes, t => t = .bytea
  | .document, t => t.isText || t = .json || t = .jsonb

def zero : Scalar → Value
  | .int16 => .int16 0
  | .int32 => .int32 0
  | .int64 => .int64 0
  | .bool => .bool false
  | .double => .double 0
  | .text => .text ""
  | .bytes => .bytes []
  | .document => .text ""

def label : Scalar → String
  | .int16 => "i16"
  | .int32 => "i32"
  | .int64 => "i64"
  | .bool => "bool"
  | .double => "f64"
  | .text => "alloc::string::String"
  | .bytes => "alloc::vec::Vec<u8>"
  | .document => "pgmap::mapped::JsonText"

def ofText? : String → Option Scalar
  | "i16" => some .int16
  | "i32" => some .int32
  | "i64" => some .int64
  | "bool" => some .bool
  | "f64" => some .double
  | "String" => some .text
  | "Vec<u8>" => some .bytes
  | "JsonText" => some .document
  | _ => none

/-- The byte before a document in its binary form. -/
def documentVersion : UInt8 := 1

def encode (wire : WireType) : Value → List UInt8
  | .null => []
  | .int16 n => Number.toBigEndian 2 n.toBitVec.toNat
  | .int32 n => Number.toBigEndian 4 n.toBitVec.toNat
  | .int64 n => Number.toBigEndian 8 n.toBitVec.toNat
  | .bool b => [if b then 1 else 0]
  | .double bits => Number.toBigEndian 8 bits.toNat
  | .text s =>
    if wire = .jsonb then documentVersion :: Text.Utf8.encode s else Text.Utf8.encode s
  | .bytes bs => bs

/-- A number takes exactly its own count of bytes. -/
def readNumber (count : Nat) (make : Nat → Value) (bs : List UInt8) : Except String Value :=
  if bs.length < count then .error "failed to fill whole buffer"
  else if count < bs.length then .error "invalid buffer size"
  else .ok (make (Number.ofBigEndian bs))

def readText (bs : List UInt8) : Except String Value :=
  match Text.Utf8.decode bs with
  | .ok s => .ok (.text s)
  | .error fault => .error fault.message

def decode (wire : WireType) (bs : List UInt8) : Scalar → Except String Value
  | .int16 => readNumber 2 (fun n => .int16 (.ofBitVec (.ofNat 16 n))) bs
  | .int32 => readNumber 4 (fun n => .int32 (.ofBitVec (.ofNat 32 n))) bs
  | .int64 => readNumber 8 (fun n => .int64 (.ofBitVec (.ofNat 64 n))) bs
  | .bool =>
    match bs with
    | [b] => .ok (.bool (b != 0))
    | _ => .error "invalid buffer size"
  | .double => readNumber 8 (fun n => .double (.ofNat n)) bs
  | .text => readText bs
  | .bytes => .ok (.bytes bs)
  | .document =>
    if wire = .jsonb then
      match bs with
      | [] => .error "empty jsonb value"
      | v :: rest =>
        if v = documentVersion then readText rest
        else .error ("unsupported jsonb version " ++ toString v.toNat)
    else readText bs

end Scalar

/-- The type of a field: a scalar, or a scalar that may be missing. -/
structure HostType where
  scalar : Scalar
  optional : Bool
  deriving DecidableEq, Repr, Inhabited

namespace HostType

def plain (s : Scalar) : HostType := ⟨s, false⟩

def maybe (s : Scalar) : HostType := ⟨s, true⟩

def ofText? (s : String) : Option HostType :=
  match Text.dropFront? "Option<".toList s.toList with
  | some rest => (Scalar.ofText? (String.ofList rest.dropLast)).map maybe
  | none => (Scalar.ofText? s).map plain

def label (t : HostType) : String :=
  if t.optional then "core::option::Option<" ++ t.scalar.label ++ ">" else t.scalar.label

def accepts (t : HostType) (wire : WireType) : Bool := t.scalar.accepts wire

def zero (t : HostType) : Value :=
  if t.optional then .null else t.scalar.zero

/-- Doubles are zero with either sign. -/
def isZero (t : HostType) (v : Value) : Bool :=
  match v with
  | .double bits => !t.optional && bits.toNat % Nat.pow 2 63 == 0
  | v => v == t.zero

def mismatch (t : HostType) (wire : WireType) : String :=
  "cannot convert between the Rust type `" ++ t.label ++ "` and the Postgres type `" ++
    wire.label ++ "`"

/-- The raw form of a value as a given column type; none is NULL. -/
def bind (t : HostType) (wire : WireType) (v : Value) : Except String (Option (List UInt8)) :=
  if !t.accepts wire then .error (t.mismatch wire)
  else if v = .null then .ok none
  else .ok (some (Scalar.encode wire v))

/-- The value of a raw cell. NULL is a value of optional types only. -/
def read (t : HostType) (wire : WireType) : Option (List UInt8) → Except String Value
  | none => if t.optional then .ok .null else .error "a Postgres value was `NULL`"
  | some bs => t.scalar.decode wire bs

end HostType

structure Param where
  type : HostType
  value : Value
  deriving DecidableEq, Repr, Inhabited

end RowMapper
