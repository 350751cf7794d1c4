import RowMapper.Columns
import RowMapper.Row

/-!
Records and the access to their fields by path. A path leads to a leaf: a plain field or a document
field; a field that is left out, an inlined field itself, and everything else is no leaf.
-/
namespace RowMapper

inductive Slot where
  | plain (v : Value)
  | document (d : Json.Document)
  | record (slots : List Slot)
  deriving Inhabited, Repr

inductive Role where
  | plain
  | json
  | inlined
  | skipped
  deriving DecidableEq, Repr, Inhabited

def Field.role (f : Field) : Role :=
  match Tag.parse? f.tag.toList with
  | none => .skipped
  | some tag =>
    if tag.flags.inlined && f.nested.isSome then .inlined
    else if tag.flags.json then .json
    else .plain

/-- A path enters a field: exactly its position for a leaf, and at least its position for an inlined
field. -/
def Field.matchesPath (f : Field) : List Nat → Bool
  | [] => false
  | i :: rest =>
    match f.role with
    | .inlined => i == f.index
    | .skipped => false
    | _ => i == f.index && rest.isEmpty

inductive Bound where
  | field (p : Param)
  /-- The text of a document; none is NULL. -/
  | json (text : Option String)
  deriving DecidableEq, Repr, Inhabited

namespace Bound

def param : Bound → Param
  | .field p => p
  | .json (some text) => ⟨.maybe .document, .text text⟩
  | .json none => ⟨.maybe .document, .null⟩

def isNullJson : Bound → Bool
  | .json none => true
  | _ => false

def isJson : Bound → Bool
  | .json _ => true
  | .field _ => false

end Bound

/-- The level at which a path leads nowhere: the type there and the rest of the path. -/
structure Stray where
  typeName : String
  path : List Nat
  deriving DecidableEq, Repr, Inhabited

def Stray.error (s : Stray) : Error :=
  .unsettable ("no mapped field at path [" ++ ", ".intercalate (s.path.map toString) ++ "] on `" ++
    s.typeName ++ "`")

def enter? (path : List Nat) : List Field → List Slot → Option (Field × Slot)
  | f :: fields, s :: slots => if f.matchesPath path then some (f, s) else enter? path fields slots
  | _, _ => none

def replaceEntered (path : List Nat) (new : Slot) : List Field → List Slot → List Slot
  | f :: fields, s :: slots =>
    if f.matchesPath path then new :: slots else s :: replaceEntered path new fields slots
  | _, slots => slots

def leafAt (typeName : String) : List Nat → List Field → List Slot → Except Stray (Field × Slot)
  | [], _, _ => .error ⟨typeName, []⟩
  | i :: rest, fields, slots =>
    match enter? (i :: rest) fields slots with
    | none => .error ⟨typeName, i :: rest⟩
    | some (f, s) =>
      match f.role, f.nested, s with
      | .inlined, some (inner, fields), .record slots => leafAt inner rest fields slots
      | .inlined, _, _ => .error ⟨typeName, i :: rest⟩
      | _, _, _ => .ok (f, s)

def setLeaf (new : Slot) : List Nat → List Field → List Slot → List Slot
  | [], _, slots => slots
  | i :: rest, fields, slots =>
    match enter? (i :: rest) fields slots with
    | none => slots
    | some (f, s) =>
      match f.role, f.nested, s with
      | .inlined, some (_, inner), .record within =>
        replaceEntered (i :: rest) (.record (setLeaf new rest inner within)) fields slots
      | .inlined, _, _ => slots
      | _, _, _ => replaceEntered (i :: rest) new fields slots

/-- A document that is written as `null` becomes NULL. -/
def Json.Document.bound (d : Json.Document) : Except Error Bound :=
  match d.serialize with
  | .error reason => .error (.serialization reason)
  | .ok written => .ok (.json (if written = "null" then none else some written))

def leafValue : Field × Slot → Except Error Bound
  | (_, .document d) => d.bound
  | (f, .plain v) =>
    match f.holding with
    | .plain type => .ok (.field ⟨type, v⟩)
    | .document _ => .ok (.field ⟨.plain .text, v⟩)
  | (_, .record _) => .ok (.json none)

/-- What a document field holds after a cell was read into it: NULL and an empty text leave it. -/
def readDocument (form : Json.Form) (old : Json.Document) (row : Row) (index : Nat) :
    Except Error Json.Document :=
  match row.scan (.maybe .document) index with
  | .error e => .error e
  | .ok (.text s) =>
    if s.isEmpty then .ok old
    else match form.read s with
      | some d => .ok d
      | none => .error (.decode ((row.name? index).getD "") "<invalid json>")
  | .ok _ => .ok old

def readLeaf (row : Row) (index : Nat) : Field × Slot → Except Error Slot
  | (f, .document old) =>
    let form := match f.holding with
      | .document form => form
      | .plain _ => .any
    (readDocument form old row index).map .document
  | (f, .plain _) =>
    let type := match f.holding with
      | .plain type => type
      | .document _ => .plain .text
    (row.scan type index).map .plain
  | (_, .record slots) => .ok (.record slots)

def leafIsZero : Field × Slot → Bool
  | (_, .document d) => d.isZero
  | (f, .plain v) =>
    match f.holding with
    | .plain type => type.isZero v
    | .document _ => false
  | (_, .record _) => false

mutual
def Field.initial : Field → Slot
  | .mk index name tag typeText holding nested =>
    match (Field.mk index name tag typeText holding (nested.map fun n => (n.1, []))).role, nested with
    | .inlined, some (_, fields) => .record (initialSlots fields)
    | .json, _ =>
      match holding with
      | .document form => .document form.initial
      | .plain _ => .document .null
    | _, _ =>
      match holding with
      | .plain type => .plain type.zero
      | .document form => .document form.initial

def initialSlots : List Field → List Slot
  | [] => []
  | f :: rest => f.initial :: initialSlots rest
end

end RowMapper
