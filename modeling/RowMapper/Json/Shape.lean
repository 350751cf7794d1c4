import RowMapper.Json.Source

/-!
What a document field demands of its documents, and what it has before any is read.
-/
namespace RowMapper.Json

inductive Shape where
  | any
  | nullable (inner : Shape)
  | list (inner : Shape)
  /-- An object with these members, each a text. Other members are skipped. The texts may also stand
  in an array, in this order. -/
  | texts (keys : List String)
  deriving Inhabited, Repr

/-- The members of an object that have one of the keys; a key given twice is refused. -/
def pickTexts (keys : List String) :
    List (Option String × Source) → List (String × String) → Option (List (String × String))
  | [], found => some found
  | (none, _) :: _, _ => none
  | (some k, x) :: rest, found =>
    if keys.contains k then
      if found.any (·.1 == k) then none
      else match x with
        | .text (some s) => pickTexts keys rest (found ++ [(k, s)])
        | _ => none
    else pickTexts keys rest found

def inKeyOrder (keys : List String) (found : List (String × String)) :
    Option (List (String × Document)) :=
  keys.mapM fun k => (found.find? (·.1 == k)).map fun m => (k, .text m.2)

def textItems : List String → List Source → Option (List (String × Document))
  | [], [] => some []
  | k :: keys, .text (some s) :: xs => (textItems keys xs).map ((k, .text s) :: ·)
  | _, _ => none

mutual
def Shape.document? : Shape → Source → Option Document
  | .any, x => x.document? maxDepth
  | .nullable _, .null => some .null
  | .nullable inner, x => inner.document? x
  | .list inner, .list xs => (Shape.documents? inner xs).map .list
  | .list _, _ => none
  | .texts keys, .dict ms => ((pickTexts keys ms []).bind (inKeyOrder keys)).map .dict
  | .texts keys, .list xs => (textItems keys xs).map .dict
  | .texts _, _ => none

def Shape.documents? : Shape → List Source → Option (List Document)
  | _, [] => some []
  | shape, x :: xs => do
    let d ← Shape.document? shape x
    let ds ← Shape.documents? shape xs
    some (d :: ds)
end

/-- What a new record has of a type with this shape that has no other wish. -/
def Shape.initial : Shape → Document
  | .any => .null
  | .nullable _ => .null
  | .list _ => .list []
  | .texts keys => .dict (keys.map fun k => (k, .text ""))

/-- A type of documents, as its owner has it: what it makes of a source, and what a new record has. Its values
are known by what is written of them. -/
structure Form where
  document? : Source → Option Document
  initial : Document
  deriving Inhabited

def Form.read (form : Form) (s : String) : Option Document :=
  (Source.read s).bind form.document?

def Shape.form (shape : Shape) : Form := ⟨shape.document?, shape.initial⟩

def Form.any : Form := Shape.any.form

end RowMapper.Json
