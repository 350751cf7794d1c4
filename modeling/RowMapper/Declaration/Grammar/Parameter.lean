import RowMapper.Declaration.Grammar.Path

/-!
Parameters in angle brackets: lifetimes, types and constants.
-/
namespace RowMapper.Declaration

structure Parameter where
  isLifetime : Bool
  declared : List Tree
  default : List Tree
  name : List Tree
  deriving Repr, Inhabited

namespace Grammar

open TreeReader

variable (g : Grammar)

/-- A colon and bounds; a colon without bounds is not kept. -/
def boundsAfterColon (bounds : TreeReader) : TreeReader := fun ts =>
  match mark ':' ts with
  | none => some ([], ts)
  | some (colon, ts) =>
    (bounds ts).map fun (read, ts) => (if read.isEmpty then [] else colon ++ read, ts)

def lifetimesUntil (ended : List Tree → Bool) : Nat → TreeReader
  | 0, _ => none
  | n + 1, ts =>
    if ended ts then some ([], ts)
    else all [lifetime, whenever (mark '+') (lifetimesUntil ended n)] ts

def endsParameter (ts : List Tree) : Bool :=
  ts.isEmpty || fits (any [mark ',', mark '>', mark '=']) ts

def lifetimeParameter? (ts : List Tree) : Option (Parameter × List Tree) :=
  match lifetime ts with
  | none => none
  | some (name, ts) =>
    let bounds := lifetimesUntil (fun ts => ts.isEmpty || fits (either (mark ',') (mark '>')) ts)
      (ts.length + 1)
    (boundsAfterColon bounds ts).map fun (bounds, ts) => (⟨true, name ++ bounds, [], name⟩, ts)

def constantParameter? (ts : List Tree) : Option (Parameter × List Tree) :=
  match andThen (word "const") TreeReader.name ts with
  | none => none
  | some (declared, ts) =>
    match andThen (mark ':') g.anyType ts with
    | none => none
    | some (type, ts) =>
      (whenever (mark '=') g.constant ts).map fun (default, ts) =>
        (⟨false, declared ++ type, default, declared.drop 1⟩, ts)

def typeParameter? (ts : List Tree) : Option (Parameter × List Tree) :=
  match TreeReader.name ts with
  | none => none
  | some (name, ts) =>
    match boundsAfterColon (boundsUntil g endsParameter (ts.length + 1)) ts with
    | none => none
    | some (bounds, ts) =>
      (whenever (mark '=') g.anyType ts).map fun (default, ts) =>
        (⟨false, name ++ bounds, default, name⟩, ts)

def parameter? (ts : List Tree) : Option (Parameter × List Tree) :=
  match g.attributes ts with
  | none => none
  | some (attributes, ts) =>
    let found :=
      if fits lifetime ts then lifetimeParameter? ts
      else if fits (word "const") ts then constantParameter? g ts
      else typeParameter? g ts
    found.map fun (p, ts) => ({ p with declared := attributes ++ p.declared }, ts)

def anyParameter? (ts : List Tree) : Option (Parameter × List Tree) :=
  match parameter? g ts with
  | some found => some found
  | none =>
    match g.attributes ts with
    | none => none
    | some (attributes, ts) =>
      (word "_" ts).map fun (name, ts) => (⟨false, attributes ++ name, [], name⟩, ts)

def parameters? (ts : List Tree) : Option (List (Parameter × Bool) × List Tree) :=
  if fits (mark '<') ts then angled? (anyParameter? g) ts else some ([], ts)

end Grammar

namespace Parameter

def asDeclared (p : Parameter) (comma : Bool) : Argument := ⟨p.isLifetime, p.declared, comma⟩

def withDefault (p : Parameter) (comma : Bool) : Argument :=
  ⟨p.isLifetime, p.declared ++ p.default, comma⟩

def asArgument (p : Parameter) (comma : Bool) : Argument := ⟨p.isLifetime, p.name, comma⟩

/-- A list of parameters, lifetimes first; nothing for an empty list. -/
def write (form : Parameter → Bool → Argument) (ps : List (Parameter × Bool)) : List Tree :=
  if ps.isEmpty then [] else inAngles (Argument.ordered (ps.map fun (p, comma) => form p comma))

end Parameter

def Grammar.parameters (g : Grammar) : TreeReader := fun ts =>
  (parameters? g ts).map fun (ps, ts) => (Parameter.write Parameter.withDefault ps, ts)

end RowMapper.Declaration
