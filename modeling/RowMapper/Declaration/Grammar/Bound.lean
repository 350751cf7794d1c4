import RowMapper.Declaration.Grammar.Parameter

/-!
Bounds: lifetimes, captures and paths, which may be quantified over, relaxed or const; and the
conditions that are made of them.
-/
namespace RowMapper.Declaration

inductive BoundForm where
  | lifetime
  | capture
  | path
  deriving DecidableEq, Repr, Inhabited

namespace Grammar

open TreeReader

variable (g : Grammar)

def binder : TreeReader := fun ts =>
  match word "for" ts with
  | none => none
  | some (read, ts) =>
    (angled? (parameter? g) ts).map fun (ps, ts) =>
      (read ++ inAngles (ps.flatMap fun (p, comma) => (p.withDefault comma).withComma), ts)

def result : TreeReader := whenever (symbol "->") g.tightType

/-- Parameters in round brackets and a result. A double colon before them is not kept. -/
def signature : TreeReader :=
  all [optional (without pathMark), within .round (listed g.anyType), result g]

def boundPath : TreeReader :=
  continued (path g false) fun form => fun ts =>
    if form.isOpen && fits (andThen (optional pathMark) (group .round)) ts then signature g ts
    else some ([], ts)

def pathBound (conditional : Bool) : FormReader Bool := fun ts =>
  match wherever (fits (word "for")) (binder g) ts with
  | none => none
  | some (quantified, ts) =>
    let isConst := fits (either (group .square) (word "const")) ts
    if isConst && !conditional then none
    else match wherever (fits (group .square)) (within .square (word "const")) ts with
      | none => none
      | some (bracket, ts) =>
        let keyword := if bracket.isEmpty then optional (word "const") else nothing
        match andThen keyword (optional (mark '?')) ts with
        | none => none
        | some (read, ts) =>
          let isRelaxed := read.getLast?.map (fun t => fits (mark '?') [t]) == some true
          if isRelaxed && (!quantified.isEmpty || fits (word "for") ts) then none
          else afterTrees (quantified ++ bracket ++ read) (withForm isConst (boundPath g)) ts

def captures : TreeReader := fun ts =>
  match word "use" ts with
  | none => none
  | some (read, ts) =>
    let item := fun ts => if fits lifetime ts then withForm true lifetime ts
      else withForm false (either TreeReader.name (word "Self")) ts
    (angled? item ts).map fun (args, ts) =>
      (read ++ inAngles (Argument.ordered (args.map fun (a, comma) => ⟨a.1, a.2, comma⟩)), ts)

/-- One bound. A const one stays as it is written. -/
def readBound (capturing conditional : Bool) : FormReader BoundForm := fun ts =>
  match ts with
  | .leaf (.lifetime _) :: _ => withForm .lifetime lifetime ts
  | .leaf (.word "use" false) :: _ =>
    if capturing then withForm .capture captures ts else none
  | .group .round inner :: rest =>
    match pathBound g conditional inner with
    | some ((isConst, read), []) =>
      some ((.path, [.group .round (if isConst then inner else read)]), rest)
    | _ => none
  | ts =>
    match pathBound g conditional ts with
    | some ((isConst, read), rest) =>
      some ((.path, if isConst then ts.take (ts.length - rest.length) else read), rest)
    | none => none

def startsBound (conditional : Bool) (ts : List Tree) : Bool :=
  fits (any [anyWord, pathMark, mark '?', lifetime, group .round]) ts ||
    conditional && fits (group .square) ts

/-- Further bounds, each after a plus sign; a plus sign may come last. -/
def furtherBounds (capturing conditional : Bool) : Nat → FormReader (List BoundForm)
  | 0, _ => none
  | n + 1, ts =>
    match mark '+' ts with
    | none => some (([], []), ts)
    | some (plus, ts) =>
      if startsBound conditional ts then
        match readBound g capturing conditional ts with
        | none => none
        | some ((form, read), ts) =>
          (furtherBounds capturing conditional n ts).map fun ((forms, more), ts) =>
            ((form :: forms, plus ++ read ++ more), ts)
      else some (([], plus), ts)

/-- Bounds of an object or of a hidden type: one of them has to be a path. -/
def objectBounds (sums capturing conditional : Bool) : TreeReader := fun ts =>
  match readBound g capturing conditional ts with
  | none => none
  | some ((form, read), ts) =>
    let more : FormReader (List BoundForm) :=
      if sums then fun ts => furtherBounds g capturing conditional (ts.length + 1) ts
      else withForm [] nothing
    match more ts with
    | none => none
    | some ((forms, also), ts) =>
      if (form :: forms).contains .path then some (read ++ also, ts) else none

def endsCondition (ts : List Tree) : Bool :=
  ts.isEmpty || fits (any [group .curly, mark ',', mark ';', mark '=']) ts ||
    fits (mark ':') ts && !fits pathMark ts

def readCondition : TreeReader := fun ts =>
  if fits (andThen lifetime (mark ':')) ts then
    let ended := fun ts => endsCondition ts || fits (mark ':') ts
    all [lifetime, mark ':', lifetimesUntil ended (ts.length + 1)] ts
  else
    all [wherever (fits (word "for")) (binder g), g.anyType, mark ':',
      boundsUntil g endsCondition (ts.length + 1)] ts

/-- A list of parameters, and not a path, starts here. -/
def startsParameters (ts : List Tree) : Bool :=
  let name := either lifetime TreeReader.name
  let ended := fun ts => fits (any [mark '>', mark ',', mark '=']) ts ||
    fits (mark ':') ts && !fits pathMark ts
  fits (mark '<') ts &&
    (fitsBehind 1 (any [mark '>', mark '#', word "const"]) ts ||
      fitsBehind 1 name ts && ended (ts.drop 2))

def readConditions : Nat → TreeReader
  | 0, _ => none
  | n + 1, ts =>
    if endsCondition ts then some ([], ts)
    else all [readCondition g, whenever (mark ',') (readConditions n)] ts

/-- The conditions on the parameters; the keyword alone is not kept. -/
def conditions : TreeReader := fun ts =>
  match word "where" ts with
  | none => some ([], ts)
  | some (keyword, ts) =>
    if startsParameters ts then none
    else (readConditions g (ts.length + 1) ts).map fun (read, ts) =>
      (if read.isEmpty then [] else keyword ++ read, ts)

end Grammar

end RowMapper.Declaration
