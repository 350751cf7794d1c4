import RowMapper.Declaration.Grammar.Basic

/-!
Paths: names with double colons between them, and their arguments in angle brackets. A path may start
from a type.
-/
namespace RowMapper.Declaration

structure Argument where
  isLifetime : Bool
  trees : List Tree
  comma : Bool
  deriving Repr, Inhabited

namespace Argument

def commaTree : Tree := .leaf (.mark ',' false)

def withComma (a : Argument) : List Tree :=
  if a.comma then a.trees ++ [commaTree] else a.trees

/-- Lifetimes are written first; a comma that the new order lacks is added. -/
def ordered (args : List Argument) : List Tree :=
  let lifetimes := args.filter (·.isLifetime)
  let others := args.filter (!·.isLifetime)
  let gap := match lifetimes.getLast? with
    | some a => if a.comma || others.isEmpty then [] else [commaTree]
    | none => []
  lifetimes.flatMap withComma ++ gap ++ others.flatMap withComma

end Argument

def inAngles (inner : List Tree) : List Tree :=
  .leaf (.mark '<' false) :: (inner ++ [.leaf (.mark '>' false)])

structure PathForm where
  isQualified : Bool
  isRooted : Bool
  segments : Nat
  /-- The last segment has no arguments. -/
  isOpen : Bool
  isBare : Bool
  deriving DecidableEq, Repr, Inhabited

namespace PathForm

def isName (p : PathForm) : Bool := !p.isQualified && !p.isRooted && p.segments == 1

/-- It can name a macro. -/
def isPlain (p : PathForm) : Bool := !p.isQualified && p.isBare

def push (p : PathForm) (isOpen : Bool) : PathForm :=
  { p with segments := p.segments + 1, isOpen := isOpen, isBare := p.isBare && isOpen }

end PathForm

namespace Grammar

open TreeReader

/-! ### Lists in angle brackets -/

/-- Items up to a closing angle bracket, with commas between them; each item tells whether a comma
follows it. The bound is on their number. -/
def upToAngle {α : Type} (item : List Tree → Option (α × List Tree)) :
    Nat → List Tree → Option (List (α × Bool) × List Tree)
  | 0, _ => none
  | n + 1, ts =>
    match mark '>' ts with
    | some (_, ts) => some ([], ts)
    | none =>
      match item ts with
      | none => none
      | some (a, ts) =>
        match mark '>' ts with
        | some (_, ts) => some ([(a, false)], ts)
        | none =>
          match mark ',' ts with
          | none => none
          | some (_, ts) => (upToAngle item n ts).map fun (more, ts) => ((a, true) :: more, ts)

def angled? {α : Type} (item : List Tree → Option (α × List Tree)) (ts : List Tree) :
    Option (List (α × Bool) × List Tree) :=
  (mark '<' ts).bind fun (_, ts) => upToAngle item (ts.length + 1) ts

variable (g : Grammar)

/-- Bounds with plus signs between them, up to a place that ends them; a plus sign may come last. -/
def boundsUntil (ended : List Tree → Bool) : Nat → TreeReader
  | 0, _ => none
  | n + 1, ts =>
    if ended ts then some ([], ts)
    else all [g.bound, whenever (mark '+') (boundsUntil ended n)] ts

def namedArgument : TreeReader := fun ts =>
  if fits (mark '=') ts then
    andThen (mark '=')
      (fun ts => if startsConstant ts then g.constant ts else g.anyType ts) ts
  else whenever (mark ':')
    (fun ts => boundsUntil g (fits (either (mark ',') (mark '>'))) (ts.length + 1) ts) ts

def argument? (ts : List Tree) : Option ((Bool × List Tree) × List Tree) :=
  if fits lifetime ts && !fitsBehind 1 (mark '+') ts then withForm true lifetime ts
  else if startsConstant ts then withForm false g.constant ts
  else
    let named := fun form => if form = TypeForm.name then namedArgument g else nothing
    withForm false (continued (g.type true) named) ts

def arguments : TreeReader := fun ts =>
  (angled? (argument? g) ts).map fun (args, ts) =>
    (inAngles (Argument.ordered (args.map fun (a, comma) => ⟨a.1, a.2, comma⟩)), ts)

/-! ### Segments -/

/-- A segment and whether it has no arguments. In an expression arguments follow a double colon. -/
def segment (inExpression : Bool) : FormReader Bool := fun ts =>
  match wordOf ["super", "self", "crate", "try"] ts with
  | some (read, ts) => some ((true, read), ts)
  | none =>
    match either (word "Self") name ts with
    | none => none
    | some (read, ts) =>
      let plainly := !inExpression && fits (mark '<') ts &&
        !fits (either (symbol "<=") (symbol "<<=")) ts
      if plainly || fits (andThen pathMark (mark '<')) ts then
        (andThen (optional pathMark) (arguments g) ts).map fun (more, ts) =>
          ((false, read ++ more), ts)
      else some ((true, read), ts)

def segmentsFrom (inExpression : Bool) (goesOn : List Tree → Bool) :
    Nat → PathForm × List Tree → FormReader PathForm
  | 0, _, _ => none
  | n + 1, (form, read), ts =>
    if goesOn ts then
      match pathMark ts with
      | none => none
      | some (colons, ts) =>
        match segment g inExpression ts with
        | none => none
        | some ((isOpen, more), ts) =>
          segmentsFrom inExpression goesOn n (form.push isOpen, read ++ colons ++ more) ts
    else some ((form, read), ts)

def furtherSegments (inExpression : Bool) (goesOn : List Tree → Bool)
    (found : PathForm × List Tree) : FormReader PathForm := fun ts =>
  if goesOn ts then segmentsFrom g inExpression goesOn (ts.length + 1) found ts
  else some (found, ts)

/-- A path that starts from no type. Parameters in round brackets are not part of it. -/
def path (inExpression : Bool) : FormReader PathForm := fun ts =>
  let goesOn := fun ts => fits pathMark ts && !fitsBehind 2 (group .round) ts
  match optional pathMark ts with
  | none => none
  | some (root, ts) =>
    match segment g inExpression ts with
    | none => none
    | some ((isOpen, read), ts) =>
      let form : PathForm := ⟨false, !root.isEmpty, 1, isOpen, isOpen⟩
      furtherSegments g inExpression goesOn (form, root ++ read) ts

def qualifiedPath (inExpression : Bool) : FormReader PathForm := fun ts =>
  let start := all [mark '<', g.anyType, whenever (word "as") (formless (path g false)), mark '>']
  match start ts with
  | none => none
  | some (read, ts) =>
    match pathMark ts with
    | none => none
    | some _ =>
      furtherSegments g inExpression (fits pathMark) (⟨true, false, 0, true, true⟩, read) ts

def anyPath (inExpression : Bool) : FormReader PathForm := fun ts =>
  if fits (mark '<') ts then qualifiedPath g inExpression ts else path g inExpression ts

def macroInput : TreeReader := andThen (mark '!') anyGroup

def startsMacroInput (ts : List Tree) : Bool := fits (mark '!') ts && !fits (symbol "!=") ts

end Grammar

end RowMapper.Declaration
