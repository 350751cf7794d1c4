import RowMapper.Declaration.Grammar.Bound

/-!
Types. Where bounds may be joined by plus signs, a path or a bound in brackets may start such a sum.
-/
namespace RowMapper.Declaration.Grammar

open TreeReader

variable (g : Grammar)

/-! ### Functions -/

def dots : TreeReader := symbol "..."

/-- A receiver that is declared as mutable. It stays as it is written. -/
def mutableReceiver : TreeReader :=
  verbatim (all [word "mut", word "self", fun ts =>
    if fits (mark ':') ts && !fits pathMark ts then andThen (mark ':') g.anyType ts
    else some ([], ts)])

def parameterName (isFirst : Bool) : TreeReader := fun ts =>
  let named := fits (either TreeReader.name (word "_")) ts || isFirst && fits (word "self") ts
  if named && fitsBehind 1 (mark ':') ts && !fitsBehind 1 pathMark ts then
    andThen anyWord (mark ':') ts
  else some ([], ts)

def functionParameter (isFirst : Bool) : TreeReader := fun ts =>
  let receiver := andThen (word "mut") (word "self")
  if isFirst && fits receiver ts then mutableReceiver g ts
  else if isFirst && !fits (word "self") ts &&
      fits (andThen (parameterName isFirst) receiver) ts then
    andThen (parameterName isFirst) receiver ts
  else andThen (parameterName isFirst) g.anyType ts

def variadic : TreeReader :=
  all [optional (all [either TreeReader.name (word "_"), mark ':']), dots, optional (mark ',')]

def functionParameters (isFirst : Bool) : Nat → TreeReader
  | 0, _ => none
  | n + 1, ts =>
    if ts.isEmpty then some ([], [])
    else match g.attributes ts with
      | none => none
      | some (attributes, rest) =>
        let named := all [either TreeReader.name (word "_"), mark ':', dots]
        let one := if fits (either dots named) rest then variadic
          else andThen (functionParameter g isFirst)
            (whenever (mark ',') (functionParameters false n))
        (one rest).map fun (read, rest) => (attributes ++ read, rest)

def functionType : TreeReader :=
  all [optional (word "unsafe"), interface, word "fn",
    within .round (fun ts => functionParameters g true (ts.length + 1) ts), result g]

/-! ### Sums of bounds -/

def mandatoryBounds : TreeReader :=
  during (fits (mark '+')) (andThen (mark '+') (formless (readBound g false false)))

/-- A path as a type, or the first bound of a sum. -/
def pathType (sums : Bool) (quantified : List Tree) : FormReader TypeForm := fun ts =>
  match anyPath g false ts with
  | none => none
  | some ((form, read), ts) =>
    if form.isQualified then some ((.other, read), ts)
    else if form.isPlain && startsMacroInput ts then
      (macroInput ts).map fun (input, ts) => ((.other, read ++ input), ts)
    else
      let isSum := sums && fits (mark '+') ts
      let read := quantified ++ read
      if isSum then
        (furtherBounds g false false (ts.length + 1) ts).map fun ((_, more), ts) =>
          ((.other, read ++ more), ts)
      else if !quantified.isEmpty then some ((.bound, read), ts)
      else some ((if form.isName then .name else .path, read), ts)

def quantifiedType (sums : Bool) : FormReader TypeForm := fun ts =>
  match binder g ts with
  | none => none
  | some (quantified, ts) =>
    if fits (wordOf ["fn", "unsafe", "extern"]) ts then
      afterTrees quantified (withForm .other (functionType g)) ts
    else if fits plainSegment ts then pathType g sums quantified ts
    else none

def unbracketed : List Tree → List Tree
  | [.group .round inner] => inner
  | ts => ts

/-- What stands in round brackets: a tuple, a type, or a bound that starts a sum. -/
def bracketedType (sums : Bool) (inner : List Tree) : FormReader TypeForm := fun ts =>
  if inner.isEmpty then some ((.other, [.group .round []]), ts)
  else if fits lifetime inner then
    match objectBounds g true false false inner with
    | some (read, []) => some ((.other, [.group .round read]), ts)
    | _ => none
  else if fits (mark '?') inner then
    match pathBound g false inner with
    | some ((_, read), []) =>
      (mandatoryBounds g ts).map fun (more, ts) =>
        ((if more.isEmpty then .bound else .other, .group .round read :: more), ts)
    | _ => none
  else match g.type true inner with
    | none => none
    | some ((form, read), left) =>
      if fits (mark ',') left then
        match andThen (mark ',') (listed g.anyType) left with
        | some (more, []) => some ((.other, [.group .round (read ++ more)]), ts)
        | _ => none
      else if !left.isEmpty then none
      else if sums && fits (mark '+') ts && form ≠ .other then
        let first := if form = .bound then unbracketed read else read
        (mandatoryBounds g ts).map fun (more, ts) => ((.other, .group .round first :: more), ts)
      else some ((.other, [.group .round read]), ts)

/-! ### All types -/

def arrayType : TreeReader :=
  within .square (andThen g.anyType (whenever (mark ';') g.anyExpression))

def markedType (sums : Bool) : TreeReader := fun ts =>
  match ts with
  | .group .square _ :: _ => arrayType g ts
  | .leaf (.mark '*' _) :: _ => all [mark '*', wordOf ["const", "mut"], g.tightType] ts
  | .leaf (.mark '&' _) :: _ =>
    all [mark '&', optional lifetime, optional (word "mut"), g.tightType] ts
  | .leaf (.mark '!' _) :: _ => mark '!' ts
  | .leaf (.word "_" false) :: _ => word "_" ts
  | .leaf (.lifetime _) :: _ => objectBounds g sums false false ts
  | .leaf (.word "dyn" false) :: rest =>
    let object := objectBounds g sums false false
    if fits (mark '*') rest then verbatim (all [word "dyn", mark '*', object]) ts
    else andThen (word "dyn") object ts
  | .leaf (.word "impl" false) :: _ =>
    andThen (word "impl") (objectBounds g sums true true) ts
  | _ => functionType g ts

/-- A type. With `sums`, bounds joined by plus signs count as one. -/
def readType (sums : Bool) : FormReader TypeForm := fun ts =>
  match ts with
  | .group .round inner :: rest => bracketedType g sums inner rest
  | .leaf (.word "for" false) :: _ => quantifiedType g sums ts
  | ts =>
    if fits (any [plainSegment, pathMark, mark '<']) ts then pathType g sums [] ts
    else withForm .other (markedType g sums) ts

end RowMapper.Declaration.Grammar
