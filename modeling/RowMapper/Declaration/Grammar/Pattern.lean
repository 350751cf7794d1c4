import RowMapper.Declaration.Grammar.Type
import RowMapper.Declaration.Literal

/-!
Patterns.
-/
namespace RowMapper.Declaration.Grammar

open TreeReader

variable (g : Grammar)

def startsAlternative (ts : List Tree) : Bool :=
  fits (mark '|') ts && !fits (either (symbol "||") (symbol "|=")) ts

def alternatives (single : FormReader PatternForm) : FormReader PatternForm := fun ts =>
  match optional (mark '|') ts with
  | none => none
  | some (bar, ts) =>
    match single ts with
    | none => none
    | some ((form, read), ts) =>
      let more := during startsAlternative (andThen (mark '|') (formless single))
      (more ts).map fun (more, ts) =>
        ((if bar.isEmpty && more.isEmpty then form else .other, bar ++ read ++ more), ts)

def anyAlternatives : TreeReader := formless (alternatives g.pattern)

/-! ### Ranges -/

/-- Three dots mean the same as two with an equals sign, which are written for them. -/
def closedMark : List Tree := "..=".toList.map fun c => .leaf (.mark c true)

def rangeMark : FormReader Bool := fun ts =>
  if fits (symbol "..=") ts then withForm true (symbol "..=") ts
  else if fits (symbol "...") ts then
    (symbol "..." ts).map fun (_, ts) => ((true, closedMark), ts)
  else withForm false (symbol "..") ts

def endsRange (ts : List Tree) : Bool :=
  ts.isEmpty || fits (any [mark '|', mark '=', mark ',', mark ';', word "if"]) ts ||
    fits (mark ':') ts && !fits pathMark ts

def rangeEnd : TreeReader := fun ts =>
  if fits literal ts then literal ts
  else if fits (word "const") ts then andThen (word "const") g.attributedBlock ts
  else formless (anyPath g true) ts

def rangeFromMark : FormReader Bool := fun ts =>
  match rangeMark ts with
  | none => none
  | some ((isClosed, read), ts) =>
    if endsRange ts then if isClosed then none else some ((false, read), ts)
    else (rangeEnd g ts).map fun (upper, ts) => ((true, read ++ upper), ts)

def rangeBehind (lower : List Tree) : FormReader PatternForm := fun ts =>
  (rangeFromMark g ts).map fun ((isClosed, read), ts) =>
    ((if isClosed then .other else .openRange, lower ++ read), ts)

/-! ### Patterns with parts -/

def patternList : TreeReader := listed (anyAlternatives g)

/-- A range with one end cannot stand in a list of its own. -/
def elementPattern : TreeReader := fun ts =>
  match alternatives g.pattern ts with
  | some ((.openRange, _), _) => none
  | some ((_, read), ts) => some (read, ts)
  | none => none

def memberIndex : TreeReader
  | .leaf (.literal spelling) :: rest =>
    (Literal.index? spelling).map fun index => ([.leaf (.literal (toString index))], rest)
  | _ => none

def member : FormReader Bool := fun ts =>
  match TreeReader.name ts with
  | some (read, ts) => some ((true, read), ts)
  | none => withForm false memberIndex ts

def memberPattern : TreeReader := fun ts =>
  if fits (wordOf ["box", "ref", "mut"]) ts then
    all [optional (word "box"), optional (word "ref"), optional (word "mut"), TreeReader.name] ts
  else match member ts with
    | none => none
    | some ((isNamed, read), ts) =>
      if isNamed && !fits (mark ':') ts then some (read, ts)
      else (andThen (mark ':') (anyAlternatives g) ts).map fun (more, ts) => (read ++ more, ts)

/-- Members with commas between them; two dots stand for the others. The bound is on their number. -/
def memberPatterns : Nat → TreeReader
  | 0, _ => none
  | n + 1, ts =>
    if ts.isEmpty then some ([], [])
    else match g.attributes ts with
      | none => none
      | some (attributes, rest) =>
        let one := if fits (symbol "..") rest then symbol ".."
          else andThen (memberPattern g) (whenever (mark ',') (memberPatterns n))
        (one rest).map fun (read, rest) => (attributes ++ read, rest)

def pathPattern : FormReader PatternForm := fun ts =>
  match anyPath g true ts with
  | none => none
  | some ((form, read), ts) =>
    if form.isPlain && startsMacroInput ts then
      afterTrees read (withForm .other macroInput) ts
    else match ts with
      | .group .curly _ :: _ =>
        let members := within .curly fun ts => memberPatterns g (ts.length + 1) ts
        afterTrees read (withForm .other members) ts
      | .group .round _ :: _ =>
        afterTrees read (withForm .other (within .round (patternList g))) ts
      | ts => if fits (symbol "..") ts then rangeBehind g read ts else some ((.other, read), ts)

def namePattern : TreeReader :=
  all [optional (word "ref"), optional (word "mut"), either TreeReader.name (word "self"),
    whenever (mark '@') g.anyPattern]

def startsPathPattern (ts : List Tree) : Bool :=
  fits TreeReader.name ts &&
      fitsBehind 1 (any [pathMark, mark '!', group .curly, group .round, symbol ".."]) ts ||
    fits (word "self") ts && fitsBehind 1 pathMark ts ||
    fits (any [pathMark, mark '<', wordOf ["Self", "super", "crate"]]) ts

def readPattern : FormReader PatternForm := fun ts =>
  if startsPathPattern ts then pathPattern g ts
  else if fits (word "_") ts then withForm .other (word "_") ts
  else if fits (word "box") ts then withForm .other (verbatim (andThen (word "box") g.anyPattern)) ts
  else if fits (any [mark '-', literal, word "const"]) ts then
    match rangeEnd g ts with
    | none => none
    | some (read, ts) =>
      if fits (symbol "..") ts then rangeBehind g read ts else some ((.other, read), ts)
  else if fits (any [wordOf ["ref", "mut", "self"], TreeReader.name]) ts then
    withForm .other (namePattern g) ts
  else match ts with
    | .leaf (.mark '&' _) :: _ =>
      withForm .other (all [mark '&', optional (word "mut"), g.anyPattern]) ts
    | .group .round _ :: _ => withForm .other (within .round (patternList g)) ts
    | .group .square _ :: _ =>
      withForm .other (within .square (listed (elementPattern g))) ts
    | ts =>
      if fits (symbol "..") ts && !fits (symbol "...") ts then
        (rangeFromMark g ts).map fun ((isClosed, read), ts) =>
          ((if isClosed then .openRange else .rest, read), ts)
      else none

end RowMapper.Declaration.Grammar
