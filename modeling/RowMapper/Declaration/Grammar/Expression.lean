import RowMapper.Declaration.Grammar.Operator
import RowMapper.Declaration.Grammar.Pattern

/-!
Expressions: operands with operators between them. Where `members` is false, a curly bracket ends an
expression.
-/
namespace RowMapper.Declaration.Grammar

open TreeReader

variable (g : Grammar)

def values : TreeReader := listed g.anyExpression

def startsValue (ts : List Tree) : Bool :=
  let starts := fun (s : String) (others : List String) =>
    fits (symbol s) ts && !others.any fun o => fits (symbol o) ts
  fits anyWord ts && !fits (word "as") ts ||
    fits (any [anyGroup, literal, lifetime, symbol "..", pathMark, mark '#']) ts ||
    starts "!" ["!="] || starts "-" ["-=", "->"] || starts "*" ["*="] || starts "|" ["|="] ||
    starts "&" ["&="] || starts "<" ["<=", "<<="]

/-! ### What stands behind an operand -/

/-- The indices of a number that two points make one, such as those of `x.0.1`. A point may be left
over at its end. -/
def pointedIndices : FormReader Bool
  | .leaf (.literal spelling) :: rest =>
    (Literal.indices? spelling).map fun (indices, isOpen) =>
      ((isOpen, [.leaf (.literal (".".intercalate (indices.map toString) ++
        (if isOpen then "." else "")))]), rest)
  | _ => none

def selection : TreeReader := fun ts =>
  if fits (word "await") ts then word "await" ts
  else match member ts with
    | none => none
    | some ((isNamed, read), ts) =>
      let call := within .round (values g)
      let more : TreeReader := fun ts =>
        if isNamed && fits pathMark ts then all [pathMark, arguments g, call] ts
        else if isNamed && fits (group .round) ts then call ts
        else some ([], ts)
      (more ts).map fun (more, ts) => (read ++ more, ts)

def behindPoint : TreeReader := fun ts =>
  match pointedIndices ts with
  | some ((isOpen, read), ts) =>
    if isOpen then (selection g ts).map fun (more, ts) => (read ++ more, ts) else some (read, ts)
  | none => selection g ts

def startsSelection (ts : List Tree) : Bool := fits (mark '.') ts && !fits (symbol "..") ts

def trailer : TreeReader := fun ts =>
  match ts with
  | .group .round _ :: _ => within .round (values g) ts
  | .group .square _ :: _ => within .square g.anyExpression ts
  | .leaf (.mark '?' _) :: _ => mark '?' ts
  | ts => andThen (mark '.') (behindPoint g) ts

/-- A range has calls and indices behind it only. -/
def startsTrailer (form : ValueForm) (ts : List Tree) : Bool :=
  fits (either (group .round) (group .square)) ts ||
    form ≠ .range && (startsSelection ts || fits (mark '?') ts)

def trailersFrom : Nat → ValueForm × List Tree → FormReader ValueForm
  | 0, _, _ => none
  | n + 1, (form, read), ts =>
    if startsTrailer form ts then
      match trailer g ts with
      | none => none
      | some (more, ts) => trailersFrom n (.other, read ++ more) ts
    else some ((form, read), ts)

def trailers (found : ValueForm × List Tree) : FormReader ValueForm := fun ts =>
  trailersFrom g (ts.length + 1) found ts

/-! ### Operators -/

/-- A cast ends where something would stand directly behind its type. -/
def endsCast (ts : List Tree) : Bool :=
  !(startsSelection ts || fits (any [mark '?', group .square, group .round]) ts)

def endsOpenRange (members : Bool) (ts : List Tree) : Bool :=
  let marks := [",", ";", "?", "=>", "=", "+", "/", "%", "^", ">", "<=", "!=", "-=", "*=", "&=",
    "|=", "<<="]
  ts.isEmpty || startsSelection ts || marks.any (fun s => fits (symbol s) ts) ||
    !members && fits (group .curly) ts || fits (word "as") ts

/-- The mark of a range, and whether an upper end has to follow. Three dots are none. -/
def valueRangeMark : FormReader Bool := fun ts =>
  if fits (symbol "..=") ts then withForm true (symbol "..=") ts
  else if fits (symbol "...") ts then none
  else withForm false (symbol "..") ts

section

variable (operand : FormReader ValueForm) (members : Bool)

mutual

/-- Goes on behind an operand with operators that hold at least as tightly as told. -/
def climb : Nat → Tightness → ValueForm × List Tree → FormReader ValueForm
  | 0, _, _, _ => none
  | n + 1, least, (form, read), ts =>
    if form = .range then some ((form, read), ts)
    else match Operator.read ts with
      | some ((tightness, op), rest) =>
        if tightness.isBelow least then some ((form, read), ts)
        else if tightness = .comparison && form = .comparison then none
        else
          match rightOperand n tightness rest with
          | none => none
          | some ((_, right), rest) =>
            let form := if tightness = .comparison then .comparison else .other
            climb n least (form, read ++ op ++ right) rest
      | none =>
        if !Tightness.isBelow .assignment least && Operator.startsAssignment ts then
          match mark '=' ts with
          | none => none
          | some (op, rest) =>
            match rightOperand n .assignment rest with
            | none => none
            | some ((_, right), rest) => climb n least (.other, read ++ op ++ right) rest
        else if !Tightness.isBelow .range least && fits (symbol "..") ts then
          match rangeFrom n ts with
          | none => none
          | some (more, rest) => climb n least (.range, read ++ more) rest
        else if fits (word "as") ts then
          match andThen (word "as") g.tightType ts with
          | none => none
          | some (more, rest) =>
            if endsCast rest then climb n least (.other, read ++ more) rest else none
        else some ((form, read), ts)

def rightOperand : Nat → Tightness → FormReader ValueForm
  | 0, _, _ => none
  | n + 1, tightness, ts =>
    match operand ts with
    | none => none
    | some (found, rest) => extend n tightness found rest

def extend : Nat → Tightness → ValueForm × List Tree → FormReader ValueForm
  | 0, _, _, _ => none
  | n + 1, tightness, found, ts =>
    let next := Operator.tightnessAt ts
    if tightness.isBelow next || next = tightness && tightness = .assignment then
      match climb n next found ts with
      | none => none
      | some (found, rest) =>
        if rest.length < ts.length then extend n tightness found rest else some (found, rest)
    else some (found, ts)

def rangeFrom : Nat → TreeReader
  | 0, _ => none
  | n + 1, ts =>
    match valueRangeMark ts with
    | none => none
    | some ((isClosed, read), ts) =>
      if !isClosed && endsOpenRange members ts then some (read, ts)
      else (rightOperand n .range ts).map fun ((_, upper), ts) => (read ++ upper, ts)

end

end

def operatorBound (ts : List Tree) : Nat := 4 * ts.length + 8

def climbed (members : Bool) (least : Tightness) (found : ValueForm × List Tree) :
    FormReader ValueForm := fun ts =>
  climb g (g.operand members) members (operatorBound ts) least found ts

/-! ### Operands that start with a word -/

/-- Conditions of a branch and of a loop end before the curly bracket of the block. -/
def branch : Nat → TreeReader
  | 0, _ => none
  | n + 1, ts =>
    all [word "if", g.condition, g.block,
      whenever (word "else") fun ts =>
        if fits (word "if") ts then branch n ts else g.block ts] ts

def patternOf : TreeReader := anyAlternatives g

def loop : TreeReader := fun ts =>
  match ts with
  | .leaf (.word "while" false) :: _ => all [word "while", g.condition, g.attributedBlock] ts
  | .leaf (.word "for" false) :: _ =>
    all [word "for", patternOf g, word "in", g.condition, g.attributedBlock] ts
  | _ => andThen (word "loop") g.attributedBlock ts

def armBody : TreeReader := fun ts =>
  match g.clause ts with
  | none => none
  | some ((form, read), ts) =>
    let comma := if form = .block then optional (mark ',')
      else fun ts => if ts.isEmpty then some ([], ts) else mark ',' ts
    (comma ts).map fun (more, ts) => (read ++ more, ts)

def arm : TreeReader :=
  all [g.attributes, patternOf g, whenever (word "if") g.anyExpression, symbol "=>", armBody g]

def choice : TreeReader :=
  all [word "match", g.condition,
    within .curly (andThen g.innerAttributes (toEnd (arm g)))]

def closureParameter : TreeReader :=
  all [g.attributes, g.anyPattern, whenever (mark ':') g.anyType]

def closureParameters : Nat → TreeReader
  | 0, _ => none
  | n + 1, ts =>
    if fits (mark '|') ts then some ([], ts)
    else andThen (closureParameter g) (fun ts =>
      if fits (mark '|') ts then some ([], ts)
      else andThen (mark ',') (closureParameters n) ts) ts

def closure (members : Bool) : TreeReader := fun ts =>
  let body : TreeReader := fun ts =>
    if fits (symbol "->") ts then all [symbol "->", g.anyType, g.block] ts
    else formless (g.expression members) ts
  all [wherever (fits (word "for")) (binder g), optional (word "const"), optional (word "static"),
    optional (word "async"), optional (word "move"), mark '|',
    fun ts => closureParameters g (ts.length + 1) ts, mark '|', body] ts

def startsClosure (ts : List Tree) : Bool :=
  fits (either (mark '|') (wordOf ["move", "static"])) ts ||
    fits (word "for") ts && startsParameters (ts.drop 1) ||
    fits (word "const") ts && !fitsBehind 1 (group .curly) ts ||
    fits (word "async") ts && fitsBehind 1 (either (mark '|') (word "move")) ts

def optionalValue (ts : List Tree) : Option (List Tree × List Tree) :=
  wherever startsValue g.anyExpression ts

/-- A label that belongs to a value would need brackets. -/
def breaking (members : Bool) : TreeReader := fun ts =>
  match andThen (word "break") (optional lifetime) ts with
  | none => none
  | some (read, rest) =>
    if read.length = 2 && fits (mark ':') rest then none
    else if members || !fits (group .curly) rest then
      (optionalValue g rest).map fun (more, rest) => (read ++ more, rest)
    else some (read, rest)

def letting (members : Bool) : TreeReader := fun ts =>
  match all [word "let", patternOf g, mark '='] ts with
  | none => none
  | some (read, ts) =>
    match g.operand members ts with
    | none => none
    | some (found, ts) =>
      (climbed g members .comparison found ts).map fun ((_, value), ts) => (read ++ value, ts)

def startsAsyncBlock (ts : List Tree) : Bool :=
  fits (andThen (word "async") (andThen (optional (word "move")) (group .curly))) ts

def labeled : TreeReader := fun ts =>
  match andThen lifetime (mark ':') ts with
  | none => none
  | some (label, ts) =>
    let body := if fits (wordOf ["while", "for", "loop"]) ts then loop g else g.attributedBlock
    (body ts).map fun (read, ts) => (label ++ read, ts)

/-! ### Other operands -/

/-- A member with its value, which may be left out when both have one name. -/
def memberValue : TreeReader := fun ts =>
  match g.attributes ts with
  | none => none
  | some (attributes, ts) =>
    match member ts with
    | none => none
    | some ((isNamed, read), ts) =>
      let value := if isNamed then whenever (mark ':') g.anyExpression
        else andThen (mark ':') g.anyExpression
      (value ts).map fun (more, ts) => (attributes ++ read ++ more, ts)

/-- Members with commas between them; two dots stand before the value that has the others. -/
def memberValues : Nat → TreeReader
  | 0, _ => none
  | n + 1, ts =>
    if ts.isEmpty then some ([], [])
    else if fits (symbol "..") ts then
      andThen (symbol "..") (fun ts => if ts.isEmpty then some ([], ts) else g.anyExpression ts) ts
    else andThen (memberValue g) (whenever (mark ',') (memberValues n)) ts

def pathValue (members : Bool) : FormReader ValueForm := fun ts =>
  match anyPath g true ts with
  | none => none
  | some ((form, read), ts) =>
    if form.isPlain && startsMacroInput ts then
      let form : ValueForm := if fitsBehind 1 (group .curly) ts then .blockMacro else .other
      afterTrees read (withForm form macroInput) ts
    else if members && fits (group .curly) ts then
      let inside := within .curly fun ts => memberValues g (ts.length + 1) ts
      afterTrees read (withForm .other inside) ts
    else some ((.other, read), ts)

def arrayValue : TreeReader :=
  within .square fun ts =>
    if ts.isEmpty then some ([], [])
    else andThen g.anyExpression (fun ts =>
      if ts.isEmpty then some ([], ts)
      else if fits (mark ';') ts then andThen (mark ';') g.anyExpression ts
      else andThen (mark ',') (values g) ts) ts

def builtIn : TreeReader :=
  verbatim (all [word "builtin", mark '#', TreeReader.name, group .round])

def startsPathValue (ts : List Tree) : Bool :=
  fits (any [TreeReader.name, pathMark, mark '<', wordOf ["self", "Self", "super", "crate"]]) ts ||
    fits (word "try") ts && fitsBehind 1 (either (mark '!') pathMark) ts

def blockOperand : TreeReader := fun ts =>
  match ts with
  | .leaf (.word "if" false) :: _ => branch g (ts.length + 1) ts
  | .leaf (.word "match" false) :: _ => choice g ts
  | .leaf (.word "try" false) :: _ => andThen (word "try") g.block ts
  | .leaf (.word "unsafe" false) :: _ => andThen (word "unsafe") g.attributedBlock ts
  | .leaf (.word "const" false) :: _ => andThen (word "const") g.attributedBlock ts
  | .leaf (.lifetime _) :: _ => labeled g ts
  | .group .curly _ :: _ => g.attributedBlock ts
  | ts => loop g ts

def startsBlockOperand (ts : List Tree) : Bool :=
  fits (any [wordOf ["if", "match", "while", "loop", "unsafe"], group .curly, lifetime]) ts ||
    fits (word "for") ts && !startsParameters (ts.drop 1) ||
    fits (wordOf ["try", "const"]) ts && fitsBehind 1 (group .curly) ts

def jump (members : Bool) : TreeReader := fun ts =>
  match ts with
  | .leaf (.word "break" false) :: _ => breaking g members ts
  | .leaf (.word "continue" false) :: _ => andThen (word "continue") (optional lifetime) ts
  | .leaf (.word "become" false) :: _ => verbatim (andThen (word "become") g.anyExpression) ts
  | _ => andThen (wordOf ["return", "yield"]) (optionalValue g) ts

def atom (members : Bool) : FormReader ValueForm := fun ts =>
  if fits literal ts then withForm .other literal ts
  else if startsAsyncBlock ts then
    withForm .other (all [word "async", optional (word "move"), g.block]) ts
  else if fits (word "try") ts && fitsBehind 1 (group .curly) ts then
    withForm .block (blockOperand g) ts
  else if startsClosure ts then withForm .other (closure g members) ts
  else if fits (andThen (word "builtin") (mark '#')) ts then withForm .other builtIn ts
  else if startsPathValue ts then pathValue g members ts
  else if fits (wordOf ["break", "continue", "become", "return", "yield"]) ts then
    withForm .other (jump g members) ts
  else if startsBlockOperand ts then withForm .block (blockOperand g) ts
  else if fits (symbol "..") ts then
    withForm .range (fun ts => rangeFrom g (g.operand members) members (operatorBound ts) ts) ts
  else match ts with
    | .group .round _ :: _ => withForm .other (within .round (values g)) ts
    | .group .square _ :: _ => withForm .other (arrayValue g) ts
    | .leaf (.word "let" false) :: _ => withForm .other (letting g members) ts
    | ts => withForm .other (word "_") ts

/-! ### All expressions -/

def sign : TreeReader := fun ts =>
  match ts with
  | .leaf (.mark '&' _) :: .leaf (.word "raw" false) :: .leaf (.word "const" false) :: _ =>
    all [mark '&', word "raw", word "const"] ts
  | .leaf (.mark '&' _) :: .leaf (.word "raw" false) :: .leaf (.word "mut" false) :: _ =>
    all [mark '&', word "raw", word "mut"] ts
  | .leaf (.mark '&' _) :: _ => andThen (mark '&') (optional (word "mut")) ts
  | ts => any [mark '*', mark '!', mark '-'] ts

/-- An operand behind its attributes. A range takes no attributes. -/
def unattributed (members isAttributed : Bool) : FormReader ValueForm := fun ts =>
  if fits sign ts then
    match sign ts with
    | none => none
    | some (read, ts) => afterTrees read (withForm .other (formless (g.operand members))) ts
  else match atom g members ts with
    | none => none
    | some (found, ts) =>
      match trailers g found ts with
      | some ((.range, read), ts) =>
        if isAttributed then none else some ((.range, read), ts)
      | other => other

def readOperand (members : Bool) : FormReader ValueForm := fun ts =>
  match g.attributes ts with
  | none => none
  | some (attributes, ts) =>
    afterTrees attributes (unattributed g members !attributes.isEmpty) ts

def readExpression (members : Bool) : FormReader ValueForm := fun ts =>
  match g.operand members ts with
  | none => none
  | some (found, ts) => climbed g members .loosest found ts

/-- An expression that ends behind a block at its front, unless a member of it follows. -/
def readClause : FormReader ValueForm := fun ts =>
  match g.attributes ts with
  | none => none
  | some (attributes, ts) =>
    if startsBlockOperand ts then
      match blockOperand g ts with
      | none => none
      | some (read, ts) =>
        let found := (ValueForm.block, attributes ++ read)
        if startsSelection ts || fits (mark '?') ts then
          match trailers g found ts with
          | none => none
          | some (found, ts) => climbed g true .loosest found ts
        else some (found, ts)
    else match g.operand true ts with
      | none => none
      | some ((form, read), ts) => climbed g true .loosest (form, attributes ++ read) ts

end RowMapper.Declaration.Grammar
