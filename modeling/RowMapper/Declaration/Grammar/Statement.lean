import RowMapper.Declaration.Grammar.Expression

/-!
Statements. Each but the last one ends in a semicolon or in a block.
-/
namespace RowMapper.Declaration.Grammar

open TreeReader

variable (g : Grammar)

def startsItem (ts : List Tree) : Bool :=
  let first := fun names => fits (wordOf names) ts
  let second := fun r => fitsBehind 1 r ts
  let function := wordOf ["unsafe", "extern", "fn"]
  first ["pub", "extern", "use", "fn", "mod", "type", "struct", "enum", "trait", "impl", "macro"] ||
    first ["crate"] && !second pathMark ||
    first ["static"] && second (either (word "mut") TreeReader.name) ||
    first ["const"] && !second (any [group .curly, wordOf ["static", "move"], mark '|']) &&
      !(second (word "async") && !fitsBehind 2 function ts) ||
    first ["unsafe"] && !second (group .curly) ||
    first ["async"] && second function ||
    first ["union"] && second TreeReader.name ||
    first ["auto"] && second (word "trait") ||
    first ["default"] && second (wordOf ["unsafe", "impl"])

def endsInBlock (ts : List Tree) : Bool :=
  match ts.getLast? with
  | some t => fits (group .curly) [t]
  | none => false

/-- The value that a name is bound to. Another way out follows no block. -/
def boundValue : TreeReader := fun ts =>
  match andThen (mark '=') g.anyExpression ts with
  | none => none
  | some (read, ts) =>
    let otherwise := if endsInBlock read then nothing else whenever (word "else") g.block
    (otherwise ts).map fun (more, ts) => (read ++ more, ts)

def binding : TreeReader :=
  all [word "let", g.anyPattern, whenever (mark ':') g.anyType,
    wherever (fits (mark '=')) (boundValue g), mark ';']

def valueStatement : FormReader Bool := fun ts =>
  match g.clause ts with
  | none => none
  | some ((form, read), ts) =>
    match mark ';' ts with
    | some (semicolon, ts) => some ((true, read ++ semicolon), ts)
    | none => some ((form == .block || form == .blockMacro, read), ts)

def blockInput : TreeReader := all [plainPath, mark '!', group .curly]

/-- The input of a macro stands alone, unless a member of what it stands for follows. -/
def startsBlockInput (ts : List Tree) : Bool :=
  match blockInput ts with
  | some (_, rest) => !(startsSelection rest || fits (mark '?') rest)
  | none => false

def startsNamedInput : List Tree → Bool :=
  fits (all [plainPath, mark '!', either TreeReader.name (word "try")])

def statement : FormReader Bool := fun ts =>
  match g.attributes ts with
  | none => none
  | some (attributes, rest) =>
    if startsBlockInput rest then
      afterTrees attributes (withForm true (andThen blockInput (optional (mark ';')))) rest
    else if fits (word "let") rest then afterTrees attributes (withForm true (binding g)) rest
    else if startsItem rest || startsNamedInput rest then withForm true g.item ts
    else afterTrees attributes (valueStatement g) rest

def statementsFrom : Nat → TreeReader
  | 0, _ => none
  | n + 1, ts =>
    match during (fits (mark ';')) (mark ';') ts with
    | none => none
    | some (marks, ts) =>
      if ts.isEmpty then some (marks, [])
      else match statement g ts with
        | none => none
        | some ((_, read), []) => some (marks ++ read, [])
        | some ((isEnded, read), ts) =>
          if isEnded then
            (statementsFrom n ts).map fun (more, ts) => (marks ++ read ++ more, ts)
          else none

def readStatements : TreeReader := fun ts => statementsFrom g (ts.length + 1) ts

end RowMapper.Declaration.Grammar
