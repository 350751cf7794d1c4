import RowMapper.Declaration.Grammar.Field
import RowMapper.Declaration.Grammar.Pattern

/-!
Declarations among statements and inside one another. Some of them stay as they are written; their
readers tell so.
-/
namespace RowMapper.Declaration.Grammar

open TreeReader

variable (g : Grammar)

/-! ### Functions -/

def receiver : TreeReader := fun ts =>
  match whenever (mark '&') (optional lifetime) ts with
  | none => none
  | some (reference, ts) =>
    let type := if reference.isEmpty then whenever (mark ':') g.anyType else nothing
    (all [optional (word "mut"), word "self", type] ts).map fun (read, ts) => (reference ++ read, ts)

def commaUnlessEnd : TreeReader := fun ts => if ts.isEmpty then some ([], ts) else mark ',' ts

def unnamedStart : List Tree := [.leaf (.word "_" false), .leaf (.mark ':' false)]

/-- The parameters of a function. A type with arguments may stand without a pattern, and dots may
come last. The bound is on their number. -/
def functionInputs (isFirst : Bool) : Nat → TreeReader
  | 0, _ => none
  | n + 1, ts =>
    if ts.isEmpty then some ([], [])
    else match g.attributes ts with
      | none => none
      | some (attributes, ts) =>
        let further : TreeReader := fun ts => andThen commaUnlessEnd (functionInputs false n) ts
        let last := andThen dots commaUnlessEnd
        let one : TreeReader := fun ts =>
          if fits dots ts then last ts
          else match receiver g ts with
            | some (read, ts) =>
              if isFirst then (further ts).map fun (more, ts) => (read ++ more, ts) else none
            | none =>
              if fits TreeReader.name ts && fitsBehind 1 (mark '<') ts then
                (andThen g.anyType further ts).map fun (read, ts) => (unnamedStart ++ read, ts)
              else all [g.anyPattern, mark ':', fun ts =>
                if fits dots ts then last ts else andThen g.anyType further ts] ts
        (one ts).map fun (read, ts) => (attributes ++ read, ts)

def functionStart (safe : TreeReader) : TreeReader :=
  all [optional (word "const"), optional (word "async"), optional (either (word "unsafe") safe),
    interface, word "fn"]

/-- Only the functions of another language are declared as safe. -/
def neverSafe : TreeReader := fun _ => none

def functionSignature (safe : TreeReader) : TreeReader :=
  all [functionStart safe, TreeReader.name, g.parameters,
    within .round (fun ts => functionInputs g true (ts.length + 1) ts),
    whenever (symbol "->") g.anyType, g.conditions]

def function (safe : TreeReader) : FormReader Bool := fun ts =>
  match functionSignature g safe ts with
  | none => none
  | some (read, ts) =>
    match mark ';' ts with
    | some (semicolon, ts) => some ((true, read ++ semicolon), ts)
    | none => afterTrees read (withForm false g.attributedBlock) ts

def startsFunction (safe : TreeReader) : List Tree → Bool := fits (functionStart safe)

/-! ### Constants and other names of types -/

structure ConstantForm where
  hasValue : Bool
  isPlain : Bool
  deriving DecidableEq, Repr, Inhabited

def constantItem : FormReader ConstantForm := fun ts =>
  match andThen (word "const") (either TreeReader.name (word "_")) ts with
  | none => none
  | some (start, ts) =>
    let isOpen := fits (mark '<') ts
    match all [g.parameters, mark ':', g.anyType] ts with
    | none => none
    | some (type, ts) =>
      match whenever (mark '=') g.anyExpression ts with
      | none => none
      | some (value, ts) =>
        let form : ConstantForm := ⟨!value.isEmpty, !isOpen && !fits (word "where") ts⟩
        afterTrees (start ++ type ++ value)
          (withForm form (andThen g.conditions (mark ';'))) ts

structure AliasForm where
  hasBounds : Bool
  hasType : Bool
  deriving DecidableEq, Repr, Inhabited

inductive ConditionPlace where
  | before
  | behind
  | either
  deriving DecidableEq, Repr, Inhabited

def endsAliasBounds (ts : List Tree) : Bool :=
  fits (any [word "where", mark '=', mark ';']) ts

def aliasItem (place : ConditionPlace) : FormReader AliasForm := fun ts =>
  match all [word "type", TreeReader.name, g.parameters] ts with
  | none => none
  | some (start, ts) =>
    let hasBounds := fits (mark ':') ts
    let bounds := boundsAfterColon fun ts => boundsUntil g endsAliasBounds (ts.length + 1) ts
    match bounds ts with
    | none => none
    | some (bounds, ts) =>
      let isBefore := fits (word "where") ts
      match (if place = .behind then nothing else g.conditions) ts with
      | none => none
      | some (before, ts) =>
        let hasType := fits (mark '=') ts
        let last := if place = .behind || place = .either && !isBefore then g.conditions else nothing
        afterTrees (start ++ bounds ++ before)
          (withForm ⟨hasBounds, hasType⟩ (all [whenever (mark '=') g.anyType, last, mark ';'])) ts

/-! ### Inputs of macros -/

def inputItem (named : TreeReader) : TreeReader :=
  all [plainPath, mark '!', named, either (group .curly) (andThen anyGroup (mark ';'))]

def startsInput : List Tree → Bool := fits (either plainSegment pathMark)

/-! ### What types are able to do -/

def abilityMember : FormReader Bool := fun ts =>
  match andThen visibility (optional (word "default")) ts with
  | none => none
  | some (start, ts) =>
    let isVerbatim := !start.isEmpty
    let found : FormReader Bool :=
      if startsFunction neverSafe ts then reformed (fun _ => isVerbatim) (function g neverSafe)
      else if fits (word "const") ts then
        reformed (fun form => isVerbatim || !form.isPlain) (constantItem g)
      else if fits (word "type") ts then
        reformed (fun _ => isVerbatim) (aliasItem g .behind)
      else if isVerbatim then fun _ => none
      else withForm false (inputItem nothing)
    afterTrees start found ts

def membersOf (member : FormReader Bool) : TreeReader :=
  within .curly (andThen g.innerAttributes (toEnd (asWritten fun ts =>
    match g.attributes ts with
    | none => none
    | some (attributes, ts) => afterTrees attributes member ts)))

def endsAbilityBounds (ts : List Tree) : Bool := fits (either (word "where") (group .curly)) ts

def ability : TreeReader := fun ts =>
  match all [visibility, optional (word "unsafe"), optional (word "auto"), word "trait"] ts with
  | none => none
  | some (start, ts) =>
    let isMarked := fits (all [visibility, wordOf ["unsafe", "auto"]]) start
    match andThen TreeReader.name g.parameters ts with
    | none => none
    | some (name, ts) =>
      let ended := fun ts => fits (either (word "where") (mark ';')) ts
      let rest : TreeReader :=
        if fits (mark '=') ts && !isMarked then
          all [mark '=', fun ts => boundsUntil g ended (ts.length + 1) ts, g.conditions, mark ';']
        else
          all [boundsAfterColon fun ts => boundsUntil g endsAbilityBounds (ts.length + 1) ts,
            g.conditions, membersOf g (abilityMember g)]
      (rest ts).map fun (read, ts) => (start ++ name ++ read, ts)

def implementationMember : FormReader Bool := fun ts =>
  match visibility ts with
  | none => none
  | some (visible, ts) =>
    let isDefault := fits (word "default") ts && !fitsBehind 1 (mark '!') ts
    match (if isDefault then word "default" else nothing) ts with
    | none => none
    | some (default, ts) =>
      let found : FormReader Bool :=
        if startsFunction neverSafe ts then function g neverSafe
        else if fits (word "const") ts then
          reformed (fun form => !(form.hasValue && form.isPlain)) (constantItem g)
        else if fits (word "type") ts then
          reformed (fun form => form.hasBounds || !form.hasType) (aliasItem g .behind)
        else if visible.isEmpty && default.isEmpty then withForm false (inputItem nothing)
        else fun _ => none
      afterTrees (visible ++ default) found ts

/-- What a type is implemented for stands behind a path. -/
def implementedType : FormReader Bool := fun ts =>
  let isDenied := fits (mark '!') ts && !fitsBehind 1 (group .curly) ts
  match (if isDenied then mark '!' else nothing) ts with
  | none => none
  | some (denied, ts) =>
    match g.type true ts with
    | none => none
    | some ((form, read), rest) =>
      if fits (word "for") rest then
        let isPath := form = .name || form = .path
        afterTrees (denied ++ read) (withForm (!isPath) (andThen (word "for") g.anyType)) rest
      else
        let read := if isDenied then ts.take (ts.length - rest.length) else read
        some ((false, denied ++ read), rest)

def implementation : FormReader Bool := fun ts =>
  match all [visibility, optional (word "default"), optional (word "unsafe"), word "impl",
      wherever startsParameters g.parameters] ts with
  | none => none
  | some (start, ts) =>
    let isConst := fits (either (word "const") (andThen (mark '?') (word "const"))) ts
    let isVerbatim := isConst || fits (word "pub") start
    match (if isConst then andThen (optional (mark '?')) (word "const") else nothing) ts with
    | none => none
    | some (const, ts) =>
      match implementedType g ts with
      | none => none
      | some ((isOther, type), ts) =>
        let members := membersOf g (implementationMember g)
        afterTrees (start ++ const ++ type)
          (withForm (isVerbatim || isOther) (andThen g.conditions members)) ts

/-! ### Names from elsewhere -/

def otherName : TreeReader := whenever (word "as") (either TreeReader.name (word "_"))

/-- Names that are used. A double colon may stand in front of the first ones. The bound is on the
depth. -/
def usedNames (isOutermost : Bool) : Nat → TreeReader
  | 0, _ => none
  | n + 1, ts =>
    match ts with
    | .leaf (.mark '*' _) :: _ => mark '*' ts
    | .group .curly _ :: _ =>
      within .curly (listed fun ts =>
        let isRooted := isOutermost && fits pathMark ts
        andThen (if isRooted then pathMark else nothing)
          (usedNames (isOutermost && !isRooted) n) ts) ts
    | ts =>
      match either TreeReader.name (wordOf ["self", "super", "crate", "try"]) ts with
      | none => none
      | some (read, ts) =>
        (if fits pathMark ts then andThen pathMark (usedNames false n) ts
          else otherName ts).map fun (more, ts) => (read ++ more, ts)

def useItem : TreeReader := fun ts =>
  match andThen visibility (word "use") ts with
  | none => none
  | some (start, ts) =>
    let isRooted := fits pathMark ts
    (all [optional pathMark, usedNames (!isRooted) (Tree.sizeOfAll ts + 1), mark ';'] ts).map
      fun (read, ts) => (start ++ read, ts)

def libraryItem : TreeReader :=
  all [visibility, word "extern", word "crate", either TreeReader.name (word "self"), otherName,
    mark ';']

def foreignMember : FormReader Bool := fun ts =>
  match visibility ts with
  | none => none
  | some (visible, ts) =>
    let safe := word "safe"
    let isGuarded := either (word "unsafe") safe
    let found : FormReader Bool :=
      if startsFunction safe ts then
        reformed (fun isOpen => !startsFunction neverSafe ts || !isOpen) (function g safe)
      else if fits (andThen (optional isGuarded) (word "static")) ts then
        let start := all [optional isGuarded, word "static", optional (word "mut"), TreeReader.name,
          mark ':', g.anyType]
        fun ts =>
          match start ts with
          | none => none
          | some (read, rest) =>
            let isVerbatim := fits isGuarded ts || fits (mark '=') rest
            afterTrees read
              (withForm isVerbatim (andThen (whenever (mark '=') g.anyExpression) (mark ';'))) rest
      else if fits (word "type") ts then
        reformed (fun form => form.hasBounds || form.hasType) (aliasItem g .either)
      else if visible.isEmpty then withForm false (inputItem nothing)
      else fun _ => none
    afterTrees visible found ts

def foreignItems : TreeReader :=
  all [optional (word "unsafe"), word "extern", optional text, membersOf g (foreignMember g)]

/-! ### All declarations -/

/-- A value with a place of its own. Without a type or a value it stays as it is written. -/
def staticItem : FormReader Bool := fun ts =>
  match all [visibility, word "static", optional (word "mut"), TreeReader.name] ts with
  | none => none
  | some (start, ts) =>
    let value := whenever (mark '=') g.anyExpression
    match whenever (mark ':') g.anyType ts with
    | none => none
    | some (type, rest) =>
      let isVerbatim := type.isEmpty || fits (mark ';') rest
      if type.isEmpty && !fits (mark '=') rest then none
      else afterTrees (start ++ type) (withForm isVerbatim (andThen value (mark ';'))) rest

def moduleItem : TreeReader :=
  all [visibility, optional (word "unsafe"), word "mod", either TreeReader.name (word "try"),
    either (mark ';') (within .curly (andThen g.innerAttributes (toEnd g.item)))]

def typeItem : TreeReader := fun ts =>
  match andThen visibility (wordOf ["struct", "enum", "union"]) ts with
  | none => none
  | some (start, ts) =>
    let keyword := match start.getLast? with
      | some (.leaf t) => t.spelling
      | _ => ""
    (all [TreeReader.name, g.parameters, typeBody g keyword] ts).map fun (read, ts) =>
      (start ++ read, ts)

def rulesItem : TreeReader :=
  all [visibility, word "macro", TreeReader.name, optional (group .round), group .curly]

/-- A declaration behind its attributes, chosen by what follows its visibility. -/
def anyItem (isVisible : Bool) (next : List Tree) : FormReader Bool :=
  let first := fun names => fits (wordOf names) next
  let second := fun r => fitsBehind 1 r next
  if startsFunction neverSafe next then fun ts =>
    match visibility ts with
    | none => none
    | some (visible, ts) => afterTrees visible (function g neverSafe) ts
  else if first ["extern"] then
    if second (word "crate") then withForm false libraryItem
    else withForm false (foreignItems g)
  else if first ["use"] then withForm false useItem
  else if first ["static"] then staticItem g
  else if first ["const"] then fun ts =>
    match visibility ts with
    | none => none
    | some (visible, ts) =>
      let constant := reformed (fun form => !(form.hasValue && form.isPlain)) (constantItem g)
      afterTrees visible constant ts
  else if first ["unsafe"] && second (word "impl") then implementation g
  else if first ["unsafe"] && second (word "extern") then withForm false (foreignItems g)
  else if first ["unsafe"] && second (word "mod") || first ["mod"] then
    withForm false (moduleItem g)
  else if first ["unsafe"] && second (wordOf ["trait", "auto"]) || first ["trait"] ||
      first ["auto"] && second (word "trait") then
    withForm false (ability g)
  else if first ["type"] then fun ts =>
    match visibility ts with
    | none => none
    | some (visible, ts) =>
      let other := reformed (fun form => form.hasBounds || !form.hasType) (aliasItem g .before)
      afterTrees visible other ts
  else if first ["struct", "enum"] || first ["union"] && second TreeReader.name then
    withForm false (typeItem g)
  else if first ["impl"] || first ["default"] && !second (mark '!') then implementation g
  else if first ["macro"] then withForm true rulesItem
  else if !isVisible && startsInput next then
    withForm false (inputItem (optional (either TreeReader.name (word "try"))))
  else fun _ => none

def readItem : TreeReader := asWritten fun ts =>
  match g.attributes ts with
  | none => none
  | some (attributes, ts) =>
    match visibility ts with
    | none => none
    | some (visible, next) => afterTrees attributes (anyItem g (!visible.isEmpty) next) ts

end RowMapper.Declaration.Grammar
