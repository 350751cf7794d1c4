import RowMapper.Declaration.Literal
import RowMapper.Text.Blank
import RowMapper.Text.Quoted

/-!
Reading the trees of a source text. Blanks and comments separate tokens; a documentation comment is
an attribute.
-/
namespace RowMapper.Declaration

namespace Source

/-- The marks that give text its direction separate tokens as well. -/
def isSpace (c : Char) : Bool :=
  Text.isBlank c || c.toNat == 0x200E || c.toNat == 0x200F

/-- The inside of a block comment and what follows; block comments nest. -/
def blockEnd? : Nat → List Char → Option (List Char × List Char)
  | depth, '*' :: '/' :: rest =>
    match depth with
    | 0 => some ([], rest)
    | depth + 1 => (blockEnd? depth rest).map fun (cs, rest) => ('*' :: '/' :: cs, rest)
  | depth, '/' :: '*' :: rest =>
    (blockEnd? (depth + 1) rest).map fun (cs, rest) => ('/' :: '*' :: cs, rest)
  | depth, c :: rest => (blockEnd? depth rest).map fun (cs, rest) => (c :: cs, rest)
  | _, [] => none

def lineOf (cs : List Char) : List Char × List Char :=
  let line := cs.takeWhile (· ≠ '\n')
  let rest := cs.drop line.length
  if line.getLast? = some '\r' && !rest.isEmpty then (line.dropLast, rest) else (line, rest)

inductive Comment where
  | plain
  /-- It describes what follows, or the inside of what it stands in. -/
  | documentation (inner : Bool) (text : List Char)

/-- A carriage return stands in front of a line feed only. -/
def returnsPaired : List Char → Bool
  | '\r' :: '\n' :: rest => returnsPaired rest
  | c :: rest => c ≠ '\r' && returnsPaired rest
  | [] => true

def Comment.isReadable : Comment → Bool
  | .plain => true
  | .documentation _ text => returnsPaired text

def comment? (cs : List Char) : Option (Comment × List Char) :=
  let lined := fun (make : List Char → Comment) (cs : List Char) =>
    some (make (lineOf cs).1, (lineOf cs).2)
  let blocked := fun (make : List Char → Comment) (cs : List Char) =>
    (blockEnd? 0 cs).map fun (text, rest) => (make text, rest)
  let plain := fun _ : List Char => Comment.plain
  let found := match cs with
    | '/' :: '/' :: '/' :: '/' :: rest => lined plain rest
    | '/' :: '/' :: '/' :: rest => lined (.documentation false) rest
    | '/' :: '/' :: '!' :: rest => lined (.documentation true) rest
    | '/' :: '/' :: rest => lined plain rest
    | '/' :: '*' :: '*' :: '/' :: rest => some (.plain, rest)
    | '/' :: '*' :: '*' :: '*' :: rest => blocked plain ('*' :: '*' :: rest)
    | '/' :: '*' :: '*' :: rest => blocked (.documentation false) rest
    | '/' :: '*' :: '!' :: rest => blocked (.documentation true) rest
    | '/' :: '*' :: rest => blocked plain rest
    | _ => none
  found.filter fun (comment, _) => comment.isReadable

/-- The inside of the literal for a documentation text. Zero in front of an octal digit is written
with two digits. -/
def spelledText : List Char → List Char
  | [] => []
  | c :: rest =>
    let isOctal := (rest.head?.map fun d => '0' ≤ d && d ≤ '7').getD false
    (if c.toNat == 0 && isOctal then ['\\', 'x', '0', '0'] else Text.quoteChar c) ++ spelledText rest

def Comment.trees : Comment → List Tree
  | .plain => []
  | .documentation inner text =>
    .leaf (.mark '#' false) :: ((if inner then [.leaf (.mark '!' false)] else []) ++
      [.group .square [.leaf (.word "doc" false), .leaf (.mark '=' false),
        .leaf (.text (String.ofList text)
          ("\"" ++ String.ofList (spelledText text) ++ "\""))]])

/-- The characters that start a literal and may not start a name. -/
def literalStarts : List (List Char) :=
  ["r\"", "r#\"", "r##", "b\"", "b'", "br\"", "br#", "c\"", "cr\"", "cr#"].map String.toList

/-- The word at the front, its `r#` left out. -/
def plainWord? : List Char → Option (List Char × List Char)
  | [] => none
  | c :: rest =>
    if isWordStart c then some (c :: rest.takeWhile isWordRest, rest.dropWhile isWordRest) else none

def word? (cs : List Char) : Option (Token × List Char) :=
  match cs with
  | 'r' :: '#' :: rest =>
    (plainWord? rest).bind fun (name, rest) =>
      let name := String.ofList name
      if ["_", "super", "self", "Self", "crate"].contains name then none
      else some (.word name true, rest)
  | cs => (plainWord? cs).map fun (name, rest) => (.word (String.ofList name) false, rest)

/-- A lifetime; a quote or a hash must not follow it. -/
def lifetime? (cs : List Char) : Option (Token × List Char) :=
  (word? cs).bind fun (token, rest) =>
    match rest with
    | '\'' :: _ => none
    | '#' :: _ => if "r#".toList.isPrefixOf cs then some (.lifetime token.spelling, rest) else none
    | _ => some (.lifetime token.spelling, rest)

def startsMark (cs : List Char) : Bool :=
  match cs with
  | '/' :: '/' :: _ => false
  | '/' :: '*' :: _ => false
  | c :: _ => isMark c
  | [] => false

/-- The token at the front: a literal if one can be read there. -/
def token? (cs : List Char) : Option (Token × List Char) :=
  match Literal.read? cs with
  | some found => some found
  | none =>
    match cs with
    | '\'' :: rest => lifetime? rest
    | c :: rest =>
      if startsMark cs then some (.mark c (startsMark rest), rest)
      else if literalStarts.any (·.isPrefixOf cs) then none
      else word? cs
    | [] => none

/-- Brackets with this comment inside stand for what could not be read. They are a literal. -/
def unreadable : List Char := ("(/" ++ "*ERROR*" ++ "/)").toList

/-- A bracket that is still open, with what stands before it in reverse. -/
structure Frame where
  bracket : Bracket
  before : List Tree

/-- The trees of a text, given the open brackets and the trees so far in reverse. The bound is on the
number of steps. -/
def readTrees : Nat → List Frame → List Tree → List Char → Option (List Tree)
  | 0, _, _, _ => none
  | _, [], done, [] => some done.reverse
  | _, _ :: _, _, [] => none
  | n + 1, frames, done, c :: rest =>
    if isSpace c then readTrees n frames done rest
    else match comment? (c :: rest) with
      | some (comment, rest) => readTrees n frames (comment.trees.reverse ++ done) rest
      | none =>
        if unreadable.isPrefixOf (c :: rest) then
          readTrees n frames (.leaf (.literal (String.ofList unreadable)) :: done)
            (rest.drop (unreadable.length - 1))
        else match Bracket.ofOpening? c, Bracket.ofClosing? c with
        | some b, _ => readTrees n (⟨b, done⟩ :: frames) [] rest
        | none, some b =>
          match frames with
          | f :: frames =>
            if f.bracket = b then readTrees n frames (.group b done.reverse :: f.before) rest
            else none
          | [] => none
        | none, none =>
          match token? (c :: rest) with
          | some (t, rest) => readTrees n frames (.leaf t :: done) rest
          | none => none

end Source

def Tree.read? (source : String) : Option (List Tree) :=
  let cs := source.toList
  Source.readTrees (cs.length + 1) [] [] cs

end RowMapper.Declaration
