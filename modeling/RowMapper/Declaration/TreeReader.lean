import RowMapper.Declaration.Token

/-!
Readers of trees. A reader gives what it has read, in the form in which it is written back, and what
follows. Some readers also tell the form of what they have read.
-/
namespace RowMapper.Declaration

abbrev TreeReader := List Tree → Option (List Tree × List Tree)

/-- A reader that tells the form of what it has read. -/
abbrev FormReader (φ : Type) := List Tree → Option ((φ × List Tree) × List Tree)

namespace TreeReader

def nothing : TreeReader := fun ts => some ([], ts)

def leaf (fits : Token → Bool) : TreeReader
  | .leaf t :: rest => if fits t then some ([.leaf t], rest) else none
  | _ => none

/-! ### Words, marks and literals -/

def word (name : String) : TreeReader := leaf (· == .word name false)

def wordOf (names : List String) : TreeReader := leaf fun t =>
  match t with
  | .word name raw => !raw && names.contains name
  | _ => false

def name : TreeReader := leaf Token.isName

def anyWord : TreeReader := leaf fun t =>
  match t with
  | .word _ _ => true
  | _ => false

def lifetime : TreeReader := leaf fun t =>
  match t with
  | .lifetime _ => true
  | _ => false

/-- One character of punctuation, whatever follows it. -/
def mark (c : Char) : TreeReader := leaf fun t =>
  match t with
  | .mark d _ => c == d
  | _ => false

/-- One character of punctuation that the next one follows at once. -/
def joinedMark (c : Char) : TreeReader := leaf (· == .mark c true)

def text : TreeReader := leaf fun t =>
  match t with
  | .text _ _ => true
  | _ => false

def plainLiteral : TreeReader := leaf fun t =>
  match t with
  | .text _ _ => true
  | .literal _ => true
  | .word name raw => !raw && (name == "true" || name == "false")
  | _ => false

def number : TreeReader := leaf fun t =>
  match t with
  | .literal spelling => (spelling.toList.head?.map Char.isDigit).getD false
  | _ => false

/-! ### Brackets -/

def group (b : Bracket) : TreeReader
  | .group c inner :: rest => if b = c then some ([.group c inner], rest) else none
  | _ => none

def anyGroup : TreeReader
  | .group c inner :: rest => some ([.group c inner], rest)
  | _ => none

/-- Brackets whose whole inside another reader reads. -/
def within (b : Bracket) (inside : TreeReader) : TreeReader
  | .group c inner :: rest =>
    if b = c then
      match inside inner with
      | some (read, []) => some ([.group c read], rest)
      | _ => none
    else none
  | _ => none

/-! ### Combinations -/

def andThen (first second : TreeReader) : TreeReader := fun ts =>
  match first ts with
  | none => none
  | some (a, ts) => (second ts).map fun (b, ts) => (a ++ b, ts)

def either (first second : TreeReader) : TreeReader := fun ts =>
  match first ts with
  | some found => some found
  | none => second ts

def all (rs : List TreeReader) : TreeReader := rs.foldr andThen nothing

def any (rs : List TreeReader) : TreeReader := rs.foldr either fun _ => none

def optional (r : TreeReader) : TreeReader := either r nothing

/-- The second reader after the first one, or nothing where the first one does not fit. -/
def whenever (first second : TreeReader) : TreeReader := fun ts =>
  match first ts with
  | some (a, ts) => (second ts).map fun (b, ts) => (a ++ b, ts)
  | none => some ([], ts)

/-- Reads without taking in. -/
def without (r : TreeReader) : TreeReader := fun ts => (r ts).map fun (_, rest) => ([], rest)

def verbatim (r : TreeReader) : TreeReader := fun ts =>
  (r ts).map fun (_, rest) => (ts.take (ts.length - rest.length), rest)

def fits (r : TreeReader) (ts : List Tree) : Bool := (r ts).isSome

def fitsBehind (count : Nat) (r : TreeReader) (ts : List Tree) : Bool := fits r (ts.drop count)

def wherever (holds : List Tree → Bool) (r : TreeReader) : TreeReader := fun ts =>
  if holds ts then r ts else some ([], ts)

/-- Reads again and again while a condition holds. The bound is on the number of times. -/
def throughout (holds : List Tree → Bool) (r : TreeReader) : Nat → TreeReader
  | 0, _ => none
  | n + 1, ts => if holds ts then andThen r (throughout holds r n) ts else some ([], ts)

def during (holds : List Tree → Bool) (r : TreeReader) : TreeReader := fun ts =>
  if holds ts then throughout holds r (ts.length + 1) ts else some ([], ts)

def toEnd (r : TreeReader) : TreeReader := during (!·.isEmpty) r

def separated (separator item : TreeReader) : TreeReader :=
  toEnd (andThen item fun ts => if ts.isEmpty then some ([], ts) else separator ts)

def listed (item : TreeReader) : TreeReader := separated (mark ',') item

def formless {φ : Type} (r : FormReader φ) : TreeReader := fun ts =>
  (r ts).map fun (found, rest) => (found.2, rest)

def withForm {φ : Type} (form : φ) (r : TreeReader) : FormReader φ := fun ts =>
  (r ts).map fun (read, rest) => ((form, read), rest)

def continued {φ : Type} (first : FormReader φ) (more : φ → TreeReader) : TreeReader := fun ts =>
  match first ts with
  | none => none
  | some ((form, read), ts) => (more form ts).map fun (also, ts) => (read ++ also, ts)

def afterTrees {φ : Type} (before : List Tree) (r : FormReader φ) : FormReader φ := fun ts =>
  (r ts).map fun ((form, read), rest) => ((form, before ++ read), rest)

def reformed {φ ψ : Type} (f : φ → ψ) (r : FormReader φ) : FormReader ψ := fun ts =>
  (r ts).map fun ((form, read), rest) => ((f form, read), rest)

/-- What was read as it stands in the source, where the form says so. -/
def asWritten (r : FormReader Bool) : TreeReader := fun ts =>
  (r ts).map fun ((isVerbatim, read), rest) =>
    (if isVerbatim then ts.take (ts.length - rest.length) else read, rest)

/-! ### Marks of several characters -/

def marksOf : List Char → TreeReader
  | [] => nothing
  | [c] => mark c
  | c :: cs => andThen (joinedMark c) (marksOf cs)

def symbol (s : String) : TreeReader := marksOf s.toList

def pathMark : TreeReader := symbol "::"

def literal : TreeReader := either plainLiteral (andThen (mark '-') number)

end TreeReader

end RowMapper.Declaration
