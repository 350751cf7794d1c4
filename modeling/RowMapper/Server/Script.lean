import RowMapper.Duration
import RowMapper.Row
import RowMapper.StatementCache
import RowMapper.Text.Search

/-!
Scripts for a server: rules say, by the text of a statement, how it is prepared and run, the first
time, the second time and so on; what they say last holds from then on.
-/
namespace RowMapper

inductive Setback where
  | refuse (e : ServerError)
  | hangUp
  deriving DecidableEq, Repr, Inhabited

structure StartupStep where
  delay : Duration
  refusal : Option ServerError
  deriving DecidableEq, Repr, Inhabited

structure PrepareStep where
  delay : Duration
  setback : Option Setback
  deriving DecidableEq, Repr, Inhabited

structure RunStep where
  rows : List (List (Option (List UInt8)))
  /-- What the statement reports about itself; left open, it is a selection of the rows. -/
  tag : Option String
  delay : Duration
  rowDelay : Duration
  setback : Option Setback
  /-- The setback comes before the rows. -/
  isEarly : Bool
  deriving DecidableEq, Repr, Inhabited

inductive ParamTypes where
  | fixed (types : List WireType)
  /-- Repeated until every place in the text has one. -/
  | cycle (types : List WireType)
  deriving DecidableEq, Repr, Inhabited

structure Rule where
  text : String
  /-- The text is the whole statement, and not only its beginning. -/
  isExact : Bool
  params : ParamTypes
  columns : List (String × WireType)
  prepares : List PrepareStep
  runs : List RunStep
  deriving DecidableEq, Repr, Inhabited

namespace Rule

def applies (r : Rule) (sql : String) : Bool :=
  if r.isExact then r.text == sql else r.text.toList.isPrefixOf sql.toList

end Rule

/-- The step for a number of earlier times. -/
def stepAt {α : Type} (quiet : α) (steps : List α) (earlier : Nat) : α :=
  match steps[earlier]? with
  | some s => s
  | none => steps.getLast?.getD quiet

def PrepareStep.quiet : PrepareStep := ⟨⟨0⟩, none⟩

def RunStep.quiet : RunStep := ⟨[], none, ⟨0⟩, ⟨0⟩, none, false⟩

def leadingNumber (cs : List Char) : Nat :=
  (cs.takeWhile Char.isDigit).foldl (fun n d => n * 10 + (d.toNat - 48)) 0

/-- The largest number of a place in a text, or the given one if that is larger. -/
def highestPlace (highest : Nat) : List Char → Nat
  | [] => highest
  | c :: rest => highestPlace (if c = '$' then max highest (leadingNumber rest) else highest) rest

def ParamTypes.of (sql : String) : ParamTypes → List WireType
  | .fixed types => types
  | .cycle types =>
    (List.range (highestPlace 0 sql.toList)).filterMap fun i => types[i % types.length]?

def count64? (cs : List Char) : Option Nat :=
  let digits := match cs with
    | '+' :: rest => rest
    | rest => rest
  if digits.isEmpty || !digits.all Char.isDigit then none
  else
    let n := digits.foldl (fun n d => n * 10 + (d.toNat - 48)) 0
    if n < Nat.pow 2 64 then some n else none

/-- The count at the end of a statement's report; none counts as nothing. -/
def affectedCount (tag : String) : Nat :=
  (((Text.splitAt ' ' tag.toList).getLast?).bind count64?).getD 0

def RunStep.report (r : RunStep) : String :=
  r.tag.getD ("SELECT " ++ toString r.rows.length)

end RowMapper
