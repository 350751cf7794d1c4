import RowMapper.Error
import RowMapper.Labels
import RowMapper.Text.LowerCase
import RowMapper.Text.Search
import RowMapper.Value

/-!
Prepared statements by label. A label stands for one text. The plans themselves belong to the
connections that prepared them; when a label loses its text, all plans of that text go.
-/
namespace RowMapper

structure Prepared where
  sql : String
  params : List WireType
  columns : List (String × WireType)
  deriving DecidableEq, Repr, Inhabited

structure Plan where
  link : Nat
  prepared : Prepared
  deriving DecidableEq, Repr, Inhabited

structure StatementCache where
  labels : Labels String
  plans : List Plan
  deriving DecidableEq, Repr, Inhabited

namespace StatementCache

def empty (capacity : Option Nat) : StatementCache := ⟨.empty capacity, []⟩

def forget (c : StatementCache) (sql : String) : StatementCache :=
  { c with plans := c.plans.filter (·.prepared.sql != sql) }

def forgetAll (c : StatementCache) (texts : List String) : StatementCache :=
  texts.foldl forget c

def plan? (c : StatementCache) (link : Nat) (sql : String) : Option Prepared :=
  (c.plans.find? fun p => p.link == link && p.prepared.sql == sql).map (·.prepared)

/-- Binds a label to a text. Answers whether it was bound to that text before. -/
def bind (c : StatementCache) (label sql : String) : Bool × StatementCache :=
  match c.labels.get label with
  | (some bound, labels) =>
    if bound = sql then (true, { c with labels := labels })
    else
      let ((_, evicted), labels) := (labels.remove label).2.insertNew label sql
      (false, { c with labels := labels }.forgetAll (bound :: evicted))
  | (none, labels) =>
    let ((_, evicted), labels) := labels.insertNew label sql
    (false, { c with labels := labels }.forgetAll evicted)

structure Sought where
  bound : Bool
  /-- The plan of the text on the connection; none has to be prepared first. -/
  plan : Option Prepared
  deriving DecidableEq, Repr, Inhabited

/-- The statement comes from the label and the connection alone. -/
def Sought.isHit (s : Sought) : Bool := s.bound && s.plan.isSome

def held (c : StatementCache) (link : Nat) : Nat := (c.plans.filter (·.link == link)).length

/-- How a hit is told from a miss at the end of a call: the label was bound, and the connection keeps as many plans
as it did when the statement was asked for. -/
def Sought.reportsHit (s : Sought) (link : Nat) (before after : StatementCache) : Bool :=
  s.bound && after.held link == before.held link

def seek (c : StatementCache) (link : Nat) (label sql : String) :
    Except Error Sought × StatementCache :=
  if label.isEmpty then (.error .labelUnset, c)
  else
    let (bound, c) := c.bind label sql
    (.ok ⟨bound, c.plan? link sql⟩, c)

/-- Ends a call that had to prepare: the connection keeps the plan, or a label that was bound by the
call itself is given up. -/
def settle (c : StatementCache) (link : Nat) (label : String) (sought : Sought) :
    Except ClientFault Prepared → StatementCache
  | .ok p => { c with plans := c.plans ++ [⟨link, p⟩] }
  | .error _ => if sought.bound then c else { c with labels := (c.labels.remove label).2 }

/-- Gives up a label together with the plans of its text. Answers whether it was bound. -/
def invalidate (c : StatementCache) (label : String) : Bool × StatementCache :=
  match c.labels.remove label with
  | (some sql, labels) => (true, { c with labels := labels }.forget sql)
  | (none, labels) => (false, { c with labels := labels })

def hasLabel (c : StatementCache) (label : String) : Bool := c.labels.has label

def size (c : StatementCache) : Nat := c.labels.size

def close (c : StatementCache) : StatementCache :=
  ⟨c.labels.clear, []⟩

end StatementCache

def staleText : String := "cached plan must not change result type"

def Error.isStalePlan : Error → Bool
  | .query (.server e) =>
    e.code == "26000" ||
      (e.code == "0A000" && Text.hasPart staleText.toList (Text.lowerAscii e.message.toList))
  | _ => false

end RowMapper
