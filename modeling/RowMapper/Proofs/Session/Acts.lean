import RowMapper.Proofs.Session.Lockstep
import RowMapper.Proofs.Session.Operations

/-!
What can be done with a session, one thing after the other: operations on records and statements of the
caller's own, in transactions or not, with rows that are read or dropped at some later time; opening and
closing; and giving up labels.
-/
namespace RowMapper

inductive Act : Type 1 where
  | operate (c : Call) (t : MappedType) (o : Operation)
  | execute (c : Call) (sql : String) (values : List Param)
  /-- The rows are left to a cursor, which takes the first place among those that are held. -/
  | query (c : Call) (sql : String) (values : List Param)
  | read {σ : Type} (place : Nat) (reader : Reader σ) (state : σ)
  | drop (place : Nat)
  | beginTransaction (l : Limits)
  | openPool (l : Limits)
  | close
  | invalidate (label : String)
  | clearCache

/-- What the caller gets back: the result, and the objects as they were left. -/
inductive Returned : Type 1 where
  | flag (result : Except Halt Bool)
  | count (result : Except Halt Nat)
  | done (result : Except Halt Unit)
  | record (r : Record) (result : Except Halt Bool)
  | records (rs : List Record) (result : Except Halt Nat)
  | state {σ : Type} (state : σ) (result : Except Halt Nat)
  | nothing

def Returned.halt? : Returned → Option Halt
  | .flag result => haltOf result
  | .count result => haltOf result
  | .done result => haltOf result
  | .record _ result => haltOf result
  | .records _ result => haltOf result
  | .state _ result => haltOf result
  | .nothing => none

structure Play where
  session : Session
  held : List Cursor

namespace Session

def operate (s : Session) (c : Call) (t : MappedType) : Operation → Returned × Session
  | .get ids r =>
    let ((r, result), s) := s.get c t ids r
    (.record r result, s)
  | .getAll rs =>
    let ((rs, result), s) := s.getAll c t rs
    (.records rs result, s)
  | .insert kind r =>
    let ((r, result), s) := s.insert c t kind r
    (.record r result, s)
  | .insertMany kind rs =>
    let (result, s) := s.insertMany c t kind rs
    (.count result, s)
  | .update r =>
    let (result, s) := s.update c t r
    (.flag result, s)
  | .delete r =>
    let (result, s) := s.delete c t r
    (.flag result, s)
  | .contains r =>
    let (result, s) := s.contains c t r
    (.flag result, s)
  | .truncate =>
    let (result, s) := s.truncate c t
    (.done result, s)

def sent? (s : Session) (c : Call) (usual : Option String) (sql : String) (paramCount : Nat) :
    Option String :=
  match s.answered (s.asked c usual sql paramCount) with
  | .ok ctx => some ctx.execSql
  | .error _ => .none

end Session

namespace Act

def sent? (s : Session) : Act → Option String
  | .operate c t o =>
    match o.draft? t with
    | .ok (some d) => s.sent? c d.label d.statement.render d.values.length
    | _ => none
  | .execute c sql values => s.sent? c none sql values.length
  | .query c sql values => s.sent? c none sql values.length
  | .openPool _ => some Server.greeting
  | _ => none

def step (p : Play) : Act → Returned × Play
  | .operate c t o =>
    let (returned, s) := p.session.operate c t o
    (returned, ⟨s, p.held⟩)
  | .execute c sql values =>
    let (result, s) := p.session.execute c none sql values
    (.count result, ⟨s, p.held⟩)
  | .query c sql values =>
    match p.session.query c none sql values with
    | (.ok cursor, s) => (.done (.ok ()), ⟨s, cursor :: p.held⟩)
    | (.error h, s) => (.done (.error h), ⟨s, p.held⟩)
  | .read place reader state =>
    match p.held[place]? with
    | some cursor =>
      let ((state, result), s) := p.session.consume cursor reader state
      (.state state result, ⟨s, p.held.eraseIdx place⟩)
    | none => (.nothing, p)
  | .drop place =>
    match p.held[place]? with
    | some cursor => (.nothing, ⟨p.session.discard cursor, p.held.eraseIdx place⟩)
    | none => (.nothing, p)
  | .beginTransaction l =>
    let (result, s) := p.session.beginTransaction l
    (.count result, ⟨s, p.held⟩)
  | .openPool l =>
    let (result, s) := p.session.openPool l
    (.done result, ⟨s, p.held⟩)
  | .close => (.nothing, ⟨p.session.close, p.held⟩)
  | .invalidate label => (.nothing, ⟨(p.session.invalidate label).2, p.held⟩)
  | .clearCache => (.nothing, ⟨p.session.clearCache, p.held⟩)

/-- Labels that are given are not empty, and nobody drops a call that is under way. -/
def IsProper : Act → Prop
  | .operate c _ _ | .execute c _ _ | .query c _ _ => c.label ≠ some "" ∧ c.patience = none
  | .beginTransaction l | .openPool l => l.patience = none
  | _ => True

end Act

structure Scene : Type 1 where
  returned : Returned
  sent : Option String
  ran : List Ran

def Play.run (p : Play) : List Act → List Scene × Play
  | [] => ([], p)
  | a :: rest =>
    let (returned, q) := a.step p
    let (scenes, last) := q.run rest
    (⟨returned, a.sent? p.session, q.session.ran.drop p.session.ran.length⟩ :: scenes, last)

end RowMapper
