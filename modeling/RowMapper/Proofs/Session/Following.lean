import RowMapper.Proofs.Results
import RowMapper.Proofs.Session.Operations
import RowMapper.Proofs.Session.Waiting

/-!
What follows the beginning of a statement: it is run to its end, or it is started and its rows are left
to a cursor that is read at some later time. Each of these ends with a step of the statement's own and
then with a report.
-/
namespace RowMapper

inductive Errand : Type 1 where
  | execute (values : List Param)
  | start (values : List Param)
  | read {σ : Type} (number : Nat) (feed : Feed) (reader : Reader σ) (state : σ)

namespace Session

def reading {σ : Type} (s : Session) (c : Cursor) (reader : Reader σ) (state : σ) : Reading σ :=
  if c.begun.run.limits.isRefused s.now s.waits then ⟨state, 0, s.now, .error (.error .cancelled)⟩
  else (c.feed.under c.begun.run.limits s.now s.waits).read reader state

def executeReady (s : Session) (b : Begun) (values : List Param) : Except Halt Nat × Session :=
  let (result, s) := s.executeStage b values
  (result, (s.report b.run .affected result).releaseReady b.ready)

def queryReady (s : Session) (b : Begun) (values : List Param) : Except Halt Cursor × Session :=
  match s.runStage b values with
  | (.ok feed, s) => s.openCursor feed b
  | (.error h, s) =>
    (.error h, (s.report (α := Unit) b.run (fun _ => .rows 0) (.error h)).releaseReady b.ready)

theorem execute_eq (s : Session) (c : Call) (usual : Option String) (sql : String)
    (values : List Param) :
    s.execute c usual sql values =
      match s.begin c usual sql values.length with
      | (.error h, s) => (.error h, s)
      | (.ok b, s) => s.executeReady b values := rfl

theorem query_eq (s : Session) (c : Call) (usual : Option String) (sql : String)
    (values : List Param) :
    s.query c usual sql values =
      match s.begin c usual sql values.length with
      | (.error h, s) => (.error h, s)
      | (.ok b, s) => s.queryReady b values := rfl

theorem consume_eq {σ : Type} (s : Session) (c : Cursor) (reader : Reader σ) (state : σ) :
    s.consume c reader state =
      (((s.reading c reader state).state,
          (s.reading c reader state).result.map fun _ => (s.reading c reader state).seen),
        ((((s.unblock c).advance (s.reading c reader state).time).report c.begun.run .rows
          ((s.reading c reader state).result.map fun _ => (s.reading c reader state).seen)).releaseReady
            c.begun.ready)) := rfl

def useReady (s : Session) (b : Begun) (values : List Param) : Use → Ending × Session
  | .count =>
    match s.executeReady b values with
    | (.ok n, s) => (.affected n, s)
    | (.error h, s) => (.halted h, s)
  | .read reader state =>
    match s.queryReady b values with
    | (.error h, s) => (.halted h, s)
    | (.ok cursor, s) =>
      match s.consume cursor reader state with
      | ((_, .ok n), s) => (.rows n, s)
      | ((_, .error h), s) => (.halted h, s)
  | .drop =>
    match s.queryReady b values with
    | (.error h, s) => (.halted h, s)
    | (.ok cursor, s) => (.unread, s.discard cursor)

theorem carryOut_eq (s : Session) (c : Call) (usual : Option String) (sql : String)
    (values : List Param) (use : Use) :
    s.carryOut c usual sql values use =
      match s.begin c usual sql values.length with
      | (.error h, s) => (.halted h, s)
      | (.ok b, s) => s.useReady b values use := by
  cases e : s.begin c usual sql values.length with
  | mk result u => cases result <;> cases use <;> simp only [carryOut, execute_eq, query_eq, e] <;> rfl

/-- The statement's own step, before anything is reported. -/
def stage (s : Session) (b : Begun) : Errand → Except Halt Unit × Session
  | .execute values => ((s.executeStage b values).1.map fun _ => (), (s.executeStage b values).2)
  | .start values => ((s.runStage b values).1.map fun _ => (), (s.runStage b values).2)
  | .read number feed reader state =>
    ((s.reading ⟨number, feed, b⟩ reader state).result,
      (s.unblock ⟨number, feed, b⟩).advance (s.reading ⟨number, feed, b⟩ reader state).time)

def follow (s : Session) (b : Begun) : Errand → Except Halt Unit × Session
  | .execute values => ((s.executeReady b values).1.map fun _ => (), (s.executeReady b values).2)
  | .start values => ((s.queryReady b values).1.map fun _ => (), (s.queryReady b values).2)
  | .read number feed reader state =>
    ((s.consume ⟨number, feed, b⟩ reader state).1.2.map fun _ => (),
      (s.consume ⟨number, feed, b⟩ reader state).2)

theorem waited_stage (s : Session) (b : Begun) (a : Errand) : Waited s (s.stage b a).2 := by
  cases a with
  | execute values => exact waited_executeStage s b values
  | start values => exact waited_runStage s b values
  | read number feed reader state => exact (waited_unblock s _).trans (waited_advance _ _)

theorem report_error {α : Type} (s : Session) (r : Run) (summary : α → Outcome) (h : Halt) :
    s.report r summary (.error h) = s.report (α := Unit) r (fun _ => .rows 0) (.error h) := by
  cases h <;> rfl

theorem follow_of_error {s u : Session} {b : Begun} {a : Errand} {h : Halt}
    (failed : s.stage b a = (.error h, u)) :
    s.follow b a =
      (.error h, (u.report (α := Unit) b.run (fun _ => .rows 0) (.error h)).releaseReady b.ready) := by
  obtain ⟨result, rfl⟩ := Prod.mk.inj failed
  cases a with
  | execute values =>
    have ended := map_eq_error.mp result
    simp only [follow, executeReady, ended, Except.map, report_error]
  | start values =>
    have ended : s.runStage b values = (.error h, (s.runStage b values).2) :=
      Prod.ext (map_eq_error.mp result) rfl
    simp only [follow, queryReady]
    rw [ended]
    simp only [Except.map]
  | read number feed reader state =>
    simp only at result
    simp only [follow, consume_eq, result, Except.map, report_error]

end Session

end RowMapper
