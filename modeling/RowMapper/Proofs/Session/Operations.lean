import RowMapper.Session.Records

/-!
The operations on records seen in one way: each is refused, or has nothing to do, or runs the one
statement of its draft and then counts or reads. Nothing else happens on the session.
-/
namespace RowMapper

inductive Operation where
  | get (ids : List Param) (r : Record)
  | getAll (rs : List Record)
  | insert (kind : InsertKind) (r : Record)
  | insertMany (kind : BatchKind) (rs : List Record)
  | update (r : Record)
  | delete (r : Record)
  | contains (r : Record)
  | truncate

inductive Use : Type 1 where
  | count
  | read {σ : Type} (reader : Reader σ) (state : σ)
  | drop

inductive Ending where
  | affected (count : Nat)
  | rows (count : Nat)
  | unread
  | halted (h : Halt)
  deriving DecidableEq, Repr

namespace Operation

/-- The statement of an operation; none when there is nothing to do. -/
def draft? (t : MappedType) : Operation → Except Error (Option Draft)
  | .get ids _ => (t.getDraft ids).map some
  | .getAll _ => t.getAllDraft.map some
  | .insert kind r => (do let _ ← t.mappedColumns; t.insertDraft r (t.insertion r kind)).map some
  | .insertMany kind rs => t.batchDraft kind rs
  | .update r => (t.updateDraft r).map some
  | .delete r => (t.deleteDraft r).map some
  | .contains r => (t.existsDraft r).map some
  | .truncate => .ok (some t.truncateDraft)

def use (t : MappedType) : Operation → Use
  | .get _ r => .read (Reader.out t.typeName (Session.generatedFill t t.selected)) r
  | .getAll rs => .read (Reader.outMany t.newRecord (Session.generatedFill t t.selected)) rs
  | .insert kind r =>
    let returning := (t.insertion r kind).returning
    if returning.isEmpty then .count
    else .read (Reader.out t.typeName (Session.returnedFill t returning)) r
  | .contains _ => .read Reader.peek ()
  | .insertMany _ _ | .update _ | .delete _ | .truncate => .count

end Operation

namespace Session

def carryOut (s : Session) (c : Call) (usual : Option String) (sql : String) (values : List Param) :
    Use → Ending × Session
  | .count =>
    match s.execute c usual sql values with
    | (.ok n, s) => (.affected n, s)
    | (.error h, s) => (.halted h, s)
  | .read reader state =>
    match s.query c usual sql values with
    | (.error h, s) => (.halted h, s)
    | (.ok cursor, s) =>
      match s.consume cursor reader state with
      | ((_, .ok n), s) => (.rows n, s)
      | ((_, .error h), s) => (.halted h, s)
  | .drop =>
    match s.query c usual sql values with
    | (.error h, s) => (.halted h, s)
    | (.ok cursor, s) => (.unread, s.discard cursor)

def perform (s : Session) (c : Call) (t : MappedType) : Operation → Session
  | .get ids r => (s.get c t ids r).2
  | .getAll rs => (s.getAll c t rs).2
  | .insert kind r => (s.insert c t kind r).2
  | .insertMany kind rs => (s.insertMany c t kind rs).2
  | .update r => (s.update c t r).2
  | .delete r => (s.delete c t r).2
  | .contains r => (s.contains c t r).2
  | .truncate => (s.truncate c t).2

theorem carryOut_count (s : Session) (c : Call) (usual : Option String) (sql : String)
    (values : List Param) :
    (s.carryOut c usual sql values .count).2 = (s.execute c usual sql values).2 := by
  simp only [carryOut]
  split <;> rename_i e <;> rw [e]

theorem carryOut_read {σ : Type} (s : Session) (c : Call) (usual : Option String) (sql : String)
    (values : List Param) (reader : Reader σ) (state : σ) :
    (s.carryOut c usual sql values (.read reader state)).2 =
      match s.query c usual sql values with
      | (.error _, s) => s
      | (.ok cursor, s) => (s.consume cursor reader state).2 := by
  simp only [carryOut]
  split
  · rfl
  · split <;> rename_i e <;> rw [e]

/-- Each operation runs its statement and nothing else. -/
theorem perform_eq (s : Session) (c : Call) (t : MappedType) (o : Operation) :
    s.perform c t o =
      match o.draft? t with
      | .error _ | .ok .none => s.finish c.callback
      | .ok (some d) => (s.carryOut c d.label d.statement.render d.values (o.use t)).2 := by
  cases o with
  | get ids r =>
    simp only [perform, get, Operation.draft?, Operation.use]
    cases t.getDraft ids with
    | error e => rfl
    | ok d =>
      simp only [Except.map, carryOut_read, queryDraft]
      cases s.query c d.label d.statement.render d.values with
      | mk result u => cases result <;> rfl
  | getAll rs =>
    simp only [perform, getAll, Operation.draft?, Operation.use]
    cases t.getAllDraft with
    | error e => rfl
    | ok d =>
      simp only [Except.map, carryOut_read, queryDraft]
      cases s.query c d.label d.statement.render d.values with
      | mk result u => cases result <;> rfl
  | insert kind r =>
    simp only [perform, insert, Operation.draft?, Operation.use]
    cases (do let _ ← t.mappedColumns; t.insertDraft r (t.insertion r kind) : Except Error Draft) with
    | error e => rfl
    | ok d =>
      simp only [Except.map, insertDrafted]
      split
      · simp only [carryOut_count, executeDraft]
      · simp only [carryOut_read, queryDraft]
        cases s.query c d.label d.statement.render d.values with
        | mk result u => cases result <;> rfl
  | insertMany kind rs =>
    simp only [perform, insertMany, Operation.draft?, Operation.use]
    cases t.batchDraft kind rs with
    | error e => rfl
    | ok d =>
      cases d with
      | none => rfl
      | some d => simp only [carryOut_count, executeDraft]
  | update r =>
    simp only [perform, update, Operation.draft?, Operation.use]
    cases t.updateDraft r with
    | error e => rfl
    | ok d => simp only [Except.map, carryOut_count, executeDraft]
  | delete r =>
    simp only [perform, delete, Operation.draft?, Operation.use]
    cases t.deleteDraft r with
    | error e => rfl
    | ok d => simp only [Except.map, carryOut_count, executeDraft]
  | contains r =>
    simp only [perform, contains, Operation.draft?, Operation.use]
    cases t.existsDraft r with
    | error e => rfl
    | ok d =>
      simp only [Except.map, carryOut_read, queryDraft]
      cases s.query c d.label d.statement.render d.values with
      | mk result u => cases result <;> rfl
  | truncate =>
    simp only [perform, truncate, Operation.draft?, Operation.use, carryOut_count, executeDraft]

end Session

end RowMapper
