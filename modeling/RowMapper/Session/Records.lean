import RowMapper.Session.Call

/-!
The operations on records, run on a session. Each answers its result and the record, or the list of
records, as it was left; an operation that fails before it begins touches nothing but its callback.
-/
namespace RowMapper

namespace Session

def executeDraft (s : Session) (c : Call) (d : Draft) : Except Halt Nat × Session :=
  s.execute c d.label d.statement.render d.values

def queryDraft (s : Session) (c : Call) (d : Draft) : Except Halt Cursor × Session :=
  s.query c d.label d.statement.render d.values

def refuse {α : Type} (s : Session) (c : Call) (e : Error) : Except Halt α × Session :=
  (.error (.error e), s.finish c.callback)

def generatedFill (t : MappedType) (cs : Columns) : Reader.Fill :=
  fun row r => t.populateGenerated cs row r

def returnedFill (t : MappedType) (cs : Columns) : Reader.Fill :=
  fun row r => MappedType.asBreakdown (t.populateInOrder cs row r)

def readOut (s : Session) (c : Cursor) (typeName : String) (fill : Reader.Fill) (r : Record) :
    (Record × Except Halt Bool) × Session :=
  let ((r, result), s) := s.consume c (Reader.out typeName fill) r
  ((r, result.map (0 < ·)), s)

def get (s : Session) (c : Call) (t : MappedType) (ids : List Param) (r : Record) :
    (Record × Except Halt Bool) × Session :=
  match t.getDraft ids with
  | .error e =>
    let (result, s) := s.refuse c e
    ((r, result), s)
  | .ok d =>
    match s.queryDraft c d with
    | (.error h, s) => ((r, .error h), s)
    | (.ok cursor, s) => s.readOut cursor t.typeName (generatedFill t t.selected) r

def getAll (s : Session) (c : Call) (t : MappedType) (rs : List Record) :
    (List Record × Except Halt Nat) × Session :=
  match t.getAllDraft with
  | .error e =>
    let (result, s) := s.refuse c e
    ((rs, result), s)
  | .ok d =>
    match s.queryDraft c d with
    | (.error h, s) => ((rs, .error h), s)
    | (.ok cursor, s) =>
      s.consume cursor (Reader.outMany t.newRecord (generatedFill t t.selected)) rs

/-- Inserts a record and reads back what was asked for. Answers whether a row was inserted. -/
def insertDrafted (s : Session) (c : Call) (t : MappedType) (i : Insertion) (d : Draft)
    (r : Record) : (Record × Except Halt Bool) × Session :=
  if i.returning.isEmpty then
    let (result, s) := s.executeDraft c d
    ((r, result.map (0 < ·)), s)
  else match s.queryDraft c d with
    | (.error h, s) => ((r, .error h), s)
    | (.ok cursor, s) => s.readOut cursor t.typeName (returnedFill t i.returning) r

def insert (s : Session) (c : Call) (t : MappedType) (kind : InsertKind) (r : Record) :
    (Record × Except Halt Bool) × Session :=
  let drafted : Except Error Draft := do
    let _ ← t.mappedColumns
    t.insertDraft r (t.insertion r kind)
  match drafted with
  | .error e =>
    let (result, s) := s.refuse c e
    ((r, result), s)
  | .ok d => s.insertDrafted c t (t.insertion r kind) d r

def insertMany (s : Session) (c : Call) (t : MappedType) (kind : BatchKind) (rs : List Record) :
    Except Halt Nat × Session :=
  match t.batchDraft kind rs with
  | .error e => s.refuse c e
  | .ok none => (.ok 0, s.finish c.callback)
  | .ok (some d) => s.executeDraft c d

/-- What a call with a count of touched rows says about the one row that it was meant for. -/
def singleRowResult (t : MappedType) (operation : String) : Except Halt Nat → Except Halt Bool
  | .error h => .error h
  | .ok affected =>
    match t.singleRow operation affected with
    | .ok found => .ok found
    | .error e => .error (.error e)

def update (s : Session) (c : Call) (t : MappedType) (r : Record) : Except Halt Bool × Session :=
  match t.updateDraft r with
  | .error e => s.refuse c e
  | .ok d =>
    let (result, s) := s.executeDraft c d
    (singleRowResult t "update" result, s)

def delete (s : Session) (c : Call) (t : MappedType) (r : Record) : Except Halt Bool × Session :=
  match t.deleteDraft r with
  | .error e => s.refuse c e
  | .ok d =>
    let (result, s) := s.executeDraft c d
    (singleRowResult t "delete" result, s)

def any (s : Session) (c : Cursor) : Except Halt Bool × Session :=
  let ((_, result), s) := s.consume c Reader.peek ()
  (result.map (0 < ·), s)

def none (s : Session) (c : Cursor) : Except Halt Bool × Session :=
  let (result, s) := s.any c
  (result.map (!·), s)

def contains (s : Session) (c : Call) (t : MappedType) (r : Record) : Except Halt Bool × Session :=
  match t.existsDraft r with
  | .error e => s.refuse c e
  | .ok d =>
    match s.queryDraft c d with
    | (.error h, s) => (.error h, s)
    | (.ok cursor, s) => s.any cursor

def truncate (s : Session) (c : Call) (t : MappedType) : Except Halt Unit × Session :=
  let (result, s) := s.executeDraft c t.truncateDraft
  (result.map fun _ => (), s)

end Session

end RowMapper
