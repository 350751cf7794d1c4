import RowMapper.Proofs.Session.Courses
import RowMapper.Proofs.Session.Invocations

/-!
When the results come that a call waits for. There is an instant for each wait of a stage, and none for a wait
without an end: they are those of the server, of the pool and of the rows, as a call without limits meets them.
-/
namespace RowMapper

/-- When the answer to a request comes, if the server is let work until then. -/
def Server.answerAt? (s : Server) (ticket : Nat) : Option Instant := (s.serve (some ticket) none).answer.map (·.time)

namespace Feed

/-- The wait for a parcel, unless it was taken in already. -/
def parcelWaits (f : Feed) (number : Nat) (now t : Instant) : List (Option Instant) :=
  if f.parcel number ≤ room ∧ t ≤ now then [] else [some t]

/-- The waits for rows from a number on, as far as the reader goes, and for the end if it goes so far. -/
def readingWaits {σ : Type} (f : Feed) (reader : Reader σ) :
    Nat → Instant → Nat → List (Instant × Row) → σ → List (Option Instant)
  | _, now, _, [], _ => f.parcelWaits f.rows.length now f.endAt
  | number, now, seen, (t, row) :: rest, state =>
    f.parcelWaits number now t ++
      match reader seen row state with
      | (state, .ok .more) => f.readingWaits reader (number + 1) (max now t) (seen + 1) rest state
      | _ => []

end Feed

def Begun.within (b : Begun) (l : Limits) : Begun := { b with run.limits := l }

def Cursor.within (c : Cursor) (l : Limits) : Cursor := { c with begun := c.begun.within l }

namespace Session

def thereafter {α β : Type} (y : Except Halt α × Session) (more : α → Session → List β) : List β :=
  match y with
  | (.ok a, t) => more a t
  | (.error _, _) => []

/-- A closed connection answers at once, and one that a cursor blocks does not answer. -/
def askWaits (s : Session) (link : Nat) (job : Job) : List (Option Instant) :=
  if s.server.isClosed s.now link then []
  else if s.isBlocked link then [.none]
  else [(s.server.send s.now link job).2.answerAt? (s.server.send s.now link job).1]

def connectWaits (s : Session) : List (Option Instant) :=
  [(s.server.connect s.now).2.2.answerAt? (s.server.connect s.now).2.1]

/-- A connection that is there is taken at once, and a full pool is waited for in vain. -/
def checkoutWaits (s : Session) : List (Option Instant) :=
  match s.opened with
  | .none => []
  | some o =>
    match o.pool.checkout (s.server.isClosed s.now) with
    | (.reuse _, _) => []
    | (.full, _) => [.none]
    | (.connect, _) => s.connectWaits

/-- A statement is not sent when its label is refused, or when the connection has it. -/
def prepareLabeledWaits (s : Session) (c : StatementCache) (link : Nat) (label sql : String) :
    List (Option Instant) :=
  match c.seek link label sql with
  | (.error _, _) => []
  | (.ok sought, _) => if sought.plan.isSome then [] else s.askWaits link (.prepare sql)

def prepareOnWaits (s : Session) (label : Option String) (link : Nat) (sql : String) : List (Option Instant) :=
  match label, s.cache? with
  | some label, some c => s.prepareLabeledWaits c link label sql
  | _, _ => s.askWaits link (.prepare sql)

def preparePooledWaits (s : Session) (label : Option String) (sql : String) : List (Option Instant) :=
  s.checkoutWaits ++ thereafter (s.checkout .free) fun link t => t.prepareOnWaits label link sql

def readyWaits (s : Session) (c : Call) (label : Option String) (sql : String) : List (Option Instant) :=
  match c.transaction with
  | some link => s.askWaits link (.prepare sql)
  | .none => s.preparePooledWaits label sql

/-- The wait until a statement begins to answer. Values that do not fit are not sent. -/
def runWaits (s : Session) (b : Begun) (values : List Param) : List (Option Instant) :=
  match bindValues b.ready.statement values with
  | .error _ => []
  | .ok raw => s.askWaits b.ready.link (.run b.ready.statement raw)

def passWaits (s : Session) (t : Instant) : List (Option Instant) := if t ≤ s.now then [] else [some t]

/-- The stages of a statement that is ready. Where rows are counted, their end is waited for in the stage in which
the statement is started; where they are read, that is a stage of its own. -/
def useStages (s : Session) (b : Begun) (values : List Param) : Use → List (List (Option Instant))
  | .count => [s.runWaits b values ++
      thereafter (s.runStage (b.within .free) values) fun feed t => t.passWaits feed.endAt]
  | .read reader state => s.runWaits b values ::
      thereafter (s.runStage (b.within .free) values) fun feed t =>
        [feed.readingWaits reader 0 t.now 0 feed.rows state]
  | .drop => [s.runWaits b values]

def beginWithin (s : Session) (c : Call) (usual : Option String) (ctx : Context) (l : Limits) :
    Except Halt Begun × Session :=
  match s.prepareStage c l (c.label <|> usual) ctx.execSql with
  | (.ok ready, t) => (.ok (Begun.within ⟨ready, s.booksWith c ctx ready⟩ l), t)
  | (.error h, t) => (.error h, t.report (α := Unit) (s.booksOf c ctx) (fun _ => .rows 0) (.error h))

/-- The stages of a call that the hook lets pass with some context. -/
def stagesOf (s : Session) (c : Call) (p : Planned) (ctx : Context) : List (List (Option Instant)) :=
  let u := s.afterAsking (s.contextBefore c p)
  u.readyWaits c (c.label <|> p.usual) ctx.execSql ::
    thereafter (u.beginWithin c p.usual ctx .free) fun b t => t.useStages b p.values p.use

end Session

end RowMapper
