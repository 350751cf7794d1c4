import RowMapper.Session.Basic

/-!
A call on a session: a statement from the hook to its report. The hook sees the statement before it is
prepared and hears how it ended; a callback runs at the very end, whatever happened.
-/
namespace RowMapper

structure Call where
  transaction : Option Nat
  /-- A label in place of the usual one. -/
  label : Option String
  timeout : Option Duration
  signal : Option Signal
  patience : Option Instant
  callback : Option Nat
  deriving DecidableEq, Repr, Inhabited

namespace Call

def plain : Call := ⟨none, none, none, none, none, none⟩

def withLabel (c : Call) (label : String) : Call := { c with label := some label }

def withTimeout (c : Call) (d : Duration) : Call := { c with timeout := some d }

def withSignal (c : Call) (s : Signal) : Call := { c with signal := some s }

/-- Sets the callback. One that was set before runs at once. -/
def onFinish (c : Call) (callback : Nat) : List Event × Call :=
  (c.callback.toList.map .finished, { c with callback := some callback })

end Call

inductive Source where
  | transaction
  | hit
  | miss
  | bypass
  deriving DecidableEq, Repr, Inhabited

def Source.name : Source → String
  | .transaction => "tx"
  | .hit => "hit"
  | .miss => "miss"
  | .bypass => "bypass"

/-- The books of a call between its beginning and its report. -/
structure Run where
  context : Context
  startedAt : Instant
  limits : Limits
  /-- The opening and the label under which the statement was prepared. -/
  cached : Option (Nat × String)
  callback : Option Nat
  deriving DecidableEq, Repr, Inhabited

structure Ready where
  link : Nat
  isPooled : Bool
  statement : Prepared
  source : Source
  cached : Option (Nat × String)
  deriving DecidableEq, Repr, Inhabited

structure Begun where
  ready : Ready
  run : Run
  deriving DecidableEq, Repr, Inhabited

/-- The rows of a call that nobody has read yet. -/
structure Cursor where
  number : Nat
  feed : Feed
  begun : Begun
  deriving Inhabited

def Cursor.withPatience (c : Cursor) (patience : Option Instant) : Cursor :=
  { c with begun.run.limits.patience := patience }

namespace Session

def finish (s : Session) (callback : Option Nat) : Session :=
  s.note (callback.toList.map .finished)

def complete (s : Session) (r : Run) (outcome : Outcome) : Session :=
  match s.hook with
  | none => s.finish r.callback
  | some h =>
    let (h, events) := h.after r.context ⟨s.now - r.startedAt⟩ outcome
    ({ s with hook := some h }.note (events.map .hook)).finish r.callback

def invalidatedTrace (label : String) : TraceEvent :=
  ⟨.debug, traceTarget,
    [("label", .text label), ("message", .text "invalidated cached statement")]⟩

def invalidate (s : Session) (label : String) : Bool × Session :=
  match s.cache with
  | .error _ => (false, s)
  | .ok c =>
    let (was, c) := c.invalidate label
    (was, (s.setCache c).note (if was then [.trace (invalidatedTrace label)] else []))

/-- Drops what a failure has shown to be stale. -/
def dropStale (s : Session) (cached : Option (Nat × String)) (e : Error) : Session :=
  match cached with
  | none => s
  | some (generation, label) =>
    if e.isStalePlan && (s.opened.map (·.generation)) == some generation then
      (s.invalidate label).2
    else s

def failureOutcome : Error → Outcome
  | .timeout d => .failed ("timeout after " ++ d.text)
  | e => .ofReason e.message

def fail (s : Session) (r : Run) (e : Error) : Session :=
  (s.dropStale r.cached e).complete r (failureOutcome e)

def report {α : Type} (s : Session) (r : Run) (summary : α → Outcome) :
    Except Halt α → Session
  | .ok a => s.complete r (summary a)
  | .error (.error e) => s.fail r e
  | .error .dropped => s.finish r.callback

def releaseReady (s : Session) (r : Ready) : Session :=
  if r.isPooled then s.release r.link else s

def prepareFresh (s : Session) (l : Limits) (link : Nat) (isPooled : Bool) (source : Source)
    (sql : String) : Except Halt Ready × Session :=
  match s.prepare l link sql with
  | (.error h, s) => (.error h, s)
  | (.ok r, s) =>
    ((callerResult r).map fun p => ⟨link, isPooled, p, source, none⟩, s)

/-- Prepares a statement by its label: one that the connection has is not sent again. -/
def prepareLabeled (s : Session) (l : Limits) (generation : Nat) (c : StatementCache) (link : Nat)
    (label sql : String) : Except Halt Ready × Session :=
  match c.seek link label sql with
  | (.error e, c) => (.error (.error e), s.setCache c)
  | (.ok sought, c) =>
    let ready := fun (kept : StatementCache) (p : Prepared) =>
      (⟨link, true, p, if sought.reportsHit link c kept then .hit else .miss,
        some (generation, label)⟩ : Ready)
    match sought.plan with
    | some p => (.ok (ready c p), s.setCache c)
    | none =>
      match (s.setCache c).prepare l link sql with
      | (.error h, s) => (.error h, s)
      | (.ok r, s) =>
        let kept := c.settle link label sought r
        ((callerResult r).map (ready kept), s.setCache kept)

/-- Prepares a statement on a connection from the pool, which goes back there if that fails. -/
def preparePooled (s : Session) (l : Limits) (label : Option String) (sql : String) :
    Except Halt Ready × Session :=
  match s.checkout l with
  | (.error h, s) => (.error h, s)
  | (.ok link, s) =>
    let prepared := match label, s.opened with
      | some label, some o =>
        match o.cache with
        | some c => s.prepareLabeled l o.generation c link label sql
        | none => s.prepareFresh l link true .bypass sql
      | _, _ => s.prepareFresh l link true .bypass sql
    match prepared with
    | (.ok ready, s) => (.ok ready, s)
    | (.error h, s) => (.error h, s.release link)

def askHook (s : Session) (ctx : Context) : Except String Context × Session :=
  match s.hook with
  | none => (.ok ctx, s)
  | some h =>
    let (h, events, action) := h.before ctx
    (action.apply ctx, { s with hook := some h }.note (events.map .hook))

def contextOf (s : Session) (label : Option String) (sql : String) (paramCount : Nat) : Context :=
  { Context.ofSql sql paramCount s.config.engine with
    label := label
    database := s.opened.bind (·.database)
    username := s.opened.bind (·.username) }

def limitsOf (s : Session) (c : Call) : Limits :=
  .ofTimeout s.now (c.timeout <|> s.config.queryTimeout) c.signal c.patience

def prepareStage (s : Session) (c : Call) (l : Limits) (label : Option String) (sql : String) :
    Except Halt Ready × Session :=
  if l.isRefused s.now s.waits then (.error (.error .cancelled), s)
  else match c.transaction with
    | some link => s.prepareFresh l link false .transaction sql
    | none => s.preparePooled l label sql

/-- The key of a context under which the source of its statement stands. -/
def Ready.mark (r : Ready) (ctx : Context) : Context :=
  ctx.addField Tally.sourceKey r.source.name

def begin (s : Session) (c : Call) (usual : Option String) (sql : String) (paramCount : Nat) :
    Except Halt Begun × Session :=
  if c.transaction.isNone && !s.isOpen then (.error (.error .closed), s.finish c.callback)
  else
    let label := c.label <|> usual
    let l := s.limitsOf c
    match s.askHook (s.contextOf label sql paramCount) with
    | (.error reason, s) =>
      (.error (.error (.validation ("query aborted by hook: " ++ reason))), s.finish c.callback)
    | (.ok ctx, s) =>
      let startedAt := s.now
      match s.prepareStage c l label ctx.execSql with
      | (.ok ready, s) =>
        (.ok ⟨ready, ⟨Ready.mark ready ctx, startedAt, l, ready.cached, c.callback⟩⟩, s)
      | (.error h, s) =>
        (.error h, s.report (α := Unit) ⟨ctx, startedAt, l, none, c.callback⟩ (fun _ => .rows 0)
          (.error h))

def runStage (s : Session) (b : Begun) (values : List Param) : Except Halt Feed × Session :=
  if b.run.limits.isRefused s.now s.waits then (.error (.error .cancelled), s)
  else match s.run b.run.limits b.ready.link b.ready.statement values with
    | (.error h, s) => (.error h, s)
    | (.ok r, s) => (callerResult r, s)

def executeStage (s : Session) (b : Begun) (values : List Param) : Except Halt Nat × Session :=
  match s.runStage b values with
  | (.error h, s) => (.error h, s)
  | (.ok feed, s) =>
    match s.pass b.run.limits (some feed.endAt) with
    | (.error h, s) => (.error h, s)
    | (.ok (), s) => (callerResult feed.result, s)

def execute (s : Session) (c : Call) (usual : Option String) (sql : String)
    (values : List Param) : Except Halt Nat × Session :=
  match s.begin c usual sql values.length with
  | (.error h, s) => (.error h, s)
  | (.ok b, s) =>
    let (result, s) := s.executeStage b values
    (result, (s.report b.run .affected result).releaseReady b.ready)

def openCursor (s : Session) (f : Feed) (b : Begun) : Except Halt Cursor × Session :=
  let number := s.server.tickets
  (.ok ⟨number, f, b⟩, if f.isBlocking
    then { s with blocked := (number, b.ready.link) :: s.blocked } else s)

/-- A cursor that is read or dropped is in nobody's way any more. -/
def unblock (s : Session) (c : Cursor) : Session :=
  { s with blocked := s.blocked.filter (·.1 != c.number) }

def query (s : Session) (c : Call) (usual : Option String) (sql : String)
    (values : List Param) : Except Halt Cursor × Session :=
  match s.begin c usual sql values.length with
  | (.error h, s) => (.error h, s)
  | (.ok b, s) =>
    match s.runStage b values with
    | (.ok feed, s) => s.openCursor feed b
    | (.error h, s) =>
      (.error h, (s.report (α := Unit) b.run (fun _ => .rows 0) (.error h)).releaseReady b.ready)

def consume {σ : Type} (s : Session) (c : Cursor) (reader : Reader σ) (state : σ) :
    (σ × Except Halt Nat) × Session :=
  let l := c.begun.run.limits
  let reading : Reading σ :=
    if l.isRefused s.now s.waits then ⟨state, 0, s.now, .error (.error .cancelled)⟩
    else (c.feed.under l s.now s.waits).read reader state
  let result := reading.result.map fun _ => reading.seen
  let s := (s.unblock c).advance reading.time
  ((reading.state, result), (s.report c.begun.run .rows result).releaseReady c.begun.ready)

/-- Drops a cursor unread: the hook hears nothing. -/
def discard (s : Session) (c : Cursor) : Session :=
  ((s.unblock c).finish c.begun.run.callback).releaseReady c.begun.ready

end Session

end RowMapper
