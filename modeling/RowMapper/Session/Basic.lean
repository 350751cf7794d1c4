import RowMapper.Config
import RowMapper.Cursor
import RowMapper.Hook.Basic
import RowMapper.Operation
import RowMapper.Pool

/-!
A session: the settings, the hook, the pool and the cache of an open connection, the server that it
talks to, and a clock. Waiting is the only thing that takes time. While a call waits the server works;
what it does is noted between the events of the call.
-/
namespace RowMapper

inductive Event where
  | hook (e : HookEvent)
  | trace (e : TraceEvent)
  | wire (w : Wire)
  | finished (callback : Nat)
  deriving DecidableEq, Repr, Inhabited

structure Opened where
  /-- Tells apart one opening from the next. -/
  generation : Nat
  pool : Pool
  cache : Option StatementCache
  database : Option String
  username : Option String
  deriving DecidableEq, Repr, Inhabited

structure Session where
  config : Config
  hook : Option Hook
  opened : Option Opened
  openings : Nat
  server : Server
  now : Instant
  waits : Nat
  /-- Cursors that keep a connection from taking in anything else, each with that connection. -/
  blocked : List (Nat × Nat)
  log : List Event
  deriving Inhabited

/-- The target of trace events that are not about a statement. -/
def traceTarget : String := "pgmap"

namespace Session

def closed (config : Config) (hook : Option Hook) (server : Server) : Session :=
  ⟨config, hook, none, 0, server, 0, 0, [], []⟩

def note (s : Session) (events : List Event) : Session :=
  { s with log := s.log ++ events }

def noteWires (s : Session) (seen : List Wire) : Session :=
  s.note (seen.map .wire)

/-- Puts a pool in place that has no connections yet. -/
def install (s : Session) (max : Nat) (dsn : Dsn) : Session :=
  { s with
    opened := some
      { generation := s.openings
        pool := .empty max
        cache := if s.config.cacheEnabled then some (.empty s.config.cacheCapacity) else none
        database := dsn.database
        username := dsn.username }
    openings := s.openings + 1 }

def ofPool (config : Config) (hook : Option Hook) (server : Server) : Session :=
  (closed config hook server).install config.maxConnections
    ((config.dsn?.bind Dsn.parse?).getD ⟨none, none⟩)

def isOpen (s : Session) : Bool := s.opened.isSome

def describe (s : Session) : String :=
  "Connection \x7b engine: " ++ Text.quoted s.config.engine ++ ", open: " ++
    (if s.isOpen then "true" else "false") ++ ", hook: " ++
    (if s.hook.isSome then "true" else "false") ++ " \x7d"

def pool (s : Session) : Except Error Pool :=
  match s.opened with
  | some o => .ok o.pool
  | none => .error .closed

def cache (s : Session) : Except Error StatementCache :=
  match s.opened with
  | none => .error .closed
  | some o =>
    match o.cache with
    | some c => .ok c
    | none => .error .cacheUnset

def updateOpened (s : Session) (f : Opened → Opened) : Session :=
  { s with opened := s.opened.map f }

def setCache (s : Session) (c : StatementCache) : Session :=
  s.updateOpened fun o => { o with cache := some c }

def setPool (s : Session) (p : Pool) : Session :=
  s.updateOpened fun o => { o with pool := p }

/-- A connection that is no longer needed goes back to the pool that it is from, if that is still in
place. -/
def release (s : Session) (link : Nat) : Session :=
  s.updateOpened fun o => { o with pool := o.pool.giveBack link }

def advance (s : Session) (t : Instant) : Session :=
  let t := max s.now t
  let served := s.server.serve none (some t)
  { s with server := served.server, now := t, waits := s.waits + 1 }.noteWires served.seen

def settle (s : Session) : Session := s.advance s.now

def signalIn (s : Session) (d : Duration) : Signal := .due (s.now + d.nanos) s.waits

def pass (s : Session) (l : Limits) (t : Option Instant) : Except Halt Unit × Session :=
  match l.await s.now t with
  | (u, result) => (result, s.advance u)

/-- Waits for the answer to a request. A limit that is already reached ends the wait before the server
can do anything. -/
def awaitTicket (s : Session) (l : Limits) (ticket : Nat) :
    Except Halt (Except ClientFault Content) × Session :=
  match l.reached? s.now s.waits with
  | some h => (.error h, s)
  | none =>
    let served := s.server.serve (some ticket) (l.first?.map (·.1))
    let s := { s with server := served.server, waits := s.waits + 1 }.noteWires served.seen
    match l.await s.now (served.answer.map (·.time)) with
    | (t, .error h) => (.error h, { s with now := max s.now t })
    | (t, .ok ()) =>
      (.ok (match served.answer with
        | some a => a.content
        | none => .error .disconnected), { s with now := max s.now t })

def stall {α : Type} (s : Session) (l : Limits) : Except Halt α × Session :=
  match s.pass l none with
  | (.error h, s) => (.error h, s)
  | (.ok (), s) => (.error .dropped, s)

/-- Some cursor has to be read or dropped before an answer can come in on a connection. -/
def isBlocked (s : Session) (link : Nat) : Bool := s.blocked.any (·.2 == link)

/-- Sends a request on a connection and waits for the answer. A closed connection refuses at once. -/
def ask (s : Session) (l : Limits) (link : Nat) (job : Job) :
    Except Halt (Except ClientFault Content) × Session :=
  if s.server.isClosed s.now link then (.ok (.error .disconnected), s)
  else
    let (ticket, server) := s.server.send s.now link job
    let s := { s with server := server }
    if s.isBlocked link then s.stall l else s.awaitTicket l ticket

def connect (s : Session) (l : Limits) : Except Halt (Except ClientFault Nat) × Session :=
  let (link, ticket, server) := s.server.connect s.now
  match { s with server := server }.awaitTicket l ticket with
  | (.error h, s) => (.error h, s)
  | (.ok (.error fault), s) => (.ok (.error fault), s)
  | (.ok (.ok _), s) => (.ok (.ok link), s)

def creationFailed (fault : ClientFault) : Error :=
  .pool ("Error occurred while creating a new object: " ++ fault.message)

def checkout (s : Session) (l : Limits) : Except Halt Nat × Session :=
  match s.opened with
  | none => (.error (.error .closed), s)
  | some o =>
    match o.pool.checkout (s.server.isClosed s.now) with
    | (.reuse link, pool) => (.ok link, s.setPool pool)
    | (.full, _) => s.stall l
    | (.connect, pool) =>
      match (s.setPool pool).connect l with
      | (.error h, s) => (.error h, s)
      | (.ok (.error fault), s) => (.error (.error (creationFailed fault)), s)
      | (.ok (.ok link), s) => (.ok link, s.updateOpened fun o =>
          { o with pool := o.pool.takeIn link })

def prepare (s : Session) (l : Limits) (link : Nat) (sql : String) :
    Except Halt (Except ClientFault Prepared) × Session :=
  match s.ask l link (.prepare sql) with
  | (.error h, s) => (.error h, s)
  | (.ok (.ok (.prepared p)), s) => (.ok (.ok p), s)
  | (.ok (.ok _), s) => (.ok (.error .disconnected), s)
  | (.ok (.error fault), s) => (.ok (.error fault), s)

def bindValues (p : Prepared) (values : List Param) :
    Except ClientFault (List (Option (List UInt8))) :=
  if p.params.length = values.length then
    ((p.params.zip values).zipIdx).mapM fun ((wire, v), i) =>
      match v.type.bind wire v.value with
      | .ok raw => .ok raw
      | .error _ => .error (.parameter i)
  else .error (.parameterCount p.params.length values.length)

def run (s : Session) (l : Limits) (link : Nat) (p : Prepared) (values : List Param) :
    Except Halt (Except ClientFault Feed) × Session :=
  match bindValues p values with
  | .error fault => (.ok (.error fault), s)
  | .ok raw =>
    match s.ask l link (.run p raw) with
    | (.error h, s) => (.error h, s)
    | (.ok (.ok (.feed f)), s) => (.ok (.ok f), s)
    | (.ok (.ok _), s) => (.ok (.error .disconnected), s)
    | (.ok (.error fault), s) => (.ok (.error fault), s)

end Session

end RowMapper
