import RowMapper.Session.Call

/-!
Opening and closing a session, transactions, and statements that are prepared for their own sake.
-/
namespace RowMapper

namespace Session

/-- What an opening has settled before it talks to the server. -/
def openingDsn (s : Session) : Except Error Dsn :=
  if s.isOpen then .error .alreadyOpen
  else match s.config.dsn? with
    | none => .error (.configUnset "dsn")
    | some text => do
      let dsn ← Config.parseDsn text
      let _ ← s.config.poolSize
      .ok dsn

def theRow : Reader (Option Row) := fun _ row found =>
  match found with
  | some _ => (found, .error (.query .rowCount))
  | none => (some row, .ok .more)

def replyText (row : Option Row) : Except Error String :=
  match row with
  | none => .error (.query .rowCount)
  | some row =>
    if row.size = 0 then .error (.query (.noColumn 0))
    else match row.scan (.plain .text) 0 with
    | .ok (.text reply) => .ok reply
    | _ => .error (.query (.column 0))

def checkReply (row : Option Row) : Except Error Unit :=
  match replyText row with
  | .error e => .error e
  | .ok reply =>
    if reply = Server.greetingReply then .ok ()
    else .error (.connection ("unexpected sanity check reply " ++ Text.quoted reply))

def readReply (s : Session) (l : Limits) (f : Feed) : Except Halt Unit × Session :=
  let reading := (f.under l s.now s.waits).read theRow Option.none
  let s := s.advance reading.time
  match reading.result with
  | .error h => (.error h, s)
  | .ok () =>
    match checkReply reading.state with
    | .ok () => (.ok (), s)
    | .error e => (.error (.error e), s)

def greet (s : Session) (l : Limits) (link : Nat) : Except Halt Unit × Session :=
  match s.prepare l link Server.greeting with
  | (.error h, s) => (.error h, s)
  | (.ok (.error fault), s) => (.error (.error (.ofFault fault)), s)
  | (.ok (.ok p), s) =>
    match s.run l link p [] with
    | (.error h, s) => (.error h, s)
    | (.ok (.error fault), s) => (.error (.error (.ofFault fault)), s)
    | (.ok (.ok feed), s) => s.readReply l feed

def openedTrace (s : Session) (dsn : Dsn) : TraceEvent :=
  ⟨.info, traceTarget,
    [("database", .text (dsn.database.getD "-")), ("engine", .text s.config.engine),
      ("max_connections", .number s.config.maxConnections), ("message", .text "connection open")]⟩

def installGreeted (s : Session) (dsn : Dsn) (link : Nat) : Session :=
  ((s.note [.trace (s.openedTrace dsn)]).install s.config.maxConnections dsn).updateOpened fun o =>
    { o with pool := (o.pool.takeIn link).giveBack link }

/-- Opens a session: a pool is put in place only after the server has answered. -/
def openPool (s : Session) (l : Limits) : Except Halt Unit × Session :=
  match s.openingDsn with
  | .error e => (.error (.error e), s)
  | .ok dsn =>
    match s.connect l with
    | (.error h, s) => (.error h, s)
    | (.ok (.error fault), s) => (.error (.error (creationFailed fault)), s)
    | (.ok (.ok link), s) =>
      match s.greet l link with
      | (.error h, s) => (.error h, s)
      | (.ok (), s) => (.ok (), s.installGreeted dsn link)

def closedTrace : TraceEvent :=
  ⟨.info, traceTarget, [("message", .text "connection closed")]⟩

/-- Closes a session. Cursors that are still open can be read to their end. -/
def close (s : Session) : Session :=
  match s.opened with
  | none => s
  | some _ => { s with opened := Option.none }.note [.trace closedTrace]

def clearCache (s : Session) : Session :=
  s.updateOpened fun o => { o with cache := o.cache.map StatementCache.close }

def beginTransaction (s : Session) (l : Limits) : Except Halt Nat × Session :=
  match s.connect l with
  | (.error h, s) => (.error h, s)
  | (.ok (.error fault), s) => (.error (.error (.ofFault fault)), s)
  | (.ok (.ok link), s) =>
    match s.ask l link .begin with
    | (.error h, s) => (.error h, s)
    | (.ok (.error fault), s) => (.error (.error (.ofFault fault)), s)
    | (.ok (.ok _), s) => (.ok link, s)

/-- Prepares a statement under a label without running it. Answers whether nothing had to be sent. -/
def prepareOnly (s : Session) (l : Limits) (label sql : String) :
    Except Halt (Bool × Prepared) × Session :=
  match s.checkout l, s.opened with
  | (.error h, s), _ => (.error h, s)
  | (.ok link, s), some ⟨generation, _, some c, _, _⟩ =>
    match s.prepareLabeled l generation c link label sql with
    | (.error h, s) => (.error h, s.release link)
    | (.ok r, s) => (.ok (r.source == .hit, r.statement), s.release link)
  | (.ok link, s), _ => (.error (.error .cacheUnset), s.release link)

def sleep (s : Session) (l : Limits) (d : Duration) : Except Halt Unit × Session :=
  s.pass l (some (s.now + d.nanos))

end Session

end RowMapper
