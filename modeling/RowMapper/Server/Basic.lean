import RowMapper.Limits
import RowMapper.Server.Script

/-!
A server that follows a script. Each of its connections takes up one request at a time, in order, and
is busy until that is answered. A request that nobody waits for any more is carried out all the same.
-/
namespace RowMapper

inductive Job where
  | startup
  | prepare (sql : String)
  | run (statement : Prepared) (values : List (Option (List UInt8)))
  | begin
  deriving DecidableEq, Repr, Inhabited

structure Request where
  ticket : Nat
  sentAt : Instant
  job : Job
  deriving DecidableEq, Repr, Inhabited

structure Feed where
  rows : List (Instant × Row)
  endAt : Instant
  /-- The count that is reported at the end. -/
  result : Except ClientFault Nat
  /-- Every row comes in a parcel of its own, and the end in one more; else one parcel holds all. -/
  isParceled : Bool
  deriving Inhabited

namespace Feed

/-- How many parcels are taken in behind the first one before anybody asks for them. -/
def room : Nat := 2

def parcel (f : Feed) (number : Nat) : Nat := if f.isParceled then number else 0

/-- Nothing else can come in on the connection until the rows are asked for. -/
def isBlocking (f : Feed) : Bool := room < f.parcel f.rows.length

end Feed

inductive Content where
  | ready
  | prepared (p : Prepared)
  | feed (f : Feed)
  deriving Inhabited

structure Answer where
  time : Instant
  content : Except ClientFault Content
  deriving Inhabited

structure Link where
  /-- When the requests taken up so far are done. -/
  freeAt : Instant
  closedAt : Option Instant
  queue : List Request
  deriving Inhabited

inductive Wire where
  | connect (link : Nat)
  | prepare (link : Nat) (sql : String)
  | run (link : Nat) (statement : Prepared) (values : List (Option (List UInt8)))
  | begin (link : Nat)
  deriving DecidableEq, Repr, Inhabited

def Setback.fault : Setback → ClientFault
  | .refuse e => .server e
  | .hangUp => .disconnected

def Setback.isHangUp : Setback → Bool
  | .refuse _ => false
  | .hangUp => true

structure RuleState where
  rule : Rule
  prepares : Nat
  runs : Nat
  deriving DecidableEq, Repr, Inhabited

structure Server where
  rules : List RuleState
  startups : List StartupStep
  links : List Link
  tickets : Nat
  deriving Inhabited

namespace Server

def ofScript (rules : List Rule) (startups : List StartupStep) : Server :=
  ⟨rules.map fun r => ⟨r, 0, 0⟩, startups, [], 0⟩

def greeting : String := "select 'ok!'"

def greetingReply : String := "ok!"

/-- The rule for the greeting where the script has none. -/
def greetingRule : Rule :=
  { text := greeting, isExact := true, params := .fixed [], columns := [("?column?", .text)]
    prepares := []
    runs := [{ RunStep.quiet with rows := [[some (Text.Utf8.encode greetingReply)]] }] }

def unknownText : ServerError := ⟨"42601", "syntax error", none⟩

/-- Changes the first rule for a text. -/
def countUse (sql : String) (use : RuleState → RuleState) : List RuleState → List RuleState
  | [] => []
  | s :: rest => if s.rule.applies sql then use s :: rest else s :: countUse sql use rest

def ruleFor? (s : Server) (sql : String) : Option RuleState :=
  s.rules.find? (·.rule.applies sql)

def ruleOrGreeting? (s : Server) (sql : String) : Option RuleState :=
  match s.ruleFor? sql with
  | some r => some r
  | none => if sql = greeting then some ⟨greetingRule, 0, 0⟩ else none

def isClosed (s : Server) (now : Instant) (link : Nat) : Bool :=
  match s.links[link - 1]? with
  | some l =>
    match l.closedAt with
    | some t => t ≤ now
    | none => false
  | none => true

def updateLink (s : Server) (link : Nat) (f : Link → Link) : Server :=
  { s with links := s.links.modify (link - 1) f }

def send (s : Server) (now : Instant) (link : Nat) (job : Job) : Nat × Server :=
  let request : Request := ⟨s.tickets, now, job⟩
  (s.tickets, { s with tickets := s.tickets + 1 }.updateLink link fun l =>
    { l with queue := l.queue ++ [request] })

/-- Begins a new connection: its number and the ticket of its startup. -/
def connect (s : Server) (now : Instant) : Nat × Nat × Server :=
  let number := s.links.length + 1
  let grown : Server := { s with links := s.links ++ [⟨now, none, []⟩] }
  let (ticket, s) := grown.send now number .startup
  (number, ticket, s)

/-- What a request comes to: the answer, when the connection is free again, and whether the server
hangs up then. -/
structure Carried where
  answer : Answer
  freeAt : Instant
  hangsUp : Bool
  deriving Inhabited

def Carried.failed (time : Instant) (setback : Setback) : Carried :=
  ⟨⟨time, .error setback.fault⟩, time, setback.isHangUp⟩

def rowOf (columns : List (String × WireType)) (cells : List (Option (List UInt8))) : Row :=
  ⟨.server, (columns.zip cells).map fun (c, raw) => ⟨some c.1, c.2, raw⟩⟩

def feedFrom (time : Instant) (columns : List (String × WireType)) (r : RunStep) : Feed :=
  { rows := r.rows.zipIdx.map fun (cells, i) =>
      (time + i * r.rowDelay.nanos, rowOf columns cells)
    endAt := time + r.rows.length * r.rowDelay.nanos
    result := match r.setback with
      | some setback => .error setback.fault
      | none => .ok (affectedCount r.report)
    isParceled := 0 < r.rowDelay.nanos }

/-- Carries out a run that begins at an instant. A setback that does not come before the rows comes after
them, and the connection may be lost with it. -/
def carryRun (start : Instant) (columns : List (String × WireType)) (r : RunStep) : Carried :=
  let time := start + r.delay.nanos
  let whole (hangsUp : Bool) : Carried :=
    let feed := feedFrom time columns r
    ⟨⟨time, .ok (.feed feed)⟩, feed.endAt, hangsUp⟩
  match r.setback with
  | some setback => if r.isEarly then .failed time setback else whole setback.isHangUp
  | none => whole false

def carryPrepare (start : Instant) (sql : String) (r : Rule) (p : PrepareStep) : Carried :=
  let time := start + p.delay.nanos
  match p.setback with
  | some setback => .failed time setback
  | none => ⟨⟨time, .ok (.prepared ⟨sql, r.params.of sql, r.columns⟩)⟩, time, false⟩

def carry (s : Server) (link : Nat) (start : Instant) : Job → Carried × Wire × Server
  | .startup =>
    let step := s.startups[link - 1]?.getD ⟨⟨0⟩, none⟩
    let time := start + step.delay.nanos
    let carried : Carried := match step.refusal with
      | some e => ⟨⟨time, .error (.server e)⟩, time, true⟩
      | none => ⟨⟨time, .ok .ready⟩, time, false⟩
    (carried, .connect link, s)
  | .prepare sql =>
    let carried := match s.ruleOrGreeting? sql with
      | some r => carryPrepare start sql r.rule (stepAt .quiet r.rule.prepares r.prepares)
      | none => .failed start (.refuse unknownText)
    (carried, .prepare link sql,
      { s with rules := countUse sql (fun r => { r with prepares := r.prepares + 1 }) s.rules })
  | .run p values =>
    let carried := match s.ruleOrGreeting? p.sql with
      | some r => carryRun start p.columns (stepAt .quiet r.rule.runs r.runs)
      | none => .failed start (.refuse unknownText)
    (carried, .run link p values,
      { s with rules := countUse p.sql (fun r => { r with runs := r.runs + 1 }) s.rules })
  | .begin => (⟨⟨start, .ok .ready⟩, start, false⟩, .begin link, s)

def Link.next? (l : Link) : Option Instant :=
  match l.queue with
  | r :: _ => some (max r.sentAt l.freeAt)
  | [] => none

/-- The number of the connection that takes up a request first, counted from a given one on. -/
def soonest : Nat → List Link → Option (Instant × Nat)
  | _, [] => none
  | number, l :: rest =>
    match Link.next? l, soonest (number + 1) rest with
    | some t, some (u, n) => if u < t then some (u, n) else some (t, number)
    | some t, none => some (t, number)
    | none, later => later

structure TakenUp where
  ticket : Nat
  answer : Answer
  seen : List Wire
  deriving Inhabited

/-- A connection takes up its next request at an instant. After it was closed all it does is to
refuse. -/
def takeUp (s : Server) (link : Nat) (start : Instant) : Option (TakenUp × Server) :=
  match s.links[link - 1]? with
  | none => none
  | some l =>
    match l.queue with
    | [] => none
    | r :: rest =>
      let s := s.updateLink link fun l => { l with queue := rest }
      if l.closedAt.isSome then some (⟨r.ticket, ⟨start, .error .disconnected⟩, []⟩, s)
      else
        let (carried, seen, s) := s.carry link start r.job
        let s := s.updateLink link fun l =>
          { l with
            freeAt := carried.freeAt
            closedAt := if carried.hangsUp then some carried.freeAt else none }
        some (⟨r.ticket, carried.answer, [seen]⟩, s)

def pending (s : Server) : Nat :=
  s.links.foldl (fun n l => n + l.queue.length) 0

/-- What a server did up to some instant, and the answer that was waited for, if it is known. -/
structure Served where
  answer : Option Answer
  seen : List Wire
  server : Server
  deriving Inhabited

/-- The instant up to which to go on: to the answer once it is known, but never past the limit. -/
def horizon (limit : Option Instant) (answer : Option Answer) : Option Instant :=
  match limit, answer with
  | some t, some a => some (min t a.time)
  | some t, none => some t
  | none, some a => some a.time
  | none, none => none

def isPast (horizon : Option Instant) (t : Instant) : Bool :=
  match horizon with
  | some h => h < t
  | none => false

/-- Lets the server work, one request for each unit of fuel. -/
def serveFrom (ticket : Option Nat) (limit : Option Instant) : Nat → Served → Served
  | 0, done => done
  | fuel + 1, done =>
    match soonest 1 done.server.links with
    | none => done
    | some (t, link) =>
      if isPast (horizon limit done.answer) t then done
      else match done.server.takeUp link t with
        | none => done
        | some (taken, server) =>
          let answer := if ticket = some taken.ticket then some taken.answer else done.answer
          serveFrom ticket limit fuel ⟨answer, done.seen ++ taken.seen, server⟩

def serve (s : Server) (ticket : Option Nat) (limit : Option Instant) : Served :=
  serveFrom ticket limit s.pending ⟨none, [], s⟩

end Server

end RowMapper
