import RowMapper.Populate
import RowMapper.Server.Basic

/-!
Reading the rows of a statement. A reader sees the rows one at a time, in order, until it has had
enough or fails; limits may end the rows before that.
-/
namespace RowMapper

inductive Flow where
  | more
  | stop
  deriving DecidableEq, Repr, Inhabited

/-- What becomes of a reader's state with a row of a given number, and whether it goes on. -/
abbrev Reader (σ : Type) := Nat → Row → σ → σ × Except Error Flow

structure Stream where
  rows : List (Instant × Row)
  endAt : Instant
  result : Except Halt Unit
  deriving Inhabited

def Stream.push (row : Instant × Row) (s : Stream) : Stream :=
  { s with rows := row :: s.rows }

def callerResult {α : Type} : Except ClientFault α → Except Halt α
  | .ok a => .ok a
  | .error fault => .error (.error (Error.ofFault fault))

namespace Feed

/-- The wait for the parcel of a row or of the end. Parcels that are taken in already are there even
when a limit has been reached, others are not. -/
def awaitParcel (f : Feed) (l : Limits) (waits number : Nat) (now t : Instant) :
    Instant × Except Halt Unit :=
  match l.reached? now waits with
  | some h => if f.parcel number ≤ room && t ≤ now then (now, .ok ()) else (now, .error h)
  | none => l.await now (some t)

def endUnder (f : Feed) (l : Limits) (waits : Nat) (now : Instant) : Stream :=
  match f.awaitParcel l waits f.rows.length now f.endAt with
  | (t, .ok ()) => ⟨[], t, (callerResult f.result).map fun _ => ()⟩
  | (t, .error h) => ⟨[], t, .error h⟩

def rowsUnder (f : Feed) (l : Limits) (waits : Nat) :
    Nat → Instant → List (Instant × Row) → Stream
  | _, now, [] => f.endUnder l waits now
  | number, now, (t, row) :: rest =>
    match f.awaitParcel l waits number now t with
    | (u, .ok ()) => (f.rowsUnder l waits (number + 1) u rest).push (u, row)
    | (u, .error h) => ⟨[], u, .error h⟩

/-- What a reader that begins at an instant can see within its limits. -/
def under (f : Feed) (l : Limits) (now : Instant) (waits : Nat) : Stream :=
  f.rowsUnder l waits 0 now f.rows

end Feed

structure Reading (σ : Type) where
  state : σ
  seen : Nat
  time : Instant
  result : Except Halt Unit

namespace Stream

variable {σ : Type}

def readFrom (s : Stream) (reader : Reader σ) : Nat → List (Instant × Row) → σ → Reading σ
  | seen, [], state => ⟨state, seen, s.endAt, s.result⟩
  | seen, (t, row) :: rest, state =>
    match reader seen row state with
    | (state, .error e) => ⟨state, seen + 1, t, .error (.error e)⟩
    | (state, .ok .stop) => ⟨state, seen + 1, t, .ok ()⟩
    | (state, .ok .more) => s.readFrom reader (seen + 1) rest state

def read (s : Stream) (reader : Reader σ) (state : σ) : Reading σ :=
  s.readFrom reader 0 s.rows state

end Stream

/-- A consumer or population that broke off counts as failed. -/
def Breakdown.toError : Breakdown → Error
  | .error e => e
  | .panic payload => .ofPanic payload none

namespace Reader

variable {σ : Type}

def peek : Reader Unit := fun _ _ state => (state, .ok .stop)

/-- Does something with the first row; a second one is too many. -/
def single (tooMany : String) (act : Row → σ → σ × Except Breakdown Unit) : Reader σ :=
  fun number row state =>
    if number = 0 then
      match act row state with
      | (state, .ok ()) => (state, .ok .more)
      | (state, .error b) => (state, .error b.toError)
    else (state, .error (.tooManyRows tooMany))

def every (act : Nat → Row → σ → σ × Except Breakdown Unit) : Reader σ :=
  fun number row state =>
    match act number row state with
    | (state, .ok ()) => (state, .ok .more)
    | (state, .error b) => (state, .error b.toError)

def onlyFirst (act : Nat → Row → σ → σ × Except Breakdown Unit) : Reader σ :=
  fun number row state =>
    match act number row state with
    | (state, .ok ()) => (state, .ok .stop)
    | (state, .error b) => (state, .error b.toError)

def scan : Reader (List Target) :=
  single "scan expected at most one row" fun row targets =>
    match scanTargets row 0 targets with
    | (targets, .ok ()) => (targets, .ok ())
    | (targets, .error e) => (targets, .error (.error e))

abbrev Fill := Row → Record → Record × Except Breakdown Unit

def out (typeName : String) (fill : Fill) : Reader Record :=
  single ("expected at most one row for `" ++ typeName ++ "`") fill

/-- Adds a new record for every row; one that cannot be filled is not added. -/
def outMany (fresh : Record) (fill : Fill) : Reader (List Record) :=
  every fun _ row records =>
    match fill row fresh with
    | (r, .ok ()) => (records ++ [r], .ok ())
    | (_, .error b) => (records, .error b)

def collect : Reader (List Row) :=
  every fun _ row rows => (rows ++ [row], .ok ())

end Reader

end RowMapper
