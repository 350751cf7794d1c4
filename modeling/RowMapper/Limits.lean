import RowMapper.Error

/-!
Limits of a wait. What is there when it is asked for is taken, whatever the limits say. A wait ends
with its result when that comes no later than every limit, and with the first limit otherwise; of
limits at one instant the deadline goes before the signal, and both before the end of patience.
-/
namespace RowMapper

/-- Points on the clock, in nanoseconds. -/
abbrev Instant := Nat

/-- The last one that a clock can show, which counts its seconds with 63 bits. -/
def Instant.last : Instant := Nat.pow 2 63 * 1000000000 - 1

inductive Signal where
  | never
  | already
  /-- At an instant; it was set after so many waits. -/
  | due (t : Instant) (waits : Nat)
  deriving DecidableEq, Repr, Inhabited

/-- Signals fire while everything waits: one that is due at once is first seen after the next wait. -/
def Signal.hasFired (now : Instant) (waits : Nat) : Signal → Bool
  | .never => false
  | .already => true
  | .due t set => t ≤ now && set < waits

inductive Halt where
  | error (e : Error)
  | dropped
  deriving DecidableEq, Repr, Inhabited

structure Limits where
  /-- The end of a timeout, with its length. -/
  deadline : Option (Instant × Duration)
  signal : Option Signal
  /-- When the caller drops the call. -/
  patience : Option Instant
  deriving DecidableEq, Repr, Inhabited

namespace Limits

/-- The limits of a call that begins now. A timeout is to end at an instant that the clock can show: the sum is that
of the program up to `Instant.last`, and past it the program breaks off instead of beginning a call. -/
def ofTimeout (now : Instant) (timeout : Option Duration) (signal : Option Signal)
    (patience : Option Instant) : Limits :=
  ⟨timeout.map fun d => (now + d.nanos, d), signal, patience⟩

def patient (patience : Option Instant) : Limits := ⟨none, none, patience⟩

def deadlineStop (l : Limits) : List (Instant × Halt) :=
  match l.deadline with
  | some (t, d) => [(t, .error (.timeout d))]
  | none => []

def signalStop (l : Limits) : List (Instant × Halt) :=
  match l.signal with
  | some .already => [(0, .error .cancelled)]
  | some (.due t _) => [(t, .error .cancelled)]
  | _ => []

def patienceStop (l : Limits) : List (Instant × Halt) :=
  match l.patience with
  | some t => [(t, .dropped)]
  | none => []

/-- The earliest; the first of equals. -/
def earliest : List (Instant × Halt) → Option (Instant × Halt)
  | [] => none
  | s :: rest =>
    match earliest rest with
    | some r => if r.1 < s.1 then some r else some s
    | none => some s

def first? (l : Limits) : Option (Instant × Halt) :=
  earliest (l.deadlineStop ++ l.signalStop ++ l.patienceStop)

def isRefused (l : Limits) (now : Instant) (waits : Nat) : Bool :=
  match l.signal with
  | some s => s.hasFired now waits
  | none => false

def reached? (l : Limits) (now : Instant) (waits : Nat) : Option Halt :=
  match l.deadlineStop.find? (·.1 ≤ now) with
  | some (_, h) => some h
  | none =>
    if l.isRefused now waits then some (.error .cancelled)
    else (l.patienceStop.find? (·.1 ≤ now)).map (·.2)

/-- How far a wait for something that comes at an instant, or never, gets: when it ends, and what cuts
it short. A wait that nothing ends counts as dropped. -/
def await (l : Limits) (now : Instant) : Option Instant → Instant × Except Halt Unit
  | some t =>
    if t ≤ now then (now, .ok ())
    else match l.first? with
      | none => (t, .ok ())
      | some (stop, h) =>
        if stop ≤ now then (now, .error h)
        else if t ≤ stop then (t, .ok ())
        else (stop, .error h)
  | none =>
    match l.first? with
    | none => (now, .error .dropped)
    | some (stop, h) => (max now stop, .error h)

end Limits

end RowMapper
