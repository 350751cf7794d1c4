import RowMapper.Hook.Tally
import RowMapper.Hook.Trace
import RowMapper.Text.Search

/-!
Hooks around statements. A composite runs its hooks in order, each on the texts that the ones before
left, and stops at the first that aborts.
-/
namespace RowMapper

inductive HookEvent where
  | before (name : String) (ctx : Context)
  | after (name : String) (ctx : Context) (outcome : Outcome)
  | trace (event : TraceEvent)
  deriving DecidableEq, Repr, Inhabited

inductive Hook where
  | idle
  /-- Makes every statement known under its name. -/
  | record (name : String)
  /-- Decides by the notes that it has taken of the statements before, and takes notes of this one. -/
  | rule (notes : List String) (decide : List String → Context → Action × List String)
  | stats (counters : Counters)
  | trace (settings : StatementTrace)
  | composite (hooks : List Hook)
  deriving Inhabited

namespace Hook

/-- What a composite answers: only what has changed since it was called. -/
def summary (first last : Context) : Action :=
  if last.execSql = first.execSql ∧ last.canonicalSql = first.canonicalSql then .proceed
  else .modify last.execSql
    (if last.canonicalSql = first.canonicalSql then none else some last.canonicalSql)

mutual
def before (ctx : Context) : Hook → Hook × List HookEvent × Action
  | .idle => (.idle, [], .proceed)
  | .record name => (.record name, [.before name ctx], .proceed)
  | .rule notes decide => (.rule (decide notes ctx).2 decide, [], (decide notes ctx).1)
  | .stats counters => (.stats counters, [], .proceed)
  | .trace settings => (.trace settings, [.trace (settings.before ctx)], .proceed)
  | .composite hooks =>
    match beforeAll ctx hooks with
    | (hooks, events, .ok last) => (.composite hooks, events, summary ctx last)
    | (hooks, events, .error reason) => (.composite hooks, events, .abort reason)

def beforeAll (ctx : Context) : List Hook → List Hook × List HookEvent × Except String Context
  | [] => ([], [], .ok ctx)
  | h :: rest =>
    let (h, events, action) := before ctx h
    match action.apply ctx with
    | .error reason => (h :: rest, events, .error reason)
    | .ok next =>
      let (rest, more, result) := beforeAll next rest
      (h :: rest, events ++ more, result)
end

mutual
def after (ctx : Context) (duration : Duration) (outcome : Outcome) :
    Hook → Hook × List HookEvent
  | .record name => (.record name, [.after name ctx outcome])
  | .stats counters => (.stats (counters.count ctx duration outcome), [])
  | .trace settings => (.trace settings, (settings.after ctx duration outcome).map .trace)
  | .composite hooks =>
    let (hooks, events) := afterAll ctx duration outcome hooks
    (.composite hooks, events)
  | h => (h, [])

def afterAll (ctx : Context) (duration : Duration) (outcome : Outcome) :
    List Hook → List Hook × List HookEvent
  | [] => ([], [])
  | h :: rest =>
    let (h, events) := after ctx duration outcome h
    let (rest, more) := afterAll ctx duration outcome rest
    (h :: rest, events ++ more)
end

mutual
def tallies : Hook → List Tally
  | .stats counters => [counters.tally]
  | .composite hooks => talliesAll hooks
  | _ => []

def talliesAll : List Hook → List Tally
  | [] => []
  | h :: rest => tallies h ++ talliesAll rest
end

mutual
def reset : Hook → Hook
  | .stats _ => .stats .empty
  | .composite hooks => .composite (resetAll hooks)
  | h => h

def resetAll : List Hook → List Hook
  | [] => []
  | h :: rest => reset h :: resetAll rest
end

mutual
/-- The hooks of a tree that are not composites, from left to right. -/
def leaves : Hook → List Hook
  | .composite hooks => leavesAll hooks
  | h => [h]

def leavesAll : List Hook → List Hook
  | [] => []
  | h :: rest => leaves h ++ leavesAll rest
end

def size : Hook → Nat
  | .composite hooks => hooks.length
  | _ => 0

end Hook

inductive Edit where
  | abort (reason : String)
  | append (text : String)
  | appendCanonical (text : String)
  | set (execSql canonicalSql : Option String)
  deriving DecidableEq, Repr, Inhabited

def Edit.action (ctx : Context) : Edit → Action
  | .abort reason => .abort reason
  | .append text => .modify (ctx.execSql ++ text) none
  | .appendCanonical text => .modify ctx.execSql (some (ctx.canonicalSql ++ text))
  | .set execSql canonicalSql => .modify (execSql.getD ctx.execSql) canonicalSql

def Hook.editing (part : String) (e : Edit) : Hook :=
  .rule [] fun notes ctx =>
    (if Text.hasPart part.toList ctx.execSql.toList then e.action ctx else .proceed, notes)

end RowMapper
