import RowMapper.Proofs.Session.Abiding
import RowMapper.Proofs.Session.Outcomes
import RowMapper.Proofs.Session.Terminals

/-!
What a timeout bounds. Every wait of a call ends at its deadline at the latest. A deadline that is over does
not keep a reader from what is there already: it finds the rows that were taken in before it came, and the
timeout behind them.
-/
namespace RowMapper

open Limits (Within)

namespace Session

variable {σ : Type} {c : Call}

theorem within_connect (l : Limits) (s : Session) : l.Within s.now (s.connect l).2.now := by
  have h := (abides_awaitTicket l { s with server := (s.server.connect s.now).2.2 }
    (s.server.connect s.now).2.1).time
  simp only [connect]
  split <;> rename_i e <;> rw [e] at h <;> exact h

theorem within_checkout (l : Limits) (s : Session) : l.Within s.now (s.checkout l).2.now := by
  simp only [checkout]
  split
  · exact .refl l s.now
  · split
    · exact .refl l s.now
    · exact (abides_stall l s).time
    · rename_i pool _
      have h := within_connect l (s.setPool pool)
      split <;> rename_i e <;> rw [e] at h <;> exact h

theorem within_preparePooled (l : Limits) (s : Session) (label : Option String) (sql : String) :
    l.Within s.now (s.preparePooled l label sql).2.now := by
  have taken := within_checkout l s
  rw [preparePooled_eq]
  split <;> rename_i e <;> rw [e] at taken
  · exact taken
  · rename_i link u
    have prepared := taken.trans (abides_prepareOn l u label link sql).time
    simp only [unlessReady]
    split <;> rename_i e' <;> rw [e'] at prepared <;> exact prepared

theorem within_prepareStage (l : Limits) (s : Session) (c : Call) (label : Option String) (sql : String) :
    l.Within s.now (s.prepareStage c l label sql).2.now := by
  simp only [prepareStage]
  split
  · exact .refl l s.now
  · split
    · exact (abides_prepareFresh l s _ false .transaction sql).time
    · exact within_preparePooled l s label sql

theorem within_begin (s : Session) (c : Call) (usual : Option String) (sql : String) (n : Nat) :
    (s.limitsOf c).Within s.now (s.begin c usual sql n).2.now := by
  have begun := begin_begins s c usual sql n
  generalize s.begin c usual sql n = x at begun
  have asked {y : Except String Context} {u : Session}
      (e : s.askHook (s.asked c usual sql n) = (y, u)) : u.now = s.now := by
    rw [askHook_eq] at e
    exact (Prod.mk.inj e).2 ▸ rfl
  cases begun with
  | closed => exact .refl _ s.now
  | aborted _ e => exact (asked e).symm ▸ .refl (s.limitsOf c) s.now
  | @failed ctx u v h _ e e' =>
    have staged := within_prepareStage (s.limitsOf c) u c (c.label <|> usual) ctx.execSql
    rw [e', asked e] at staged
    exact staged.trans (abides_report _ v _ _ _).time
  | @ready ctx u v ready _ e e' =>
    have staged := within_prepareStage (s.limitsOf c) u c (c.label <|> usual) ctx.execSql
    rwa [e', asked e] at staged

theorem within_executeReady (s : Session) (b : Begun) (values : List Param) :
    b.run.limits.Within s.now (s.executeReady b values).2.now := by
  simp only [executeReady, now_releaseReady]
  exact ((abides_executeStage s b values).trans (abides_report _ _ _ _ _)).time

theorem within_queryReady (s : Session) (b : Begun) (values : List Param) :
    b.run.limits.Within s.now (s.queryReady b values).2.now := by
  have started := abides_runStage s b values
  simp only [queryReady]
  split <;> rename_i e <;> rw [e] at started
  · exact (started.trans (abides_openCursor _ _ _ _)).time
  · simp only [now_releaseReady]
    exact (started.trans (abides_report _ _ _ _ _)).time

theorem within_consume (s : Session) (cursor : Cursor) (reader : Reader σ) (state : σ) :
    cursor.begun.run.limits.Within s.now (s.consume cursor reader state).2.now := by
  simp only [consume_snd, now_releaseReady]
  exact (abides_read s cursor reader state).time

theorem within_execute (s : Session) (c : Call) (usual : Option String) (sql : String)
    (values : List Param) : (s.limitsOf c).Within s.now (s.execute c usual sql values).2.now := by
  have begun := within_begin s c usual sql values.length
  simp only [execute_eq]
  split <;> rename_i e <;> rw [e] at begun
  · exact begun
  · rename_i b u
    exact begun.trans (limits_of_begin e ▸ within_executeReady u b values)

theorem within_query (s : Session) (c : Call) (usual : Option String) (sql : String)
    (values : List Param) : (s.limitsOf c).Within s.now (s.query c usual sql values).2.now := by
  have begun := within_begin s c usual sql values.length
  simp only [query_eq]
  split <;> rename_i e <;> rw [e] at begun
  · exact begun
  · rename_i b u
    exact begun.trans (limits_of_begin e ▸ within_queryReady u b values)

theorem within_account (s : Session) (c : Call) (usual : Option String) (sql : String)
    (values : List Param) (a : Account) :
    (s.limitsOf c).Within s.now (s.account c usual sql values a).2.now := by
  have queried := within_query s c usual sql values
  cases a with
  | count give => exact within_execute s c usual sql values
  | read reader state give =>
    simp only [account, readAll]
    split <;> rename_i e <;> rw [e] at queried
    · exact queried
    · rename_i cursor u
      exact queried.trans (limits_of_query e ▸ within_consume u cursor reader state)
  | drop give =>
    simp only [account, dropAll]
    split <;> rename_i e <;> rw [e] at queried
    · exact queried
    · rename_i cursor u
      rwa [now_discard]

theorem within_operate (s : Session) (c : Call) (t : MappedType) (o : Operation) :
    (s.limitsOf c).Within s.now (s.operate c t o).2.now := by
  have ended : (s.limitsOf c).Within s.now (s.finish c.callback).now := .refl _ s.now
  cases drafted : o.draft? t with
  | error e =>
    rw [(operate_refused drafted s c).2]
    exact ended
  | ok draft =>
    cases draft with
    | none =>
      rw [operate_idle drafted]
      exact ended
    | some d =>
      obtain ⟨a, -, -, accounts⟩ := operate_account drafted
      rw [accounts]
      exact within_account s c d.label d.statement.render d.values a

theorem within_outcome (s : Session) (c : Call) (i : Invocation) :
    (s.limitsOf c).Within s.now (s.outcome c i).2.now := by
  cases i with
  | record t o => exact within_operate s c t o
  | statement sql values use => exact within_account s c Option.none sql values (.plain use)

end Session

namespace Feed

def isTakenIn (f : Feed) (now : Instant) (number : Nat) (t : Instant) : Bool :=
  f.parcel number ≤ room && t ≤ now

/-- The rows from a given one on that are taken in already, and the timeout behind them unless that is the
end. -/
def takenInFrom (f : Feed) (now : Instant) (d : Duration) (number : Nat) (rows : List (Instant × Row)) :
    Stream :=
  let there := (rows.zipIdx number).takeWhile fun (row, number) => f.isTakenIn now number row.1
  ⟨there.map fun (row, _) => (now, row.2), now,
    if there.length = rows.length ∧ f.isTakenIn now f.rows.length f.endAt then
      (callerResult f.result).map fun _ => ()
    else .error (.error (.timeout d))⟩

def takenIn (f : Feed) (now : Instant) (d : Duration) : Stream := f.takenInFrom now d 0 f.rows

variable {l : Limits} {stop now : Nat} {d : Duration}

theorem awaitParcel_late (f : Feed) (timed : l.deadline = some (stop, d)) (late : stop ≤ now)
    (waits number : Nat) (t : Instant) :
    f.awaitParcel l waits number now t =
      (now, if f.isTakenIn now number t then .ok () else .error (.error (.timeout d))) := by
  have reached : l.reached? now waits = some (.error (.timeout d)) := by
    simp [Limits.reached?, Limits.deadlineStop, timed, late]
  cases there : f.isTakenIn now number t <;> rw [isTakenIn] at there <;>
    simp only [awaitParcel, reached, there] <;> rfl

theorem rowsUnder_late (f : Feed) (timed : l.deadline = some (stop, d)) (late : stop ≤ now)
    (waits number : Nat) (rows : List (Instant × Row)) :
    f.rowsUnder l waits number now rows = f.takenInFrom now d number rows := by
  induction rows generalizing number with
  | nil =>
    simp only [rowsUnder, endUnder, f.awaitParcel_late timed late, takenInFrom]
    cases f.isTakenIn now f.rows.length f.endAt <;> rfl
  | cons first rest ih =>
    obtain ⟨t, row⟩ := first
    simp only [rowsUnder, f.awaitParcel_late timed late]
    cases there : f.isTakenIn now number t with
    | true =>
      simp only [if_true, ih, takenInFrom, Stream.push, List.zipIdx_cons, List.takeWhile_cons, there,
        List.map_cons, List.length_cons, Nat.add_right_cancel_iff]
    | false =>
      simp [takenInFrom, there]

end Feed

theorem Stream.seen_le {σ : Type} (s : Stream) (reader : Reader σ) (seen : Nat)
    (rows : List (Instant × Row)) (state : σ) :
    (s.readFrom reader seen rows state).seen ≤ seen + rows.length := by
  induction rows generalizing seen state with
  | nil => exact Nat.le_refl seen
  | cons first rest ih =>
    obtain ⟨t, row⟩ := first
    simp only [readFrom, List.length_cons]
    split
    · simp only
      omega
    · simp only
      omega
    · have more := ih (seen + 1) ‹_›
      omega

namespace Session

variable {s : Session} {c : Call} {d : Duration}

theorem deadline_of_timeout (timed : s.timeoutOf c.timeout = some d) :
    (s.limitsOf c).deadline = some (s.now + d.nanos, d) := by
  have limits := deadline_timed s c c.timeout c.signal
  rwa [timed] at limits

variable {σ : Type} {v w : Session} {cursor : Cursor} {stop : Nat} {reader : Reader σ} {state : σ}
  {read : σ × Except Halt Nat}

theorem consume_late (timed : cursor.begun.run.limits.deadline = some (stop, d))
    (consumed : v.consume cursor reader state = (read, w)) (late : stop ≤ v.now) :
    w.now = v.now ∧
      read = if cursor.begun.run.limits.isRefused v.now v.waits then (state, .error (.error .cancelled))
        else toCaller ((cursor.feed.takenIn v.now d).read reader state).gist := by
  have within := within_consume v cursor reader state
  have came := consume_fst v cursor reader state
  rw [consumed] at within came
  refine ⟨Nat.le_antisymm (Nat.max_eq_left late ▸ within.deadline stop d timed) within.later, ?_⟩
  rw [show read = _ from came, incoming]
  split
  · rfl
  · rw [Feed.under, cursor.feed.rowsUnder_late timed late, Feed.takenIn]

/-- What succeeds after the deadline was begun after it, and reads what was taken in. -/
theorem late_of_success (timed : cursor.begun.run.limits.deadline = some (stop, d))
    (consumed : v.consume cursor reader state = (read, w)) (n : Nat) (fine : read.2 = .ok n)
    (after : stop < w.now) : stop < v.now ∧ n ≤ (cursor.feed.takenIn v.now d).rows.length := by
  have within := within_consume v cursor reader state
  rw [consumed] at within
  have late : stop < v.now := by
    by_contra before
    exact Nat.not_lt.mpr (within.timed timed (Nat.le_of_not_lt before)) after
  refine ⟨late, ?_⟩
  obtain ⟨-, came⟩ := consume_late timed consumed (Nat.le_of_lt late)
  rw [came] at fine
  split at fine
  · cases fine
  · obtain ⟨-, -, seen⟩ := map_eq_ok.mp fine
    have few := (cursor.feed.takenIn v.now d).seen_le reader 0 (cursor.feed.takenIn v.now d).rows state
    rw [Nat.zero_add] at few
    exact seen ▸ few

/-- Whatever a call with a timeout waits for, the wait is over by its deadline, and so is a reading of its
rows that begins before. A reading that begins after the deadline waits for nothing: unless it is cancelled,
it comes to what a reader makes of the rows that were taken in before anybody asked for them, with the timeout
behind them. So it is only of such rows that anything can succeed after the deadline. -/
theorem timeout_bounds_waits (timed : s.timeoutOf c.timeout = some d) :
    (∀ i, (s.outcome c i).2.now ≤ s.now + d.nanos) ∧
    ∀ usual sql values, (s.query c usual sql values).2.now ≤ s.now + d.nanos ∧
      ∀ cursor u, s.query c usual sql values = (.ok cursor, u) →
        ∀ (σ : Type) (v : Session) (patience : Option Instant) (reader : Reader σ) (state : σ) read w,
          v.consume (cursor.withPatience patience) reader state = (read, w) →
            (v.now ≤ s.now + d.nanos → w.now ≤ s.now + d.nanos) ∧
            (s.now + d.nanos ≤ v.now → w.now = v.now ∧
              read = if cursor.begun.run.limits.isRefused v.now v.waits then
                  (state, .error (.error .cancelled))
                else toCaller ((cursor.feed.takenIn v.now d).read reader state).gist) ∧
            ∀ n, read.2 = .ok n → s.now + d.nanos < w.now →
              s.now + d.nanos < v.now ∧ n ≤ (cursor.feed.takenIn v.now d).rows.length := by
  have deadline := deadline_of_timeout timed
  have early : s.now ≤ s.now + d.nanos := Nat.le_add_right _ _
  refine ⟨fun i => (within_outcome s c i).timed deadline early, fun usual sql values =>
    ⟨(within_query s c usual sql values).timed deadline early, ?_⟩⟩
  intro cursor u e σ v patience reader state read w consumed
  have held : (cursor.withPatience patience).begun.run.limits.deadline = some (s.now + d.nanos, d) := by
    have same : (cursor.withPatience patience).begun.run.limits.deadline =
        cursor.begun.run.limits.deadline := rfl
    rw [same, limits_of_query e, deadline]
  have inTime := (within_consume v (cursor.withPatience patience) reader state).timed held
  rw [consumed] at inTime
  have late := consume_late held consumed
  have success := late_of_success held consumed
  exact ⟨inTime, late, success⟩

def trickling : Session :=
  .ofPool Config.initial Option.none (.ofScript [selection
    [{ RunStep.quiet with rows := [[.none], [.none], [.none], [.none]], rowDelay := ⟨5⟩ }]] [])

def counting : Reader Nat := Reader.every fun _ _ n => (n + 1, .ok ())

/-- A reader that comes late finds the three rows that there was room for, and then the timeout. -/
theorem timeout_bounds_waits_trickling :
    ∃ cursor u v, trickling.query (Call.plain.withTimeout ⟨50⟩) Option.none "SELECT 1" [] = (.ok cursor, u) ∧
      u.now ≤ 50 ∧ v = (u.sleep (.patient Option.none) ⟨100⟩).2 ∧
        (v.consume (cursor.withPatience Option.none) counting 0).1 = (3, .error (.error (.timeout ⟨50⟩))) := by
  obtain ⟨-, queried⟩ := timeout_bounds_waits (s := trickling) (c := Call.plain.withTimeout ⟨50⟩) (d := ⟨50⟩) rfl
  obtain ⟨inTime, reads⟩ := queried Option.none "SELECT 1" []
  obtain ⟨cursor, u, v, begun, slept, now, unrefused, rows⟩ : ∃ cursor u v,
      trickling.query (Call.plain.withTimeout ⟨50⟩) Option.none "SELECT 1" [] = (.ok cursor, u) ∧
        v = (u.sleep (.patient Option.none) ⟨100⟩).2 ∧ v.now = 100 ∧
        cursor.begun.run.limits.isRefused 100 v.waits = false ∧
        toCaller ((cursor.feed.takenIn 100 ⟨50⟩).read counting 0).gist =
          (3, .error (.error (.timeout ⟨50⟩))) :=
    ⟨_, _, _, rfl, rfl, rfl, rfl, rfl⟩
  obtain ⟨-, read, -⟩ := reads cursor u begun Nat v Option.none counting 0
    (v.consume (cursor.withPatience Option.none) counting 0).1 _ rfl
  have late : trickling.now + 50 ≤ v.now := now ▸ by decide
  have came := (read late).2
  rw [now, unrefused, if_neg Bool.false_ne_true, rows] at came
  rw [begun] at inTime
  exact ⟨cursor, u, v, begun, inTime, slept, came⟩

def prompt : Session :=
  .ofPool Config.initial Option.none (.ofScript [selection
    [{ RunStep.quiet with rows := [[.none]] }]] [])

/-- A row is read, and nothing fails, long after the deadline of its call. -/
theorem rows_read_after_deadline :
    ∃ cursor u v read t, prompt.query (Call.plain.withTimeout ⟨50⟩) Option.none "SELECT 1" [] = (.ok cursor, u) ∧
      v = (u.sleep (.patient Option.none) ⟨100⟩).2 ∧
      v.consume cursor Reader.collect [] = ((read, .ok 1), t) ∧ prompt.now + 50 < t.now :=
  ⟨_, _, _, _, _, rfl, rfl, rfl, by decide⟩

end Session

end RowMapper
