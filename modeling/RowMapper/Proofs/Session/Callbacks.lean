import RowMapper.Proofs.Session.Beginning
import RowMapper.Proofs.Session.Following
import RowMapper.Proofs.Session.Operations

/-!
The callbacks of a call: what the hook is told before a statement and after it, and the callback at the
end. Each part of a call makes its own callbacks; put together they are those of the whole call.
-/
namespace RowMapper

inductive Callback where
  | before (ctx : Context)
  | after (ctx : Context) (duration : Duration) (outcome : Outcome)
  | finish (callback : Nat)
  deriving DecidableEq, Repr

def tell : Option Hook → Callback → Option Hook × List Event
  | h, .finish n => (h, [.finished n])
  | none, _ => (none, [])
  | some h, .before ctx => (some (h.before ctx).1, (h.before ctx).2.1.map .hook)
  | some h, .after ctx d o => (some (h.after ctx d o).1, (h.after ctx d o).2.map .hook)

def tellAll (h : Option Hook) : List Callback → Option Hook × List Event
  | [] => (h, [])
  | c :: rest => ((tellAll (tell h c).1 rest).1, (tell h c).2 ++ (tellAll (tell h c).1 rest).2)

theorem tellAll_append (h : Option Hook) (cs ds : List Callback) :
    tellAll h (cs ++ ds) =
      ((tellAll (tellAll h cs).1 ds).1, (tellAll h cs).2 ++ (tellAll (tellAll h cs).1 ds).2) := by
  induction cs generalizing h with
  | nil => simp [tellAll]
  | cons c rest ih => simp [tellAll, ih]

def Event.isCallback : Event → Bool
  | .hook _ | .finished _ => true
  | .trace _ | .wire _ => false

/-- What is reported of a failure; a call that was dropped reports nothing. -/
def Halt.outcome? : Halt → Option Outcome
  | .error e => some (Session.failureOutcome e)
  | .dropped => none

def Ending.outcome? : Ending → Option Outcome
  | .affected n => some (.affected n)
  | .rows n => some (.rows n)
  | .unread => none
  | .halted h => h.outcome?

namespace Session

def heard (s : Session) : List Event := s.log.filter Event.isCallback

/-- From one session to another there were these callbacks, in this order, and no others. -/
structure Told (calls : List Callback) (s t : Session) : Prop where
  hook : t.hook = (tellAll s.hook calls).1
  heard : t.heard = s.heard ++ (tellAll s.hook calls).2

variable {s t u : Session}

theorem Told.none_of (hook : t.hook = s.hook) (heard : t.heard = s.heard) : Told [] s t :=
  ⟨hook, by rw [heard]; simp [tellAll]⟩

theorem Told.append {cs ds : List Callback} (h : Told cs s t) (k : Told ds t u) :
    Told (cs ++ ds) s u := by
  refine ⟨?_, ?_⟩
  · rw [tellAll_append, k.hook, h.hook]
  · rw [tellAll_append, k.heard, h.heard, h.hook, List.append_assoc]

theorem Told.quietly {cs : List Callback} (h : Told cs s t) (k : Told [] t u) : Told cs s u := by
  have := h.append k
  rwa [List.append_nil] at this

theorem Waited.told (h : Waited s t) : Told [] s t := by
  obtain ⟨seen, log⟩ := h.log
  refine .none_of h.hook ?_
  have silent : (seen.map Event.wire).filter Event.isCallback = [] := by
    simp [List.filter_eq_nil_iff, Event.isCallback]
  rw [heard, log, List.filter_append, silent, List.append_nil]
  rfl

theorem told_setCache (s : Session) (c : StatementCache) : Told [] s (s.setCache c) :=
  .none_of rfl rfl

theorem told_invalidate (s : Session) (label : String) : Told [] s (s.invalidate label).2 := by
  simp only [invalidate]
  split
  · exact .none_of rfl rfl
  · refine .none_of rfl ?_
    rw [heard, note, List.filter_append]
    split <;> simp [Event.isCallback, heard, setCache, updateOpened]

theorem told_dropStale (s : Session) (cached : Option (Nat × String)) (e : Error) :
    Told [] s (s.dropStale cached e) := by
  simp only [dropStale]
  split
  · exact .none_of rfl rfl
  · split
    · exact told_invalidate s _
    · exact .none_of rfl rfl

def ends (callback : Option Nat) : List Callback := callback.toList.map .finish

theorem told_finish (s : Session) (callback : Option Nat) :
    Told (ends callback) s (s.finish callback) := by
  cases callback with
  | none => exact .none_of rfl (by simp [heard, finish, note])
  | some n =>
    refine ⟨rfl, ?_⟩
    simp [heard, finish, note, ends, tellAll, tell, Event.isCallback]

theorem told_complete (s : Session) (r : Run) (outcome : Outcome) :
    Told (.after r.context ⟨s.now - r.startedAt⟩ outcome :: ends r.callback) s
      (s.complete r outcome) := by
  cases h : s.hook with
  | none =>
    have ended := told_finish s r.callback
    have silent : Told [.after r.context ⟨s.now - r.startedAt⟩ outcome] s s :=
      ⟨by simp [tellAll, tell, h], by simp [tellAll, tell, h]⟩
    simp only [complete, h]
    exact silent.append ended
  | some hook =>
    have told : Told [.after r.context ⟨s.now - r.startedAt⟩ outcome] s
        ({ s with hook := some (hook.after r.context ⟨s.now - r.startedAt⟩ outcome).1 }.note
          ((hook.after r.context ⟨s.now - r.startedAt⟩ outcome).2.map .hook)) := by
      refine ⟨by simp [tellAll, tell, h, note], ?_⟩
      rw [h, heard, note, List.filter_append]
      simp [tellAll, tell, heard, Event.isCallback]
    simp only [complete, h]
    exact told.append (told_finish _ r.callback)

theorem told_askHook (s : Session) (ctx : Context) : Told [.before ctx] s (s.askHook ctx).2 := by
  rw [askHook_eq]
  cases h : s.hook with
  | none =>
    exact ⟨by simp [afterAsking, tellAll, tell, h, note],
      by simp [afterAsking, tellAll, tell, h, note, heardBefore, heard]⟩
  | some hook =>
    refine ⟨by simp [afterAsking, tellAll, tell, h, note], ?_⟩
    simp [afterAsking, tellAll, tell, h, note, heardBefore, heard, Event.isCallback]

def outcomeOf {α : Type} (summary : α → Outcome) : Except Halt α → Option Outcome
  | .ok a => some (summary a)
  | .error h => h.outcome?

def reports (ctx : Context) (d : Duration) (outcome : Option Outcome) (callback : Option Nat) :
    List Callback :=
  (outcome.toList.map fun o => .after ctx d o) ++ ends callback

theorem told_report {α : Type} (s : Session) (r : Run) (summary : α → Outcome)
    (result : Except Halt α) :
    ∃ d, Told (reports r.context d (outcomeOf summary result) r.callback) s
      (s.report r summary result) := by
  cases result with
  | ok a => exact ⟨_, told_complete s r (summary a)⟩
  | error h =>
    cases h with
    | error e => exact ⟨_, (told_dropStale s r.cached e).append (told_complete _ r _)⟩
    | dropped => exact ⟨⟨0⟩, told_finish s r.callback⟩

theorem told_stages {pooled : Bool} {label : Option String} {sql : String}
    {result : Except Halt Ready × Session} (p : Stages s pooled label sql result) :
    Told [] s result.2 := by
  cases p with
  | waited w _ => exact w.told
  | labeled _ w _ _ p back =>
    refine w.told.quietly (Told.quietly ?_ back.told)
    cases p with
    | unlabeled _ => exact told_setCache _ _
    | reused _ _ => exact told_setCache _ _
    | halted _ _ w => exact (told_setCache _ _).quietly w.told
    | refused _ _ w => exact ((told_setCache _ _).quietly w.told).quietly (told_setCache _ _)
    | prepared _ _ w _ => exact ((told_setCache _ _).quietly w.told).quietly (told_setCache _ _)

def answered (s : Session) (ctx : Context) : Except String Context := (s.answer ctx).apply ctx

/-- The context after a statement is that before it with the hook's changes; the source of the statement
stands in it once it is prepared. -/
def contextAfter (ctx : Context) : Except Halt Begun → Context
  | .ok b => Ready.mark b.ready ctx
  | .error _ => ctx

def callbacks (s : Session) (c : Call) (ctx : Context) (begun : Except Halt Begun) (d : Duration)
    (outcome : Option Outcome) : List Callback :=
  if s.lacksConnection c then ends c.callback
  else match s.answered ctx with
    | .error _ => .before ctx :: ends c.callback
    | .ok changed => .before ctx :: reports (contextAfter changed begun) d outcome c.callback

/-- A statement that cannot be begun has all its callbacks in the beginning, the others have told the
hook only that they begin. -/
theorem told_begin (s : Session) (c : Call) (usual : Option String) (sql : String) (n : Nat) :
    match s.begin c usual sql n with
    | (.error h, t) => ∃ d, Told (s.callbacks c (s.asked c usual sql n) (.error h) d
        h.outcome?) s t
    | (.ok b, t) => s.lacksConnection c = false ∧ Told [.before (s.asked c usual sql n)] s t ∧
        b.run.callback = c.callback ∧
        ∃ changed, s.answered (s.asked c usual sql n) = .ok changed ∧
          b.run.context = contextAfter changed (.ok b) := by
  have p := begin_begins s c usual sql n
  have asking := told_askHook s (s.asked c usual sql n)
  have answer : s.answered (s.asked c usual sql n) = (s.askHook (s.asked c usual sql n)).1 := by
    rw [askHook_eq]
    rfl
  split <;> rename_i h _ e <;> rw [e] at p
  · cases p with
    | closed lacks =>
      refine ⟨⟨0⟩, ?_⟩
      rw [callbacks, if_pos lacks]
      exact told_finish s c.callback
    | aborted connected asked =>
      rw [asked] at asking answer
      refine ⟨⟨0⟩, ?_⟩
      rw [callbacks, connected, answer]
      exact asking.append (told_finish _ c.callback)
    | @failed ctx u v _ connected asked staged =>
      rw [asked] at asking answer
      have prepared := told_stages (prepareStage_stages u c (s.limitsOf c) (c.label <|> usual) ctx.execSql)
      rw [staged] at prepared
      obtain ⟨d, reported⟩ := told_report (α := Unit) v (u.booksOf c ctx) (fun _ => .rows 0) (.error h)
      refine ⟨d, ?_⟩
      rw [callbacks, connected, answer]
      exact (asking.quietly prepared).append reported
  · cases p with
    | @ready ctx u _ ready connected asked staged =>
      rw [asked] at asking answer
      have prepared := told_stages (prepareStage_stages u c (s.limitsOf c) (c.label <|> usual) ctx.execSql)
      rw [staged] at prepared
      exact ⟨connected, asking.quietly prepared, rfl, ctx, answer, rfl⟩

theorem told_executeReady (s : Session) (b : Begun) (values : List Param) :
    ∃ d, Told (reports b.run.context d (outcomeOf .affected (s.executeReady b values).1)
      b.run.callback) s (s.executeReady b values).2 := by
  have ran := (waited_executeStage s b values).told
  obtain ⟨d, reported⟩ := told_report (s.executeStage b values).2 b.run .affected
    (s.executeStage b values).1
  exact ⟨d, (ran.append reported).quietly (waited_releaseReady _ b.ready).told⟩

theorem told_queryReady (s : Session) (b : Begun) (values : List Param) :
    match s.queryReady b values with
    | (.error h, t) => ∃ d, Told (reports b.run.context d h.outcome? b.run.callback) s t
    | (.ok cursor, t) => cursor.begun = b ∧ Told [] s t := by
  have ran := (waited_runStage s b values).told
  simp only [queryReady]
  cases e : s.runStage b values with
  | mk result u =>
    rw [e] at ran
    cases result with
    | ok feed => exact ⟨rfl, ran.quietly (waited_openCursor u feed b).told⟩
    | error h =>
      obtain ⟨d, reported⟩ := told_report (α := Unit) u b.run (fun _ => .rows 0) (.error h)
      exact ⟨d, (ran.append reported).quietly (waited_releaseReady _ b.ready).told⟩

theorem told_consume {σ : Type} (s : Session) (c : Cursor) (reader : Reader σ) (state : σ) :
    ∃ d, Told (reports c.begun.run.context d (outcomeOf .rows (s.consume c reader state).1.2)
      c.begun.run.callback) s (s.consume c reader state).2 := by
  rw [consume_eq]
  have read := ((waited_unblock s c).trans
    (waited_advance _ (s.reading c reader state).time)).told
  obtain ⟨d, reported⟩ := told_report ((s.unblock c).advance (s.reading c reader state).time)
    c.begun.run .rows ((s.reading c reader state).result.map fun _ => (s.reading c reader state).seen)
  exact ⟨d, (read.append reported).quietly (waited_releaseReady _ c.begun.ready).told⟩

theorem told_discard (s : Session) (c : Cursor) :
    Told (ends c.begun.run.callback) s (s.discard c) :=
  ((waited_unblock s c).told.append (told_finish _ _)).quietly
    (waited_releaseReady _ c.begun.ready).told

theorem told_useReady (s : Session) (b : Begun) (values : List Param) (use : Use) :
    ∃ d, Told (reports b.run.context d (s.useReady b values use).1.outcome? b.run.callback) s
      (s.useReady b values use).2 := by
  cases use with
  | count =>
    obtain ⟨d, reported⟩ := told_executeReady s b values
    refine ⟨d, ?_⟩
    simp only [useReady]
    cases e : s.executeReady b values with
    | mk result u =>
      rw [e] at reported
      cases result <;> exact reported
  | read reader state =>
    have started := told_queryReady s b values
    simp only [useReady]
    cases e : s.queryReady b values with
    | mk result u =>
      rw [e] at started
      cases result with
      | error h => exact started
      | ok cursor =>
        -- An open cursor has reported nothing yet; reading its rows does.
        obtain ⟨rfl, quiet⟩ := started
        obtain ⟨d, reported⟩ := told_consume u cursor reader state
        refine ⟨d, ?_⟩
        simp only
        cases e' : u.consume cursor reader state with
        | mk found v =>
          rw [e'] at reported
          obtain ⟨last, result⟩ := found
          cases result <;> exact quiet.append reported
  | drop =>
    have started := told_queryReady s b values
    simp only [useReady]
    cases e : s.queryReady b values with
    | mk result u =>
      rw [e] at started
      cases result with
      | error h => exact started
      | ok cursor =>
        obtain ⟨rfl, quiet⟩ := started
        exact ⟨⟨0⟩, quiet.append (told_discard u cursor)⟩

theorem told_carryOut (s : Session) (c : Call) (usual : Option String) (sql : String)
    (values : List Param) (use : Use) :
    ∃ d, Told (s.callbacks c (s.asked c usual sql values.length)
        (s.begin c usual sql values.length).1 d (s.carryOut c usual sql values use).1.outcome?) s
      (s.carryOut c usual sql values use).2 := by
  have begun := told_begin s c usual sql values.length
  rw [carryOut_eq]
  cases e : s.begin c usual sql values.length with
  | mk result u =>
    rw [e] at begun
    cases result with
    | error h => exact begun
    | ok b =>
      obtain ⟨connected, told, callback, changed, answer, context⟩ := begun
      obtain ⟨d, reported⟩ := told_useReady u b values use
      refine ⟨d, ?_⟩
      rw [callbacks, connected, answer]
      rw [context, callback] at reported
      exact told.append reported

end Session

end RowMapper
