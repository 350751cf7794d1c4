import RowMapper.Proofs.Session.Invocations

/-!
The callbacks of a chain of settings. A call has one place for the callback at its end: a further one
takes that place, and the one that stood there runs at once. So each callback runs exactly once, the last
one as the very last event of the call, and the others while the call is still being set up.
-/
namespace RowMapper

inductive Setting where
  | onFinish (callback : Nat)
  | label (label : String)
  | timeout (d : Duration)
  | signal (s : Signal)
  deriving DecidableEq, Repr

namespace Setting

def passed? : Setting → Option Nat
  | .onFinish n => some n
  | _ => none

def passed (chain : List Setting) : List Nat := chain.filterMap passed?

end Setting

namespace Call

/-- A call with nothing set, in a transaction or not. When its caller drops it is not a setting. -/
def fresh (transaction : Option Nat) (patience : Option Instant) : Call :=
  { plain with transaction := transaction, patience := patience }

def set (c : Call) : Setting → List Event × Call
  | .onFinish n => c.onFinish n
  | .label label => ([], c.withLabel label)
  | .timeout d => ([], c.withTimeout d)
  | .signal s => ([], c.withSignal s)

end Call

def finishes (events : List Event) : List Nat :=
  events.filterMap fun
    | .finished n => some n
    | _ => none

@[simp] theorem finishes_append (xs ys : List Event) :
    finishes (xs ++ ys) = finishes xs ++ finishes ys :=
  List.filterMap_append

@[simp] theorem finishes_finished (ns : List Nat) : finishes (ns.map .finished) = ns := by
  rw [finishes, List.filterMap_map]
  exact List.filterMap_some

@[simp] theorem finishes_wire (seen : List Wire) : finishes (seen.map .wire) = [] := by
  simp [finishes]

@[simp] theorem finishes_hook (events : List HookEvent) : finishes (events.map .hook) = [] := by
  simp [finishes]

namespace Session

inductive Exit : Type 1 where
  | unused
  | invoked (i : Invocation)

def leave (s : Session) (c : Call) : Exit → Session
  | .unused => s.finish c.callback
  | .invoked i => s.invoke c i

def build (s : Session) (c : Call) : List Setting → Call × Session
  | [] => (c, s)
  | x :: rest => (s.note (c.set x).1).build (c.set x).2 rest

def Unfinished (s t : Session) : Prop :=
  ∃ during, t.log = s.log ++ during ∧ finishes during = []

/-- From one session to another the callback ran, and no other; it is the last that happened. -/
def FinishedBy (callback : Option Nat) (s t : Session) : Prop :=
  ∃ during, t.log = s.log ++ during ++ callback.toList.map .finished ∧ finishes during = []

variable {s t u : Session} {callback : Option Nat}

theorem Unfinished.of_log (h : t.log = s.log) : Unfinished s t := ⟨[], by simp [h], rfl⟩

theorem Unfinished.refl (s : Session) : Unfinished s s := .of_log rfl

theorem Unfinished.trans (h : Unfinished s t) (k : Unfinished t u) : Unfinished s u := by
  obtain ⟨during, hlog, hnone⟩ := h
  obtain ⟨more, klog, knone⟩ := k
  exact ⟨during ++ more, by rw [klog, hlog, List.append_assoc], by simp [hnone, knone]⟩

theorem Unfinished.finishedBy (h : Unfinished s t) (k : FinishedBy callback t u) :
    FinishedBy callback s u := by
  obtain ⟨during, hlog, hnone⟩ := h
  obtain ⟨more, klog, knone⟩ := k
  exact ⟨during ++ more, by rw [klog, hlog, List.append_assoc s.log], by simp [hnone, knone]⟩

theorem FinishedBy.of_log (h : FinishedBy callback s t) (same : u.log = t.log) :
    FinishedBy callback s u := by
  obtain ⟨during, hlog, hnone⟩ := h
  exact ⟨during, same.trans hlog, hnone⟩

theorem FinishedBy.finishes (h : FinishedBy callback s t) :
    finishes t.log = finishes s.log ++ callback.toList := by
  obtain ⟨during, hlog, hnone⟩ := h
  rw [hlog, finishes_append, finishes_append, hnone, List.append_nil, finishes_finished]

theorem finishedBy_finish (s : Session) (callback : Option Nat) :
    FinishedBy callback s (s.finish callback) :=
  ⟨[], by simp [finish, note], rfl⟩

theorem Waited.unfinished (h : Waited s t) : Unfinished s t := by
  obtain ⟨seen, log⟩ := h.log
  exact ⟨seen.map .wire, log, finishes_wire seen⟩

theorem log_releaseReady (s : Session) (r : Ready) : (s.releaseReady r).log = s.log := by
  simp only [releaseReady]
  split <;> rfl

theorem unfinished_askHook (s : Session) (ctx : Context) : Unfinished s (s.askHook ctx).2 := by
  rw [askHook_eq]
  exact ⟨_, rfl, finishes_hook _⟩

theorem unfinished_invalidate (s : Session) (label : String) :
    Unfinished s (s.invalidate label).2 := by
  simp only [invalidate]
  split
  · exact .refl s
  · refine ⟨_, rfl, ?_⟩
    split <;> rfl

theorem unfinished_dropStale (s : Session) (cached : Option (Nat × String)) (e : Error) :
    Unfinished s (s.dropStale cached e) := by
  simp only [dropStale]
  split
  · exact .refl s
  · split
    · exact unfinished_invalidate s _
    · exact .refl s

theorem unfinished_stages {pooled : Bool} {label : Option String} {sql : String}
    {result : Except Halt Ready × Session} (p : Stages s pooled label sql result) :
    Unfinished s result.2 := by
  have cached (x : Session) (c : StatementCache) : Unfinished x (x.setCache c) := .of_log rfl
  cases p with
  | waited w _ => exact w.unfinished
  | labeled _ w _ _ p back =>
    refine (w.unfinished.trans ?_).trans back.unfinished
    cases p with
    | unlabeled _ => exact cached _ _
    | reused _ _ => exact cached _ _
    | halted _ _ w => exact (cached _ _).trans w.unfinished
    | refused _ _ w => exact ((cached _ _).trans w.unfinished).trans (cached _ _)
    | prepared _ _ w _ => exact ((cached _ _).trans w.unfinished).trans (cached _ _)

theorem finishedBy_complete (s : Session) (r : Run) (outcome : Outcome) :
    FinishedBy r.callback s (s.complete r outcome) := by
  simp only [complete]
  split
  · exact finishedBy_finish s r.callback
  · rename_i hook _
    have told : Unfinished s
        ({ s with hook := some (hook.after r.context ⟨s.now - r.startedAt⟩ outcome).1 }.note
          ((hook.after r.context ⟨s.now - r.startedAt⟩ outcome).2.map .hook)) :=
      ⟨_, rfl, finishes_hook _⟩
    exact told.finishedBy (finishedBy_finish _ r.callback)

theorem finishedBy_report {α : Type} (s : Session) (r : Run) (summary : α → Outcome)
    (result : Except Halt α) : FinishedBy r.callback s (s.report r summary result) := by
  cases result with
  | ok a => exact finishedBy_complete s r (summary a)
  | error h =>
    cases h with
    | error e =>
      exact (unfinished_dropStale s r.cached e).finishedBy (finishedBy_complete _ r _)
    | dropped => exact finishedBy_finish s r.callback

theorem finishedBy_begin (s : Session) (c : Call) (usual : Option String) (sql : String) (n : Nat) :
    match s.begin c usual sql n with
    | (.error _, t) => FinishedBy c.callback s t
    | (.ok b, t) => Unfinished s t ∧ b.run.callback = c.callback := by
  have p := begin_begins s c usual sql n
  have asking := unfinished_askHook s (s.asked c usual sql n)
  split <;> rename_i e <;> rw [e] at p
  · cases p with
    | closed _ => exact finishedBy_finish s c.callback
    | aborted _ asked =>
      rw [asked] at asking
      exact asking.finishedBy (finishedBy_finish _ c.callback)
    | @failed ctx u v _ _ asked staged =>
      rw [asked] at asking
      have prepared := unfinished_stages
        (prepareStage_stages u c (s.limitsOf c) (c.label <|> usual) ctx.execSql)
      rw [staged] at prepared
      exact (asking.trans prepared).finishedBy (finishedBy_report v (u.booksOf c ctx) _ _)
  · cases p with
    | @ready ctx u _ _ _ asked staged =>
      rw [asked] at asking
      have prepared := unfinished_stages
        (prepareStage_stages u c (s.limitsOf c) (c.label <|> usual) ctx.execSql)
      rw [staged] at prepared
      exact ⟨asking.trans prepared, rfl⟩

theorem finishedBy_executeReady (s : Session) (b : Begun) (values : List Param) :
    FinishedBy b.run.callback s (s.executeReady b values).2 :=
  ((waited_executeStage s b values).unfinished.finishedBy
    (finishedBy_report _ b.run _ _)).of_log (log_releaseReady _ b.ready)

theorem finishedBy_queryReady (s : Session) (b : Begun) (values : List Param) :
    match s.queryReady b values with
    | (.error _, t) => FinishedBy b.run.callback s t
    | (.ok cursor, t) => cursor.begun = b ∧ Unfinished s t := by
  have ran := (waited_runStage s b values).unfinished
  simp only [queryReady]
  cases e : s.runStage b values with
  | mk result u =>
    rw [e] at ran
    cases result with
    | ok feed => exact ⟨rfl, ran.trans (waited_openCursor u feed b).unfinished⟩
    | error h =>
      exact (ran.finishedBy (finishedBy_report _ b.run _ _)).of_log (log_releaseReady _ b.ready)

theorem finishedBy_consume {σ : Type} (s : Session) (c : Cursor) (reader : Reader σ) (state : σ) :
    FinishedBy c.begun.run.callback s (s.consume c reader state).2 := by
  rw [consume_eq]
  have read := ((waited_unblock s c).trans
    (waited_advance _ (s.reading c reader state).time)).unfinished
  exact (read.finishedBy (finishedBy_report _ c.begun.run _ _)).of_log
    (log_releaseReady _ c.begun.ready)

theorem finishedBy_discard (s : Session) (c : Cursor) :
    FinishedBy c.begun.run.callback s (s.discard c) :=
  ((waited_unblock s c).unfinished.finishedBy (finishedBy_finish _ _)).of_log
    (log_releaseReady _ c.begun.ready)

theorem finishedBy_useReady (s : Session) (b : Begun) (values : List Param) (use : Use) :
    FinishedBy b.run.callback s (s.useReady b values use).2 := by
  cases use with
  | count =>
    have ended := finishedBy_executeReady s b values
    simp only [useReady]
    split <;> rename_i e <;> rwa [e] at ended
  | read reader state =>
    have started := finishedBy_queryReady s b values
    simp only [useReady]
    split <;> rename_i e <;> rw [e] at started
    · exact started
    · rename_i cursor u
      obtain ⟨rfl, quiet⟩ := started
      have ended := quiet.finishedBy (finishedBy_consume u cursor reader state)
      split <;> rename_i e' <;> rwa [e'] at ended
  | drop =>
    have started := finishedBy_queryReady s b values
    simp only [useReady]
    split <;> rename_i e <;> rw [e] at started
    · exact started
    · rename_i cursor u
      obtain ⟨rfl, quiet⟩ := started
      exact quiet.finishedBy (finishedBy_discard u cursor)

theorem finishedBy_invoke (s : Session) (c : Call) (i : Invocation) :
    FinishedBy c.callback s (s.invoke c i) := by
  rw [invoke_eq]
  split
  · exact finishedBy_finish s c.callback
  · rename_i p _
    have begun := finishedBy_begin s c p.usual p.sql p.values.length
    rw [carryOut_eq]
    split <;> rename_i e <;> rw [e] at begun
    · exact begun
    · rename_i b u
      obtain ⟨quiet, callback⟩ := begun
      exact callback ▸ quiet.finishedBy (finishedBy_useReady u b p.values p.use)

theorem finishedBy_leave (s : Session) (c : Call) (exit : Exit) :
    FinishedBy c.callback s (s.leave c exit) := by
  cases exit with
  | unused => exact finishedBy_finish s c.callback
  | invoked i => exact finishedBy_invoke s c i

theorem finishedBy_held (s : Session) (c : Call) (usual : Option String) (sql : String)
    (values : List Param) :
    match s.query c usual sql values with
    | (.error _, t) => FinishedBy c.callback s t
    | (.ok cursor, t) => Unfinished s t ∧ ∀ (v : Session) (patience : Option Instant),
        (∀ (σ : Type) (reader : Reader σ) (state : σ),
          FinishedBy c.callback v (v.consume (cursor.withPatience patience) reader state).2) ∧
        FinishedBy c.callback v (v.discard (cursor.withPatience patience)) := by
  have begun := finishedBy_begin s c usual sql values.length
  rw [query_eq]
  cases e : s.begin c usual sql values.length with
  | mk result x =>
    rw [e] at begun
    cases result with
    | error h => exact begun
    | ok b =>
      obtain ⟨quiet, callback⟩ := begun
      have started := finishedBy_queryReady x b values
      simp only
      split <;> rename_i e' <;> rw [e'] at started
      · exact callback ▸ quiet.finishedBy started
      · obtain ⟨rfl, running⟩ := started
        refine ⟨quiet.trans running, fun v patience => ⟨fun σ reader state => ?_, ?_⟩⟩
        · exact callback ▸ finishedBy_consume v _ reader state
        · exact callback ▸ finishedBy_discard v _

/-- One setting: a callback that was there before has run, or is still there. -/
theorem set_accounts (c : Call) (x : Setting) :
    (c.set x).1 ++ (c.set x).2.callback.toList.map .finished =
      (c.callback.toList ++ x.passed?.toList).map .finished := by
  cases x <;> simp [Call.set, Call.onFinish, Call.withLabel, Call.withTimeout, Call.withSignal,
    Setting.passed?]

theorem passed_cons (x : Setting) (chain : List Setting) :
    Setting.passed (x :: chain) = x.passed?.toList ++ Setting.passed chain := by
  cases x <;> rfl

theorem build_accounts (s : Session) (c : Call) (chain : List Setting) :
    (s.build c chain).2.log ++ (s.build c chain).1.callback.toList.map .finished =
      s.log ++ (c.callback.toList ++ Setting.passed chain).map .finished := by
  induction chain generalizing s c with
  | nil => simp [build, Setting.passed]
  | cons x rest ih =>
    calc _ = s.log ++ (c.set x).1 ++
          ((c.set x).2.callback.toList ++ Setting.passed rest).map .finished := ih _ _
      _ = s.log ++ ((c.set x).1 ++ (c.set x).2.callback.toList.map .finished) ++
          (Setting.passed rest).map .finished := by simp
      _ = s.log ++ (c.callback.toList ++ Setting.passed (x :: rest)).map .finished := by
        rw [set_accounts, passed_cons]
        simp

theorem build_callback (s : Session) (c : Call) (chain : List Setting) :
    (s.build c chain).1.callback = (Setting.passed chain).getLast?.or c.callback := by
  induction chain generalizing s c with
  | nil => rfl
  | cons x rest ih =>
    rw [build, ih, passed_cons]
    cases x with
    | onFinish n =>
      simp only [Setting.passed?, Option.toList_some, List.singleton_append, List.getLast?_cons]
      cases (Setting.passed rest).getLast? <;> rfl
    | _ => rfl

theorem build_fresh_callback (s : Session) (transaction : Option Nat) (patience : Option Instant)
    (chain : List Setting) :
    (s.build (.fresh transaction patience) chain).1.callback = (Setting.passed chain).getLast? := by
  rw [build_callback]
  exact Option.or_none

theorem build_fresh_log (s : Session) (transaction : Option Nat) (patience : Option Instant)
    (chain : List Setting) :
    (s.build (.fresh transaction patience) chain).2.log =
      s.log ++ (Setting.passed chain).dropLast.map .finished := by
  have accounts := build_accounts s (.fresh transaction patience) chain
  rw [build_fresh_callback] at accounts
  have nothing : (Call.fresh transaction patience).callback.toList = [] := rfl
  rw [nothing, List.nil_append] at accounts
  rcases List.eq_nil_or_concat (Setting.passed chain) with none | ⟨earlier, last, some⟩
  · simpa [none] using accounts
  · rw [some] at accounts ⊢
    simp only [List.concat_eq_append, List.getLast?_concat, List.dropLast_concat,
      Option.toList_some, List.map_append, ← List.append_assoc] at accounts ⊢
    exact List.append_cancel_right accounts

/-- Each callback of a chain runs exactly once. The last one runs at the very end, whatever is made of the
call; all others run before it begins, and so none does exactly when at most one is passed. -/
theorem callbacks_once_in_order (s : Session) (transaction : Option Nat) (patience : Option Instant)
    (chain : List Setting) :
    let passed := Setting.passed chain
    let (c, begun) := s.build (.fresh transaction patience) chain
    begun.log = s.log ++ passed.dropLast.map .finished ∧
    (begun.log = s.log ↔ passed.length ≤ 1) ∧
    (∀ exit, FinishedBy passed.getLast? begun (begun.leave c exit) ∧
      finishes (begun.leave c exit).log = finishes s.log ++ passed) ∧
    ∀ usual sql values,
      match begun.query c usual sql values with
      | (.error _, t) => FinishedBy passed.getLast? begun t
      | (.ok cursor, t) => Unfinished begun t ∧ ∀ (v : Session) (patience : Option Instant),
          (∀ (σ : Type) (reader : Reader σ) (state : σ), FinishedBy passed.getLast? v
            (v.consume (cursor.withPatience patience) reader state).2) ∧
          FinishedBy passed.getLast? v (v.discard (cursor.withPatience patience)) := by
  have log := build_fresh_log s transaction patience chain
  have last := build_fresh_callback s transaction patience chain
  have accounts := congrArg finishes (build_accounts s (.fresh transaction patience) chain)
  rw [finishes_append, finishes_finished, finishes_append, finishes_finished] at accounts
  generalize s.build (.fresh transaction patience) chain = built at log last accounts ⊢
  obtain ⟨c, begun⟩ := built
  simp only at log last accounts ⊢
  refine ⟨log, ?_, fun exit => ?_, fun usual sql values => last ▸ finishedBy_held begun c usual sql values⟩
  · rw [log, List.append_right_eq_self, List.map_eq_nil_iff, ← List.length_eq_zero_iff,
      List.length_dropLast]
    omega
  · have ended := finishedBy_leave begun c exit
    rw [last] at ended
    refine ⟨ended, ?_⟩
    rw [ended.finishes, ← last]
    exact accounts

def unwatched : Session := .ofPool Config.initial .none (.ofScript [selection [.quiet]] [])

def replaced : Call × Session :=
  unwatched.build (.fresh .none .none) [.onFinish 1, .timeout ⟨50⟩, .onFinish 2]

/-- The first of the two runs before anything is sent, the second at the end. -/
theorem replaced_callback_runs_early :
    replaced.2.log = [.finished 1] ∧
      (replaced.2.leave replaced.1 (.invoked (.statement "SELECT 1" [] .count))).log =
        [.finished 1, .wire (.connect 1), .wire (.prepare 1 "SELECT 1"),
          .wire (.run 1 ⟨"SELECT 1", [], [("v", .int8)]⟩ []), .finished 2] := by
  decide +kernel

end Session

end RowMapper
