import RowMapper.Proofs.Hook.Names
import RowMapper.Proofs.Session.Inside

/-!
Two sessions that differ in what is open on them, and in the names of database and user that their hooks were shown.
A call inside a transaction cannot tell them apart unless the hook does.
-/
namespace RowMapper

def Event.unnamed : Event → Event
  | .hook e => .hook e.unnamed
  | e => e

def Run.unnamed (r : Run) : Run := { r with context := r.context.unnamed }

def Begun.unnamed (b : Begun) : Begun := { b with run := b.run.unnamed }

def Cursor.unnamed (k : Cursor) : Cursor := { k with begun := k.begun.unnamed }

namespace Session

/-- The sessions differ in what is open, and in the names that hooks were shown. -/
def Sibling (s s' : Session) : Prop :=
  ∃ opened log, s' = { s with opened := opened, log := log } ∧ log.map Event.unnamed = s.log.map Event.unnamed

structure Siblings {α β : Type*} (gist : α → β) (x x' : α × Session) : Prop where
  result : gist x'.1 = gist x.1
  after : Sibling x.2 x'.2

variable {s s' t t' : Session} {l : Limits} {link : Nat}

theorem Siblings.ends {α : Type*} {x x' : α × Session} (h : Siblings id x x') :
    ∃ a t t', x = (a, t) ∧ x' = (a, t') ∧ Sibling t t' :=
  ⟨x.1, x.2, x'.2, rfl, Prod.ext h.result rfl, h.after⟩

theorem siblings_ends {α : Type*} {a : α} (h : Sibling t t') : Siblings id (a, t) (a, t') := ⟨rfl, h⟩

theorem sibling_put (s : Session) (opened : Option Opened) : Sibling s { s with opened := opened } :=
  ⟨opened, s.log, rfl, rfl⟩

theorem Sibling.note (h : Sibling s s') {events events' : List Event}
    (same : events'.map Event.unnamed = events.map Event.unnamed) : Sibling (s.note events) (s'.note events') := by
  obtain ⟨opened, log, rfl, logs⟩ := h
  exact ⟨opened, log ++ events', rfl, by simp only [Session.note, List.map_append, logs, same]⟩

theorem Sibling.finish (h : Sibling s s') (callback : Option Nat) : Sibling (s.finish callback) (s'.finish callback) :=
  h.note rfl

theorem Sibling.advance (h : Sibling s s') (t : Instant) : Sibling (s.advance t) (s'.advance t) := by
  obtain ⟨opened, log, rfl, logs⟩ := h
  exact ⟨opened, _, rfl, by simp only [Session.advance, noteWires, Session.note, List.map_append, logs]⟩

theorem Sibling.isRefused (h : Sibling s s') (l : Limits) :
    l.isRefused s'.now s'.waits = l.isRefused s.now s.waits := by
  obtain ⟨opened, log, rfl, -⟩ := h
  rfl

theorem Sibling.limitsOf (h : Sibling s s') (c : Call) : s'.limitsOf c = s.limitsOf c := by
  obtain ⟨opened, log, rfl, -⟩ := h
  rfl

theorem siblings_pass (h : Sibling s s') (l : Limits) (t : Option Instant) :
    Siblings id (s.pass l t) (s'.pass l t) := by
  obtain ⟨opened, log, rfl, logs⟩ := h
  exact ⟨rfl, Sibling.advance ⟨opened, log, rfl, logs⟩ _⟩

theorem siblings_stall {α : Type} (h : Sibling s s') (l : Limits) :
    Siblings id (s.stall (α := α) l) (s'.stall l) := by
  obtain ⟨result, t, t', e, e', after⟩ := (siblings_pass h l .none).ends
  simp only [stall, e, e']
  cases result <;> exact siblings_ends after

theorem siblings_awaitTicket (h : Sibling s s') (l : Limits) (ticket : Nat) :
    Siblings id (s.awaitTicket l ticket) (s'.awaitTicket l ticket) := by
  obtain ⟨opened, log, rfl, logs⟩ := h
  simp only [awaitTicket]
  cases l.reached? s.now s.waits with
  | some halt => exact ⟨rfl, opened, log, rfl, logs⟩
  | none =>
    generalize s.server.serve (some ticket) (l.first?.map (·.1)) = served
    simp only [noteWires, Session.note]
    generalize l.await s.now (served.answer.map (·.time)) = awaited
    obtain ⟨time, _ | _⟩ := awaited <;> exact ⟨rfl, opened, _, rfl, by simp only [List.map_append, logs]⟩

theorem siblings_ask (h : Sibling s s') (l : Limits) (link : Nat) (job : Job) :
    Siblings id (s.ask l link job) (s'.ask l link job) := by
  obtain ⟨opened, log, rfl, logs⟩ := h
  have sent : Sibling { s with server := (s.server.send s.now link job).2 }
      { s with server := (s.server.send s.now link job).2, opened := opened, log := log } := ⟨opened, log, rfl, logs⟩
  by_cases shut : s.server.isClosed s.now link = true
  · simp only [ask, shut, ↓reduceIte]
    exact ⟨rfl, opened, log, rfl, logs⟩
  · by_cases blocked : s.blocked.any (·.2 == link) = true
    · simp only [ask, isBlocked, shut, blocked, ↓reduceIte, Bool.false_eq_true]
      exact siblings_stall sent l
    · simp only [ask, isBlocked, shut, blocked, ↓reduceIte, Bool.false_eq_true]
      exact siblings_awaitTicket sent l _

theorem siblings_prepare (h : Sibling s s') (l : Limits) (link : Nat) (sql : String) :
    Siblings id (s.prepare l link sql) (s'.prepare l link sql) := by
  obtain ⟨answer, t, t', e, e', after⟩ := (siblings_ask h l link (.prepare sql)).ends
  simp only [prepare, e, e']
  obtain _ | _ | content := answer
  · exact siblings_ends after
  · exact siblings_ends after
  · cases content <;> exact siblings_ends after

theorem siblings_run (h : Sibling s s') (l : Limits) (link : Nat) (p : Prepared) (values : List Param) :
    Siblings id (s.run l link p values) (s'.run l link p values) := by
  simp only [run]
  split
  · exact siblings_ends h
  · rename_i raw _
    obtain ⟨answer, t, t', e, e', after⟩ := (siblings_ask h l link (.run p raw)).ends
    simp only [e, e']
    obtain _ | _ | content := answer
    · exact siblings_ends after
    · exact siblings_ends after
    · cases content <;> exact siblings_ends after

theorem siblings_prepareFresh (h : Sibling s s') (l : Limits) (link : Nat) (isPooled : Bool) (source : Source)
    (sql : String) :
    Siblings id (s.prepareFresh l link isPooled source sql) (s'.prepareFresh l link isPooled source sql) := by
  obtain ⟨answer, t, t', e, e', after⟩ := (siblings_prepare h l link sql).ends
  simp only [prepareFresh, e, e']
  cases answer <;> exact siblings_ends after

theorem siblings_prepareStage {c : Call} (inside : c.transaction = some link) (h : Sibling s s') (l : Limits)
    (label : Option String) (sql : String) :
    Siblings id (s.prepareStage c l label sql) (s'.prepareStage c l label sql) := by
  rw [prepareStage_inside inside, prepareStage_inside inside, h.isRefused]
  split
  · exact siblings_ends h
  · exact siblings_prepareFresh h l link false .transaction sql

variable {r r' : Run} {b b' : Begun} {k k' : Cursor}

theorem unnamed_hooks {events events' : List HookEvent}
    (same : events'.map HookEvent.unnamed = events.map HookEvent.unnamed) :
    (events'.map Event.hook).map Event.unnamed = (events.map Event.hook).map Event.unnamed := by
  have hooks (events : List HookEvent) :
      (events.map Event.hook).map Event.unnamed = (events.map HookEvent.unnamed).map Event.hook := by
    simp only [List.map_map]
    rfl
  rw [hooks, hooks, same]

theorem Sibling.complete (h : Sibling s s') (books : r'.unnamed = r.unnamed) (outcome : Outcome) :
    Sibling (s.complete r outcome) (s'.complete r' outcome) := by
  obtain ⟨opened, log, rfl, logs⟩ := h
  obtain ⟨context, startedAt, limits, cached, callback⟩ := r
  obtain ⟨context', startedAt', limits', cached', callback'⟩ := r'
  simp only [Run.unnamed, Run.mk.injEq] at books
  obtain ⟨same, rfl, rfl, rfl, rfl⟩ := books
  rw [Context.eq_named same]
  cases hooked : s.hook with
  | none =>
    simp only [Session.complete, hooked]
    exact Sibling.finish ⟨opened, log, by simp only [hooked], logs⟩ _
  | some hook =>
    obtain ⟨left, told⟩ :=
      Hook.after_named context context'.database context'.username ⟨s.now - startedAt'⟩ outcome hook
    have changed (next : Hook) : Sibling { s with hook := some next }
        { s with hook := some next, opened := opened, log := log } := ⟨opened, log, rfl, logs⟩
    simp only [Session.complete, hooked, left]
    exact ((changed _).note (unnamed_hooks told)).finish _

/-- No label can be given up where there is none, so that a stale plan does the same on both sessions. -/
theorem Sibling.report {α : Type} (h : Sibling s s') (unlabeled : r.cached = .none) (books : r'.unnamed = r.unnamed)
    (summary : α → Outcome) (result : Except Halt α) :
    Sibling (s.report r summary result) (s'.report r' summary result) := by
  have unlabeled' : r'.cached = .none := (congrArg Run.cached books :).trans unlabeled
  have callback : r'.callback = r.callback := (congrArg Run.callback books :)
  obtain ⟨e | _⟩ | a := result
  · simp only [Session.report, fail, unlabeled, unlabeled', dropStale_unlabeled]
    exact h.complete books _
  · simp only [Session.report, callback]
    exact h.finish _
  · exact h.complete books _

theorem siblings_runStage (same : b'.unnamed = b.unnamed) (h : Sibling s s') (values : List Param) :
    Siblings id (s.runStage b values) (s'.runStage b' values) := by
  have ready : b'.ready = b.ready := (congrArg Begun.ready same :)
  have limits : b'.run.limits = b.run.limits := (congrArg (·.run.limits) same :)
  simp only [runStage, ready, limits, h.isRefused]
  split
  · exact siblings_ends h
  · obtain ⟨result, t, t', e, e', after⟩ := (siblings_run h b.run.limits b.ready.link b.ready.statement values).ends
    simp only [e, e']
    cases result <;> exact siblings_ends after

theorem siblings_executeStage (same : b'.unnamed = b.unnamed) (h : Sibling s s') (values : List Param) :
    Siblings id (s.executeStage b values) (s'.executeStage b' values) := by
  have limits : b'.run.limits = b.run.limits := (congrArg (·.run.limits) same :)
  obtain ⟨result, t, t', e, e', after⟩ := (siblings_runStage same h values).ends
  simp only [executeStage, e, e', limits]
  cases result with
  | error halt => exact siblings_ends after
  | ok feed =>
    obtain ⟨result, u, u', e, e', after'⟩ := (siblings_pass after b.run.limits (some feed.endAt)).ends
    simp only [e, e']
    cases result <;> exact siblings_ends after'

theorem siblings_executeReady (inside : b.Inside link) (same : b'.unnamed = b.unnamed) (h : Sibling s s')
    (values : List Param) : Siblings id (s.executeReady b values) (s'.executeReady b' values) := by
  have ready : b'.ready = b.ready := (congrArg Begun.ready same :)
  have books : b'.run.unnamed = b.run.unnamed := (congrArg Begun.run same :)
  obtain ⟨result, t, t', e, e', after⟩ := (siblings_executeStage same h values).ends
  simp only [executeReady, e, e', ready, releaseReady_inside inside.lent]
  exact siblings_ends (after.report inside.unlabeled books _ _)

theorem siblings_openCursor (same : b'.unnamed = b.unnamed) (h : Sibling s s') (feed : Feed) :
    Siblings (·.map Cursor.unnamed) (s.openCursor feed b) (s'.openCursor feed b') := by
  have ready : b'.ready = b.ready := (congrArg Begun.ready same :)
  obtain ⟨opened, log, rfl, logs⟩ := h
  refine ⟨?_, ?_⟩
  · simp only [openCursor, Except.map, Cursor.unnamed, same]
  · simp only [openCursor, ready]
    split <;> exact ⟨opened, log, rfl, logs⟩

theorem siblings_queryReady (inside : b.Inside link) (same : b'.unnamed = b.unnamed) (h : Sibling s s')
    (values : List Param) :
    Siblings (·.map Cursor.unnamed) (s.queryReady b values) (s'.queryReady b' values) := by
  have ready : b'.ready = b.ready := (congrArg Begun.ready same :)
  have books : b'.run.unnamed = b.run.unnamed := (congrArg Begun.run same :)
  obtain ⟨result, t, t', e, e', after⟩ := (siblings_runStage same h values).ends
  simp only [queryReady, e, e', ready, releaseReady_inside inside.lent]
  cases result with
  | ok feed => exact siblings_openCursor same after feed
  | error halt => exact ⟨rfl, after.report inside.unlabeled books _ _⟩

theorem Sibling.unblock (h : Sibling s s') (same : k'.unnamed = k.unnamed) : Sibling (s.unblock k) (s'.unblock k') := by
  have number : k'.number = k.number := (congrArg Cursor.number same :)
  obtain ⟨opened, log, rfl, logs⟩ := h
  simp only [Session.unblock, number]
  exact ⟨opened, log, rfl, logs⟩

theorem Sibling.reading {σ : Type} (h : Sibling s s') (same : k'.unnamed = k.unnamed) (reader : Reader σ) (state : σ) :
    s'.reading k' reader state = s.reading k reader state := by
  have limits : k'.begun.run.limits = k.begun.run.limits := (congrArg (·.begun.run.limits) same :)
  have feed : k'.feed = k.feed := (congrArg Cursor.feed same :)
  obtain ⟨opened, log, rfl, -⟩ := h
  simp only [Session.reading, limits, feed]

theorem siblings_consume {σ : Type} (inside : k.begun.Inside link) (same : k'.unnamed = k.unnamed)
    (h : Sibling s s') (reader : Reader σ) (state : σ) :
    Siblings id (s.consume k reader state) (s'.consume k' reader state) := by
  have ready : k'.begun.ready = k.begun.ready := (congrArg (·.begun.ready) same :)
  have books : k'.begun.run.unnamed = k.begun.run.unnamed := (congrArg (·.begun.run) same :)
  rw [consume_eq, consume_eq, h.reading same, ready, releaseReady_inside inside.lent, releaseReady_inside inside.lent]
  exact siblings_ends (((h.unblock same).advance _).report inside.unlabeled books _ _)

theorem siblings_discard (inside : k.begun.Inside link) (same : k'.unnamed = k.unnamed) (h : Sibling s s') :
    Sibling (s.discard k) (s'.discard k') := by
  have ready : k'.begun.ready = k.begun.ready := (congrArg (·.begun.ready) same :)
  have callback : k'.begun.run.callback = k.begun.run.callback := (congrArg (·.begun.run.callback) same :)
  simp only [discard, ready, callback, releaseReady_inside inside.lent]
  exact (h.unblock same).finish _

/-- The hook answers two contexts alike, and makes the same known of both but for the names. -/
structure HearsAlike (s : Session) (ctx ctx' : Context) : Prop where
  answer : s.answer ctx' = s.answer ctx
  events : (s.heardBefore ctx').map HookEvent.unnamed = (s.heardBefore ctx).map HookEvent.unnamed
  hook : (s.afterAsking ctx').hook = (s.afterAsking ctx).hook

theorem hearsAlike_of_ignoresNames {ctx ctx' : Context} (ignores : ∀ hook, s.hook = some hook → hook.IgnoresNames)
    (same : ctx'.unnamed = ctx.unnamed) : s.HearsAlike ctx ctx' := by
  rw [Context.eq_named same]
  cases hooked : s.hook with
  | none =>
    exact ⟨by simp only [answer, hooked], by simp only [heardBefore, hooked],
      by simp only [afterAsking, Session.note, hooked, Option.map_none]⟩
  | some hook =>
    obtain ⟨same, events, action⟩ := Hook.before_named hook (ignores hook hooked) ctx ctx'.database ctx'.username
    exact ⟨by simp only [answer, hooked, action], by simp only [heardBefore, hooked, events],
      by simp only [afterAsking, Session.note, hooked, Option.map_some, same]⟩

theorem Sibling.asked (h : Sibling s s') (c : Call) (usual : Option String) (sql : String) (n : Nat) :
    (s'.asked c usual sql n).unnamed = (s.asked c usual sql n).unnamed := by
  obtain ⟨opened, log, rfl, -⟩ := h
  rfl

theorem Sibling.answer (h : Sibling s s') (ctx : Context) : s'.answer ctx = s.answer ctx := by
  obtain ⟨opened, log, rfl, -⟩ := h
  rfl

theorem Sibling.afterAsking {ctx ctx' : Context} (h : Sibling s s') (alike : s.HearsAlike ctx ctx') :
    Sibling (s.afterAsking ctx) (s'.afterAsking ctx') := by
  have remembered := alike.hook
  have events := unnamed_hooks alike.events
  obtain ⟨opened, log, rfl, logs⟩ := h
  refine ⟨opened, log ++ (s.heardBefore ctx').map .hook, ?_, ?_⟩
  · simp only [Session.afterAsking, Session.note] at remembered ⊢
    rw [remembered]
    rfl
  · simp only [Session.afterAsking, Session.note, List.map_append, logs, events]

theorem siblings_askHook {ctx ctx' : Context} (h : Sibling s s') (same : ctx'.unnamed = ctx.unnamed)
    (alike : s.HearsAlike ctx ctx') : Siblings (·.map Context.unnamed) (s.askHook ctx) (s'.askHook ctx') := by
  rw [askHook_eq, askHook_eq, h.answer, alike.answer]
  exact ⟨Action.apply_unnamed same _, h.afterAsking alike⟩

theorem Siblings.cases {ε α : Type*} {gist : α → α} {x x' : Except ε α × Session}
    (h : Siblings (·.map gist) x x') :
    (∃ e t t', x = (.error e, t) ∧ x' = (.error e, t') ∧ Sibling t t') ∨
      ∃ a a' t t', x = (.ok a, t) ∧ x' = (.ok a', t') ∧ gist a' = gist a ∧ Sibling t t' := by
  obtain ⟨e | a, t⟩ := x <;> obtain ⟨e' | a', t'⟩ := x' <;> obtain ⟨same, after⟩ := h
  · obtain rfl := Except.error.inj same
    exact .inl ⟨e', t, t', rfl, rfl, after⟩
  · cases same
  · cases same
  · exact .inr ⟨a, a', t, t', rfl, rfl, Except.ok.inj same, after⟩

theorem Sibling.now (h : Sibling s s') : s'.now = s.now := by
  obtain ⟨opened, log, rfl, -⟩ := h
  rfl

theorem siblings_begin {c : Call} (inside : c.transaction = some link) (h : Sibling s s') (usual : Option String)
    (sql : String) (n : Nat) (alike : s.HearsAlike (s.asked c usual sql n) (s'.asked c usual sql n)) :
    Siblings (·.map Begun.unnamed) (s.begin c usual sql n) (s'.begin c usual sql n) := by
  -- A transaction has its connection, so it does not matter on which of the sessions anything is open.
  have connected (s : Session) : (c.transaction.isNone && !s.isOpen) = false := by simp [inside]
  have heard := siblings_askHook h (h.asked c usual sql n) alike
  simp only [asked] at heard
  simp only [begin, connected, Bool.false_eq_true, ↓reduceIte, h.limitsOf]
  obtain ⟨reason, u, u', e, e', after⟩ | ⟨ctx, ctx', u, u', e, e', same, after⟩ := heard.cases
  · simp only [e, e']
    exact ⟨rfl, after.finish _⟩
  · have text : ctx'.execSql = ctx.execSql := (congrArg Context.execSql same :)
    simp only [e, e', text, after.now]
    obtain ⟨result, v, v', e, e', staged⟩ :=
      (siblings_prepareStage inside after (s.limitsOf c) (c.label <|> usual) ctx.execSql).ends
    simp only [e, e']
    cases result with
    | error halt => exact ⟨rfl, staged.report rfl (by simp only [Run.unnamed, same]) _ _⟩
    | ok ready =>
      refine ⟨?_, staged⟩
      simp only [Except.map, Begun.unnamed, Run.unnamed, Ready.mark, Context.unnamed_addField same]

theorem siblings_query {c : Call} (inside : c.transaction = some link) (h : Sibling s s') (usual : Option String)
    (sql : String) (values : List Param)
    (alike : s.HearsAlike (s.asked c usual sql values.length) (s'.asked c usual sql values.length)) :
    Siblings (·.map Cursor.unnamed) (s.query c usual sql values) (s'.query c usual sql values) := by
  rw [query_eq, query_eq]
  obtain ⟨halt, t, t', e, e', after⟩ | ⟨b, b', t, t', e, e', same, after⟩ :=
    (siblings_begin inside h usual sql values.length alike).cases
  · simp only [e, e']
    exact ⟨rfl, after⟩
  · simp only [e, e']
    exact siblings_queryReady (begin_inside inside e) same after values

theorem siblings_followed (inside : b.Inside link) (same : b'.unnamed = b.unnamed) (h : Sibling s s')
    (values : List Param) (a : Account) : Siblings id (s.followed b values a) (s'.followed b' values a) := by
  have queried := (siblings_queryReady inside same h values).cases
  cases a with
  | count give =>
    obtain ⟨result, t, t', e, e', after⟩ := (siblings_executeReady inside same h values).ends
    simp only [followed, e, e']
    exact siblings_ends after
  | read reader state give =>
    obtain ⟨halt, t, t', e, e', after⟩ | ⟨k, k', t, t', e, e', same, after⟩ := queried
    · simp only [followed, e, e']
      exact siblings_ends after
    · obtain ⟨result, u, u', read, read', later⟩ :=
        (siblings_consume (queryReady_begun e ▸ inside) same after reader state).ends
      simp only [followed, e, e', readAll, read, read']
      exact siblings_ends later
  | drop give =>
    obtain ⟨halt, t, t', e, e', after⟩ | ⟨k, k', t, t', e, e', same, after⟩ := queried
    · simp only [followed, e, e']
      exact siblings_ends after
    · simp only [followed, e, e']
      exact siblings_ends (siblings_discard (queryReady_begun e ▸ inside) same after)

theorem siblings_account {c : Call} (inside : c.transaction = some link) (h : Sibling s s') (usual : Option String)
    (sql : String) (values : List Param) (a : Account)
    (alike : s.HearsAlike (s.asked c usual sql values.length) (s'.asked c usual sql values.length)) :
    Siblings id (s.account c usual sql values a) (s'.account c usual sql values a) := by
  rw [account_eq, account_eq]
  obtain ⟨halt, t, t', e, e', after⟩ | ⟨b, b', t, t', e, e', same, after⟩ :=
    (siblings_begin inside h usual sql values.length alike).cases
  · simp only [e, e']
    exact siblings_ends after
  · simp only [e, e']
    exact siblings_followed (begin_inside inside e) same after values a

/-- A call comes to the same on both sessions if the hook hears no difference when its statement begins. -/
theorem siblings_outcome {c : Call} (inside : c.transaction = some link) (h : Sibling s s') (i : Invocation)
    (alike : ∀ p, i.planned? = some p →
      s.HearsAlike (s.asked c p.usual p.sql p.values.length) (s'.asked c p.usual p.sql p.values.length)) :
    Siblings id (s.outcome c i) (s'.outcome c i) := by
  cases planned : i.planned? with
  | some p =>
    obtain ⟨a, -, -, accounts⟩ := outcome_account planned
    rw [accounts, accounts]
    exact siblings_account inside h _ _ _ a (alike p planned)
  | none =>
    obtain ⟨returned, ended⟩ := outcome_unplanned planned
    rw [ended, ended]
    exact siblings_ends (h.finish _)

end Session

end RowMapper
