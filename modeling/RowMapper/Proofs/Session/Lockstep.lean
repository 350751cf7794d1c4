import Mathlib.Data.List.InsertIdx
import RowMapper.Proofs.Session.Alike
import RowMapper.Proofs.Session.Reading

/-!
Whole calls on two like sessions: the statement begins, is run to its end or leaves its rows to a cursor,
and the rows are read or dropped at some later time. What the caller gets is the same on both.
-/
namespace RowMapper

universe u

def haltOf {α : Type} : Except Halt α → Option Halt
  | .error h => some h
  | .ok _ => none

namespace Session

/-- Two calls give the same, unless a limit ends the first or the second is cut. -/
inductive Agrees {α : Type u} (halt? : α → Option Halt) (v : View) : α × Session → α × Session → Prop where
  | limited {a : α} {t : Session} {x' : α × Session} {h : Halt} : halt? a = some h → h.isLimit = true →
    Agrees halt? v (a, t) x'
  | cut {b : α} {t' : Session} {x : α × Session} {h : Halt} : halt? b = some h → h.isCut = true →
    Agrees halt? v x (b, t')
  | same {a : α} {t t' : Session} : Alike v t t' → Agrees halt? v (a, t) (a, t')

variable {v : View} {s s' t t' : Session} {l l' : Limits}

namespace View

def push (v : View) (c c' : Cursor) : View := { v with held := c :: v.held, held' := c' :: v.held' }

def drop (v : View) (k : Nat) : View :=
  { v with held := v.held.eraseIdx k, held' := v.held'.eraseIdx k }

end View

theorem matches_run (a : Alike v s s') (patient : l.patience = .none) (patient' : l'.patience = .none)
    {link : Nat} {p : Prepared} (own : v.may p) (plan : s.HasPlan link p)
    (plan' : s'.HasPlan link p) (values : List Param) :
    Matches v (fun f t f' t' => Alike v t t' ∧ f.map Feed.timeless = f'.map Feed.timeless)
      (s.run l link p values) (s'.run l' link p values) := by
  simp only [run]
  cases bindValues p values with
  | error fault => exact .done ⟨a, rfl⟩
  | ok raw =>
    have m := matches_ask a patient patient' link (.run p raw) fun q values e => by
      obtain ⟨rfl, -⟩ := Job.run.inj e
      exact ⟨own, plan.sent, plan'.sent⟩
    simp only
    generalize s.ask l link (.run p raw) = x at m ⊢
    generalize s'.ask l' link (.run p raw) = x' at m ⊢
    cases m with
    | limited limit => exact .limited limit
    | cut cut => exact .cut cut
    | failed b => exact .failed b
    | @done c c' t t' same =>
      obtain ⟨b, contents⟩ := same
      cases c with
      | error fault =>
        cases c' with
        | error fault' =>
          obtain rfl := Except.error.inj contents
          exact .done ⟨b, rfl⟩
        | ok content' => simp [Except.map] at contents
      | ok content =>
        cases c' with
        | error fault' => simp [Except.map] at contents
        | ok content' =>
          have timeless : content.timeless = content'.timeless := Except.ok.inj contents
          cases content <;> cases content' <;> simp only [Content.timeless, reduceCtorEq,
            Content.feed.injEq] at timeless
          · exact .done ⟨b, rfl⟩
          · exact .done ⟨b, rfl⟩
          · exact .done ⟨b, congrArg Except.ok timeless⟩

/-- The same statement has begun on both sessions, and it is one that may be run. -/
structure SameBegun (v : View) (b : Begun) (t : Session) (b' : Begun) (t' : Session) : Prop where
  ready : SameReady v b.ready.statement.sql b.ready t b'.ready t'
  own : v.may b.ready.statement
  patient : b.run.limits.patience = .none
  patient' : b'.run.limits.patience = .none

variable {b b' : Begun}

theorem matches_runStage (h : SameBegun v b s b' s') (values : List Param) :
    Matches v (fun f t f' t' => Alike v t t' ∧ f.timeless = f'.timeless)
      (s.runStage b values) (s'.runStage b' values) := by
  simp only [runStage]
  by_cases refused : b.run.limits.isRefused s.now s.waits = true
  · rw [if_pos refused]
    exact .limited rfl
  by_cases refused' : b'.run.limits.isRefused s'.now s'.waits = true
  · rw [if_pos refused']
    exact .cut rfl
  · have plan' := h.ready.plan'
    rw [← h.ready.link, ← h.ready.statement] at plan'
    rw [if_neg refused, if_neg refused', ← h.ready.link, ← h.ready.statement]
    have m := matches_run h.ready.alike h.patient h.patient' h.own h.ready.plan plan' values
    generalize s.run b.run.limits b.ready.link b.ready.statement values = x at m ⊢
    generalize s'.run b'.run.limits b.ready.link b.ready.statement values = x' at m ⊢
    cases m with
    | limited limit => exact .limited limit
    | cut cut => exact .cut cut
    | failed a => exact .failed a
    | @done r r' t t' same =>
      obtain ⟨a, feeds⟩ := same
      cases r with
      | error fault =>
        cases r' with
        | error fault' =>
          obtain rfl := Except.error.inj feeds
          exact .failed a
        | ok feed' => simp [Except.map] at feeds
      | ok feed =>
        cases r' with
        | error fault' => simp [Except.map] at feeds
        | ok feed' => exact .done ⟨a, Except.ok.inj feeds⟩

theorem matches_pass (a : Alike v s s') (patient : l.patience = .none) (patient' : l'.patience = .none)
    (time time' : Instant) :
    Matches v (fun _ t _ t' => Alike v t t') (s.pass l (some time)) (s'.pass l' (some time')) := by
  simp only [pass]
  rcases Limits.await_some patient' s'.now time' with ⟨u', h, e', limit⟩ | ⟨u', e', -⟩
  · rw [e']
    exact .cut (Halt.isCut_of_isLimit limit)
  rcases Limits.await_some patient s.now time with ⟨u, h, e, limit⟩ | ⟨u, e, -⟩
  · rw [e]
    exact .limited limit
  · rw [e, e']
    exact .done (a.quietly (quietly_advance a.here.idle u) (quietly_advance a.there.idle u'))

theorem matches_executeStage (h : SameBegun v b s b' s') (values : List Param) :
    Matches v (fun n t n' t' => Alike v t t' ∧ n = n') (s.executeStage b values)
      (s'.executeStage b' values) := by
  have m := matches_runStage h values
  simp only [executeStage]
  generalize s.runStage b values = x at m ⊢
  generalize s'.runStage b' values = x' at m ⊢
  cases m with
  | limited limit => exact .limited limit
  | cut cut => exact .cut cut
  | failed a => exact .failed a
  | @done feed feed' t t' same =>
    obtain ⟨a, timeless⟩ := same
    have result : feed.timeless.result = feed'.timeless.result := congrArg Feed.result timeless
    have same : feed.result = feed'.result := result
    have p := matches_pass a h.patient h.patient' feed.endAt feed'.endAt
    simp only [same]
    generalize t.pass b.run.limits (some feed.endAt) = y at p ⊢
    generalize t'.pass b'.run.limits (some feed'.endAt) = y' at p ⊢
    cases p with
    | limited limit => exact .limited limit
    | cut cut => exact .cut cut
    | failed a => exact .failed a
    | done a =>
      cases feed'.result with
      | error fault => exact .failed a
      | ok n => exact .done ⟨a, rfl⟩

theorem Alike.releaseReady (a : Alike v s s') {r r' : Ready} (link : r.link = r'.link)
    (isPooled : r.isPooled = r'.isPooled) : Alike v (s.releaseReady r) (s'.releaseReady r') := by
  simp only [Session.releaseReady, link, isPooled]
  split
  · exact a.release r'.link
  · exact a

theorem Alike.report {α β : Type} (a : Alike v s s') (r r' : Run) (summary : α → Outcome)
    (summary' : β → Outcome) (result : Except Halt α) (result' : Except Halt β) :
    Alike v (s.report r summary result) (s'.report r' summary' result') :=
  a.quietly (quietly_report s r summary result) (quietly_report s' r' summary' result')

theorem matches_executeReady (h : SameBegun v b s b' s') (values : List Param) :
    Matches v (fun n t n' t' => Alike v t t' ∧ n = n') (s.executeReady b values)
      (s'.executeReady b' values) := by
  have m := matches_executeStage h values
  simp only [executeReady]
  generalize s.executeStage b values = x at m ⊢
  generalize s'.executeStage b' values = x' at m ⊢
  cases m with
  | limited limit => exact .limited limit
  | cut cut => exact .cut cut
  | failed a =>
    exact .failed ((a.report b.run b'.run _ _ _ _).releaseReady h.ready.link h.ready.isPooled)
  | done same =>
    obtain ⟨a, rfl⟩ := same
    exact .done ⟨(a.report b.run b'.run _ _ _ _).releaseReady h.ready.link h.ready.isPooled, rfl⟩

/-- The hooks of both sessions answer alike, and what they remember is alike again. -/
theorem Alike.hooked (a : Alike v s s') (ctx : Context) : s.answer ctx = s'.answer ctx ∧
    (s.hook.map fun h : Hook => (h.before ctx).1.reset) = s'.hook.map fun h : Hook => (h.before ctx).1.reset := by
  have hooks : s.hook.map Hook.reset = s'.hook.map Hook.reset := congrArg Gist.hook a.gist
  simp only [Session.answer]
  cases hs : s.hook <;> cases hs' : s'.hook <;>
    simp only [hs, hs', Option.map_some, Option.map_none, reduceCtorEq, Option.some.injEq] at hooks
  · exact ⟨rfl, rfl⟩
  · obtain ⟨remembered, said⟩ := Hook.before_eq_of_reset_eq hooks ctx
    exact ⟨congrArg Prod.snd said, congrArg some remembered⟩

theorem Alike.answer (a : Alike v s s') (ctx : Context) : s.answer ctx = s'.answer ctx :=
  (a.hooked ctx).1

theorem Alike.afterAsking (a : Alike v s s') (ctx : Context) : Alike v (s.afterAsking ctx) (s'.afterAsking ctx) := by
  have silent (u : Session) : ∀ e ∈ (u.heardBefore ctx).map Event.hook, e.ran? = .none := fun e he => by
    obtain ⟨_, -, rfl⟩ := List.mem_map.mp he
    rfl
  have gist (u : Session) : (u.afterAsking ctx).gist =
      { u.gist with hook := u.hook.map fun h : Hook => (h.before ctx).1.reset } := by
    simp [Session.gist, Session.afterAsking, note, Session.ran, filterMap_silent (silent u), Function.comp_def]
  have ran : (s.afterAsking ctx).ran = s.ran := congrArg Gist.ran (gist s)
  exact {
    here := a.here.of_frame rfl rfl (Nat.le_refl _) a.here.genuine rfl (silent s)
    there := a.there.of_frame rfl rfl (Nat.le_refl _) a.there.genuine rfl (silent s')
    gist := by rw [gist s, gist s', a.gist, (a.hooked ctx).2]
    cursors := a.cursors
    uncached := ⟨a.uncached.cache, a.uncached.setting⟩
    script := a.script
    own := ran ▸ a.own }

theorem Alike.asked (a : Alike v s s') (c : Call) (usual : Option String) (sql : String) (n : Nat) :
    s.asked c usual sql n = s'.asked c usual sql n := by
  have engine : s.config.engine = s'.config.engine := congrArg (fun g => g.config.engine) a.gist
  have database (u : Session) : u.opened.bind (·.database) =
      (u.opened.map fun o => (o.pool, o.database, o.username)).bind (·.2.1) := by
    cases u.opened <;> rfl
  have username (u : Session) : u.opened.bind (·.username) =
      (u.opened.map fun o => (o.pool, o.database, o.username)).bind (·.2.2) := by
    cases u.opened <;> rfl
  simp only [Session.asked, contextOf, engine, database, username, a.opened]

theorem Alike.isOpen (a : Alike v s s') : s.isOpen = s'.isOpen := by
  have opened := congrArg (fun g => g.opened.isSome) a.gist
  simpa [Session.gist, Session.isOpen] using opened

theorem matches_begin (a : Alike v s s') {c : Call} (patient : c.patience = .none) {usual : Option String}
    (named : (c.label <|> usual) ≠ some "") (sql : String) (n : Nat)
    (own : ∀ ctx p, s.answered (s.asked c usual sql n) = .ok ctx → p.sql = ctx.execSql →
      Server.preparing v.script p.sql = .ok p → v.may p) :
    Matches v (SameBegun v) (s.begin c usual sql n) (s'.begin c usual sql n) := by
  have asked := a.asked c usual sql n
  have answer := a.answer (s.asked c usual sql n)
  have noted := a.afterAsking (s.asked c usual sql n)
  have hooked : s.askHook (s.contextOf (c.label <|> usual) sql n) = _ := askHook_eq s (s.asked c usual sql n)
  have hooked' : s'.askHook (s'.contextOf (c.label <|> usual) sql n) = _ :=
    askHook_eq s' (s'.asked c usual sql n)
  rw [← asked] at hooked'
  simp only [begin, a.isOpen]
  by_cases lacks : (c.transaction.isNone && !s'.isOpen) = true
  · rw [if_pos lacks, if_pos lacks]
    exact .failed (a.quietly (quietly_finish s c.callback) (quietly_finish s' c.callback))
  · rw [if_neg lacks, if_neg lacks]
    simp only [hooked, hooked', ← answer]
    cases e : (s.answer (s.asked c usual sql n)).apply (s.asked c usual sql n) with
    | error reason => exact .failed (noted.quietly (quietly_finish _ _) (quietly_finish _ _))
    | ok ctx =>
      have m := matches_prepareStage noted (show (s.limitsOf c).patience = .none from patient)
        (show (s'.limitsOf c).patience = .none from patient) c named ctx.execSql
      simp only
      generalize Session.prepareStage _ c (s.limitsOf c) _ ctx.execSql = x at m ⊢
      generalize Session.prepareStage _ c (s'.limitsOf c) _ ctx.execSql = x' at m ⊢
      cases m with
      | limited limit => exact .limited limit
      | cut cut => exact .cut cut
      | failed b => exact .failed (b.report _ _ _ _ _ _)
      | done ready =>
        have given := ready.plan.given
        rw [ready.alike.script] at given
        exact .done ⟨ready.text ▸ ready, own ctx _ e ready.text given, patient, patient⟩

theorem matches_execute (a : Alike v s s') {c : Call} (patient : c.patience = .none)
    {usual : Option String} (named : (c.label <|> usual) ≠ some "") (sql : String) (values : List Param)
    (own : ∀ ctx p, s.answered (s.asked c usual sql values.length) = .ok ctx → p.sql = ctx.execSql →
      Server.preparing v.script p.sql = .ok p → v.may p) :
    Matches v (fun n t n' t' => Alike v t t' ∧ n = n') (s.execute c usual sql values)
      (s'.execute c usual sql values) := by
  have m := matches_begin a patient named sql values.length own
  simp only [execute_eq]
  generalize s.begin c usual sql values.length = x at m ⊢
  generalize s'.begin c usual sql values.length = x' at m ⊢
  cases m with
  | limited limit => exact .limited limit
  | cut cut => exact .cut cut
  | failed b => exact .failed b
  | done begun => exact matches_executeReady begun values

theorem Settled.tickets_runStage {held : List Cursor} (h : Settled held s)
    (patient : b.run.limits.patience = .none) {values : List Param} {feed : Feed}
    (ran : s.runStage b values = (.ok feed, t)) : t.server.tickets = s.server.tickets + 1 := by
  simp only [runStage] at ran
  split at ran
  · simp at ran
  · simp only [run] at ran
    cases bound : bindValues b.ready.statement values with
    | error fault => simp [bound, callerResult] at ran
    | ok raw =>
      have asked := h.asked patient b.ready.link (.run b.ready.statement raw)
      simp only [bound] at ran
      generalize s.ask b.run.limits b.ready.link (.run b.ready.statement raw) = x at asked ran
      cases asked with
      | closed _ => simp [callerResult] at ran
      | stalled _ _ _ | limited _ => simp at ran
      | @answered start now _ _ _ _ =>
        generalize (s.server.carry (b.ready.link - 1 + 1) start
          (.run b.ready.statement raw)).1.answer.content = content at ran
        cases content with
        | error fault => simp [callerResult] at ran
        | ok content =>
          cases content with
          | ready | prepared p => simp [callerResult] at ran
          | feed f =>
            simp only [callerResult, Prod.mk.injEq] at ran
            exact ran.2 ▸ rfl

def blockedBy (s : Session) (held : List Cursor) : Session :=
  { s with blocked := held.filterMap Cursor.block? }

theorem Settled.openCursor_eq {held : List Cursor} (h : Settled held t) (feed : Feed) (b : Begun) :
    t.openCursor feed b = (.ok ⟨t.server.tickets, feed, b⟩,
      t.blockedBy (⟨t.server.tickets, feed, b⟩ :: held)) := by
  simp only [openCursor, blockedBy, List.filterMap_cons, Cursor.block?, ← h.blocked]
  cases feed.isBlocking <;> rfl

theorem Settled.opened {held : List Cursor} (h : Settled held t) (feed : Feed)
    (patient : b.run.limits.patience = .none) (new : ∀ c ∈ held, c.number < t.server.tickets) :
    Settled (⟨t.server.tickets, feed, b⟩ :: held)
      (t.blockedBy (⟨t.server.tickets, feed, b⟩ :: held)) where
  idle := h.idle
  shut := h.shut
  steady := h.steady
  genuine := fun c hc p hp => (h.genuine c hc p hp).later (List.append_nil _).symm rfl
  founded := h.founded
  blocked := rfl
  numbered := fun c hc => by
    rcases List.mem_cons.mp hc with rfl | hc
    · exact Nat.le_refl _
    · exact h.numbered c hc
  distinct := by
    refine List.nodup_cons.mpr ⟨fun there => ?_, h.distinct⟩
    obtain ⟨c, hc, same⟩ := List.mem_map.mp there
    exact Nat.lt_irrefl _ (same ▸ new c hc)
  patient := fun c hc => by
    rcases List.mem_cons.mp hc with rfl | hc
    · exact patient
    · exact h.patient c hc

theorem matches_queryReady (h : SameBegun v b s b' s') (values : List Param) :
    Matches v (fun c t c' t' => Alike (v.push c c') t t') (s.queryReady b values)
      (s'.queryReady b' values) := by
  have m := matches_runStage h values
  have a := h.ready.alike
  simp only [queryReady]
  generalize e : s.runStage b values = x at m ⊢
  generalize e' : s'.runStage b' values = x' at m ⊢
  cases m with
  | limited limit => exact .limited limit
  | cut cut => exact .cut cut
  | failed k => exact .failed ((k.report _ _ _ _ _ _).releaseReady h.ready.link h.ready.isPooled)
  | @done feed feed' t t' same =>
    obtain ⟨k, timeless⟩ := same
    have next := a.here.tickets_runStage h.patient e
    have next' := a.there.tickets_runStage h.patient' e'
    simp only [k.here.openCursor_eq, k.there.openCursor_eq]
    exact .done
      { here := k.here.opened feed h.patient fun c hc => by
          have := a.here.numbered c hc
          omega
        there := k.there.opened feed' h.patient' fun c hc => by
          have := a.there.numbered c hc
          omega
        gist := k.gist
        cursors := by
          simp only [View.push, List.map_cons, k.cursors, Cursor.gist, timeless, h.ready.link,
            h.ready.isPooled]
        uncached := ⟨k.uncached.cache, k.uncached.setting⟩
        script := k.script
        own := k.own }

theorem matches_query (a : Alike v s s') {c : Call} (patient : c.patience = .none)
    {usual : Option String} (named : (c.label <|> usual) ≠ some "") (sql : String) (values : List Param)
    (own : ∀ ctx p, s.answered (s.asked c usual sql values.length) = .ok ctx → p.sql = ctx.execSql →
      Server.preparing v.script p.sql = .ok p → v.may p) :
    Matches v (fun c t c' t' => Alike (v.push c c') t t') (s.query c usual sql values)
      (s'.query c usual sql values) := by
  have m := matches_begin a patient named sql values.length own
  simp only [query_eq]
  generalize s.begin c usual sql values.length = x at m ⊢
  generalize s'.begin c usual sql values.length = x' at m ⊢
  cases m with
  | limited limit => exact .limited limit
  | cut cut => exact .cut cut
  | failed b => exact .failed b
  | done begun => exact matches_queryReady begun values

theorem blocks_eraseIdx {held : List Cursor} {k : Nat} {c : Cursor} (there : held[k]? = some c)
    (distinct : (held.map (·.number)).Nodup) :
    (held.filterMap Cursor.block?).filter (·.1 != c.number) =
      (held.eraseIdx k).filterMap Cursor.block? := by
  induction held generalizing k with
  | nil => simp at there
  | cons d rest ih =>
    obtain ⟨new, others⟩ := List.nodup_cons.mp distinct
    cases k with
    | zero =>
      obtain rfl : d = c := by simpa using there
      have kept : (rest.filterMap Cursor.block?).filter (·.1 != d.number) =
          rest.filterMap Cursor.block? := by
        refine List.filter_eq_self.mpr fun e he => ?_
        obtain ⟨m, hm, block⟩ := List.mem_filterMap.mp he
        have number : e.1 = m.number := by
          simp only [Cursor.block?, Option.ite_none_right_eq_some, Option.some.injEq] at block
          exact block.2 ▸ rfl
        have different : m.number ≠ d.number := fun same => new (List.mem_map.mpr ⟨m, hm, same⟩)
        simpa [number] using different
      cases blocking : d.feed.isBlocking <;> simp [Cursor.block?, blocking, kept]
    | succ k =>
      have later : rest[k]? = some c := by simpa using there
      have different : d.number ≠ c.number := fun same =>
        new (List.mem_map.mpr ⟨c, List.mem_of_getElem? later, same.symm⟩)
      have rest := ih later others
      cases blocking : d.feed.isBlocking <;> simp [Cursor.block?, blocking, rest, different]

theorem Settled.unblock {held : List Cursor} (h : Settled held s) {k : Nat} {c : Cursor}
    (there : held[k]? = some c) : Settled (held.eraseIdx k) (s.unblock c) where
  idle := h.idle
  shut := h.shut
  steady := h.steady
  genuine := fun d hd p hp => (h.genuine d hd p hp).later (List.append_nil _).symm rfl
  founded := h.founded
  blocked := by
    rw [Session.unblock, h.blocked]
    exact blocks_eraseIdx there h.distinct
  numbered := fun d hd => h.numbered d (List.mem_of_mem_eraseIdx hd)
  distinct := h.distinct.sublist ((List.eraseIdx_sublist _ _).map _)
  patient := fun d hd => h.patient d (List.mem_of_mem_eraseIdx hd)

variable {c c' : Cursor} {k : Nat}

theorem Alike.unblock (a : Alike v s s') (there : v.held[k]? = some c)
    (there' : v.held'[k]? = some c') : Alike (v.drop k) (s.unblock c) (s'.unblock c') where
  here := a.here.unblock there
  there := a.there.unblock there'
  gist := a.gist
  cursors := by
    simp only [View.drop, ← List.eraseIdx_map, a.cursors]
  uncached := ⟨a.uncached.cache, a.uncached.setting⟩
  script := a.script
  own := a.own

theorem Alike.cursor (a : Alike v s s') (there : v.held[k]? = some c)
    (there' : v.held'[k]? = some c') : c.gist = c'.gist := by
  have same := congrArg (·[k]?) a.cursors
  simpa [there, there'] using same

theorem agrees_consume {σ : Type} (a : Alike v s s') (there : v.held[k]? = some c)
    (there' : v.held'[k]? = some c') (reader : Reader σ) (state : σ) :
    Agrees (fun r : σ × Except Halt Nat => haltOf r.2) (v.drop k) (s.consume c reader state)
      (s'.consume c' reader state) := by
  have gists := a.cursor there there'
  simp only [Cursor.gist, Prod.mk.injEq] at gists
  obtain ⟨timeless, link, isPooled⟩ := gists
  have patient := a.here.patient c (List.mem_of_getElem? there)
  have patient' := a.there.patient c' (List.mem_of_getElem? there')
  have free := a.unblock there there'
  simp only [consume_eq]
  generalize read : s.reading c reader state = r
  generalize read' : s'.reading c' reader state = r'
  rcases s'.reading_cases patient' reader state with ⟨h, result, limit⟩ | whole'
  · rw [read'] at result
    exact .cut (h := h) (by simp only [result, Except.map, haltOf]) (Halt.isCut_of_isLimit limit)
  rcases s.reading_cases patient reader state with ⟨h, result, limit⟩ | whole
  · rw [read] at result
    exact .limited (h := h) (by simp only [result, Except.map, haltOf]) limit
  · have same : r.gist = r'.gist := by
      rw [← read, ← read', whole, whole', Feed.readWhole_timeless timeless]
    simp only [Reading.gist, Prod.mk.injEq] at same
    obtain ⟨state, seen, result⟩ := same
    rw [state, seen, result]
    have ended := free.quietly (quietly_advance free.here.idle r.time)
      (quietly_advance free.there.idle r'.time)
    exact .same ((ended.report _ _ _ _ _ _).releaseReady link isPooled)

theorem Alike.discard (a : Alike v s s') (there : v.held[k]? = some c)
    (there' : v.held'[k]? = some c') : Alike (v.drop k) (s.discard c) (s'.discard c') := by
  have gists := a.cursor there there'
  simp only [Cursor.gist, Prod.mk.injEq] at gists
  obtain ⟨-, link, isPooled⟩ := gists
  exact ((a.unblock there there').quietly (quietly_finish _ _) (quietly_finish _ _)).releaseReady link
    isPooled

end Session

end RowMapper
