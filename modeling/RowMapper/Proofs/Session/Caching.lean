import RowMapper.Proofs.Cache.Reachable
import RowMapper.Proofs.Session.Beginning
import RowMapper.Proofs.Session.Operations
import RowMapper.Session.Opening

/-!
The statement cache of a session. Whatever calls are made on a session, in any order and with any ends,
its cache goes through calls of its own and nothing else; so what holds of every reachable cache holds
of the caches of every reachable session.
-/
namespace RowMapper.Session

/-- One call on a session. Cursors may be read or dropped at any later time. -/
inductive Step : Session → Session → Prop where
  | perform (s : Session) (c : Call) (t : MappedType) (o : Operation) : Step s (s.perform c t o)
  | execute (s : Session) (c : Call) (usual : Option String) (sql : String) (values : List Param) :
    Step s (s.execute c usual sql values).2
  | query (s : Session) (c : Call) (usual : Option String) (sql : String) (values : List Param) :
    Step s (s.query c usual sql values).2
  | consume {σ : Type} (s : Session) (c : Cursor) (reader : Reader σ) (state : σ) :
    Step s (s.consume c reader state).2
  | discard (s : Session) (c : Cursor) : Step s (s.discard c)
  | prepare (s : Session) (l : Limits) (label sql : String) : Step s (s.prepareOnly l label sql).2
  | invalidate (s : Session) (label : String) : Step s (s.invalidate label).2
  | clearCache (s : Session) : Step s s.clearCache
  | beginTransaction (s : Session) (l : Limits) : Step s (s.beginTransaction l).2
  | openPool (s : Session) (l : Limits) : Step s (s.openPool l).2
  | close (s : Session) : Step s s.close
  | sleep (s : Session) (l : Limits) (d : Duration) : Step s (s.sleep l d).2
  | settle (s : Session) : Step s s.settle

/-- The sessions of a configuration: on any server, with any hook, after any calls. -/
inductive Reachable (config : Config) : Session → Prop where
  | closed (hook : Option Hook) (rules : List Rule) (startups : List StartupStep) :
    Reachable config (.closed config hook (.ofScript rules startups))
  | ofPool (hook : Option Hook) (rules : List Rule) (startups : List StartupStep) :
    Reachable config (.ofPool config hook (.ofScript rules startups))
  | step {s t : Session} : Reachable config s → Step s t → Reachable config t

/-- The settings stay, tickets are given out once, no request is sent ahead of time, and the cache is there
if it is wanted, as one that calls can reach. -/
structure Regular (config : Config) (s : Session) : Prop where
  settings : s.config = config
  ticketed : s.server.Ticketed
  past : s.server.Past s.now
  enabled : config.cacheEnabled = true → s.isOpen = true → ∃ c, s.cache? = some c
  cache : ∀ c, s.cache? = some c → c.Reachable config.cacheCapacity

variable {config : Config} {s t : Session}

theorem Regular.waited (h : s.Regular config) (w : Waited s t) : t.Regular config :=
  ⟨w.config.trans h.settings, w.ticketed h.ticketed, w.past h.past,
    fun on opened => w.cache? ▸ h.enabled on (w.isOpen ▸ opened),
    fun c hc => h.cache c (w.cache? ▸ hc)⟩

theorem Regular.setCache (h : s.Regular config) {c : StatementCache}
    (hc : c.Reachable config.cacheCapacity) : (s.setCache c).Regular config := by
  have opened : (s.setCache c).isOpen = s.isOpen := by
    simp [Session.setCache, updateOpened, isOpen]
  refine ⟨h.settings, h.ticketed, h.past, fun _ there => ⟨c, ?_⟩, fun d hd => ?_⟩
  · rw [cache?_setCache, if_pos (opened ▸ there)]
  · rw [cache?_setCache] at hd
    split at hd
    · exact Option.some.inj hd ▸ hc
    · simp at hd

theorem Regular.note (h : s.Regular config) (events : List Event) : (s.note events).Regular config :=
  ⟨h.settings, h.ticketed, h.past, h.enabled, h.cache⟩

theorem Regular.afterAsking (h : s.Regular config) (ctx : Context) : (s.afterAsking ctx).Regular config :=
  ⟨h.settings, h.ticketed, h.past, h.enabled, h.cache⟩

theorem Regular.finish (h : s.Regular config) (callback : Option Nat) :
    (s.finish callback).Regular config :=
  h.note _

theorem Regular.complete (h : s.Regular config) (r : Run) (outcome : Outcome) :
    (s.complete r outcome).Regular config := by
  simp only [Session.complete]
  split <;> exact ⟨h.settings, h.ticketed, h.past, h.enabled, h.cache⟩

theorem cache_eq_ok {c : StatementCache} : s.cache = .ok c ↔ s.cache? = some c := by
  cases ho : s.opened with
  | none => simp [Session.cache, cache?, ho]
  | some o => cases hc : o.cache <;> simp [Session.cache, cache?, ho, hc]

theorem Regular.invalidate (h : s.Regular config) (label : String) :
    (s.invalidate label).2.Regular config := by
  simp only [Session.invalidate]
  split
  · exact h
  · rename_i c hc
    exact (h.setCache (.turn (h.cache c (cache_eq_ok.mp hc)) (.invalidate c label))).note _

theorem Regular.dropStale (h : s.Regular config) (cached : Option (Nat × String)) (e : Error) :
    (s.dropStale cached e).Regular config := by
  simp only [Session.dropStale]
  split
  · exact h
  · split
    · exact h.invalidate _
    · exact h

theorem Regular.report {α : Type} (h : s.Regular config) (r : Run) (summary : α → Outcome)
    (result : Except Halt α) : (s.report r summary result).Regular config := by
  cases result with
  | ok a => exact h.complete r _
  | error halt =>
    cases halt with
    | error e => exact (h.dropStale r.cached e).complete r _
    | dropped => exact h.finish r.callback

theorem Regular.prepares (h : s.Regular config) {c : StatementCache} (hc : s.cache? = some c)
    {generation link : Nat} {label sql : String} {result : Except Halt Ready × Session}
    (p : Prepares s generation c link label sql result) : result.2.Regular config := by
  have reachable := h.cache c hc
  -- What is set while the statement is on its way to the server is a cache whose call was dropped.
  cases p with
  | unlabeled _ => exact h.setCache reachable
  | reused hs hp => exact h.setCache (.turn reachable (.reuse hs hp))
  | halted hs hp w => exact (h.setCache (.turn reachable (.abandon hs hp))).waited w
  | refused hs hp w =>
    exact ((h.setCache (.turn reachable (.abandon hs hp))).waited w).setCache
      (.turn reachable (.fail _ hs hp))
  | prepared hs hp w hw =>
    exact ((h.setCache (.turn reachable (.abandon hs hp))).waited w).setCache
      (.turn reachable (.keep hs hp (hw h.ticketed).1))

theorem Regular.stages (h : s.Regular config) {pooled : Bool} {label : Option String} {sql : String}
    {result : Except Halt Ready × Session} (p : Stages s pooled label sql result) :
    result.2.Regular config := by
  cases p with
  | waited w _ => exact h.waited w
  | labeled _ w _ hc p v => exact ((h.waited w).prepares hc p).waited v

theorem Regular.begin (h : s.Regular config) (c : Call) (usual : Option String) (sql : String)
    (paramCount : Nat) : (s.begin c usual sql paramCount).2.Regular config := by
  have p := begin_begins s c usual sql paramCount
  generalize s.begin c usual sql paramCount = result at p
  have noted {ctx : Context} {answer : Except String Context} {u : Session}
      (e : s.askHook ctx = (answer, u)) : u.Regular config := by
    rw [askHook_eq] at e
    exact (Prod.mk.inj e).2 ▸ h.afterAsking ctx
  have staged {u v : Session} {l : Limits} {label : Option String} {sql : String}
      {answer : Except Halt Ready} (hu : u.Regular config)
      (e : u.prepareStage c l label sql = (answer, v)) : v.Regular config := by
    have := hu.stages (prepareStage_stages u c l label sql)
    rwa [e] at this
  cases p with
  | closed _ => exact h.finish _
  | aborted _ e => exact (noted e).finish _
  | failed _ e e' => exact (staged (noted e) e').report _ _ _
  | ready _ e e' => exact staged (noted e) e'

theorem Regular.execute (h : s.Regular config) (c : Call) (usual : Option String) (sql : String)
    (values : List Param) : (s.execute c usual sql values).2.Regular config := by
  have begun := h.begin c usual sql values.length
  simp only [Session.execute]
  split <;> rename_i e <;> rw [e] at begun
  · exact begun
  · rename_i b u
    have ran := begun.waited (waited_executeStage u b values)
    exact (ran.report _ _ _).waited (waited_releaseReady _ b.ready)

theorem Regular.query (h : s.Regular config) (c : Call) (usual : Option String) (sql : String)
    (values : List Param) : (s.query c usual sql values).2.Regular config := by
  have begun := h.begin c usual sql values.length
  simp only [Session.query]
  split <;> rename_i e <;> rw [e] at begun
  · exact begun
  · rename_i b u
    have ran := begun.waited (waited_runStage u b values)
    split <;> rename_i e' <;> rw [e'] at ran
    · exact ran.waited (waited_openCursor _ _ b)
    · exact (ran.report _ _ _).waited (waited_releaseReady _ b.ready)

theorem Regular.consume {σ : Type} (h : s.Regular config) (c : Cursor) (reader : Reader σ)
    (state : σ) : (s.consume c reader state).2.Regular config := by
  have read (time : Instant) : ((s.unblock c).advance time).Regular config :=
    (h.waited (waited_unblock s c)).waited (waited_advance _ time)
  exact ((read _).report _ _ _).waited (waited_releaseReady _ c.begun.ready)

theorem Regular.discard (h : s.Regular config) (c : Cursor) : (s.discard c).Regular config :=
  ((h.waited (waited_unblock s c)).finish _).waited (waited_releaseReady _ c.begun.ready)

theorem Regular.carryOut (h : s.Regular config) (c : Call) (usual : Option String) (sql : String)
    (values : List Param) (u : Use) : (s.carryOut c usual sql values u).2.Regular config := by
  cases u with
  | count => exact carryOut_count s c usual sql values ▸ h.execute c usual sql values
  | read reader state =>
    have queried := h.query c usual sql values
    rw [carryOut_read]
    split <;> rename_i e <;> rw [e] at queried
    · exact queried
    · exact queried.consume _ reader state
  | drop =>
    have queried := h.query c usual sql values
    simp only [Session.carryOut]
    split <;> rename_i e <;> rw [e] at queried
    · exact queried
    · exact queried.discard _

theorem Regular.perform (h : s.Regular config) (c : Call) (t : MappedType) (o : Operation) :
    (s.perform c t o).Regular config := by
  rw [perform_eq]
  split
  · exact h.finish _
  · exact h.finish _
  · exact h.carryOut c _ _ _ _

theorem Regular.prepareOnly (h : s.Regular config) (l : Limits) (label sql : String) :
    (s.prepareOnly l label sql).2.Regular config := by
  have w := waited_checkout s l
  have out := h.waited w
  simp only [Session.prepareOnly]
  split
  · rename_i e
    rw [e] at out
    exact out
  · rename_i link u generation _ c _ _ e ho
    rw [e] at out w
    have hc : s.cache? = some c := by simp [cache?, ho]
    have p := out.prepares (w.cache?.trans hc) (prepareLabeled_prepares u l generation c link label sql)
    split <;> rename_i e' <;> rw [e'] at p <;> exact p.waited (waited_release _ _)
  · rename_i e _
    rw [e] at out
    exact out.waited (waited_release _ _)

theorem Regular.clearCache (h : s.Regular config) : s.clearCache.Regular config := by
  have emptied : s.clearCache.cache? = s.cache?.map StatementCache.close := by
    simp only [cache?, Session.clearCache, updateOpened]
    cases s.opened <;> rfl
  have opened : s.clearCache.isOpen = s.isOpen := by simp [Session.clearCache, updateOpened, isOpen]
  refine ⟨h.settings, h.ticketed, h.past, ?_, ?_⟩
  · intro on there
    obtain ⟨c, hc⟩ := h.enabled on (opened ▸ there)
    exact ⟨c.close, by rw [emptied, hc, Option.map_some]⟩
  · intro c hc
    rw [emptied, Option.map_eq_some_iff] at hc
    obtain ⟨d, hd, rfl⟩ := hc
    exact .turn (h.cache d hd) (.close d)

theorem Regular.close (h : s.Regular config) : s.close.Regular config := by
  simp only [Session.close]
  split
  · exact h
  · exact ⟨h.settings, h.ticketed, h.past, by simp [isOpen, Session.note],
      by simp [cache?, Session.note]⟩

theorem Regular.install (h : s.Regular config) (max : Nat) (dsn : Dsn) :
    (s.install max dsn).Regular config := by
  refine ⟨h.settings, h.ticketed, h.past, ?_, ?_⟩
  · intro on _
    exact ⟨.empty s.config.cacheCapacity, by simp [cache?, Session.install, h.settings, on]⟩
  · intro c hc
    simp only [cache?, Session.install, Option.bind_some, Option.ite_none_right_eq_some,
      Option.some.injEq] at hc
    exact hc.2 ▸ h.settings ▸ .empty

theorem Regular.openPool (h : s.Regular config) (l : Limits) :
    (s.openPool l).2.Regular config := by
  simp only [Session.openPool]
  split
  · exact h
  · rename_i dsn _
    have connected := h.waited (waited_connect s l)
    split <;> rename_i e <;> rw [e] at connected
    · exact connected
    · exact connected
    · rename_i link u
      have greeted := connected.waited (waited_greet u l link)
      split <;> rename_i e' <;> rw [e'] at greeted
      · exact greeted
      · exact ((greeted.note _).install _ dsn).waited (waited_updatePool _ _)

theorem Regular.step (h : s.Regular config) (step : Step s t) : t.Regular config := by
  cases step with
  | perform _ c t o => exact h.perform c t o
  | execute _ c usual sql values => exact h.execute c usual sql values
  | query _ c usual sql values => exact h.query c usual sql values
  | consume _ c reader state => exact h.consume c reader state
  | discard _ c => exact h.discard c
  | prepare _ l label sql => exact h.prepareOnly l label sql
  | invalidate _ label => exact h.invalidate label
  | clearCache => exact h.clearCache
  | beginTransaction _ l => exact h.waited (waited_beginTransaction s l)
  | openPool _ l => exact h.openPool l
  | close => exact h.close
  | sleep _ l d => exact h.waited (waited_pass s l _)
  | settle => exact h.waited (waited_advance s _)

theorem regular_closed (config : Config) (hook : Option Hook) (rules : List Rule)
    (startups : List StartupStep) :
    (Session.closed config hook (.ofScript rules startups)).Regular config :=
  ⟨rfl, Server.ticketed_ofScript rules startups, Server.past_ofScript rules startups _,
    by simp [isOpen, Session.closed], by simp [cache?, Session.closed]⟩

theorem regular_of_reachable (h : Reachable config s) : s.Regular config := by
  induction h with
  | closed hook rules startups => exact regular_closed config hook rules startups
  | ofPool hook rules startups => exact (regular_closed config hook rules startups).install _ _
  | step _ st ih => exact ih.step st

/-- With the cache unbounded or with room for one label at least, every plan on a connection has a
label, the labels keep to the capacity, and a connection has no more plans than there are labels. -/
theorem plans_labeled (room : config.cacheCapacity ≠ some 0) (h : Reachable config s)
    {c : StatementCache} (hc : s.cache? = some c) :
    (∀ p ∈ c.plans, ∃ label, (label, p.prepared.sql) ∈ c.labels.entries) ∧
      (c.labels.entries.map (·.1)).Nodup ∧ c.labels.capacity = config.cacheCapacity ∧
      (∀ n, config.cacheCapacity = some n → c.labels.entries.length ≤ n) ∧
      ∀ link, (c.textsOn link).Nodup ∧ (c.textsOn link).length ≤ c.labels.entries.length ∧
        ∀ n, config.cacheCapacity = some n → (c.textsOn link).length ≤ n := by
  have reachable := (regular_of_reachable h).cache c hc
  have tidy := StatementCache.tidy_of_reachable reachable
  have covered := StatementCache.covered_of_reachable room reachable
  refine ⟨?_, tidy.distinct, tidy.limit, tidy.fits, ?_⟩
  · intro p hp
    obtain ⟨e, he, text⟩ := covered p hp
    exact ⟨e.1, text ▸ he⟩
  · intro link
    have few := StatementCache.length_textsOn_le tidy covered link
    exact ⟨tidy.once link, few, fun n hn => Nat.le_trans few (tidy.fits n hn)⟩

def selection (runs : List RunStep) : Rule :=
  ⟨"SELECT", false, .fixed [], [("v", .int8)], [], runs⟩

def twoLabels (runs : List RunStep) : Session :=
  .ofPool (Config.initial.set (.capacity 2)) Option.none (.ofScript [selection runs] [])

def afterPrepare (s : Session) (label sql : String) : Session :=
  (s.prepareOnly (.patient Option.none) label sql).2

/-- The label "a" made room for "c"; "b" has the text that "a" had. -/
theorem plans_labeled_after_eviction :
    ∃ c, ((((twoLabels []).afterPrepare "a" "SELECT 1").afterPrepare "b" "SELECT 1").afterPrepare
        "c" "SELECT 2").cache? = some c ∧
      c.labels.entries = [("b", "SELECT 1"), ("c", "SELECT 2")] ∧
      c.plans.map (·.prepared.sql) = ["SELECT 2"] ∧
      (∀ p ∈ c.plans, ∃ label, (label, p.prepared.sql) ∈ c.labels.entries) ∧
      ∀ link, (c.textsOn link).length ≤ 2 := by
  have start : Reachable (Config.initial.set (.capacity 2)) (twoLabels []) := .ofPool _ _ _
  have h := ((start.step (.prepare _ (.patient Option.none) "a" "SELECT 1")).step
    (.prepare _ (.patient Option.none) "b" "SELECT 1")).step
    (.prepare _ (.patient Option.none) "c" "SELECT 2")
  have all := plans_labeled (by decide) h rfl
  exact ⟨_, rfl, by decide, by decide, all.1, fun link => (all.2.2.2.2 link).2.2 2 rfl⟩

end RowMapper.Session
