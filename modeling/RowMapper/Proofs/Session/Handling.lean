import Mathlib.Logic.Relation
import RowMapper.Proofs.Session.Caching
import RowMapper.Proofs.Session.Lending

/-!
What calls do with an open connection, as far as they can get at it: they take connections from its pool and give
them back, and they look up, keep and give up labels. No call but an opening or a closing puts another connection in
its place.
-/
namespace RowMapper

open Relation (ReflTransGen)

namespace Opened

/-- What a call does, without a wait, with the pool and the cache that it holds. -/
inductive Touch (o : Opened) : Opened → Prop where
  | checkout (isClosed : Nat → Bool) : Touch o { o with pool := (o.pool.checkout isClosed).2 }
  | takeIn (link : Nat) : Touch o { o with pool := o.pool.takeIn link }
  | giveBack (link : Nat) : Touch o { o with pool := o.pool.giveBack link }
  | seek {c : StatementCache} (link : Nat) (label sql : String) : o.cache = some c →
    Touch o { o with cache := some (c.seek link label sql).2 }
  | settle {c : StatementCache} (link : Nat) (label : String) (sought : StatementCache.Sought)
    (answer : Except ClientFault Prepared) : o.cache = some c →
      Touch o { o with cache := some (c.settle link label sought answer) }
  | invalidate {c : StatementCache} (label : String) : o.cache = some c →
    Touch o { o with cache := some (c.invalidate label).2 }
  | clear : Touch o { o with cache := o.cache.map StatementCache.close }

theorem Touch.generation {o o' : Opened} (h : Touch o o') : o'.generation = o.generation := by
  cases h <;> rfl

end Opened

namespace Session

structure Handled (s t : Session) : Prop where
  config : t.config = s.config
  openings : t.openings = s.openings
  opened : Option.Rel (ReflTransGen Opened.Touch) s.opened t.opened

variable {s t u : Session}

theorem handled_of_opened (config : t.config = s.config) (openings : t.openings = s.openings)
    (opened : t.opened = s.opened) : Handled s t := by
  refine ⟨config, openings, ?_⟩
  rw [opened]
  cases s.opened with
  | none => exact .none
  | some o => exact .some .refl

theorem Handled.refl (s : Session) : Handled s s := handled_of_opened rfl rfl rfl

theorem Handled.trans (h : Handled s t) (k : Handled t u) : Handled s u := by
  have linked {a b c : Option Opened} (first : Option.Rel (ReflTransGen Opened.Touch) a b)
      (second : Option.Rel (ReflTransGen Opened.Touch) b c) : Option.Rel (ReflTransGen Opened.Touch) a c := by
    cases first with
    | none => exact second
    | some one =>
      cases second with
      | some two => exact .some (one.trans two)
  exact ⟨k.config.trans h.config, k.openings.trans h.openings, linked h.opened k.opened⟩

theorem handled_touch {f : Opened → Opened} (touch : ∀ o, s.opened = some o → o.Touch (f o)) :
    Handled s (s.updateOpened f) := by
  refine ⟨rfl, rfl, ?_⟩
  simp only [updateOpened]
  cases ho : s.opened with
  | none => exact .none
  | some o => exact .some (.single (touch o ho))

theorem Waited.opened (w : Waited s t) (pooling : t.pooling = s.pooling) : t.opened = s.opened := by
  have shared := w.shared
  have pool : t.opened.map (·.pool) = s.opened.map (·.pool) := congrArg Prod.snd pooling
  simp only [Session.shared] at shared
  cases hs : s.opened with
  | none =>
    rw [hs] at pool
    exact Option.map_eq_none_iff.mp pool
  | some o =>
    cases ht : t.opened with
    | none => simp [hs, ht] at pool
    | some o' =>
      obtain ⟨generation, pool', cache, database, username⟩ := o
      obtain ⟨generation', pool'', cache', database', username'⟩ := o'
      simp only [hs, ht, Option.map_some, Option.some.injEq, Prod.mk.injEq] at shared pool
      obtain ⟨rfl, rfl, rfl, rfl⟩ := shared
      rw [pool]

theorem Waited.handled (w : Waited s t) (pooling : t.pooling = s.pooling) : Handled s t :=
  handled_of_opened w.config (congrArg Prod.fst pooling) (w.opened pooling)

theorem handled_note (s : Session) (events : List Event) : Handled s (s.note events) := handled_of_opened rfl rfl rfl

theorem handled_finish (s : Session) (callback : Option Nat) : Handled s (s.finish callback) := handled_note s _

theorem handled_advance (s : Session) (t : Instant) : Handled s (s.advance t) := handled_of_opened rfl rfl rfl

theorem handled_connect (s : Session) (l : Limits) : Handled s (s.connect l).2 :=
  (waited_connect s l).handled (connect_pooling l s).1

theorem handled_release (s : Session) (link : Nat) : Handled s (s.release link) :=
  handled_touch fun _ _ => .giveBack link

theorem handled_releaseReady (s : Session) (r : Ready) : Handled s (s.releaseReady r) := by
  simp only [releaseReady]
  split
  · exact handled_release s r.link
  · exact .refl s

theorem handled_checkout (s : Session) (l : Limits) : Handled s (s.checkout l).2 := by
  simp only [checkout]
  split
  · exact .refl s
  · rename_i o ho
    have taken (pool : Pool) (found : (o.pool.checkout (s.server.isClosed s.now)).2 = pool) :
        Handled s (s.setPool pool) :=
      handled_touch fun o' there => by
        obtain rfl : o = o' := Option.some.inj (ho.symm.trans there)
        exact found ▸ .checkout _
    split <;> rename_i found
    · exact taken _ (congrArg Prod.snd found)
    · exact (waited_stall s l).handled (abides_stall l s).pooling
    · rename_i pool
      have made := (taken pool (congrArg Prod.snd found)).trans (handled_connect _ l)
      split <;> rename_i e <;> rw [e] at made
      · exact made
      · exact made
      · exact made.trans (handled_touch fun _ _ => .takeIn _)

theorem handled_prepare (s : Session) (l : Limits) (link : Nat) (sql : String) : Handled s (s.prepare l link sql).2 :=
  (waited_prepare s l link sql).handled (abides_prepare l s link sql).pooling

theorem handled_prepareFresh (s : Session) (l : Limits) (link : Nat) (isPooled : Bool) (source : Source)
    (sql : String) : Handled s (s.prepareFresh l link isPooled source sql).2 :=
  (waited_prepareFresh s l link isPooled source sql).handled (abides_prepareFresh l s link isPooled source sql).pooling

/-- What is done with the cache is done on the open connection that has it. -/
theorem handled_setCache {c c' : StatementCache} (cached : s.cache? = some c)
    (touch : ∀ o : Opened, o.cache = some c → o.Touch { o with cache := some c' }) : Handled s (s.setCache c') :=
  handled_touch fun o ho => touch o (by rwa [cache?, ho] at cached)

theorem cache?_of_setCache {c c' : StatementCache} (cached : s.cache? = some c) : (s.setCache c').cache? = some c' := by
  rw [cache?_setCache, if_pos]
  cases ho : s.opened with
  | none => simp [cache?, ho] at cached
  | some o => simp [isOpen, ho]

theorem handled_prepareLabeled {c : StatementCache} (cached : s.cache? = some c) (l : Limits)
    (generation link : Nat) (label sql : String) : Handled s (s.prepareLabeled l generation c link label sql).2 := by
  have sought : Handled s (s.setCache (c.seek link label sql).2) :=
    handled_setCache cached fun _ there => .seek link label sql there
  simp only [prepareLabeled]
  split <;> rename_i found <;> rw [found] at sought
  · exact sought
  · rename_i looked c'
    split
    · exact sought
    · have made := sought.trans (handled_prepare _ l link sql)
      have waited := waited_prepare (s.setCache c') l link sql
      split <;> rename_i e <;> rw [e] at made waited
      · exact made
      · have there := waited.cache?.trans (cache?_of_setCache cached)
        exact made.trans (handled_setCache there fun _ here => .settle link label looked _ here)

theorem handled_prepareOn (s : Session) (l : Limits) (label : Option String) (link : Nat) (sql : String) :
    Handled s (s.prepareOn l label link sql).2 := by
  simp only [prepareOn]
  split
  · rename_i o ho
    split
    · rename_i c hc
      exact handled_prepareLabeled (by simp [cache?, ho, hc]) l _ link _ sql
    · exact handled_prepareFresh s l link true .bypass sql
  · exact handled_prepareFresh s l link true .bypass sql

theorem handled_preparePooled (s : Session) (l : Limits) (label : Option String) (sql : String) :
    Handled s (s.preparePooled l label sql).2 := by
  have out := handled_checkout s l
  rw [preparePooled_eq]
  split <;> rename_i e <;> rw [e] at out
  · exact out
  · rename_i link t
    have prepared := out.trans (handled_prepareOn t l label link sql)
    generalize t.prepareOn l label link sql = x at prepared
    obtain ⟨_ | ready, u⟩ := x
    · exact prepared.trans (handled_release u link)
    · exact prepared

theorem handled_prepareStage (s : Session) (c : Call) (l : Limits) (label : Option String) (sql : String) :
    Handled s (s.prepareStage c l label sql).2 := by
  simp only [prepareStage]
  split
  · exact .refl s
  · split
    · exact handled_prepareFresh s l _ false .transaction sql
    · exact handled_preparePooled s l label sql

theorem handled_invalidate (s : Session) (label : String) : Handled s (s.invalidate label).2 := by
  cases cached : s.cache with
  | error e => simpa only [invalidate, cached] using Handled.refl s
  | ok c =>
    simp only [invalidate, cached]
    exact (handled_setCache (cache_eq_ok.mp cached) fun _ there => .invalidate label there).trans (handled_note _ _)

theorem handled_dropStale (s : Session) (cached : Option (Nat × String)) (e : Error) :
    Handled s (s.dropStale cached e) := by
  simp only [dropStale]
  split
  · exact .refl s
  · split
    · exact handled_invalidate s _
    · exact .refl s

theorem handled_complete (s : Session) (r : Run) (outcome : Outcome) : Handled s (s.complete r outcome) := by
  simp only [complete]
  split <;> exact handled_of_opened rfl rfl rfl

theorem handled_report {α : Type} (s : Session) (r : Run) (summary : α → Outcome) (result : Except Halt α) :
    Handled s (s.report r summary result) := by
  simp only [report]
  split
  · exact handled_complete s r _
  · exact (handled_dropStale s r.cached _).trans (handled_complete _ r _)
  · exact handled_finish s _

theorem handled_begin (s : Session) (c : Call) (usual : Option String) (sql : String) (n : Nat) :
    Handled s (s.begin c usual sql n).2 := by
  have begun := begin_begins s c usual sql n
  generalize s.begin c usual sql n = x at begun
  have asked {ctx : Context} {answer : Except String Context} {u : Session}
      (e : s.askHook ctx = (answer, u)) : Handled s u := by
    rw [askHook_eq] at e
    exact (Prod.mk.inj e).2 ▸ handled_of_opened rfl rfl rfl
  have staged {u v : Session} {l : Limits} {label : Option String} {sql : String} {answer : Except Halt Ready}
      (e : u.prepareStage c l label sql = (answer, v)) : Handled u v := by
    have h := handled_prepareStage u c l label sql
    rwa [e] at h
  cases begun with
  | closed => exact handled_finish s _
  | aborted _ e => exact (asked e).trans (handled_finish _ _)
  | failed _ e e' => exact ((asked e).trans (staged e')).trans (handled_report _ _ _ _)
  | ready _ e e' => exact (asked e).trans (staged e')

theorem handled_executeReady (s : Session) (b : Begun) (values : List Param) : Handled s (s.executeReady b values).2 :=
  (((waited_executeStage s b values).handled (abides_executeStage s b values).pooling).trans
    (handled_report _ b.run .affected _)).trans (handled_releaseReady _ b.ready)

theorem handled_queryReady (s : Session) (b : Begun) (values : List Param) : Handled s (s.queryReady b values).2 := by
  have ran := (waited_runStage s b values).handled (abides_runStage s b values).pooling
  simp only [queryReady]
  split <;> rename_i e <;> rw [e] at ran
  · rename_i feed t
    exact ran.trans ((waited_openCursor t feed b).handled (abides_openCursor b.run.limits t feed b).pooling)
  · exact (ran.trans (handled_report _ _ _ _)).trans (handled_releaseReady _ _)

theorem handled_execute (s : Session) (c : Call) (usual : Option String) (sql : String) (values : List Param) :
    Handled s (s.execute c usual sql values).2 := by
  have begun := handled_begin s c usual sql values.length
  rw [execute_eq]
  split <;> rename_i e <;> rw [e] at begun
  · exact begun
  · exact begun.trans (handled_executeReady _ _ values)

theorem handled_query (s : Session) (c : Call) (usual : Option String) (sql : String) (values : List Param) :
    Handled s (s.query c usual sql values).2 := by
  have begun := handled_begin s c usual sql values.length
  rw [query_eq]
  split <;> rename_i e <;> rw [e] at begun
  · exact begun
  · exact begun.trans (handled_queryReady _ _ values)

theorem handled_consume {σ : Type} (s : Session) (c : Cursor) (reader : Reader σ) (state : σ) :
    Handled s (s.consume c reader state).2 :=
  (((handled_of_opened rfl rfl rfl : Handled s (s.unblock c)).trans (handled_advance _ _)).trans
    (handled_report _ _ _ _)).trans (handled_releaseReady _ c.begun.ready)

theorem handled_discard (s : Session) (c : Cursor) : Handled s (s.discard c) :=
  ((handled_of_opened rfl rfl rfl : Handled s (s.unblock c)).trans (handled_finish _ _)).trans
    (handled_releaseReady _ c.begun.ready)

theorem handled_carryOut (s : Session) (c : Call) (usual : Option String) (sql : String) (values : List Param)
    (u : Use) : Handled s (s.carryOut c usual sql values u).2 := by
  cases u with
  | count => exact carryOut_count s c usual sql values ▸ handled_execute s c usual sql values
  | read reader state =>
    have queried := handled_query s c usual sql values
    rw [carryOut_read]
    split <;> rename_i e <;> rw [e] at queried
    · exact queried
    · exact queried.trans (handled_consume _ _ reader state)
  | drop =>
    have queried := handled_query s c usual sql values
    simp only [carryOut]
    split <;> rename_i e <;> rw [e] at queried
    · exact queried
    · exact queried.trans (handled_discard _ _)

theorem handled_perform (s : Session) (c : Call) (t : MappedType) (o : Operation) : Handled s (s.perform c t o) := by
  rw [perform_eq]
  split
  · exact handled_finish s _
  · exact handled_finish s _
  · exact handled_carryOut s c _ _ _ _

theorem handled_prepareOnly (s : Session) (l : Limits) (label sql : String) :
    Handled s (s.prepareOnly l label sql).2 := by
  have out := handled_checkout s l
  simp only [prepareOnly]
  split
  · rename_i e
    rw [e] at out
    exact out
  · rename_i link u generation _ c _ _ e ho
    have waited := waited_checkout s l
    rw [e] at out waited
    have cached : u.cache? = some c := waited.cache?.trans (by simp [cache?, ho])
    have prepared := out.trans (handled_prepareLabeled cached l generation link label sql)
    split <;> rename_i e' <;> rw [e'] at prepared <;> exact prepared.trans (handled_release _ _)
  · rename_i e _
    rw [e] at out
    exact out.trans (handled_release _ _)

theorem handled_clearCache (s : Session) : Handled s s.clearCache := handled_touch fun _ _ => .clear

theorem handled_beginTransaction (s : Session) (l : Limits) : Handled s (s.beginTransaction l).2 := by
  have made := handled_connect s l
  simp only [beginTransaction]
  split <;> rename_i e <;> rw [e] at made
  · exact made
  · exact made
  · rename_i link u
    have begun := made.trans ((waited_ask u l link .begin).handled (abides_ask l u link .begin).pooling)
    split <;> rename_i e' <;> rw [e'] at begun <;> exact begun

/-- A call that neither opens nor closes handles the open connection and nothing else. -/
theorem Step.handled (step : Step s t) : Handled s t ∨ (∃ l, t = (s.openPool l).2) ∨ t = s.close := by
  cases step with
  | perform _ c t o => exact .inl (handled_perform s c t o)
  | execute _ c usual sql values => exact .inl (handled_execute s c usual sql values)
  | query _ c usual sql values => exact .inl (handled_query s c usual sql values)
  | consume _ c reader state => exact .inl (handled_consume s c reader state)
  | discard _ c => exact .inl (handled_discard s c)
  | prepare _ l label sql => exact .inl (handled_prepareOnly s l label sql)
  | invalidate _ label => exact .inl (handled_invalidate s label)
  | clearCache => exact .inl (handled_clearCache s)
  | beginTransaction _ l => exact .inl (handled_beginTransaction s l)
  | openPool _ l => exact .inr (.inl ⟨l, rfl⟩)
  | close => exact .inr (.inr rfl)
  | sleep _ l d => exact .inl ((waited_pass s l _).handled (abides_pass l s _).pooling)
  | settle => exact .inl (handled_advance s _)

end Session

end RowMapper
