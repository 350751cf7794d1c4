import RowMapper.Proofs.Session.Siblings
import RowMapper.Proofs.Session.StalePlans

/-!
Callers inside transactions and callers that use the pool, on one session. What the first ones do touches nothing
that is open, and comes to the same whether anything is open or not. So what the others find in the pool and the
cache, and what they leave there, is what it would be without them.
-/
namespace RowMapper

/-- Something that is done on a session. Cursors are read or dropped at any later time. -/
inductive Deed : Type 1 where
  | invoke (c : Call) (i : Invocation)
  | query (c : Call) (usual : Option String) (sql : String) (values : List Param)
  | read {σ : Type} (k : Cursor) (reader : Reader σ) (state : σ)
  | drop (k : Cursor)
  | prepare (l : Limits) (label sql : String)
  | invalidate (label : String)
  | clearCache
  | beginTransaction (l : Limits)
  | openPool (l : Limits)
  | close

inductive Yield : Type 1 where
  | returned (r : Returned)
  | cursor (result : Except Halt Cursor)
  | prepared (result : Except Halt (Bool × Prepared))

/-- A cursor whose names are others is the same to its reader. -/
def Yield.unnamed : Yield → Yield
  | .cursor result => .cursor (result.map Cursor.unnamed)
  | y => y

def Begun.isInside (b : Begun) : Bool :=
  !b.ready.isPooled && b.ready.source == .transaction && b.ready.cached.isNone && b.run.cached.isNone

theorem Begun.isInside_iff {b : Begun} : b.isInside = true ↔ b.Inside b.ready.link := by
  simp only [isInside, Bool.and_eq_true, Bool.not_eq_eq_eq_not, Bool.not_true, beq_iff_eq, Option.isNone_iff_eq_none]
  exact ⟨fun ⟨⟨⟨lent, source⟩, unkept⟩, unlabeled⟩ => ⟨rfl, lent, source, unkept, unlabeled⟩,
    fun h => ⟨⟨⟨h.lent, h.source⟩, h.unkept⟩, h.unlabeled⟩⟩

namespace Deed

def run (s : Session) : Deed → Yield × Session
  | invoke c i => (.returned (s.outcome c i).1, (s.outcome c i).2)
  | query c usual sql values => (.cursor (s.query c usual sql values).1, (s.query c usual sql values).2)
  | read k reader state =>
    let ((state, result), s) := s.consume k reader state
    (.returned (.state state result), s)
  | drop k => (.returned .nothing, s.discard k)
  | prepare l label sql => (.prepared (s.prepareOnly l label sql).1, (s.prepareOnly l label sql).2)
  | invalidate label => (.returned (.flag (.ok (s.invalidate label).1)), (s.invalidate label).2)
  | clearCache => (.returned .nothing, s.clearCache)
  | beginTransaction l => (.returned (.count (s.beginTransaction l).1), (s.beginTransaction l).2)
  | openPool l => (.returned (.done (s.openPool l).1), (s.openPool l).2)
  | close => (.returned .nothing, s.close)

def isInside : Deed → Bool
  | invoke c _ | query c _ _ _ => c.transaction.isSome
  | read k _ _ | drop k => k.begun.isInside
  | _ => false

def unnamed : Deed → Deed
  | read k reader state => read k.unnamed reader state
  | drop k => drop k.unnamed
  | d => d

def shown? (s : Session) : Deed → Option Context
  | invoke c i => i.planned?.map fun p => s.asked c p.usual p.sql p.values.length
  | query c usual sql values => some (s.asked c usual sql values.length)
  | _ => none

variable {s s' : Session} {d d' : Deed}

theorem aside_run (inside : d.isInside = true) (s : Session) : s.Aside (d.run s).2 := by
  cases d with
  | invoke c i =>
    obtain ⟨link, inside⟩ := Option.isSome_iff_exists.mp inside
    exact Session.aside_outcome inside s i
  | query c usual sql values =>
    obtain ⟨link, inside⟩ := Option.isSome_iff_exists.mp inside
    exact Session.aside_query inside s usual sql values
  | read k reader state => exact Session.aside_consume (Begun.isInside_iff.mp inside) s reader state
  | drop k => exact Session.aside_discard (Begun.isInside_iff.mp inside) s
  | _ => cases inside

theorem siblings_run (inside : d.isInside = true) (same : d'.unnamed = d.unnamed) (h : s.Sibling s')
    (alike : ∀ ctx ctx', d.shown? s = some ctx → d'.shown? s' = some ctx' → s.HearsAlike ctx ctx') :
    Session.Siblings Yield.unnamed (d.run s) (d'.run s') := by
  cases d with
  | invoke c i =>
    obtain ⟨link, within⟩ := Option.isSome_iff_exists.mp inside
    cases d' with
    | invoke c' i' =>
      obtain ⟨rfl, rfl⟩ := Deed.invoke.inj same
      have ended := Session.siblings_outcome within h i' fun p planned =>
        alike _ _ (by simp only [shown?, planned, Option.map_some]) (by simp only [shown?, planned, Option.map_some])
      exact ⟨congrArg (fun r => Yield.unnamed (.returned r)) ended.result, ended.after⟩
    | _ => cases same
  | query c usual sql values =>
    obtain ⟨link, within⟩ := Option.isSome_iff_exists.mp inside
    cases d' with
    | query c' usual' sql' values' =>
      obtain ⟨rfl, rfl, rfl, rfl⟩ := Deed.query.inj same
      have ended := Session.siblings_query within h usual' sql' values' (alike _ _ rfl rfl)
      exact ⟨congrArg Yield.cursor ended.result, ended.after⟩
    | _ => cases same
  | read k reader state =>
    cases d' with
    | read k' reader' state' =>
      obtain ⟨rfl, cursors, rfl, rfl⟩ := Deed.read.inj same
      have ended := Session.siblings_consume (Begun.isInside_iff.mp inside) cursors h reader' state'
      exact ⟨congrArg (fun x : _ × _ => Yield.returned (.state x.1 x.2)) ended.result, ended.after⟩
    | _ => cases same
  | drop k =>
    cases d' with
    | drop k' =>
      exact ⟨rfl, Session.siblings_discard (Begun.isInside_iff.mp inside) (Deed.drop.inj same) h⟩
    | _ => cases same
  | _ => cases inside

end Deed

namespace Session

variable {config : Config} {s t : Session}

/-- The pool and the cache of the session in the circumstances of another one, which has the hook, the server with all
that was done there, the clock and the log. -/
def amid (s w : Session) : Session := { w with config := s.config, opened := s.opened, openings := s.openings }

structure Entry : Type 1 where
  deed : Deed
  yield : Yield
  after : Session

/-- Deeds one after the other, each in circumstances of its own. -/
def carried (s : Session) : List (Session × Deed) → List Entry
  | [] => []
  | (w, d) :: rest => ⟨d, (d.run (s.amid w)).1, (d.run (s.amid w)).2⟩ :: (d.run (s.amid w)).2.carried rest

def history (s : Session) : List Deed → List Entry
  | [] => []
  | d :: rest => ⟨d, (d.run s).1, (d.run s).2⟩ :: (d.run s).2.history rest

def met (s : Session) : List Deed → List (Session × Deed)
  | [] => []
  | d :: rest => (s, d) :: (d.run s).2.met rest

def Entry.isInside (e : Entry) : Bool := e.deed.isInside

theorem amid_self (s : Session) : s.amid s = s := rfl

theorem history_eq_carried (s : Session) (deeds : List Deed) : s.history deeds = s.carried (s.met deeds) := by
  induction deeds generalizing s with
  | nil => rfl
  | cons d rest ih => simp only [history, met, carried, amid_self, ih]

theorem Aside.amid (h : Aside s t) (w : Session) : t.amid w = s.amid w := by
  simp only [Session.amid, h.config, h.openings, h.opened]

/-- What comes of deeds depends on nothing else of the session than what is open. -/
theorem Aside.carried (h : Aside s t) (deeds : List (Session × Deed)) : t.carried deeds = s.carried deeds := by
  cases deeds with
  | nil => rfl
  | cons first rest => simp only [Session.carried, h.amid]

/-- What comes of the other deeds, with the statements that they find or prepare and the labels that make room, is the
same without those inside transactions. The circumstances stay those that were met, since what a transaction does to
the server and how long it takes is nothing that a session could hide. -/
theorem outside_carried (s : Session) (deeds : List (Session × Deed)) :
    (s.carried deeds).filter (fun e => !e.isInside) = s.carried (deeds.filter fun x => !x.2.isInside) := by
  induction deeds generalizing s with
  | nil => rfl
  | cons first rest ih =>
    obtain ⟨w, d⟩ := first
    cases inside : d.isInside with
    | true =>
      -- The deed leaves what is open, so those after it go on as if it had not been there.
      have aside : Aside s (d.run (s.amid w)).2 := by
        obtain ⟨config, openings, opened⟩ := Deed.aside_run inside (s.amid w)
        exact ⟨config, openings, opened⟩
      simp only [carried, List.filter_cons, Entry.isInside, inside, Bool.not_true, Bool.false_eq_true, ↓reduceIte]
      exact (ih _).trans (aside.carried _)
    | false =>
      simp only [carried, List.filter_cons, Entry.isInside, inside, Bool.not_false, ↓reduceIte]
      exact congrArg _ (ih _)

theorem isInside_of_query {c : Call} {usual : Option String} {sql : String} {values : List Param} {k : Cursor}
    (opened : s.query c usual sql values = (.ok k, t)) : k.begun.isInside = c.transaction.isSome := by
  obtain ⟨u, begun⟩ := query_begun opened
  cases inside : c.transaction with
  | some link =>
    obtain ⟨-, lent, source, unkept, unlabeled⟩ := begin_inside inside begun
    exact Begun.isInside_iff.mpr ⟨rfl, lent, source, unkept, unlabeled⟩
  | none => simp only [Begun.isInside, begin_pooled inside begun, Bool.not_true, Bool.false_and, Option.isSome_none]

/-- Callers inside transactions leave all that is open as it is, and have their statements prepared anew on their own
connections. What comes of it is the same whether anything is open or not, as far as the hook does not go by the names.
Without them, the same would have come of all that the other callers do. -/
theorem transactions_isolated (reached : s.Reachable config) :
    (∀ d : Deed, d.isInside = true → (d.run s).2.opened = s.opened) ∧
    (∀ (c : Call) usual sql values k t, s.query c usual sql values = (.ok k, t) →
      k.begun.isInside = c.transaction.isSome) ∧
    (∀ (c : Call) link usual sql n b t, c.transaction = some (link + 1) → s.begin c usual sql n = (.ok b, t) →
      b.Inside (link + 1) ∧
        ∃ ctx heard seen, s.answered (s.asked c usual sql n) = .ok ctx ∧ b.ready.statement.sql = ctx.execSql ∧
          t.log = s.log ++ List.map .hook heard ++ List.map .wire seen ∧ .prepare (link + 1) ctx.execSql ∈ seen) ∧
    (∀ (s' : Session) (d d' : Deed), s.Sibling s' → d.isInside = true → d'.unnamed = d.unnamed →
      (∀ ctx ctx', d.shown? s = some ctx → d'.shown? s' = some ctx' → s.HearsAlike ctx ctx') →
        Siblings Yield.unnamed (d.run s) (d'.run s')) ∧
    (∀ deeds, (s.carried deeds).filter (fun e => !e.isInside) = s.carried (deeds.filter fun x => !x.2.isInside)) ∧
    ∀ deeds, s.history deeds = s.carried (s.met deeds) := by
  have ticketed := (regular_of_reachable reached).ticketed
  refine ⟨fun d inside => (Deed.aside_run inside s).opened, fun c usual sql values k t => isInside_of_query,
    fun c link usual sql n b t inside begun => ⟨begin_inside inside begun, begin_prepares inside ticketed begun⟩,
    fun s' d d' sibling inside same alike => Deed.siblings_run inside same sibling alike, s.outside_carried,
    s.history_eq_carried⟩

def losingWatched : Session :=
  .ofPool ((Config.initial.set (.capacity 2)).set (.dsn "postgres://app@localhost/app")) (some (.record "h"))
    (.ofScript
      [selection [{ RunStep.quiet with setback := some (.refuse ⟨"26000", "plan is lost", .none⟩) }, .quiet]] [])

def besideTransaction : Session := ((losingWatched.afterPrepare "a" "SELECT 1").beginTransaction (.patient .none)).2

def repeated : Deed := .invoke { under "a" with transaction := some 2 } (.statement "SELECT 1" [] .count)

/-- The plan that is lost inside the transaction is not the one of the label, which keeps it. On a closed session the
transaction fails in the same way, though the hook is shown no names. -/
theorem transactions_isolated_of_lostPlan :
    ∃ t c closed, repeated.run besideTransaction = (.returned (.count (.error (.error lost))), t) ∧
      lost.isStalePlan = true ∧ t.opened = besideTransaction.opened ∧
      besideTransaction.cache? = some c ∧ c.labels.value? "a" = some "SELECT 1" ∧
      (c.plan? 1 "SELECT 1").isSome = true ∧ closed = { besideTransaction with opened := .none } ∧
      (repeated.shown? besideTransaction).bind Context.database = some "app" ∧
      (repeated.shown? closed).bind Context.database = .none ∧
      Siblings Yield.unnamed (repeated.run besideTransaction) (repeated.run closed) := by
  have start : Reachable _ losingWatched := .ofPool _ _ _
  have reached := (start.step (.prepare _ (.patient .none) "a" "SELECT 1")).step (.beginTransaction _ (.patient .none))
  have ignores : ∀ hook, besideTransaction.hook = some hook → hook.IgnoresNames := by
    intro hook there
    obtain rfl : Hook.record "h" = hook := Option.some.inj there
    trivial
  obtain ⟨leaves, -, -, alike, -⟩ := transactions_isolated (s := besideTransaction) reached
  refine ⟨_, _, _, rfl, by decide, leaves repeated rfl, rfl, by decide, by decide, rfl, rfl, rfl,
    alike _ repeated repeated (sibling_put _ _) rfl rfl fun ctx ctx' shown shown' => ?_⟩
  obtain rfl := Option.some.inj shown
  obtain rfl := Option.some.inj shown'
  exact hearsAlike_of_ignoresNames ignores rfl

end Session

end RowMapper
