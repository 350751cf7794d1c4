import RowMapper.Proofs.Session.Handling
import RowMapper.Proofs.Session.Outcomes

/-!
Calls inside a transaction. They run on the connection of the transaction, and neither the pool nor the statement
cache of the session has anything to do with them: their statements are prepared afresh, and a stale plan is nobody's.
-/
namespace RowMapper

structure Begun.Inside (b : Begun) (link : Nat) : Prop where
  link : b.ready.link = link
  lent : b.ready.isPooled = false
  source : b.ready.source = .transaction
  unkept : b.ready.cached = none
  unlabeled : b.run.cached = none

namespace Session

structure Aside (s t : Session) : Prop where
  config : t.config = s.config
  openings : t.openings = s.openings
  opened : t.opened = s.opened

variable {s t u : Session} {c : Call} {link : Nat}

theorem Aside.refl (s : Session) : Aside s s := ⟨rfl, rfl, rfl⟩

theorem Aside.trans (h : Aside s t) (k : Aside t u) : Aside s u :=
  ⟨k.config.trans h.config, k.openings.trans h.openings, k.opened.trans h.opened⟩

theorem Waited.aside (w : Waited s t) (pooling : t.pooling = s.pooling) : Aside s t :=
  ⟨w.config, congrArg Prod.fst pooling, w.opened pooling⟩

theorem aside_note (s : Session) (events : List Event) : Aside s (s.note events) := ⟨rfl, rfl, rfl⟩

theorem aside_finish (s : Session) (callback : Option Nat) : Aside s (s.finish callback) := aside_note s _

theorem aside_complete (s : Session) (r : Run) (outcome : Outcome) : Aside s (s.complete r outcome) := by
  simp only [complete]
  split <;> exact ⟨rfl, rfl, rfl⟩

theorem dropStale_unlabeled (s : Session) (e : Error) : s.dropStale .none e = s := rfl

/-- A report on a statement that has no label gives no label up, whatever the failure. -/
theorem aside_report {α : Type} (s : Session) {r : Run} (unlabeled : r.cached = .none) (summary : α → Outcome)
    (result : Except Halt α) : Aside s (s.report r summary result) := by
  simp only [report]
  split
  · exact aside_complete s r _
  · simp only [fail, unlabeled, dropStale_unlabeled]
    exact aside_complete s r _
  · exact aside_finish s _

theorem releaseReady_inside {r : Ready} (lent : r.isPooled = false) (s : Session) : s.releaseReady r = s := by
  simp only [releaseReady, lent]
  rfl

theorem aside_prepareFresh (s : Session) (l : Limits) (link : Nat) (isPooled : Bool) (source : Source) (sql : String) :
    Aside s (s.prepareFresh l link isPooled source sql).2 :=
  (waited_prepareFresh s l link isPooled source sql).aside (abides_prepareFresh l s link isPooled source sql).pooling

theorem prepareStage_inside (inside : c.transaction = some link) (l : Limits) (label : Option String) (sql : String) :
    s.prepareStage c l label sql =
      if l.isRefused s.now s.waits then (.error (.error .cancelled), s)
      else s.prepareFresh l link false .transaction sql := by
  simp only [prepareStage, inside]

theorem aside_prepareStage (inside : c.transaction = some link) (s : Session) (l : Limits) (label : Option String)
    (sql : String) : Aside s (s.prepareStage c l label sql).2 := by
  rw [prepareStage_inside inside]
  split
  · exact .refl s
  · exact aside_prepareFresh s l link false .transaction sql

theorem aside_askHook {ctx : Context} {answer : Except String Context} (asked : s.askHook ctx = (answer, t)) :
    Aside s t := by
  rw [askHook_eq] at asked
  exact (Prod.mk.inj asked).2 ▸ ⟨rfl, rfl, rfl⟩

theorem aside_begin (inside : c.transaction = some link) (s : Session) (usual : Option String) (sql : String)
    (n : Nat) : Aside s (s.begin c usual sql n).2 := by
  have begun := begin_begins s c usual sql n
  generalize s.begin c usual sql n = x at begun
  have staged {u v : Session} {l : Limits} {label : Option String} {sql : String} {answer : Except Halt Ready}
      (e : u.prepareStage c l label sql = (answer, v)) : Aside u v := by
    have h := aside_prepareStage inside u l label sql
    rwa [e] at h
  cases begun with
  | closed => exact aside_finish s _
  | aborted _ e => exact (aside_askHook e).trans (aside_finish _ _)
  | failed _ e e' => exact ((aside_askHook e).trans (staged e')).trans (aside_report _ rfl _ _)
  | ready _ e e' => exact (aside_askHook e).trans (staged e')

theorem prepareFresh_made {l : Limits} {isPooled : Bool} {source : Source} {sql : String} {ready : Ready}
    (made : s.prepareFresh l link isPooled source sql = (.ok ready, t)) :
    ready = ⟨link, isPooled, ready.statement, source, .none⟩ ∧
      s.prepare l link sql = (.ok (.ok ready.statement), t) := by
  simp only [prepareFresh] at made
  split at made
  · cases made
  · rename_i answer u e
    obtain ⟨fault⟩ | ⟨p⟩ := answer
    · cases made
    · obtain ⟨same, rfl⟩ := Prod.mk.inj made
      obtain rfl := Except.ok.inj same
      exact ⟨rfl, e⟩

theorem begin_inside (inside : c.transaction = some link) {usual : Option String} {sql : String} {n : Nat} {b : Begun}
    (begun : s.begin c usual sql n = (.ok b, t)) : b.Inside link := by
  have ways := begin_begins s c usual sql n
  rw [begun] at ways
  cases ways with
  | @ready ctx u v r _ _ staged =>
    rw [prepareStage_inside inside] at staged
    split at staged
    · cases staged
    · obtain ⟨shape, -⟩ := prepareFresh_made staged
      rw [shape]
      exact ⟨rfl, rfl, rfl, rfl, rfl⟩

theorem preparePooled_ok {l : Limits} {label : Option String} {sql : String} {ready : Ready}
    (made : s.preparePooled l label sql = (.ok ready, t)) : ready.isPooled = true := by
  rw [preparePooled_eq] at made
  split at made
  · cases made
  · rename_i link u _
    cases prepared : u.prepareOn l label link sql with
    | mk answer v =>
      rw [prepared] at made
      cases answer with
      | error h => cases made
      | ok r =>
        obtain ⟨same, -⟩ := Prod.mk.inj made
        exact Except.ok.inj same ▸ (prepareOn_ok prepared).1

theorem begin_pooled (pooled : c.transaction = .none) {usual : Option String} {sql : String} {n : Nat} {b : Begun}
    (begun : s.begin c usual sql n = (.ok b, t)) : b.ready.isPooled = true := by
  have ways := begin_begins s c usual sql n
  rw [begun] at ways
  cases ways with
  | ready _ _ staged =>
    simp only [prepareStage, pooled] at staged
    split at staged
    · cases staged
    · exact preparePooled_ok staged

theorem begin_prepares (inside : c.transaction = some link) (ticketed : s.server.Ticketed) {usual : Option String}
    {sql : String} {n : Nat} {b : Begun} (begun : s.begin c usual sql n = (.ok b, t)) :
    ∃ ctx heard seen, s.answered (s.asked c usual sql n) = .ok ctx ∧ b.ready.statement.sql = ctx.execSql ∧
      t.log = s.log ++ List.map .hook heard ++ List.map .wire seen ∧
      .prepare (link - 1 + 1) ctx.execSql ∈ seen := by
  have ways := begin_begins s c usual sql n
  rw [begun] at ways
  cases ways with
  | @ready ctx u v r _ asked staged =>
    rw [askHook_eq] at asked
    obtain ⟨answer, rfl⟩ := Prod.mk.inj asked
    rw [prepareStage_inside inside] at staged
    split at staged
    · cases staged
    · obtain ⟨text, seen, log, sent⟩ := prepare_ok (s := s.afterAsking _) ticketed (prepareFresh_made staged).2
      exact ⟨ctx, _, seen, answer, text, log, sent⟩

theorem aside_runStage (s : Session) (b : Begun) (values : List Param) : Aside s (s.runStage b values).2 :=
  (waited_runStage s b values).aside (abides_runStage s b values).pooling

theorem aside_executeReady {b : Begun} (inside : b.Inside link) (s : Session) (values : List Param) :
    Aside s (s.executeReady b values).2 := by
  have ran := (waited_executeStage s b values).aside (abides_executeStage s b values).pooling
  simp only [executeReady, releaseReady_inside inside.lent]
  exact ran.trans (aside_report _ inside.unlabeled _ _)

theorem aside_queryReady {b : Begun} (inside : b.Inside link) (s : Session) (values : List Param) :
    Aside s (s.queryReady b values).2 := by
  have ran := aside_runStage s b values
  simp only [queryReady, releaseReady_inside inside.lent]
  split <;> rename_i e <;> rw [e] at ran
  · rename_i feed t
    exact ran.trans ((waited_openCursor t feed b).aside (abides_openCursor b.run.limits t feed b).pooling)
  · exact ran.trans (aside_report _ inside.unlabeled _ _)

theorem queryReady_begun {b : Begun} {values : List Param} {k : Cursor} (opened : s.queryReady b values = (.ok k, t)) :
    k.begun = b := by
  simp only [queryReady] at opened
  split at opened
  · obtain ⟨made, -⟩ := Prod.mk.inj opened
    exact Except.ok.inj made ▸ rfl
  · cases opened

theorem aside_consume {σ : Type} {k : Cursor} (inside : k.begun.Inside link) (s : Session) (reader : Reader σ)
    (state : σ) : Aside s (s.consume k reader state).2 := by
  rw [consume_snd, releaseReady_inside inside.lent]
  exact (⟨rfl, rfl, rfl⟩ : Aside s ((s.unblock k).advance _)).trans (aside_report _ inside.unlabeled _ _)

theorem aside_discard {k : Cursor} (inside : k.begun.Inside link) (s : Session) : Aside s (s.discard k) := by
  simp only [discard, releaseReady_inside inside.lent]
  exact ⟨rfl, rfl, rfl⟩

theorem aside_followed {b : Begun} (inside : b.Inside link) (s : Session) (values : List Param) (a : Account) :
    Aside s (s.followed b values a).2 := by
  cases a with
  | count give => exact aside_executeReady inside s values
  | read reader state give =>
    have queried := aside_queryReady inside s values
    simp only [followed]
    cases e : s.queryReady b values with
    | mk result t =>
      rw [e] at queried
      cases result with
      | error h => exact queried
      | ok k => exact queried.trans (aside_consume (queryReady_begun e ▸ inside) t reader state)
  | drop give =>
    have queried := aside_queryReady inside s values
    simp only [followed]
    cases e : s.queryReady b values with
    | mk result t =>
      rw [e] at queried
      cases result with
      | error h => exact queried
      | ok k => exact queried.trans (aside_discard (queryReady_begun e ▸ inside) t)

theorem aside_account (inside : c.transaction = some link) (s : Session) (usual : Option String) (sql : String)
    (values : List Param) (a : Account) : Aside s (s.account c usual sql values a).2 := by
  have begun := aside_begin inside s usual sql values.length
  rw [account_eq]
  split <;> rename_i e <;> rw [e] at begun
  · exact begun.trans (aside_followed (begin_inside inside e) _ values a)
  · exact begun

/-- A call inside a transaction leaves what is open as it is, however it ends. -/
theorem aside_outcome (inside : c.transaction = some link) (s : Session) (i : Invocation) :
    Aside s (s.outcome c i).2 := by
  cases planned : i.planned? with
  | some p =>
    obtain ⟨a, -, -, accounts⟩ := outcome_account planned
    rw [accounts]
    exact aside_account inside s _ _ _ a
  | none =>
    obtain ⟨returned, ended⟩ := outcome_unplanned planned
    rw [ended]
    exact aside_finish s _

theorem aside_query (inside : c.transaction = some link) (s : Session) (usual : Option String) (sql : String)
    (values : List Param) : Aside s (s.query c usual sql values).2 := by
  have begun := aside_begin inside s usual sql values.length
  rw [query_eq]
  split <;> rename_i e <;> rw [e] at begun
  · exact begun
  · exact begun.trans (aside_queryReady (begin_inside inside e) _ values)

theorem query_begun {usual : Option String} {sql : String} {values : List Param} {k : Cursor}
    (opened : s.query c usual sql values = (.ok k, t)) :
    ∃ u, s.begin c usual sql values.length = (.ok k.begun, u) := by
  rw [query_eq] at opened
  split at opened <;> rename_i e
  · cases opened
  · exact ⟨_, queryReady_begun opened ▸ e⟩

end Session

end RowMapper
