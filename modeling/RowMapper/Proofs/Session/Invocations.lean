import RowMapper.Proofs.Session.Caching
import RowMapper.Proofs.Session.Dropping

/-!
The callbacks of whole calls. Whatever the hook answers and however the statement ends, a call makes one
of three rows of callbacks, and which one it is depends on nothing else.
-/
namespace RowMapper

inductive Invocation : Type 1 where
  | record (t : MappedType) (o : Operation)
  | statement (sql : String) (values : List Param) (use : Use)

structure Planned : Type 1 where
  usual : Option String
  sql : String
  values : List Param
  use : Use

def Invocation.planned? : Invocation → Option Planned
  | .record t o =>
    match o.draft? t with
    | .ok (some d) => some ⟨d.label, d.statement.render, d.values, o.use t⟩
    | _ => none
  | .statement sql values use => some ⟨none, sql, values, use⟩

namespace Session

variable {s t : Session}

def invoke (s : Session) (c : Call) : Invocation → Session
  | .record t o => s.perform c t o
  | .statement sql values use => (s.carryOut c .none sql values use).2

def begins? (s : Session) (c : Call) (i : Invocation) : Option Planned :=
  if s.lacksConnection c then .none else i.planned?

def endingOf (s : Session) (c : Call) (p : Planned) : Ending :=
  (s.carryOut c p.usual p.sql p.values p.use).1

def contextBefore (s : Session) (c : Call) (p : Planned) : Context :=
  s.asked c p.usual p.sql p.values.length

def begunOf (s : Session) (c : Call) (p : Planned) : Except Halt Begun :=
  (s.begin c p.usual p.sql p.values.length).1

theorem invoke_eq (s : Session) (c : Call) (i : Invocation) :
    s.invoke c i =
      match i.planned? with
      | .none => s.finish c.callback
      | some p => (s.carryOut c p.usual p.sql p.values p.use).2 := by
  cases i with
  | record t o =>
    rw [invoke, perform_eq]
    simp only [Invocation.planned?]
    split <;> rename_i e <;> simp only [e]
  | statement sql values use => rfl

theorem told_invoke (s : Session) (c : Call) (i : Invocation) :
    match s.begins? c i with
    | .none => Told (ends c.callback) s (s.invoke c i)
    | some p => ∃ d, Told (s.callbacks c (s.contextBefore c p) (s.begunOf c p) d
        (s.endingOf c p).outcome?) s (s.invoke c i) := by
  rw [invoke_eq, begins?]
  cases i.planned? with
  | none =>
    simp only [ite_self]
    exact told_finish s c.callback
  | some p =>
    obtain ⟨d, told⟩ := told_carryOut s c p.usual p.sql p.values p.use
    cases lacks : s.lacksConnection c with
    | true =>
      rw [callbacks, if_pos lacks] at told
      exact told
    | false => exact ⟨d, told⟩

theorem answered_ok {c : Call} {p : Planned} {changed : Context}
    (h : s.answered (s.contextBefore c p) = .ok changed) :
    changed = { s.contextBefore c p with
      execSql := changed.execSql
      canonicalSql := changed.canonicalSql
      kind := Kind.ofSql changed.canonicalSql } := by
  simp only [answered] at h
  cases e : s.answer (s.contextBefore c p) with
  | proceed =>
    rw [e] at h
    exact Except.ok.inj h ▸ rfl
  | modify execSql canonicalSql =>
    rw [e] at h
    exact Except.ok.inj h ▸ rfl
  | abort reason =>
    rw [e] at h
    simp [Action.apply] at h

/-- Rows that are left to a cursor: the hook hears of their statement again when they are read. -/
theorem told_held {c : Call} {usual : Option String} {sql : String} {values : List Param}
    {cursor : Cursor} {u : Session} (h : s.query c usual sql values = (.ok cursor, u)) :
    ∃ changed, s.answered (s.asked c usual sql values.length) = .ok changed ∧
      Told [.before (s.asked c usual sql values.length)] s u ∧
      ∀ v patience,
        (∀ (σ : Type) (reader : Reader σ) (state : σ), ∃ d,
          Told (reports (contextAfter changed (s.begin c usual sql values.length).1) d
            (outcomeOf .rows (v.consume (cursor.withPatience patience) reader state).1.2) c.callback)
            v (v.consume (cursor.withPatience patience) reader state).2) ∧
        Told (ends c.callback) v (v.discard (cursor.withPatience patience)) := by
  have begun := told_begin s c usual sql values.length
  rw [query_eq] at h
  cases e : s.begin c usual sql values.length with
  | mk result x =>
    rw [e] at begun h
    cases result with
    | error halt => simp at h
    | ok b =>
      obtain ⟨-, told, callback, changed, answer, context⟩ := begun
      have started := told_queryReady x b values
      simp only at h
      rw [h] at started
      obtain ⟨rfl, quiet⟩ := started
      refine ⟨changed, answer, told.quietly quiet, fun v patience => ⟨fun σ reader state => ?_, ?_⟩⟩
      · have read := told_consume v (cursor.withPatience patience) reader state
        have books : (cursor.withPatience patience).begun.run.context =
            contextAfter changed (.ok cursor.begun) := context
        have ending : (cursor.withPatience patience).begun.run.callback = c.callback := callback
        rwa [books, ending] at read
      · have dropped := told_discard v (cursor.withPatience patience)
        have ending : (cursor.withPatience patience).begun.run.callback = c.callback := callback
        rwa [ending] at dropped

/-- A call finishes and nothing else when it begins no statement. When the hook stops it, or nobody reads
its rows or waits for it any more, the hook was asked before. In all other cases the hook also hears how
the statement's own step ended, with the context it was asked with, its own changes to that, and the
source of the statement if it was prepared. -/
theorem invocation_callbacks {c : Call} {n : Nat} (finishing : c.callback = some n) (s : Session)
    (i : Invocation) :
    (∃ calls, Told calls s (s.invoke c i) ∧
      match s.begins? c i with
      | .none => calls = [.finish n]
      | some p =>
        match s.answered (s.contextBefore c p), s.endingOf c p with
        | .error _, _ => calls = [.before (s.contextBefore c p), .finish n]
        | .ok _, .unread => calls = [.before (s.contextBefore c p), .finish n]
        | .ok _, .halted .dropped => calls = [.before (s.contextBefore c p), .finish n]
        | .ok changed, .affected m => ∃ d, calls = [.before (s.contextBefore c p),
            .after (contextAfter changed (s.begunOf c p)) d (.affected m), .finish n]
        | .ok changed, .rows m => ∃ d, calls = [.before (s.contextBefore c p),
            .after (contextAfter changed (s.begunOf c p)) d (.rows m), .finish n]
        | .ok changed, .halted (.error e) => ∃ d, calls = [.before (s.contextBefore c p),
            .after (contextAfter changed (s.begunOf c p)) d (failureOutcome e), .finish n]) ∧
    (∀ p changed, s.answered (s.contextBefore c p) = .ok changed →
      changed = { s.contextBefore c p with
        execSql := changed.execSql
        canonicalSql := changed.canonicalSql
        kind := Kind.ofSql changed.canonicalSql }) ∧
    ((s.limitsOf c).Holds → ∀ p, s.endingOf c p ≠ .halted .dropped) ∧
    ∀ usual sql values cursor u, s.query c usual sql values = (.ok cursor, u) →
      ∃ changed, s.answered (s.asked c usual sql values.length) = .ok changed ∧
        Told [.before (s.asked c usual sql values.length)] s u ∧
        ∀ v patience,
          (∀ (σ : Type) (reader : Reader σ) (state : σ), ∃ d,
            Told (reports (contextAfter changed (s.begin c usual sql values.length).1) d
              (outcomeOf .rows (v.consume (cursor.withPatience patience) reader state).1.2) (some n))
              v (v.consume (cursor.withPatience patience) reader state).2) ∧
          Told [.finish n] v (v.discard (cursor.withPatience patience)) := by
  have last : ends c.callback = [.finish n] := by rw [finishing]; rfl
  refine ⟨?_, fun _ _ h => answered_ok h,
    fun holds p => carryOut_kept s c holds p.usual p.sql p.values p.use, ?_⟩
  · have told := told_invoke s c i
    cases begins : s.begins? c i with
    | none =>
      rw [begins, last] at told
      exact ⟨_, told, rfl⟩
    | some p =>
      rw [begins] at told
      have connected : s.lacksConnection c = false := by
        simp only [begins?] at begins
        split at begins
        · simp at begins
        · rename_i lacks
          exact Bool.eq_false_iff.mpr lacks
      obtain ⟨d, told⟩ := told
      rw [callbacks, connected] at told
      simp only
      cases answer : s.answered (s.contextBefore c p) with
      | error reason =>
        rw [answer, last] at told
        exact ⟨_, told, rfl⟩
      | ok changed =>
        rw [answer, finishing] at told
        cases ending : s.endingOf c p with
        | affected m => rw [ending] at told; exact ⟨_, told, d, rfl⟩
        | rows m => rw [ending] at told; exact ⟨_, told, d, rfl⟩
        | unread => rw [ending] at told; exact ⟨_, told, rfl⟩
        | halted h =>
          rw [ending] at told
          cases h with
          | error e => exact ⟨_, told, d, rfl⟩
          | dropped => exact ⟨_, told, rfl⟩
  · intro usual sql values cursor u h
    have held := told_held h
    rwa [last, finishing] at held

def watched : Session :=
  .ofPool Config.initial (some (.record "w")) (.ofScript [selection [.quiet]] [])

theorem invocation_callbacks_watched :
    ∃ ctx changed d, Told [.before ctx, .after changed d (.affected 0), .finish 7] watched
      (watched.invoke (Call.plain.onFinish 7).2 (.statement "SELECT 1" [] .count)) := by
  obtain ⟨calls, told, which⟩ := (invocation_callbacks (c := (Call.plain.onFinish 7).2) rfl watched
    (.statement "SELECT 1" [] .count)).1
  obtain ⟨d, rfl⟩ : ∃ d, calls = [.before _, .after _ d (.affected 0), .finish 7] := which
  exact ⟨_, _, d, told⟩

end Session

end RowMapper
