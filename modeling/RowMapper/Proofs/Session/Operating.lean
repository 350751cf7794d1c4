import RowMapper.Proofs.Session.Connecting
import RowMapper.Proofs.Session.Returning

/-!
Operations on records come to the same on two like sessions, with the results and with the objects.
-/
namespace RowMapper

namespace Session

variable {v : View} {s s' : Session}

theorem Matches.mono {α β : Type} {same same' : α → Session → β → Session → Prop}
    {x : Except Halt α × Session} {x' : Except Halt β × Session} (m : Matches v same x x')
    (weaker : ∀ a t b t', same a t b t' → same' a t b t') : Matches v same' x x' := by
  cases m with
  | limited limit => exact .limited limit
  | cut cut => exact .cut cut
  | failed a => exact .failed a
  | done a => exact .done (weaker _ _ _ _ a)

/-- A limit ended what was done with the first session, or what was done with the second was cut, or both
give the same. -/
theorem Matches.agrees {α : Type} {x x' : Except Halt α × Session} (give : Except Halt α → Returned)
    (halts : ∀ h, (give (.error h)).halt? = some h)
    (m : Matches v (fun a t a' t' => Alike v t t' ∧ a = a') x x') :
    Agrees Returned.halt? v (give x.1, x.2) (give x'.1, x'.2) := by
  cases m with
  | limited limit => exact .limited (halts _) limit
  | cut cut => exact .cut (halts _) cut
  | failed a => exact .same a
  | done same =>
    obtain ⟨a, rfl⟩ := same
    exact .same a

theorem Matches.agrees_readAll {σ : Type} {x x' : Except Halt Cursor × Session} (reader : Reader σ)
    (state : σ) (give : σ × Except Halt Nat → Returned)
    (halts : ∀ state h, (give (state, .error h)).halt? = some h)
    (m : Matches v (fun c t c' t' => Alike (v.push c c') t t') x x') :
    Agrees Returned.halt? v (readAll reader state give x) (readAll reader state give x') := by
  cases m with
  | limited limit => exact .limited (halts _ _) limit
  | cut cut => exact .cut (halts _ _) cut
  | failed a => exact .same a
  | @done c c' t t' a =>
    -- The cursor stands at the first place, and nothing is left of it when it has been read.
    have read : Agrees (fun r : σ × Except Halt Nat => haltOf r.2) v (t.consume c reader state)
        (t'.consume c' reader state) := agrees_consume (k := 0) a rfl rfl reader state
    have halted (r : σ × Except Halt Nat) (h : Halt) (e : haltOf r.2 = some h) :
        (give r).halt? = some h := by
      obtain ⟨u, result⟩ := r
      cases result with
      | ok n => simp [haltOf] at e
      | error h' =>
        obtain rfl := Option.some.inj e
        exact halts u h'
    simp only [readAll]
    generalize t.consume c reader state = y at read ⊢
    generalize t'.consume c' reader state = y' at read ⊢
    cases read with
    | limited halt limit => exact .limited (halted _ _ halt) limit
    | cut halt cut => exact .cut (halted _ _ halt) cut
    | same b => exact .same b

theorem Matches.agrees_dropAll {x x' : Except Halt Cursor × Session} (give : Except Halt Unit → Returned)
    (halts : ∀ h, (give (.error h)).halt? = some h)
    (m : Matches v (fun c t c' t' => Alike (v.push c c') t t') x x') :
    Agrees Returned.halt? v (dropAll give x) (dropAll give x') := by
  cases m with
  | limited limit => exact .limited (halts _) limit
  | cut cut => exact .cut (halts _) cut
  | failed a => exact .same a
  | done a => exact .same (a.discard (k := 0) rfl rfl)

theorem agrees_account (a : Alike v s s') {c : Call} (patient : c.patience = .none)
    {usual : Option String} (named : (c.label <|> usual) ≠ some "") (sql : String) (values : List Param)
    (own : ∀ ctx p, s.answered (s.asked c usual sql values.length) = .ok ctx → p.sql = ctx.execSql →
      Server.preparing v.script p.sql = .ok p → v.may p) {account : Account} (passes : account.Passes) :
    Agrees Returned.halt? v (s.account c usual sql values account) (s'.account c usual sql values account) := by
  cases account with
  | count give => exact (matches_execute a patient named sql values own).agrees give passes
  | read reader state give =>
    exact (matches_query a patient named sql values own).agrees_readAll reader state give passes
  | drop give => exact (matches_query a patient named sql values own).agrees_dropAll give passes

theorem agrees_operate (a : Alike v s s') {c : Call} (patient : c.patience = .none) {t : MappedType}
    {o : Operation}
    (ready : ∀ d, o.draft? t = .ok (some d) → (c.label <|> d.label) ≠ some "" ∧
      ∀ ctx p, s.answered (s.asked c d.label d.statement.render d.values.length) = .ok ctx →
        p.sql = ctx.execSql → Server.preparing v.script p.sql = .ok p → v.may p) :
    Agrees Returned.halt? v (s.operate c t o) (s'.operate c t o) := by
  have ended : Alike v (s.finish c.callback) (s'.finish c.callback) :=
    a.quietly (quietly_finish s c.callback) (quietly_finish s' c.callback)
  cases drafted : o.draft? t with
  | error e =>
    rw [operate_failed drafted, operate_failed drafted]
    exact .same ended
  | ok draft =>
    cases draft with
    | none =>
      rw [operate_idle drafted, operate_idle drafted]
      exact .same ended
    | some d =>
      obtain ⟨account, passes, -, accounts⟩ := operate_account drafted
      obtain ⟨named, own⟩ := ready d drafted
      rw [accounts, accounts]
      exact agrees_account a patient named d.statement.render d.values own passes

theorem sent?_of_answered {c : Call} {usual : Option String} {sql : String} {n : Nat} {ctx : Context}
    (h : s.answered (s.asked c usual sql n) = .ok ctx) : s.sent? c usual sql n = some ctx.execSql := by
  simp only [sent?, h]

theorem Alike.sent? (a : Alike v s s') (c : Call) (usual : Option String) (sql : String) (n : Nat) :
    s.sent? c usual sql n = s'.sent? c usual sql n := by
  simp only [Session.sent?, answered, ← a.asked, ← a.answer]

end Session

end RowMapper
