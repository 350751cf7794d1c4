import RowMapper.Proofs.Session.Acts

/-!
What an operation on records gives back. A failure of its draft is given back as it is, and so is whatever
halts its statement.
-/
namespace RowMapper

inductive Account : Type 1 where
  | count (give : Except Halt Nat → Returned)
  | read {σ : Type} (reader : Reader σ) (state : σ) (give : σ × Except Halt Nat → Returned)
  | drop (give : Except Halt Unit → Returned)

def Account.Passes : Account → Prop
  | .count give => ∀ h, (give (.error h)).halt? = some h
  | .read _ _ give => ∀ state h, (give (state, .error h)).halt? = some h
  | .drop give => ∀ h, (give (.error h)).halt? = some h

def Account.use : Account → Use
  | .count _ => .count
  | .read reader state _ => .read reader state
  | .drop _ => .drop

/-- What an operation gives back that halts before its rows are read: what it was given, as it was. -/
def Operation.halted (h : Halt) : Operation → Returned
  | .get _ r | .insert _ r => .record r (.error h)
  | .getAll rs => .records rs (.error h)
  | .insertMany _ _ => .count (.error h)
  | .update _ | .delete _ | .contains _ => .flag (.error h)
  | .truncate => .done (.error h)

theorem Operation.halt?_halted (o : Operation) (h : Halt) : (o.halted h).halt? = some h := by
  cases o <;> rfl

namespace Session

def readAll {σ : Type} (reader : Reader σ) (state : σ) (give : σ × Except Halt Nat → Returned) :
    Except Halt Cursor × Session → Returned × Session
  | (.error h, s) => (give (state, .error h), s)
  | (.ok cursor, s) => (give (s.consume cursor reader state).1, (s.consume cursor reader state).2)

def dropAll (give : Except Halt Unit → Returned) : Except Halt Cursor × Session → Returned × Session
  | (.error h, s) => (give (.error h), s)
  | (.ok cursor, s) => (give (.ok ()), s.discard cursor)

def account (s : Session) (c : Call) (usual : Option String) (sql : String) (values : List Param) :
    Account → Returned × Session
  | .count give => (give (s.execute c usual sql values).1, (s.execute c usual sql values).2)
  | .read reader state give => readAll reader state give (s.query c usual sql values)
  | .drop give => dropAll give (s.query c usual sql values)

/-- An operation gives an account of its statement, the same on every session. -/
theorem operate_account {t : MappedType} {o : Operation} {d : Draft} (h : o.draft? t = .ok (some d)) :
    ∃ a : Account, a.Passes ∧ a.use = o.use t ∧ ∀ (s : Session) (c : Call),
      s.operate c t o = s.account c d.label d.statement.render d.values a := by
  -- What is given back of a reading is read off the cursor that is there.
  have reads {σ : Type} (reader : Reader σ) (state : σ) (give : σ × Except Halt Nat → Returned)
      (s : Session) (c : Call) :
      readAll reader state give (s.query c d.label d.statement.render d.values) =
        match s.queryDraft c d with
        | (.error h, s) => (give (state, .error h), s)
        | (.ok cursor, s) => (give (s.consume cursor reader state).1, (s.consume cursor reader state).2) := by
    simp only [queryDraft]
    obtain ⟨_ | cursor, u⟩ := s.query c d.label d.statement.render d.values <;> rfl
  cases o with
  | get ids r =>
    have drafted := some_of_map h
    refine ⟨.read (Reader.out t.typeName (generatedFill t t.selected)) r
      (fun x => .record x.1 (x.2.map (0 < ·))), fun _ _ => rfl, rfl, fun s c => ?_⟩
    simp only [operate, get, drafted, account, reads]
    obtain ⟨_ | cursor, u⟩ := s.queryDraft c d <;> rfl
  | getAll rs =>
    have drafted := some_of_map h
    refine ⟨.read (Reader.outMany t.newRecord (generatedFill t t.selected)) rs
      (fun x => .records x.1 x.2), fun _ _ => rfl, rfl, fun s c => ?_⟩
    simp only [operate, getAll, drafted, account, reads]
    obtain ⟨_ | cursor, u⟩ := s.queryDraft c d <;> rfl
  | insert kind r =>
    have drafted := some_of_map h
    by_cases counts : (t.insertion r kind).returning.isEmpty = true
    · refine ⟨.count fun result => .record r (result.map (0 < ·)), fun _ => rfl, ?_, fun s c => ?_⟩
      · simp only [Operation.use, if_pos counts, Account.use]
      · simp only [operate, insert, drafted, insertDrafted, if_pos counts]
        rfl
    · refine ⟨.read (Reader.out t.typeName (returnedFill t (t.insertion r kind).returning)) r
        (fun x => .record x.1 (x.2.map (0 < ·))), fun _ _ => rfl, ?_, fun s c => ?_⟩
      · simp only [Operation.use, if_neg counts, Account.use]
      · simp only [operate, insert, drafted, insertDrafted, if_neg counts, account, reads]
        obtain ⟨_ | cursor, u⟩ := s.queryDraft c d <;> rfl
  | insertMany kind rs =>
    simp only [Operation.draft?] at h
    refine ⟨.count .count, fun _ => rfl, rfl, fun s c => ?_⟩
    simp only [operate, insertMany, h]
    rfl
  | update r =>
    have drafted := some_of_map h
    refine ⟨.count fun result => .flag (singleRowResult t "update" result), fun _ => rfl, rfl,
      fun s c => ?_⟩
    simp only [operate, update, drafted]
    rfl
  | delete r =>
    have drafted := some_of_map h
    refine ⟨.count fun result => .flag (singleRowResult t "delete" result), fun _ => rfl, rfl,
      fun s c => ?_⟩
    simp only [operate, delete, drafted]
    rfl
  | contains r =>
    have drafted := some_of_map h
    refine ⟨.read Reader.peek () (fun x => .flag (x.2.map (0 < ·))), fun _ _ => rfl, rfl, fun s c => ?_⟩
    simp only [operate, contains, drafted, account, reads]
    obtain ⟨_ | cursor, u⟩ := s.queryDraft c d <;> rfl
  | truncate =>
    obtain rfl := Option.some.inj (Except.ok.inj h)
    exact ⟨.count fun result => .done (result.map fun _ => ()), fun _ => rfl, rfl, fun s c => rfl⟩

theorem operate_failed {t : MappedType} {o : Operation} {e : Error} (h : o.draft? t = .error e)
    (s : Session) (c : Call) : s.operate c t o = (o.halted (.error e), s.finish c.callback) := by
  cases o with
  | get ids r =>
    simp only [operate, get, map_eq_error.mp h]
    rfl
  | getAll rs =>
    simp only [operate, getAll, map_eq_error.mp h]
    rfl
  | insert kind r =>
    simp only [operate, insert, map_eq_error.mp h]
    rfl
  | insertMany kind rs =>
    simp only [Operation.draft?] at h
    simp only [operate, insertMany, h]
    rfl
  | update r =>
    simp only [operate, update, map_eq_error.mp h]
    rfl
  | delete r =>
    simp only [operate, delete, map_eq_error.mp h]
    rfl
  | contains r =>
    simp only [operate, contains, map_eq_error.mp h]
    rfl
  | truncate => cases h

theorem operate_refused {t : MappedType} {o : Operation} {e : Error} (h : o.draft? t = .error e)
    (s : Session) (c : Call) :
    (s.operate c t o).1.halt? = some (.error e) ∧ (s.operate c t o).2 = s.finish c.callback := by
  rw [operate_failed h]
  exact ⟨o.halt?_halted _, rfl⟩

theorem operate_idle {t : MappedType} {o : Operation} (h : o.draft? t = .ok .none) (s : Session) (c : Call) :
    s.operate c t o = (.count (.ok 0), s.finish c.callback) := by
  have drafted {x : Except Error Draft} (e : x.map some = .ok .none) : False := by
    obtain ⟨d, -, same⟩ := map_eq_ok.mp e
    cases same
  cases o with
  | insertMany kind rs =>
    simp only [Operation.draft?] at h
    simp only [operate, insertMany, h]
  | truncate => cases h
  | get | getAll | insert | update | delete | contains => exact (drafted h).elim

end Session

end RowMapper
