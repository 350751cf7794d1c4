import RowMapper.Proofs.Operation.Pairing
import RowMapper.Proofs.Record.Populating
import RowMapper.Proofs.Session.Terminals

/-!
What an insert or a look-up leaves of the record that it is given. The record is read into from the first row that
comes in, and from nothing else. Which row that is does not follow from the result alone: an insert that asks for
generated values also succeeds when no row comes, and then the record has none.
-/
namespace RowMapper

namespace Stream

variable {σ : Type} (s : Stream) (tooMany : String) (act : Row → σ → σ × Except Breakdown Unit) (state : σ)

theorem single_fst : (s.single tooMany act state).1 =
    match s.contents with
    | [] => state
    | row :: _ => (act row state).1 := by
  obtain ⟨rows, endAt, result⟩ := s
  cases rows with
  | nil => rfl
  | cons row more =>
    simp only [single, contents, List.map_cons]
    obtain ⟨state', _ | _⟩ := act row.2 state
    · rfl
    · cases more <;> rfl

/-- A reading of one row is well only over the whole of a stream of one row, or of none. -/
theorem found_single {b : Bool} : (Session.foundOf (s.single tooMany act state)).2 = .ok b ↔
    s.result = .ok () ∧ (b = false ∧ s.contents = [] ∨
      b = true ∧ ∃ row, s.contents = [row] ∧ (act row state).2 = .ok ()) := by
  obtain ⟨rows, endAt, result⟩ := s
  cases rows with
  | nil => cases result <;> simp [Session.foundOf, single, contents, Except.map]
  | cons row more =>
    simp only [Session.foundOf, single, contents, List.map_cons]
    rcases acted : act row.2 state with ⟨state', broken | _⟩
    · simp +contextual [Except.map, acted]
    · cases more with
      | nil => cases result <;> simp +contextual [Except.map, acted]
      | cons next rest => simp [Except.map]

end Stream

/-- Whether an insert asks for the generated columns; an upsert does so only when there is one. -/
def MappedType.readsBack (t : MappedType) : InsertKind → Prop
  | .create | .createIfNew => 0 < (t.columns.view .autos).size
  | .upsert => (t.columns.view .autos).size = 1

namespace Session

variable (s : Session) (c : Call) (t : MappedType)

def incomingOf (d : Draft) : Except Halt Stream :=
  match s.queryDraft c d with
  | (.ok cursor, s) => .ok (s.incoming cursor)
  | (.error h, _) => .error h

def rowsFor (o : Operation) : List Row :=
  match o.draft? t, o.use t with
  | .ok (some d), .read _ _ =>
    match s.incomingOf c d with
    | .ok stream => stream.contents
    | .error _ => []
  | _, _ => []

def readInto (fill : Reader.Fill) (r : Record) : Except Halt Stream → Record × Except Halt Bool
  | .error h => (r, .error h)
  | .ok stream => foundOf (stream.single ("expected at most one row for `" ++ t.typeName ++ "`") fill r)

theorem readInto_fst (fill : Reader.Fill) (r : Record) (stream : Stream) :
    (readInto t fill r (.ok stream)).1 =
      match stream.contents with
      | [] => r
      | row :: _ => (fill row r).1 :=
  stream.single_fst _ fill r

theorem readInto_incomingOf (d : Draft) (fill : Reader.Fill) (r : Record) :
    (match s.queryDraft c d with
      | (.error h, s) => ((r, .error h), s)
      | (.ok cursor, s) => s.readOut cursor t.typeName fill r :
      (Record × Except Halt Bool) × Session).1 = readInto t fill r (s.incomingOf c d) := by
  simp only [incomingOf]
  split <;> rename_i e <;> rw [e]
  · rfl
  · exact readOut_fst _ _ _ _ _

variable {t} {s} {c} {r : Record} {d : Draft} {kind : InsertKind}

theorem insert_counted (drafted : (Operation.insert kind r).draft? t = .ok (some d))
    (counts : (t.insertion r kind).returning.isEmpty = true) :
    (s.insert c t kind r).1 = (r, (s.executeDraft c d).1.map fun n => decide (0 < n)) := by
  simp only [insert, some_of_map drafted, insertDrafted, if_pos counts]

theorem insert_read (drafted : (Operation.insert kind r).draft? t = .ok (some d))
    (asks : ¬(t.insertion r kind).returning.isEmpty = true) :
    (s.insert c t kind r).1 =
      readInto t (returnedFill t (t.insertion r kind).returning) r (s.incomingOf c d) := by
  simp only [insert, some_of_map drafted, insertDrafted, if_neg asks]
  exact readInto_incomingOf s c t d _ r

theorem insert_refused {e : Error} (failed : (Operation.insert kind r).draft? t = .error e) :
    (s.insert c t kind r).1 = (r, .error (.error e)) := by
  simp only [insert, map_eq_error.mp failed]
  rfl

theorem get_read {ids : List Param} (drafted : (Operation.get ids r).draft? t = .ok (some d)) :
    (s.get c t ids r).1 = readInto t (generatedFill t t.selected) r (s.incomingOf c d) := by
  simp only [get, some_of_map drafted]
  exact readInto_incomingOf s c t d _ r

theorem get_refused {ids : List Param} {e : Error} (failed : (Operation.get ids r).draft? t = .error e) :
    (s.get c t ids r).1 = (r, .error (.error e)) := by
  simp only [get, map_eq_error.mp failed]
  rfl

structure Filled (t : MappedType) (v : RowMapper.View) (rows : List Row) (r : Record)
    (x : Record × Except Halt Bool) : Prop where
  confined : Confined t (t.pathsOf v.keeps) r x.1
  /-- What follows the first row, and how the rows end, does not matter. -/
  first : ∀ row more, rows = row :: more → x.1 = (t.populateInOrder (t.columns.view v) row r).1
  noRow : rows = [] → x.1 = r
  notFound : x.2 = .ok false → rows = [] ∧ x.1 = r

theorem filled_unread (t : MappedType) (v : RowMapper.View) (r : Record) (result : Except Halt Bool) :
    Filled t v [] r (r, result) :=
  ⟨.refl t _ r, fun _ _ none => (nomatch none), fun _ => rfl, fun _ => ⟨rfl, rfl⟩⟩

theorem filled_readInto (fits : Fits t.fields r) (v : RowMapper.View) (answer : Except Halt Stream) :
    Filled t v (match answer with | .ok stream => stream.contents | .error _ => []) r
      (readInto t (returnedFill t (t.columns.view v)) r answer) := by
  cases answer with
  | error h => exact filled_unread t v r _
  | ok stream =>
    have record := readInto_fst t (returnedFill t (t.columns.view v)) r stream
    refine ⟨?_, fun row more rows => ?_, fun rows => ?_, fun unfound => ?_⟩
    · rw [record]
      split
      · exact .refl t _ r
      · rename_i row more rows
        exact (confined_populateInOrder fits _ row).mono fun path => mem_view_paths.mp
    · simp only [record, rows]
      rfl
    · simp only [record, rows]
    · obtain ⟨-, ⟨-, rows⟩ | ⟨found, -⟩⟩ := (stream.found_single _ _ r).mp unfound
      · rw [record, rows]
        exact ⟨rows, rfl⟩
      · cases found

theorem returning_eq (asks : ¬(t.insertion r kind).returning.isEmpty = true) :
    (t.insertion r kind).returning = t.columns.view .autos := by
  cases kind with
  | create | createIfNew => rfl
  | upsert =>
    simp only [MappedType.insertion, MappedType.upsertReturning] at asks ⊢
    split
    · rfl
    · rename_i several
      rw [if_neg several] at asks
      exact absurd rfl asks

theorem generatedFill_eq (plain : t.ownPopulation = .none) (cs : Columns) :
    generatedFill t cs = returnedFill t cs := by
  funext row r
  simp only [generatedFill, MappedType.populateGenerated, plain, returnedFill]

/-- Whatever comes of an insert, it changes nothing but the generated columns of its record, and these only
from the first row that comes back. A look-up changes nothing but what can be read back in the same way, if
the type has no population of its own. -/
theorem record_confined (fits : Fits t.fields r) (s : Session) (c : Call) :
    (∀ kind, Filled t .autos (s.rowsFor c t (.insert kind r)) r (s.insert c t kind r).1) ∧
      (t.ownPopulation = .none → ∀ ids,
        Filled t .notReadOnly (s.rowsFor c t (.get ids r)) r (s.get c t ids r).1) := by
  refine ⟨fun kind => ?_, fun plain ids => ?_⟩
  · cases drafted : (Operation.insert kind r).draft? t with
    | error e =>
      rw [insert_refused drafted]
      simp only [rowsFor, drafted]
      exact filled_unread t .autos r _
    | ok found =>
      obtain ⟨d, -, rfl⟩ := map_eq_ok.mp drafted
      by_cases counts : (t.insertion r kind).returning.isEmpty = true
      · rw [insert_counted drafted counts]
        simp only [rowsFor, drafted, Operation.use, if_pos counts]
        exact filled_unread t .autos r _
      · rw [insert_read drafted counts, returning_eq counts]
        simp only [rowsFor, drafted, Operation.use, if_neg counts]
        exact filled_readInto fits .autos _
  · cases drafted : (Operation.get ids r).draft? t with
    | error e =>
      rw [get_refused drafted]
      simp only [rowsFor, drafted]
      exact filled_unread t .notReadOnly r _
    | ok found =>
      obtain ⟨d, -, rfl⟩ := map_eq_ok.mp drafted
      rw [get_read drafted, generatedFill_eq plain]
      simp only [rowsFor, drafted, Operation.use]
      exact filled_readInto fits .notReadOnly _

def tallied : MappedType where
  typeName := "Tally"
  table := "tallies"
  cacheKey := .none
  fields := [.mk 0 "id" "id,pk" "String" (.plain (.plain .text)) .none,
    .mk 1 "seq" "seq,auto" "i64" (.plain (.plain .int64)) .none]
  ownPopulation := .none

def tally : Record := [.plain (.text "k"), .plain (.int64 0)]

def tallies (numbers : List (List UInt8)) : Session :=
  .ofPool Config.initial .none (.ofScript [⟨"INSERT", false, .cycle [.text], [("seq", .int8)], [],
    [{ RunStep.quiet with rows := numbers.map fun n => [some n] }]⟩] [])

theorem fits_tally : Fits tallied.fields tally :=
  .plain (by decide +kernel) rfl (by decide) (.plain (by decide +kernel) rfl (by decide) .nil)

def seqRow (n : UInt8) : Row := ⟨.server, [⟨some "seq", .int8, some [0, 0, 0, 0, 0, 0, 0, n]⟩]⟩

/-- Two rows are too many, and the record has been read into from the first of them. A look-up that the server
refuses leaves it alone. -/
theorem record_confined_two_rows :
    ∃ s : Session, s = tallies [[0, 0, 0, 0, 0, 0, 0, 5], [0, 0, 0, 0, 0, 0, 0, 6]] ∧
      s.rowsFor Call.plain tallied (.insert .upsert tally) = [seqRow 5, seqRow 6] ∧
      (s.insert Call.plain tallied .upsert tally).1.2.isOk = false ∧
      (s.insert Call.plain tallied .upsert tally).1.1 = [.plain (.text "k"), .plain (.int64 5)] ∧
      Confined tallied (tallied.pathsOf RowMapper.View.autos.keeps) tally
        (s.insert Call.plain tallied .upsert tally).1.1 ∧
      (s.get Call.plain tallied [⟨.plain .text, .text "k"⟩] tally).1.1 = tally := by
  refine ⟨_, rfl, ?_⟩
  obtain ⟨inserted, loaded⟩ := record_confined fits_tally
    (tallies [[0, 0, 0, 0, 0, 0, 0, 5], [0, 0, 0, 0, 0, 0, 0, 6]]) Call.plain
  have rows : (tallies [[0, 0, 0, 0, 0, 0, 0, 5], [0, 0, 0, 0, 0, 0, 0, 6]]).rowsFor Call.plain tallied
      (.insert .upsert tally) = [seqRow 5, seqRow 6] := rfl
  have filled := inserted .upsert
  exact ⟨rows, rfl, (filled.first _ _ rows).trans rfl, filled.confined, (loaded rfl _).noRow rfl⟩

/-! ### Generated values -/

theorem returning_of_readsBack (asks : t.readsBack kind) :
    (t.insertion r kind).returning = t.columns.view .autos := by
  cases kind with
  | create | createIfNew => rfl
  | upsert => exact if_pos asks

theorem asks_of_readsBack (asks : t.readsBack kind) : ¬(t.insertion r kind).returning.isEmpty = true := by
  rw [returning_of_readsBack asks]
  have some_auto : 0 < (t.columns.view .autos).items.length := by
    cases kind with
    | create | createIfNew => exact asks
    | upsert => exact Nat.lt_of_lt_of_eq Nat.one_pos (Eq.symm asks)
  simpa [Columns.isEmpty] using List.length_pos_iff.mp some_auto

/-- An insert that asks for the generated columns succeeds in two ways: exactly one row came back, and every
generated column has what its cell says; or no row came back, and the record is as it was. -/
theorem generated_values_received (numbered : Numbered t.fields) (fits : Fits t.fields r)
    (asks : t.readsBack kind) (s : Session) (c : Call) {b : Bool}
    (fine : (s.insert c t kind r).1.2 = .ok b) :
    ∃ d stream columns conflict, (Operation.insert kind r).draft? t = .ok (some d) ∧
      d.statement = .insert t.table columns 1 conflict (t.columns.view .autos).bareNames ∧
      s.incomingOf c d = .ok stream ∧ stream.result = .ok () ∧
      s.rowsFor c t (.insert kind r) = stream.contents ∧
      (b = false ∧ stream.contents = [] ∧ (s.insert c t kind r).1.1 = r ∨
        b = true ∧ ∃ row, stream.contents = [row] ∧ ∀ i g, (t.columns.view .autos).items[i]? = some g →
          Received t row i g.path r (s.insert c t kind r).1.1) := by
  cases drafted : (Operation.insert kind r).draft? t with
  | error e =>
    rw [insert_refused drafted] at fine
    cases fine
  | ok found =>
    obtain ⟨d, -, rfl⟩ := map_eq_ok.mp drafted
    obtain ⟨_, -, -, statement, -⟩ := insert_ok drafted
    rw [insert_read drafted (asks_of_readsBack asks), returning_of_readsBack asks] at fine ⊢
    rw [returning_of_readsBack asks] at statement
    cases came : s.incomingOf c d with
    | error h =>
      rw [came] at fine
      cases fine
    | ok stream =>
      rw [came] at fine
      obtain ⟨whole, ways⟩ := (stream.found_single _ _ r).mp fine
      have rows : s.rowsFor c t (.insert kind r) = stream.contents := by
        simp only [rowsFor, drafted, Operation.use, if_neg (asks_of_readsBack asks), came]
      refine ⟨d, stream, _, _, rfl, statement, came, whole, rows, ?_⟩
      rw [readInto_fst]
      rcases ways with ⟨unfound, none⟩ | ⟨found, row, only, taken⟩
      · refine .inl ⟨unfound, none, ?_⟩
        rw [none]
      · refine .inr ⟨found, row, only, fun i g there => ?_⟩
        rw [only]
        exact received_of_populateInOrder fits (t.nodup_view_paths numbered .autos) (eq_of_asBreakdown taken) there

theorem generated_values_received_tally :
    tallied.readsBack .upsert ∧
      ((tallies [[0, 0, 0, 0, 0, 0, 0, 5]]).insert Call.plain tallied .upsert tally).1.2 = .ok true ∧
      (tallies [[0, 0, 0, 0, 0, 0, 0, 5]]).rowsFor Call.plain tallied (.insert .upsert tally) = [seqRow 5] ∧
      Received tallied (seqRow 5) 0 [1] tally
        ((tallies [[0, 0, 0, 0, 0, 0, 0, 5]]).insert Call.plain tallied .upsert tally).1.1 := by
  have numbered : Numbered tallied.fields := .cons (by decide) nofun (.cons (by decide) nofun .nil)
  have one : (tallied.columns.view .autos).size = 1 := by decide +kernel
  have asks : tallied.readsBack .upsert := one
  have fine : ((tallies [[0, 0, 0, 0, 0, 0, 0, 5]]).insert Call.plain tallied .upsert tally).1.2 = .ok true := rfl
  have rows : (tallies [[0, 0, 0, 0, 0, 0, 0, 5]]).rowsFor Call.plain tallied (.insert .upsert tally) =
      [seqRow 5] := rfl
  obtain ⟨_, stream, _, _, -, -, -, -, same, ⟨lost, -⟩ | ⟨-, row, only, received⟩⟩ :=
    generated_values_received numbered fits_tally asks _ Call.plain fine
  · cases lost
  · rw [only, rows] at same
    obtain rfl := (List.cons.inj same).1
    exact ⟨asks, fine, rows, received 0 _ rfl⟩

/-- With nothing to update, an upsert of a row that is there gets no row back and succeeds all the same. The
generated value of the record stays zero. -/
theorem tally_without_number :
    ∃ d, (tallied.columns.view .autos).size = 1 ∧
      (Operation.insert .upsert tally).draft? tallied = .ok (some d) ∧
      d.statement.render = "INSERT INTO tallies (id) VALUES ($1) ON CONFLICT (id) DO NOTHING RETURNING seq" ∧
      (tallies []).rowsFor Call.plain tallied (.insert .upsert tally) = [] ∧
      ((tallies []).insert Call.plain tallied .upsert tally).1 = (tally, .ok false) ∧
      tallied.isZero tally [1] = true :=
  ⟨_, by decide +kernel, rfl, by decide +kernel, rfl, rfl, rfl⟩

end Session

end RowMapper
