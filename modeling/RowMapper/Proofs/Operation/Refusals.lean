import RowMapper.Proofs.Operation.Conflicts

/-!
What an operation on records asks for before it begins a statement: columns, a key, as many ids as the key has
columns, something to insert or to set, room for the values of a batch, and the values themselves. An operation
that lacks one of these gives back what it was given and only ends its call. Any other has nothing to do or runs
one statement.
-/
namespace RowMapper

def MappedType.insertable (t : MappedType) : List Column :=
  t.columns.items.filter fun c => !c.flags.readOnly && !c.flags.auto

def MappedType.upsertable (t : MappedType) (r : Record) : List Column :=
  t.columns.items.filter fun c => !c.flags.readOnly && (!c.flags.auto || !t.isZero r c.path)

def MappedType.valueOf (t : MappedType) (s : Record × Column) : Except Error Bound :=
  t.value s.1 s.2.path

namespace Operation

/-- The columns that the values of an operation are taken from, each with its record, in the order of the text. -/
def sources (t : MappedType) : Operation → List (Record × Column)
  | .insert .upsert r => (t.upsertable r).map (r, ·)
  | .insert _ r => t.insertable.map (r, ·)
  | .insertMany _ rs => rs.flatMap fun r => t.insertable.map (r, ·)
  | .update r => (t.settable ++ t.keyColumns).map (r, ·)
  | .delete r | .contains r => t.keyColumns.map (r, ·)
  | .get _ _ | .getAll _ | .truncate => []

def ids : Operation → List Param
  | .get ids _ => ids
  | _ => []

def Admitted (t : MappedType) : Operation → Prop
  | .get ids _ => t.readableKeys ≠ [] ∧ ids.length = t.readableKeys.length
  | .getAll _ | .insert _ _ => t.columns.items ≠ []
  | .insertMany _ rs => t.columns.items ≠ [] ∧
      (rs = [] ∨ t.insertable ≠ [] ∧ rs.length * t.insertable.length ≤ maxParams)
  | .update _ => t.keyColumns ≠ [] ∧ t.settable ≠ []
  | .delete _ | .contains _ => t.keyColumns ≠ []
  | .truncate => True

def IsIdle : Operation → Prop
  | .insertMany _ rs => rs = []
  | _ => False

/-- Why an operation can be refused, with the error that says so. -/
inductive Refusal (t : MappedType) : Operation → Error → Prop where
  | unmapped {o : Operation} : o ≠ .truncate → t.columns.items = [] →
    Refusal t o (.unmappedType t.typeName)
  | keyless {o : Operation} {a : Address} : t.columns.items ≠ [] → o.address? t = some a → a.keys = [] →
    Refusal t o (.noPrimaryKey t.table)
  | wrongIds {ids : List Param} {r : Record} : t.readableKeys ≠ [] → ids.length ≠ t.readableKeys.length →
    Refusal t (.get ids r) (t.wrongIds t.readableKeys.length ids.length)
  | notUpdatable {r : Record} : t.keyColumns ≠ [] → t.settable = [] →
    Refusal t (.update r) (.validation ("`" ++ t.table ++ "` has no updatable columns"))
  | notInsertable {kind : BatchKind} {rs : List Record} : t.columns.items ≠ [] → rs ≠ [] → t.insertable = [] →
    Refusal t (.insertMany kind rs) (.validation ("`" ++ t.table ++ "` has no insertable columns"))
  | tooMany {kind : BatchKind} {rs : List Record} : maxParams < rs.length * t.insertable.length →
    Refusal t (.insertMany kind rs) (MappedType.tooManyParams (rs.length * t.insertable.length))
  /-- A value cannot be had, of whatever record it is; the first such value says why. -/
  | unwritable {o : Operation} {e : Error} : o.Admitted t → FirstFailure t.valueOf (o.sources t) e →
    Refusal t o e

end Operation

variable {t : MappedType} {o : Operation} {r : Record} {e : Error} {cs : Columns}

theorem items_ne_nil_of_keys (keyed : t.keyColumns ≠ []) : t.columns.items ≠ [] :=
  fun none => keyed (by rw [MappedType.keyColumns, none]; rfl)

theorem items_ne_nil_of_readableKeys (keyed : t.readableKeys ≠ []) : t.columns.items ≠ [] :=
  items_ne_nil_of_keys fun none => keyed (by rw [MappedType.readableKeys, none]; rfl)

theorem items_ne_nil_of_insertable (some_in : t.insertable ≠ []) : t.columns.items ≠ [] :=
  fun none => some_in (by rw [MappedType.insertable, none]; rfl)

theorem mappedColumns_of_items (mapped : t.columns.items ≠ []) : t.mappedColumns = .ok t.columns :=
  mappedColumns_of (by simpa [Columns.isEmpty] using mapped)

theorem mappedColumns_of_none (none : t.columns.items = []) :
    t.mappedColumns = .error (.unmappedType t.typeName) := by
  simp [MappedType.mappedColumns, Columns.isEmpty, none]

theorem keysOf_of_items (keyed : (cs.view .primaryKeys).items ≠ []) :
    t.keysOf cs = .ok (cs.view .primaryKeys) := by
  simp [MappedType.keysOf, Columns.isEmpty, keyed]

theorem keysOf_columns (keyed : t.keyColumns ≠ []) : t.keysOf t.columns = .ok (t.columns.view .primaryKeys) :=
  keysOf_of_items (by rwa [items_keys])

theorem keysOf_selected (keyed : t.readableKeys ≠ []) :
    t.keysOf t.selected = .ok (t.selected.view .primaryKeys) :=
  keysOf_of_items (by rwa [items_readableKeys])

theorem values_eq (t : MappedType) (r : Record) (cs : Columns) :
    cs.values t r = (cs.items.map (r, ·)).mapM t.valueOf := by
  rw [Columns.values, List.mapM_map]
  rfl

theorem insertion_values (t : MappedType) (r : Record) (kind : InsertKind) :
    (t.insertion r kind).columns.values t r = ((Operation.insert kind r).sources t).mapM t.valueOf := by
  rw [values_eq]
  cases kind with
  | create | createIfNew =>
    simp only [MappedType.insertion, items_inserted, Operation.sources, MappedType.insertable]
  | upsert =>
    simp only [MappedType.insertion, items_upsertColumns, Operation.sources, MappedType.upsertable]

theorem batch_values (t : MappedType) (kind : BatchKind) (rs : List Record) :
    (rs.mapM ((t.columns.view .inserted).values t)).map List.flatten =
      ((Operation.insertMany kind rs).sources t).mapM t.valueOf := by
  have each : (t.columns.view .inserted).values t = fun r => (t.insertable.map (r, ·)).mapM t.valueOf := by
    funext r
    rw [values_eq, items_inserted]
    rfl
  rw [each, Operation.sources, mapM_flatMap]

theorem draft?_of_admitted (admitted : o.Admitted t) (busy : ¬ o.IsIdle) :
    ∃ statement label, o.draft? t = ((o.sources t).mapM t.valueOf).map fun values =>
      some ⟨statement, o.ids ++ boundParams values, label⟩ := by
  cases o with
  | get ids r =>
    obtain ⟨keyed, length⟩ := admitted
    refine ⟨.selectByKey t.table t.selected.bareNames (t.selected.view .primaryKeys).bareNames,
      some (t.labelOf "get"), ?_⟩
    simp only [Operation.draft?, MappedType.getDraft, keysOf_selected keyed,
      mappedColumns_of_items (items_ne_nil_of_readableKeys keyed)]
    have size : ids.length = (t.selected.view .primaryKeys).size := by
      rw [length, Columns.size, items_readableKeys]
    simp [bind, Except.bind, size, Operation.sources, Operation.ids, boundParams, Except.map, pure, Except.pure]
  | getAll rs =>
    refine ⟨.selectAll t.table t.selected.bareNames, some (t.labelOf "get_all"), ?_⟩
    simp only [Operation.draft?, MappedType.getAllDraft, mappedColumns_of_items admitted]
    rfl
  | insert kind r =>
    refine ⟨.insert t.table (t.insertion r kind).columns.bareNames 1 (t.insertion r kind).conflict
      (t.insertion r kind).returning.bareNames, some (t.insertion r kind).label, ?_⟩
    simp only [Operation.draft?, MappedType.insertDraft, mappedColumns_of_items admitted, insertion_values]
    cases ((Operation.insert kind r).sources t).mapM t.valueOf <;> rfl
  | insertMany kind rs =>
    obtain ⟨mapped, none | ⟨some_in, room⟩⟩ := admitted
    · exact absurd none busy
    · refine ⟨.insert t.table (t.columns.view .inserted).bareNames rs.length (t.batchConflict kind) [], none, ?_⟩
      have items : (t.columns.view .inserted).items = t.insertable := items_inserted t
      have present : rs ≠ [] := busy
      simp only [Operation.draft?, MappedType.batchDraft, mappedColumns_of_items mapped, ← batch_values]
      simp only [bind, Except.bind, Columns.isEmpty, Columns.size, items, List.isEmpty_iff, present, some_in,
        Nat.not_lt.mpr room, ↓reduceIte]
      cases rs.mapM ((t.columns.view .inserted).values t) <;> rfl
  | update r =>
    obtain ⟨keyed, changing⟩ := admitted
    refine ⟨.update t.table (t.columns.view .updated).bareNames (t.columns.view .primaryKeys).bareNames,
      some (t.labelOf "update"), ?_⟩
    simp only [Operation.draft?, MappedType.updateDraft, mappedColumns_of_items (items_ne_nil_of_keys keyed),
      values_eq, Operation.sources, List.map_append, List.mapM_append]
    simp only [bind, Except.bind, keysOf_columns keyed, Columns.isEmpty, items_updated, items_keys,
      List.isEmpty_iff, changing, ↓reduceIte]
    -- The keys are not looked at when a value that changes fails.
    cases (t.settable.map (r, ·)).mapM t.valueOf with
    | error e => rfl
    | ok values => cases (t.keyColumns.map (r, ·)).mapM t.valueOf <;> rfl
  | delete r =>
    refine ⟨.delete t.table (t.columns.view .primaryKeys).bareNames, some (t.labelOf "delete"), ?_⟩
    simp only [Operation.draft?, MappedType.deleteDraft, mappedColumns_of_items (items_ne_nil_of_keys admitted),
      values_eq, Operation.sources]
    simp only [bind, Except.bind, keysOf_columns admitted, items_keys]
    cases (t.keyColumns.map (r, ·)).mapM t.valueOf <;> rfl
  | contains r =>
    refine ⟨.exists t.table (t.columns.view .primaryKeys).bareNames, some (t.labelOf "exists"), ?_⟩
    simp only [Operation.draft?, MappedType.existsDraft, mappedColumns_of_items (items_ne_nil_of_keys admitted),
      values_eq, Operation.sources]
    simp only [bind, Except.bind, keysOf_columns admitted, items_keys]
    cases (t.keyColumns.map (r, ·)).mapM t.valueOf <;> rfl
  | truncate => exact ⟨.truncate t.table, some (t.labelOf "truncate"), rfl⟩

theorem sources_of_idle (idle : o.IsIdle) : o.sources t = [] := by
  cases o with
  | insertMany kind rs =>
    obtain rfl : rs = [] := idle
    rfl
  | get | getAll | insert | update | delete | contains | truncate => exact idle.elim

theorem error_of_refusal (refused : o.Refusal t e) : o.draft? t = .error e := by
  cases refused with
  | unmapped other none =>
    have unmapped := mappedColumns_of_none none
    cases o with
    | truncate => exact absurd rfl other
    | get ids r => simp only [Operation.draft?, MappedType.getDraft, unmapped]; rfl
    | getAll rs => simp only [Operation.draft?, MappedType.getAllDraft, unmapped]; rfl
    | insert kind r => simp only [Operation.draft?, unmapped]; rfl
    | insertMany kind rs => simp only [Operation.draft?, MappedType.batchDraft, unmapped]; rfl
    | update r => simp only [Operation.draft?, MappedType.updateDraft, unmapped]; rfl
    | delete r => simp only [Operation.draft?, MappedType.deleteDraft, unmapped]; rfl
    | contains r => simp only [Operation.draft?, MappedType.existsDraft, unmapped]; rfl
  | keyless mapped addressed none =>
    exact (refused_iff (by simpa [Columns.isEmpty] using mapped) addressed).mpr none
  | @wrongIds ids r keyed other =>
    have size : (t.selected.view .primaryKeys).size = t.readableKeys.length := by
      rw [Columns.size, items_readableKeys]
    simp only [Operation.draft?, MappedType.getDraft, keysOf_selected keyed,
      mappedColumns_of_items (items_ne_nil_of_readableKeys keyed)]
    simp only [bind, Except.bind, size, if_neg other]
    rfl
  | @notUpdatable r keyed none =>
    simp only [Operation.draft?, MappedType.updateDraft, mappedColumns_of_items (items_ne_nil_of_keys keyed)]
    simp only [bind, Except.bind, keysOf_columns keyed, Columns.isEmpty, items_updated, none,
      List.isEmpty_nil, ↓reduceIte]
    rfl
  | @notInsertable kind rs mapped present none =>
    have items : (t.columns.view .inserted).items = [] := (items_inserted t).trans none
    simp only [Operation.draft?, MappedType.batchDraft, mappedColumns_of_items mapped]
    simp only [bind, Except.bind, Columns.isEmpty, items, List.isEmpty_iff, present, ↓reduceIte]
  | @tooMany kind rs beyond =>
    have items : (t.columns.view .inserted).items = t.insertable := items_inserted t
    have present : rs ≠ [] := by
      rintro rfl
      simp at beyond
    have some_in : t.insertable ≠ [] := by
      intro none
      simp [none] at beyond
    simp only [Operation.draft?, MappedType.batchDraft,
      mappedColumns_of_items (items_ne_nil_of_insertable some_in)]
    simp only [bind, Except.bind, Columns.isEmpty, Columns.size, items, List.isEmpty_iff, present, some_in, beyond,
      ↓reduceIte]
  | unwritable admitted failed =>
    have busy : ¬ o.IsIdle := by
      intro idle
      obtain ⟨front, x, back, split, -⟩ := sources_of_idle (t := t) idle ▸ failed
      simp at split
    obtain ⟨statement, label, drafted⟩ := draft?_of_admitted admitted busy
    rw [drafted, mapM_eq_error.mpr failed]
    rfl

theorem refusal_of_not_admitted (lacking : ¬ o.Admitted t) : ∃ e, o.Refusal t e := by
  by_cases mapped : t.columns.items = []
  · exact ⟨_, .unmapped (by rintro rfl; exact lacking trivial) mapped⟩
  · cases o with
    | truncate => exact absurd trivial lacking
    | getAll | insert => exact absurd mapped lacking
    | get ids r =>
      by_cases keyed : t.readableKeys = []
      · exact ⟨_, .keyless mapped rfl keyed⟩
      · exact ⟨_, .wrongIds keyed fun length => lacking ⟨keyed, length⟩⟩
    | insertMany kind rs =>
      by_cases present : rs = []
      · exact absurd ⟨mapped, .inl present⟩ lacking
      · by_cases some_in : t.insertable = []
        · exact ⟨_, .notInsertable mapped present some_in⟩
        · by_cases room : rs.length * t.insertable.length ≤ maxParams
          · exact absurd ⟨mapped, .inr ⟨some_in, room⟩⟩ lacking
          · exact ⟨_, .tooMany (Nat.lt_of_not_le room)⟩
    | update r =>
      by_cases keyed : t.keyColumns = []
      · exact ⟨_, .keyless mapped rfl keyed⟩
      · exact ⟨_, .notUpdatable keyed (by_contra fun changing => lacking ⟨keyed, changing⟩)⟩
    | delete r | contains r => exact ⟨_, .keyless mapped rfl (by_contra lacking)⟩

theorem draft?_of_idle (idle : o.IsIdle) (mapped : t.columns.items ≠ []) : o.draft? t = .ok none := by
  cases o with
  | insertMany kind rs =>
    obtain rfl : rs = [] := idle
    simp only [Operation.draft?, MappedType.batchDraft, mappedColumns_of_items mapped]
    rfl
  | get | getAll | insert | update | delete | contains | truncate => exact idle.elim

theorem firstFailure_of_error (admitted : o.Admitted t) (failed : o.draft? t = .error e) :
    FirstFailure t.valueOf (o.sources t) e := by
  have busy : ¬ o.IsIdle := by
    intro idle
    cases o with
    | insertMany kind rs =>
      rw [draft?_of_idle idle admitted.1] at failed
      cases failed
    | get | getAll | insert | update | delete | contains | truncate => exact idle
  obtain ⟨statement, label, drafted⟩ := draft?_of_admitted admitted busy
  rw [drafted, map_eq_error] at failed
  exact mapM_eq_error.mp failed

theorem draft?_eq_error : o.draft? t = .error e ↔ o.Refusal t e := by
  refine ⟨fun failed => ?_, error_of_refusal⟩
  by_cases admitted : o.Admitted t
  · exact .unwritable admitted (firstFailure_of_error admitted failed)
  · obtain ⟨e', refused⟩ := refusal_of_not_admitted admitted
    rw [error_of_refusal refused] at failed
    exact Except.error.inj failed ▸ refused

theorem refusal_iff :
    (∃ e, o.Refusal t e) ↔ ¬ o.Admitted t ∨ ∃ x ∈ o.sources t, ∃ e, t.valueOf x = .error e := by
  rw [← exists_firstFailure]
  by_cases admitted : o.Admitted t
  · rw [or_iff_right (not_not_intro admitted)]
    exact exists_congr fun e =>
      ⟨fun refused => firstFailure_of_error admitted (error_of_refusal refused), .unwritable admitted⟩
  · exact iff_of_true (refusal_of_not_admitted admitted) (.inl admitted)

theorem drafted_of_unrefused (busy : ¬ o.IsIdle) (free : ∀ e, ¬ o.Refusal t e) :
    ∃ d values, o.draft? t = .ok (some d) ∧ (o.sources t).mapM t.valueOf = .ok values ∧
      d.values = o.ids ++ boundParams values := by
  have admitted : o.Admitted t := by
    by_contra lacking
    obtain ⟨e, refused⟩ := refusal_of_not_admitted lacking
    exact free e refused
  obtain ⟨statement, label, drafted⟩ := draft?_of_admitted admitted busy
  cases written : (o.sources t).mapM t.valueOf with
  | error e => exact absurd (.unwritable admitted (mapM_eq_error.mp written)) (free e)
  | ok values =>
    rw [written] at drafted
    exact ⟨_, values, drafted, rfl, rfl⟩

theorem length_sources_batch (t : MappedType) (kind : BatchKind) (rs : List Record) :
    ((Operation.insertMany kind rs).sources t).length = rs.length * t.insertable.length := by
  simp [Operation.sources, List.length_flatMap]

/-- An operation is refused when it lacks something that it asks for, or when a value of some record cannot be had,
and only then. It then gives back what it was given, and nothing is heard of it but the callback at its end. A batch
of no records is done with as quietly. Every other operation runs one statement with the values of its sources; those
of a batch are as many as it has records times columns, and no more than a statement can have. -/
theorem refusal_without_effect (t : MappedType) (o : Operation) :
    ((∃ e, o.Refusal t e) ↔ ¬ o.Admitted t ∨ ∃ x ∈ o.sources t, ∃ e, t.valueOf x = .error e) ∧
    (∀ e, o.Refusal t e → ∀ (s : Session) (c : Call),
      s.operate c t o =
        (o.halted (.error e), { s with log := s.log ++ c.callback.toList.map .finished })) ∧
    (o.IsIdle → t.columns.items ≠ [] → ∀ (s : Session) (c : Call),
      s.operate c t o = (.count (.ok 0), { s with log := s.log ++ c.callback.toList.map .finished })) ∧
    (¬ o.IsIdle → (∀ e, ¬ o.Refusal t e) → ∃ (d : Draft) (values : List Bound) (a : Account),
      (o.sources t).mapM t.valueOf = .ok values ∧ d.values = o.ids ++ boundParams values ∧
        a.Passes ∧ a.use = o.use t ∧ ∀ (s : Session) (c : Call),
          s.operate c t o = s.account c d.label d.statement.render d.values a) ∧
    (∀ kind rs, o = .insertMany kind rs → rs ≠ [] → (∀ e, ¬ o.Refusal t e) → ∃ d : Draft,
      d.values.length = rs.length * t.insertable.length ∧ d.values.length ≤ maxParams ∧
        ∀ (s : Session) (c : Call),
          s.operate c t o = (.count (s.executeDraft c d).1, (s.executeDraft c d).2)) := by
  refine ⟨refusal_iff, fun e refused s c => ?_, fun idle mapped s c => ?_, fun busy free => ?_, ?_⟩
  · exact Session.operate_failed (error_of_refusal refused) s c
  · exact Session.operate_idle (draft?_of_idle idle mapped) s c
  · obtain ⟨d, values, drafted, written, bound⟩ := drafted_of_unrefused busy free
    obtain ⟨a, passes, use, accounts⟩ := Session.operate_account drafted
    exact ⟨d, values, a, written, bound, passes, use, accounts⟩
  · rintro kind rs rfl present free
    obtain ⟨d, values, drafted, written, bound⟩ := drafted_of_unrefused (o := .insertMany kind rs) present free
    have count : d.values.length = rs.length * t.insertable.length := by
      rw [bound, ← length_sources_batch t kind, ← (mapM_ok_getElem? written).1]
      exact length_boundParams values
    refine ⟨d, count, ?_, fun s c => ?_⟩
    · rw [count]
      exact Nat.le_of_not_lt fun beyond => free _ (.tooMany beyond)
    · simp only [Operation.draft?] at drafted
      simp only [Session.operate, Session.insertMany, drafted]

def memo : MappedType where
  typeName := "Memo"
  table := "memos"
  cacheKey := none
  fields := [.mk 0 "id" "id,pk" "i64" (.plain (.plain .int64)) none,
    .mk 1 "body" "body,json" "Body" (.document .any) none]
  ownPopulation := none

/-- The second record of a batch has a document that refuses to be written: the first is not sent either. -/
theorem refusal_without_effect_memo :
    (Operation.insertMany .create [[.plain (.int64 1), .document (.int 5)],
        [.plain (.int64 2), .document (.failing "no")]]).Refusal memo (.serialization "no") ∧
      ∀ s : Session, s.operate (Call.plain.onFinish 7).2 memo
          (.insertMany .create [[.plain (.int64 1), .document (.int 5)],
            [.plain (.int64 2), .document (.failing "no")]]) =
        (.count (.error (.error (.serialization "no"))), { s with log := s.log ++ [.finished 7] }) := by
  have refused : (Operation.insertMany .create [[.plain (.int64 1), .document (.int 5)],
      [.plain (.int64 2), .document (.failing "no")]]).Refusal memo (.serialization "no") :=
    draft?_eq_error.mp (by decide +kernel)
  exact ⟨refused, fun s => (refusal_without_effect memo _).2.1 _ refused s _⟩

end RowMapper
