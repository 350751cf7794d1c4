import Mathlib.Data.List.Nodup
import RowMapper.Proofs.Operation.ColumnNames
import RowMapper.Proofs.Operation.Drafts
import RowMapper.Proofs.Operation.Placeholders
import RowMapper.Proofs.Session.Invocations

/-!
The places of a draft and its values. The text and the values are made apart from each other; the value
at each place is that of the column that the text names with it, and of no other.
-/
namespace RowMapper

def Draft.Equates (d : Draft) (c : Column) (place : Nat) : Prop :=
  [.text (c.columnName ++ " = "), .param place] <:+: d.statement.pieces

def Draft.Binds (d : Draft) (t : MappedType) (r : Record) (c : Column) (place : Nat) : Prop :=
  c ∈ t.columns.items ∧ ∃ b, t.value r c.path = .ok b ∧ d.values[place - 1]? = some b.param

/-- Consecutive places from a first one on belong to the columns of a collection, in their order. -/
def Draft.Assigns (d : Draft) (t : MappedType) (r : Record) (cs : Columns) (start : Nat) : Prop :=
  ∀ (i : Nat) (c : Column), cs.items[i]? = some c →
    d.Equates c (start + i) ∧ d.Binds t r c (start + i)

/-- The pieces of an insert of records into columns: the columns by name, and one place for each column
in the parentheses of each record, counted on from record to record. -/
def insertText (table : String) (names : List String) (records : Nat) : List Piece :=
  [.text ("INSERT INTO " ++ table ++ " ("), .text (",".intercalate names), .text ") VALUES "] ++
    Statement.between "," ((List.range records).map fun j =>
      .text "(" :: Statement.between "," ((List.range names.length).map fun i =>
        [.param (j * names.length + i + 1)]) ++ [.text ")"])

/-- The places of an insert belong to the columns of each record in turn. -/
structure Draft.Fills (d : Draft) (t : MappedType) (rs : List Record) (cs : Columns) : Prop where
  text : ∃ rest, paramNumbers rest = [] ∧ d.statement.pieces =
    (if cs.isEmpty then [.text ("INSERT INTO " ++ t.table ++ " DEFAULT VALUES")]
      else insertText t.table cs.bareNames rs.length) ++ rest
  bound : ∀ (j i : Nat) (r : Record) (c : Column), rs[j]? = some r → cs.items[i]? = some c →
    d.Binds t r c (j * cs.size + i + 1)

def Operation.Paired (t : MappedType) (d : Draft) : Operation → Prop
  | .get ids _ => d.values = ids ∧ ids.length = (t.selected.view .primaryKeys).size ∧
      ∀ (i : Nat) (c : Column), (t.selected.view .primaryKeys).items[i]? = some c → d.Equates c (1 + i)
  | .getAll _ | .truncate => d.values = []
  | .insert kind r => d.Fills t [r] (t.insertion r kind).columns
  | .insertMany _ rs => d.Fills t rs (t.columns.view .inserted)
  | .update r => d.Assigns t r (t.columns.view .updated) 1 ∧
      d.Assigns t r (t.columns.view .primaryKeys) (1 + (t.columns.view .updated).size)
  | .delete r | .contains r => d.Assigns t r (t.columns.view .primaryKeys) 1

variable {t : MappedType} {r : Record} {d : Draft} {cs : Columns}

theorem mem_pairsFrom {names : List String} {name : String} {i : Nat} (start : Nat)
    (h : names[i]? = some name) :
    [Piece.text (name ++ " = "), .param (start + i)] ∈ Statement.pairsFrom start names := by
  simp only [Statement.pairsFrom, List.mem_map]
  exact ⟨(name, i), List.mem_zipIdx_iff_getElem?.mpr h, rfl⟩

theorem infix_between (sep : String) {lists : List (List Piece)} {l : List Piece} (h : l ∈ lists) :
    l <:+: Statement.between sep lists := by
  induction lists with
  | nil => simp at h
  | cons a rest ih =>
    cases rest with
    | nil =>
      obtain rfl := List.mem_singleton.mp h
      simp [Statement.between]
    | cons b rest =>
      rw [Statement.between_cons_cons]
      rcases List.mem_cons.mp h with rfl | h
      · exact (List.prefix_append l _).isInfix
      · exact (ih h).trans ((List.suffix_cons _ _).trans (List.suffix_append a _)).isInfix

theorem infix_pairs (sep : String) (start : Nat) {cs : Columns} {c : Column} {i : Nat}
    (h : cs.items[i]? = some c) :
    [Piece.text (c.columnName ++ " = "), .param (start + i)] <:+:
      Statement.between sep (Statement.pairsFrom start cs.bareNames) := by
  refine infix_between sep (mem_pairsFrom start ?_)
  simp [Columns.bareNames, h]

theorem values_ok {values : List Bound} (h : cs.values t r = .ok values) :
    values.length = cs.size ∧ ∀ (i : Nat) (c : Column), cs.items[i]? = some c →
      ∃ b, t.value r c.path = .ok b ∧ (boundParams values)[i]? = some b.param := by
  obtain ⟨length, each⟩ := mapM_ok_getElem? h
  refine ⟨length, fun i c hc => ?_⟩
  obtain ⟨b, hb, value⟩ := each i c hc
  exact ⟨b, value, by simp [boundParams, hb]⟩

theorem getElem?_flatten_rows {α : Type} {m : Nat} {rows : List (List α)}
    (even : ∀ row ∈ rows, row.length = m) {j i : Nat} {row : List α} (hj : rows[j]? = some row)
    (hi : i < m) : rows.flatten[j * m + i]? = row[i]? := by
  induction rows generalizing j with
  | nil => simp at hj
  | cons first rest ih =>
    have length : first.length = m := even first List.mem_cons_self
    cases j with
    | zero =>
      obtain rfl : first = row := Option.some.inj hj
      rw [List.flatten_cons, Nat.zero_mul, Nat.zero_add, List.getElem?_append_left (by omega)]
    | succ j =>
      have later := ih (fun row hr => even row (List.mem_cons_of_mem first hr)) hj
      have past : (j + 1) * m + i = first.length + (j * m + i) := by
        rw [Nat.succ_mul, length]
        omega
      rw [List.flatten_cons, past, List.getElem?_append_right (by omega), Nat.add_sub_cancel_left]
      exact later

theorem length_boundParams (values : List Bound) : (boundParams values).length = values.length :=
  List.length_map _

theorem boundParams_append (values more : List Bound) :
    boundParams (values ++ more) = boundParams values ++ boundParams more :=
  List.map_append

theorem assigns_of_values (sep : String) {start : Nat} {values : List Bound} (hv : cs.values t r = .ok values)
    (known : ∀ c ∈ cs.items, c ∈ t.columns.items)
    (text : Statement.between sep (Statement.pairsFrom start cs.bareNames) <:+: d.statement.pieces)
    (there : ∀ (i : Nat) (v : Param), (boundParams values)[i]? = some v →
      d.values[start + i - 1]? = some v) : d.Assigns t r cs start := by
  intro i c hc
  obtain ⟨-, each⟩ := values_ok hv
  obtain ⟨b, value, hb⟩ := each i c hc
  refine ⟨(infix_pairs sep start hc).trans text, known c (List.mem_of_getElem? hc), b, value, ?_⟩
  exact there i b.param hb

theorem insertText_eq (table : String) (names : List String) (records : Nat) :
    insertText table names records =
      [.text ("INSERT INTO " ++ table ++ " (")] ++ Statement.nameList names ++ [.text ") VALUES "] ++
        Statement.between "," (Statement.rowPlaces names.length records) := by
  have row (j : Nat) : Statement.tokens (1 + j * names.length) names.length =
      Statement.between "," ((List.range names.length).map fun i =>
        [.param (j * names.length + i + 1)]) := by
    rw [Statement.tokens, Statement.placesFrom, List.range'_eq_map_range, List.map_map]
    congr 2
    funext i
    simp only [Function.comp_apply]
    congr 2
    omega
  simp only [insertText, Statement.rowPlaces, Statement.nameList, row, List.cons_append,
    List.nil_append]

theorem fills_of_values {rs : List Record} {rows : List (List Bound)}
    (hr : rs.mapM (cs.values t) = .ok rows) (known : ∀ c ∈ cs.items, c ∈ t.columns.items)
    {conflict : Conflict} {returning : List String}
    (text : d.statement = .insert t.table cs.bareNames rs.length conflict returning)
    (values : d.values = boundParams rows.flatten) :
    d.Fills t rs cs ∧ d.values.length = d.statement.arity := by
  obtain ⟨length, each⟩ := mapM_ok_getElem? hr
  have even : ∀ row ∈ rows, row.length = cs.size := by
    intro row hrow
    obtain ⟨j, hj⟩ := List.mem_iff_getElem?.mp hrow
    have bound : j < rs.length := length ▸ (List.getElem?_eq_some_iff.mp hj).1
    obtain ⟨row', hj', hv⟩ := each j rs[j] (List.getElem?_eq_getElem bound)
    obtain rfl : row = row' := Option.some.inj (hj.symm.trans hj')
    exact (values_ok hv).1
  refine ⟨⟨?_, ?_⟩, ?_⟩
  · refine ⟨Statement.conflictPieces conflict ++ (if returning.isEmpty then []
      else [.text " RETURNING "] ++ Statement.nameList returning), ?_, ?_⟩
    · rw [paramNumbers_append, Statement.paramNumbers_conflictPieces]
      split <;> rfl
    · have empty : cs.bareNames.isEmpty = cs.isEmpty := by
        simp [Columns.bareNames, Columns.isEmpty]
      rw [text, insertText_eq, ← List.append_assoc]
      simp only [Statement.pieces, empty]
  · intro j i r c hj hc
    obtain ⟨row, hrow, hv⟩ := each j r hj
    obtain ⟨-, cells⟩ := values_ok hv
    obtain ⟨b, value, hb⟩ := cells i c hc
    have within : i < cs.size := (List.getElem?_eq_some_iff.mp hc).1
    refine ⟨known c (List.mem_of_getElem? hc), b, value, ?_⟩
    rw [values, Nat.add_sub_cancel, boundParams, List.getElem?_map,
      getElem?_flatten_rows even hrow within, ← List.getElem?_map]
    exact hb
  · have total : rows.flatten.length = rs.length * cs.size := by
      rw [List.length_flatten, List.map_congr_left even, List.map_const', List.sum_replicate_nat, length]
    rw [values, length_boundParams, total, text]
    simp [Statement.arity, Columns.bareNames, Columns.size]

theorem insert_ok {kind : InsertKind} (h : (Operation.insert kind r).draft? t = .ok (some d)) :
    ∃ values, (t.insertion r kind).columns.values t r = .ok values ∧ d.values = boundParams values ∧
      d.statement = .insert t.table (t.insertion r kind).columns.bareNames 1
        (t.insertion r kind).conflict (t.insertion r kind).returning.bareNames ∧
      d.label = some (t.insertion r kind).label := by
  obtain ⟨_, -, drafted⟩ := bind_eq_ok.mp (some_of_map h)
  exact insertDraft_ok drafted

theorem mem_insertion_columns {kind : InsertKind} {c : Column}
    (h : c ∈ (t.insertion r kind).columns.items) : c ∈ t.columns.items := by
  cases kind with
  | create | createIfNew => exact Columns.mem_of_mem_view h
  | upsert => exact Columns.mem_of_mem_filter h

theorem keys_paired {values : List Bound} (hv : (t.columns.view .primaryKeys).values t r = .ok values)
    (bound : d.values = boundParams values)
    (text : Statement.keyTest 1 (t.columns.view .primaryKeys).bareNames <:+: d.statement.pieces)
    (arity : d.statement.arity = (t.columns.view .primaryKeys).size) :
    d.Assigns t r (t.columns.view .primaryKeys) 1 ∧ d.values.length = d.statement.arity := by
  refine ⟨assigns_of_values " AND " hv (fun _ => Columns.mem_of_mem_view) text fun i v hi => ?_, ?_⟩
  · rw [Nat.add_sub_cancel_left, bound]
    exact hi
  · rw [bound, length_boundParams, (values_ok hv).1, arity]

theorem update_paired (h : t.updateDraft r = .ok d) :
    (Operation.update r).Paired t d ∧ d.values.length = d.statement.arity := by
  obtain ⟨values, keyValues, hv, hk, bound, text, -⟩ := updateDraft_ok h
  obtain ⟨length, -⟩ := values_ok hv
  obtain ⟨keyLength, -⟩ := values_ok hk
  refine ⟨⟨?_, ?_⟩, ?_⟩
  · refine assigns_of_values ", " hv (fun _ => Columns.mem_of_mem_view) ?_ fun i v hi => ?_
    · rw [text]
      exact (List.infix_append _ _ _).trans (List.prefix_append _ _).isInfix
    · rw [Nat.add_sub_cancel_left, bound, boundParams_append,
        List.getElem?_append_left (List.getElem?_eq_some_iff.mp hi).1]
      exact hi
  · refine assigns_of_values " AND " hk (fun _ => Columns.mem_of_mem_view) ?_ fun i v hi => ?_
    · have start : 1 + (t.columns.view .updated).size =
          (t.columns.view .updated).bareNames.length + 1 := by
        simp [Columns.bareNames, Columns.size, Nat.add_comm]
      rw [text, start]
      exact (List.suffix_append _ _).isInfix
    · have place : 1 + (t.columns.view .updated).size + i - 1 = (boundParams values).length + i := by
        rw [length_boundParams, length]
        omega
      rw [place, bound, boundParams_append, List.getElem?_append_right (Nat.le_add_right _ _),
        Nat.add_sub_cancel_left]
      exact hi
  · rw [bound, length_boundParams, List.length_append, length, keyLength, text]
    simp [Statement.arity, Columns.bareNames, Columns.size]

theorem paired_of_draft {o : Operation} (h : o.draft? t = .ok (some d)) :
    o.Paired t d ∧ d.values.length = d.statement.arity := by
  cases o with
  | get ids r =>
    obtain ⟨length, values, text, -⟩ := getDraft_ok (some_of_map h)
    refine ⟨⟨values, length, fun i c hc => ?_⟩, ?_⟩
    · rw [Draft.Equates, text]
      exact (infix_pairs " AND " 1 hc).trans (List.suffix_append _ _).isInfix
    · rw [values, length, text]
      simp [Statement.arity, Columns.bareNames, Columns.size]
  | getAll rs =>
    obtain ⟨values, text, -⟩ := getAllDraft_ok (some_of_map h)
    exact ⟨values, by rw [values, text]; rfl⟩
  | insert kind r =>
    obtain ⟨values, hv, bound, text, -⟩ := insert_ok h
    have row : [r].mapM ((t.insertion r kind).columns.values t) = .ok [values] := by
      simp [hv, bind, Except.bind, pure, Except.pure]
    exact fills_of_values row (fun _ => mem_insertion_columns) text (by simpa using bound)
  | insertMany kind rs =>
    obtain ⟨rows, hr, bound, text, -⟩ := batchDraft_ok h
    exact fills_of_values hr (fun _ => Columns.mem_of_mem_view) text bound
  | update r => exact update_paired (some_of_map h)
  | delete r =>
    obtain ⟨values, hv, bound, text, -⟩ := deleteDraft_ok (some_of_map h)
    refine keys_paired hv bound ?_ ?_ <;> rw [text]
    · exact (List.suffix_append _ _).isInfix
    · exact List.length_map _
  | contains r =>
    obtain ⟨values, hv, bound, text, -⟩ := existsDraft_ok (some_of_map h)
    refine keys_paired hv bound ?_ ?_ <;> rw [text]
    · exact (List.suffix_append _ _).isInfix
    · exact List.length_map _
  | truncate =>
    obtain rfl := Option.some.inj (Except.ok.inj h)
    exact ⟨rfl, rfl⟩

theorem mem_paramNumbers {k : Nat} {ps : List Piece} (h : .param k ∈ ps) : k ∈ paramNumbers ps := by
  simp only [paramNumbers, List.mem_filterMap]
  exact ⟨.param k, h, rfl⟩

/-- A place that stands in a text once stands behind one name only. -/
theorem eq_of_infix_param {ps : List Piece} {a b : String} {k : Nat} (once : (paramNumbers ps).Nodup)
    (ha : [.text a, .param k] <:+: ps) (hb : [.text b, .param k] <:+: ps) : a = b := by
  obtain ⟨x, y, rfl⟩ := ha
  obtain ⟨u, v, same⟩ := hb
  simp only [List.append_assoc, List.cons_append, List.nil_append] at same once
  rw [paramNumbers_append, paramNumbers_text, paramNumbers_param, List.nodup_append] at once
  obtain ⟨-, later, apart⟩ := once
  have before : .param k ∉ x ++ [.text a] := by
    intro h
    have number := mem_paramNumbers h
    rw [paramNumbers_append, paramNumbers_text, paramNumbers_nil, List.append_nil] at number
    exact apart k number k List.mem_cons_self rfl
  have after : .param k ∉ y := fun h => (List.nodup_cons.mp later).1 (mem_paramNumbers h)
  have split : (x ++ [.text a]) ++ .param k :: y = (u ++ [.text b]) ++ .param k :: v := by
    simpa using same.symm
  obtain ⟨front, -, -⟩ := (List.append_cons_inj_of_notMem before after).mp split
  exact Piece.text.inj (List.cons.inj (List.append_inj' front rfl).2).1

theorem equates_unique {c c' : Column} {k : Nat} (hc : c ∈ t.columns.items)
    (hc' : c' ∈ t.columns.items) (h : d.Equates c k) (h' : d.Equates c' k) : c = c' := by
  have once : (paramNumbers d.statement.pieces).Nodup := by
    rw [Statement.paramNumbers_pieces]
    exact List.nodup_range'
  have names := String.append_left_inj " = " |>.mp (eq_of_infix_param once h h')
  exact List.inj_on_of_nodup_map t.nodup_columns hc hc' names

theorem names_of_filter {keep : Column → Bool} {name : String}
    (h : name ∈ (cs.filter keep).bareNames) : name ∈ cs.bareNames := by
  simp only [Columns.bareNames, List.mem_map] at h ⊢
  obtain ⟨c, hc, rfl⟩ := h
  exact ⟨c, Columns.mem_of_mem_filter hc, rfl⟩

theorem names_of_view {v : View} {name : String} (h : name ∈ (cs.view v).bareNames) :
    name ∈ cs.bareNames :=
  names_of_filter h

theorem names_of_insertion {kind : InsertKind} {name : String}
    (h : name ∈ (t.insertion r kind).columns.bareNames ++
      Statement.conflictNames (t.insertion r kind).conflict ++
      (t.insertion r kind).returning.bareNames) : name ∈ t.columns.bareNames := by
  cases kind with
  | create =>
    simp only [MappedType.insertion, Statement.conflictNames, List.append_nil, List.mem_append] at h
    rcases h with h | h <;> exact names_of_view h
  | createIfNew =>
    simp only [MappedType.insertion, Statement.conflictNames, List.mem_append] at h
    rcases h with (h | h) | h <;> exact names_of_view h
  | upsert =>
    simp only [MappedType.insertion, Statement.conflictNames, List.mem_append] at h
    rcases h with (h | h | h) | h
    · exact names_of_filter h
    · exact names_of_view h
    · exact names_of_view (names_of_filter h)
    · simp only [MappedType.upsertReturning] at h
      split at h
      · exact names_of_view h
      · simp [Columns.bareNames, Columns.empty, Columns.qualified] at h

theorem names_of_batchConflict {kind : BatchKind} {name : String}
    (h : name ∈ Statement.conflictNames (t.batchConflict kind)) : name ∈ t.columns.bareNames := by
  cases kind with
  | create => simp [MappedType.batchConflict, Statement.conflictNames] at h
  | upsert =>
    simp only [MappedType.batchConflict, Statement.conflictNames, List.mem_append] at h
    rcases h with h | h
    · simp only [MappedType.batchTarget] at h
      split at h <;> exact names_of_view h
    · exact names_of_view (names_of_filter h)

theorem names_of_draft {o : Operation} (h : o.draft? t = .ok (some d)) :
    ∀ name ∈ d.statement.names, name ∈ t.table :: t.columns.bareNames := by
  intro name hn
  rw [List.mem_cons]
  cases o with
  | get ids r =>
    obtain ⟨-, -, text, -⟩ := getDraft_ok (some_of_map h)
    simp only [text, Statement.names, List.mem_append, List.mem_cons] at hn
    rcases hn with (hn | hn) | hn
    · exact .inl hn
    · exact .inr (names_of_view hn)
    · exact .inr (names_of_view (names_of_view hn))
  | getAll rs =>
    obtain ⟨-, text, -⟩ := getAllDraft_ok (some_of_map h)
    simp only [text, Statement.names, List.mem_cons] at hn
    exact hn.imp_right names_of_view
  | insert kind r =>
    obtain ⟨values, -, -, text, -⟩ := insert_ok h
    simp only [text, Statement.names, List.cons_append, List.mem_cons] at hn
    exact hn.imp_right names_of_insertion
  | insertMany kind rs =>
    obtain ⟨rows, -, -, text, -⟩ := batchDraft_ok h
    simp only [text, Statement.names, List.append_nil, List.mem_append, List.mem_cons] at hn
    rcases hn with (hn | hn) | hn
    · exact .inl hn
    · exact .inr (names_of_view hn)
    · exact .inr (names_of_batchConflict hn)
  | update r =>
    obtain ⟨_, _, -, -, -, text, -⟩ := updateDraft_ok (some_of_map h)
    simp only [text, Statement.names, List.mem_append, List.mem_cons] at hn
    rcases hn with (hn | hn) | hn
    · exact .inl hn
    · exact .inr (names_of_view hn)
    · exact .inr (names_of_view hn)
  | delete r =>
    obtain ⟨_, -, -, text, -⟩ := deleteDraft_ok (some_of_map h)
    simp only [text, Statement.names, List.mem_cons] at hn
    exact hn.imp_right names_of_view
  | contains r =>
    obtain ⟨_, -, -, text, -⟩ := existsDraft_ok (some_of_map h)
    simp only [text, Statement.names, List.mem_cons] at hn
    exact hn.imp_right names_of_view
  | truncate =>
    obtain rfl := Option.some.inj (Except.ok.inj h)
    exact .inl (List.mem_singleton.mp hn)

theorem default_values {kind : InsertKind} (mapped : t.columns.isEmpty = false)
    (none_written : (t.insertion r kind).columns.isEmpty = true) :
    ∃ d, (Operation.insert kind r).draft? t = .ok (some d) ∧ d.values = [] ∧
      ∃ rest, paramNumbers rest = [] ∧
        d.statement.pieces = .text ("INSERT INTO " ++ t.table ++ " DEFAULT VALUES") :: rest := by
  have columns : t.mappedColumns = .ok t.columns := by simp [MappedType.mappedColumns, mapped]
  have items : (t.insertion r kind).columns.items = [] := List.isEmpty_iff.mp none_written
  have values : (t.insertion r kind).columns.values t r = .ok [] := by
    rw [Columns.values, items]
    rfl
  have drafted : (Operation.insert kind r).draft? t = .ok (some ⟨.insert t.table
      (t.insertion r kind).columns.bareNames 1 (t.insertion r kind).conflict
      (t.insertion r kind).returning.bareNames, [], some (t.insertion r kind).label⟩) := by
    simp only [Operation.draft?, columns, MappedType.insertDraft, values, bind, Except.bind]
    rfl
  obtain ⟨rest, quiet, text⟩ := (paired_of_draft drafted).1.text
  rw [if_pos none_written] at text
  exact ⟨_, drafted, rfl, rest, quiet, text⟩

theorem told_draft {o : Operation} (h : o.draft? t = .ok (some d)) {s : Session} {c : Call}
    (connected : s.lacksConnection c = false) :
    ∃ ctx rest, Session.Told (.before ctx :: rest) s (s.perform c t o) ∧
      ctx.canonicalSql = d.statement.render ∧ ctx.paramCount = d.values.length := by
  obtain ⟨e, told⟩ := Session.told_carryOut s c d.label d.statement.render d.values (o.use t)
  refine ⟨s.asked c d.label d.statement.render d.values.length, ?_⟩
  rw [Session.callbacks, connected] at told
  rw [Session.perform_eq, h]
  cases answer : s.answered (s.asked c d.label d.statement.render d.values.length) with
  | error reason =>
    rw [answer] at told
    exact ⟨_, told, rfl, rfl⟩
  | ok changed =>
    rw [answer] at told
    exact ⟨_, told, rfl, rfl⟩

/-- The places in the text of an operation are numbered from one on, as many as there are values; so they
are read off it too, if no name has a dollar sign of its own. Each value is that of the one column that the
text names with its place. A record without a column to write has no values. -/
theorem draft_places (t : MappedType) (o : Operation) :
    (∀ d, o.draft? t = .ok (some d) →
      paramNumbers d.statement.pieces = List.range' 1 d.values.length ∧
      ((∀ name ∈ t.table :: t.columns.bareNames, '$' ∉ name.toList) →
        placeholders d.statement.render.toList = List.range' 1 d.values.length) ∧
      o.Paired t d ∧
      (∀ c ∈ t.columns.items, ∀ c' ∈ t.columns.items, ∀ k,
        d.Equates c k → d.Equates c' k → c = c') ∧
      ∀ (s : Session) (c : Call),
        s.perform c t o = (s.carryOut c d.label d.statement.render d.values (o.use t)).2 ∧
        (s.lacksConnection c = false →
          ∃ ctx rest, Session.Told (.before ctx :: rest) s (s.perform c t o) ∧
            ctx.canonicalSql = d.statement.render ∧ ctx.paramCount = d.values.length)) ∧
    ∀ kind r, t.columns.isEmpty = false → (t.insertion r kind).columns.isEmpty = true →
      ∃ d, (Operation.insert kind r).draft? t = .ok (some d) ∧ d.values = [] ∧
        ∃ rest, paramNumbers rest = [] ∧
          d.statement.pieces = .text ("INSERT INTO " ++ t.table ++ " DEFAULT VALUES") :: rest := by
  refine ⟨fun d h => ?_, fun kind r => default_values⟩
  obtain ⟨paired, arity⟩ := paired_of_draft h
  refine ⟨?_, fun plain => ?_, paired, ?_, fun s c => ⟨?_, told_draft h⟩⟩
  · rw [arity, Statement.paramNumbers_pieces]
  · rw [arity]
    exact d.statement.placeholders_pieces fun name hn => plain name (names_of_draft h name hn)
  · intro c hc c' hc' k
    exact equates_unique hc hc'
  · rw [Session.perform_eq, h]

def person : MappedType where
  typeName := "Person"
  table := "person"
  cacheKey := none
  fields := [.mk 0 "id" "id,pk" "i64" (.plain (.plain .int64)) none,
    .mk 1 "name" "name" "String" (.plain (.plain .text)) none,
    .mk 2 "home" "home,inline" "Address" (.plain (.plain .text))
      (some ("Address", [.mk 0 "street" "street" "String" (.plain (.plain .text)) none]))]
  ownPopulation := none

def resident : Record :=
  [.plain (.int64 7), .plain (.text "Ada"), .record [.plain (.text "Elm Street")]]

def moved : Draft :=
  ⟨.update "person" ["name", "street"] ["id"], [⟨.plain .text, .text "Ada"⟩,
    ⟨.plain .text, .text "Elm Street"⟩, ⟨.plain .int64, .int64 7⟩], some "person_update"⟩

theorem draft_places_person :
    (Operation.update resident).draft? person = .ok (some moved) ∧
      placeholders moved.statement.render.toList = [1, 2, 3] ∧
      (Operation.update resident).Paired person moved := by
  have drafted : (Operation.update resident).draft? person = .ok (some moved) := by decide +kernel
  have plain : ∀ name ∈ person.table :: person.columns.bareNames, '$' ∉ name.toList := by
    decide +kernel
  obtain ⟨-, numbered, paired, -⟩ := (draft_places person (.update resident)).1 moved drafted
  exact ⟨drafted, numbered plain, paired⟩

end RowMapper
