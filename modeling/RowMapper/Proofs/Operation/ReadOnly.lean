import Mathlib.Data.List.Forall2
import RowMapper.Proofs.Operation.Refusals
import RowMapper.Proofs.Session.Outcomes

/-!
Read-only columns. Two records that differ in nothing else are written alike: by the same text, with the same
values, or not at all for the same reason. The label of an upsert may tell them apart, since it names the generated
columns that have values, also those that are not written.
-/
namespace RowMapper

/-- Two records have the same value in a column, and count alike as zero there. -/
def MappedType.SameAt (t : MappedType) (r r' : Record) (c : Column) : Prop :=
  t.value r c.path = t.value r' c.path ∧ t.isZero r c.path = t.isZero r' c.path

/-- Two records have the same in all columns that are not read-only, and in those of the key. -/
def MappedType.SameButReadOnly (t : MappedType) (r r' : Record) : Prop :=
  ∀ c ∈ t.columns.items, c.flags.readOnly = false ∨ c.flags.primaryKey = true → t.SameAt r r' c

/-- Two operations that write in the same way what is the same but for read-only columns. -/
inductive Operation.Twins (t : MappedType) : Operation → Operation → Prop where
  | insert (kind : InsertKind) {r r' : Record} : t.SameButReadOnly r r' →
    Twins t (.insert kind r) (.insert kind r')
  | insertMany (kind : BatchKind) {rs rs' : List Record} : List.Forall₂ t.SameButReadOnly rs rs' →
    Twins t (.insertMany kind rs) (.insertMany kind rs')
  | update {r r' : Record} : t.SameButReadOnly r r' → Twins t (.update r) (.update r')

def Draft.content (d : Draft) : Statement × List Param := (d.statement, d.values)

/-- No column is left to the table and also only read. -/
def MappedType.WritesAutos (t : MappedType) : Prop :=
  ∀ c ∈ t.columns.items, c.flags.auto = true → c.flags.readOnly = false

variable {t : MappedType} {r r' : Record} {cs : Columns} {o o' : Operation}

theorem mapM_forall₂ {α β ε : Type} {f g : α → Except ε β} {xs ys : List α}
    (same : List.Forall₂ (fun x y => f x = g y) xs ys) : xs.mapM f = ys.mapM g := by
  induction same with
  | nil => rfl
  | cons first _ ih => rw [List.mapM_cons, List.mapM_cons, first, ih]

theorem values_congr (same : ∀ c ∈ cs.items, t.value r c.path = t.value r' c.path) :
    cs.values t r = cs.values t r' :=
  mapM_forall₂ (List.forall₂_same.mpr same)

namespace MappedType.SameButReadOnly

theorem values_eq (same : t.SameButReadOnly r r')
    (apt : ∀ c ∈ cs.items, c ∈ t.columns.items ∧ (c.flags.readOnly = false ∨ c.flags.primaryKey = true)) :
    cs.values t r = cs.values t r' :=
  values_congr fun c hc => (same c (apt c hc).1 (apt c hc).2).1

theorem view_eq (same : t.SameButReadOnly r r') {v : View}
    (apt : ∀ c, v.keeps c = true → c.flags.readOnly = false ∨ c.flags.primaryKey = true) :
    (t.columns.view v).values t r = (t.columns.view v).values t r' := by
  refine same.values_eq fun c hc => ?_
  rw [Columns.items_view t.nodup_columns] at hc
  obtain ⟨there, kept⟩ := List.mem_filter.mp hc
  exact ⟨there, apt c kept⟩

theorem inserted_eq (same : t.SameButReadOnly r r') :
    (t.columns.view .inserted).values t r = (t.columns.view .inserted).values t r' :=
  same.view_eq fun _ kept => .inl (by simpa using (Bool.and_eq_true_iff.mp kept).1)

theorem updated_eq (same : t.SameButReadOnly r r') :
    (t.columns.view .updated).values t r = (t.columns.view .updated).values t r' :=
  same.view_eq fun _ kept => .inl (by simpa using (Bool.and_eq_true_iff.mp kept).1)

theorem keys_eq (same : t.SameButReadOnly r r') :
    (t.columns.view .primaryKeys).values t r = (t.columns.view .primaryKeys).values t r' :=
  same.view_eq fun _ kept => .inr kept

theorem upsertColumns_eq (same : t.SameButReadOnly r r') :
    (t.upsertColumns r).items = (t.upsertColumns r').items := by
  rw [items_upsertColumns, items_upsertColumns]
  refine List.filter_congr fun c hc => ?_
  cases only_read : c.flags.readOnly with
  | true => rfl
  | false => rw [(same c hc (.inl only_read)).2]

theorem upserted_eq (same : t.SameButReadOnly r r') :
    (t.upsertColumns r).values t r = (t.upsertColumns r').values t r' := by
  have each : (t.upsertColumns r).values t r = (t.upsertColumns r).values t r' := by
    refine same.values_eq fun c hc => ?_
    rw [items_upsertColumns] at hc
    obtain ⟨there, flags⟩ := List.mem_filter.mp hc
    simp only [Bool.and_eq_true, Bool.not_eq_true'] at flags
    exact ⟨there, .inl flags.1⟩
  rw [each, Columns.values, Columns.values, same.upsertColumns_eq]

theorem upsertLabel_eq (same : t.SameButReadOnly r r') (writes : t.WritesAutos) :
    t.upsertLabel r = t.upsertLabel r' := by
  have autos : t.presentAutos r = t.presentAutos r' := by
    simp only [MappedType.presentAutos, Columns.notZero, Columns.filter]
    congr 1
    refine List.filter_congr fun c hc => ?_
    rw [Columns.items_view t.nodup_columns] at hc
    obtain ⟨there, auto⟩ := List.mem_filter.mp hc
    rw [(same c there (.inl (writes c there auto))).2]
  rw [MappedType.upsertLabel, MappedType.upsertLabel, autos]

end MappedType.SameButReadOnly

theorem upsertColumns_names (same : t.SameButReadOnly r r') :
    (t.upsertColumns r).bareNames = (t.upsertColumns r').bareNames := by
  rw [Columns.bareNames, Columns.bareNames, same.upsertColumns_eq]

theorem upsertSet_names (t : MappedType) (r r' : Record) :
    (t.upsertSet r).bareNames = (t.upsertSet r').bareNames := by
  rw [bareNames_of_items (items_upsertSet t r), bareNames_of_items (items_upsertSet t r')]

theorem upsert_content (same : t.SameButReadOnly r r') :
    (t.insertDraft r (t.insertion r .upsert)).map Draft.content =
      (t.insertDraft r' (t.insertion r' .upsert)).map Draft.content := by
  simp only [MappedType.insertDraft, MappedType.insertion, same.upserted_eq, upsertColumns_names same,
    upsertSet_names t r r']
  -- The labels may differ, so the content is taken out before the drafts are compared.
  cases (t.upsertColumns r').values t r' <;> simp only [bind, Except.bind, Except.map, Draft.content]

theorem batchDraft_eq {rs rs' : List Record} (kind : BatchKind)
    (same : List.Forall₂ t.SameButReadOnly rs rs') : t.batchDraft kind rs = t.batchDraft kind rs' := by
  have rows : rs.mapM ((t.columns.view .inserted).values t) =
      rs'.mapM ((t.columns.view .inserted).values t) :=
    mapM_forall₂ (same.imp fun _ _ same => same.inserted_eq)
  have length : rs.length = rs'.length := same.length_eq
  have empty : rs.isEmpty = rs'.isEmpty := by
    rw [Bool.eq_iff_iff, List.isEmpty_iff_length_eq_zero, List.isEmpty_iff_length_eq_zero, length]
  simp only [MappedType.batchDraft, empty, length]
  cases mapped : t.mappedColumns with
  | error e => rfl
  | ok columns =>
    obtain rfl := mappedColumns_ok mapped
    simp only [bind, Except.bind, rows]

theorem updateDraft_eq (same : t.SameButReadOnly r r') : t.updateDraft r = t.updateDraft r' := by
  simp only [MappedType.updateDraft]
  cases mapped : t.mappedColumns with
  | error e => rfl
  | ok columns =>
    obtain rfl := mappedColumns_ok mapped
    cases keyed : t.keysOf t.columns with
    | error e => simp only [bind, Except.bind, keyed]
    | ok keys =>
      obtain rfl := keysOf_ok keyed
      simp only [bind, Except.bind, keyed, same.updated_eq, same.keys_eq]

/-- Twins have one draft, unless a label says of a column that is only read whether it is zero. -/
theorem draft?_twins (twins : o.Twins t o') (named : ∀ r, o = .insert .upsert r → t.WritesAutos) :
    o.draft? t = o'.draft? t := by
  cases twins with
  | @insert kind r r' same =>
    cases kind with
    | create | createIfNew =>
      simp only [Operation.draft?, MappedType.insertion, MappedType.insertDraft, same.inserted_eq]
    | upsert =>
      simp only [Operation.draft?, MappedType.insertDraft, MappedType.insertion, same.upserted_eq,
        upsertColumns_names same, upsertSet_names t r r', same.upsertLabel_eq (named r rfl)]
  | insertMany kind same => simp only [Operation.draft?, batchDraft_eq kind same]
  | update same => simp only [Operation.draft?, updateDraft_eq same]

theorem content_twins (twins : o.Twins t o') :
    (o.draft? t).map (Option.map Draft.content) = (o'.draft? t).map (Option.map Draft.content) := by
  by_cases upserts : ∃ r, o = .insert .upsert r
  · obtain ⟨r, rfl⟩ := upserts
    cases twins with
    | insert _ same =>
      have outside (x : Except Error Draft) :
          (x.map some).map (Option.map Draft.content) = (x.map Draft.content).map some := by
        cases x <;> rfl
      simp only [Operation.draft?]
      cases t.mappedColumns with
      | error e => rfl
      | ok columns =>
        simp only [bind, Except.bind]
        rw [outside, outside, upsert_content same]
  · rw [draft?_twins twins fun r is => absurd ⟨r, is⟩ upserts]

theorem idle_of_draft? (nothing : o.draft? t = .ok none) : o.IsIdle := by
  by_contra busy
  have free (e : Error) : ¬ o.Refusal t e := by
    intro refused
    rw [error_of_refusal refused] at nothing
    cases nothing
  obtain ⟨d, -, drafted, -⟩ := drafted_of_unrefused busy free
  rw [drafted] at nothing
  cases nothing

theorem Session.operate_closed {s : Session} {c : Call} {d : Draft} (drafted : o.draft? t = .ok (some d))
    (lacks : s.lacksConnection c = true) :
    (s.operate c t o).1.halt? = some (.error .closed) ∧ (s.operate c t o).2 = s.finish c.callback := by
  obtain ⟨a, passes, -, accounts⟩ := operate_account drafted
  have closed : s.begin c d.label d.statement.render d.values.length =
      (.error (.error .closed), s.finish c.callback) := if_pos lacks
  rw [accounts, account_eq, closed]
  exact ⟨passes.refusal _, rfl⟩

theorem begins?_of_draft {s : Session} {c : Call} {d : Draft} (connected : s.lacksConnection c = false)
    (drafted : o.draft? t = .ok (some d)) :
    s.begins? c (.record t o) = some ⟨d.label, d.statement.render, d.values, o.use t⟩ := by
  simp only [Session.begins?, connected, Invocation.planned?, drafted]
  rfl

/-- Records that have the same in all columns but read-only ones, and the same key, are written alike. Either both
operations fail with one error before a statement is begun, and do nothing else; or both have nothing to do; or both
begin a statement with the same text and the same values. It has the same label too, unless an upsert names in its
label a generated column that is only read. -/
theorem written_but_read_only (t : MappedType) (o o' : Operation) (twins : o.Twins t o') (s : Session) (c : Call) :
    (∃ e, s.begins? c (.record t o) = none ∧ s.begins? c (.record t o') = none ∧
      (s.operate c t o).1.halt? = some (.error e) ∧ (s.operate c t o').1.halt? = some (.error e) ∧
      (s.operate c t o).2 = s.finish c.callback ∧ (s.operate c t o').2 = s.finish c.callback) ∨
    (o.IsIdle ∧ o'.IsIdle ∧ s.operate c t o = (.count (.ok 0), s.finish c.callback) ∧
      s.operate c t o' = (.count (.ok 0), s.finish c.callback)) ∨
    ∃ p p', s.begins? c (.record t o) = some p ∧ s.begins? c (.record t o') = some p' ∧
      p.sql = p'.sql ∧ p.values = p'.values ∧
      ((∀ r, o = .insert .upsert r → t.WritesAutos) → p.usual = p'.usual) := by
  have same := content_twins twins
  cases drafted : o.draft? t with
  | error e =>
    rw [drafted] at same
    have failed : o'.draft? t = .error e := map_eq_error.mp same.symm
    obtain ⟨halt, ended⟩ := Session.operate_refused drafted s c
    obtain ⟨halt', ended'⟩ := Session.operate_refused failed s c
    refine .inl ⟨e, ?_, ?_, halt, halt', ended, ended'⟩
    · simp only [Session.begins?, Invocation.planned?, drafted, ite_self]
    · simp only [Session.begins?, Invocation.planned?, failed, ite_self]
  | ok draft =>
    rw [drafted] at same
    obtain ⟨draft', drafted', same⟩ := map_eq_ok.mp same.symm
    cases draft with
    | none =>
      obtain rfl : draft' = none := Option.map_eq_none_iff.mp same
      exact .inr (.inl ⟨idle_of_draft? drafted, idle_of_draft? drafted', Session.operate_idle drafted s c,
        Session.operate_idle drafted' s c⟩)
    | some d =>
      obtain ⟨d', rfl, content⟩ := Option.map_eq_some_iff.mp same
      obtain ⟨statement, values⟩ := Prod.mk.inj content
      -- Both have a statement now, and neither begins it without a connection.
      cases lacks : s.lacksConnection c with
      | true =>
        obtain ⟨halt, ended⟩ := Session.operate_closed drafted lacks
        obtain ⟨halt', ended'⟩ := Session.operate_closed drafted' lacks
        have unbegun (i : Invocation) : s.begins? c i = none := if_pos lacks
        exact .inl ⟨.closed, unbegun _, unbegun _, halt, halt', ended, ended'⟩
      | false =>
        refine .inr (.inr ⟨_, _, begins?_of_draft lacks drafted, begins?_of_draft lacks drafted', ?_, values.symm,
          fun named => ?_⟩)
        · exact congrArg Statement.render statement.symm
        · have one := draft?_twins twins named
          rw [drafted, drafted'] at one
          rw [Option.some.inj (Except.ok.inj one)]

def page : MappedType where
  typeName := "Page"
  table := "pages"
  cacheKey := none
  fields := [.mk 0 "id" "id,pk" "i64" (.plain (.plain .int64)) none,
    .mk 1 "body" "body" "String" (.plain (.plain .text)) none,
    .mk 2 "seen" "seen,auto,readonly" "i64" (.plain (.plain .int64)) none]
  ownPopulation := none

def pageSeen (times : Int64) : Record := [.plain (.int64 1), .plain (.text "Elm"), .plain (.int64 times)]

/-- How often a page was seen is never written. The label of its upsert tells whether it was. -/
theorem written_but_read_only_page :
    (Operation.insert .upsert (pageSeen 0)).Twins page (.insert .upsert (pageSeen 9)) ∧
      ∃ p p', Session.watched.begins? Call.plain (.record page (.insert .upsert (pageSeen 0))) = some p ∧
        Session.watched.begins? Call.plain (.record page (.insert .upsert (pageSeen 9))) = some p' ∧
        p.sql = p'.sql ∧ p.values = p'.values ∧
        p.usual = some "pages_upsert" ∧ p'.usual = some "pages_upsert_with_seen" := by
  have twins : (Operation.insert .upsert (pageSeen 0)).Twins page (.insert .upsert (pageSeen 9)) := by
    have same : ∀ c ∈ page.columns.items, c.flags.readOnly = false ∨ c.flags.primaryKey = true →
        page.value (pageSeen 0) c.path = page.value (pageSeen 9) c.path ∧
          page.isZero (pageSeen 0) c.path = page.isZero (pageSeen 9) c.path := by decide +kernel
    exact .insert .upsert same
  have connected : Session.watched.lacksConnection Call.plain = false := by decide +kernel
  have begun (times : Int64) (label : String) (drafted : (Operation.insert .upsert (pageSeen times)).draft? page =
      .ok (some ⟨.insert "pages" ["id", "body"] 1 (.doUpdate ["id"] ["body"]) ["seen"],
        [⟨.plain .int64, .int64 1⟩, ⟨.plain .text, .text "Elm"⟩], some label⟩)) :=
    begins?_of_draft connected drafted
  have unseen := begun 0 "pages_upsert" (by decide +kernel)
  have seen := begun 9 "pages_upsert_with_seen" (by decide +kernel)
  refine ⟨twins, _, _, unseen, seen, ?_⟩
  rcases written_but_read_only page _ _ twins Session.watched Call.plain with
    ⟨e, nothing, -⟩ | ⟨idle, -⟩ | ⟨p, p', one, other, sql, values, -⟩
  · rw [unseen] at nothing
    cases nothing
  · exact idle.elim
  · obtain rfl := Option.some.inj (unseen.symm.trans one)
    obtain rfl := Option.some.inj (seen.symm.trans other)
    exact ⟨sql, values, rfl, rfl⟩

end RowMapper
