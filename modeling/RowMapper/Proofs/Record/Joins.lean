import RowMapper.Proofs.Record.ByName
import RowMapper.Proofs.Record.RoundTrip

/-!
Rows of joins. Each table of a join has its columns under its own alias and qualifier. As long as no two tables report
one name, each reads its own columns from a row of the join, and gets back what its record has in their leaves.
-/
namespace RowMapper

/-- Cells for different leaves each give their own leaf what is read from them, and leave the other leaves. -/
theorem takenAll?_restores {t : MappedType} {r : Record} {cells : List (Column × Cell)} (fits : Fits t.fields r)
    (apart : (cells.map (·.1.path)).Nodup)
    (each : ∀ x ∈ cells, ∃ f old new, leafAt t.typeName x.1.path t.fields r = .ok (f, old) ∧
      t.given? x.1.path x.2 r = some new) :
    ∃ again, t.takenAll? cells r = some again ∧ Confined t (· ∈ cells.map (·.1.path)) r again ∧
      ∀ x ∈ cells, ∀ f old new, leafAt t.typeName x.1.path t.fields r = .ok (f, old) →
        t.given? x.1.path x.2 r = some new → leafAt t.typeName x.1.path t.fields again = .ok (f, new) := by
  induction cells generalizing r with
  | nil => exact ⟨r, rfl, .refl t _ r, fun _ none => (nomatch none)⟩
  | cons x rest ih =>
    obtain ⟨new, apart⟩ := List.nodup_cons.mp apart
    obtain ⟨⟨f, old, s, found, given⟩, others⟩ := List.forall_mem_cons.mp each
    have taken : t.taken? x.1.path x.2 r = some (setLeaf s x.1.path t.fields r) := by
      rw [MappedType.taken?, given, Option.map_some]
    have first := confined_taken fits taken
    have kept (y : Column × Cell) (hy : y ∈ rest) : leafAt t.typeName y.1.path t.fields
        (setLeaf s x.1.path t.fields r) = leafAt t.typeName y.1.path t.fields r :=
      first.kept y.1.path fun same => new (List.mem_map.mpr ⟨y, hy, same⟩)
    obtain ⟨again, all, confined, restored⟩ := ih (first.fits fits) apart fun y hy => by
      obtain ⟨g, before, after, there, given⟩ := others y hy
      exact ⟨g, before, after, (kept y hy).trans there, (given?_congr (kept y hy) y.2).trans given⟩
    refine ⟨again, by rw [MappedType.takenAll?, taken, Option.bind_some, all], ?_,
      fun y hy g before after there read => ?_⟩
    · exact (first.mono fun path here => here ▸ List.mem_cons_self).trans
        (confined.mono fun path there => List.mem_cons_of_mem _ there)
    · rcases List.mem_cons.mp hy with rfl | later
      · rw [confined.kept _ new, (reaches_of_leafAt fits found).leafAt_setLeaf t.typeName s]
        cases found.symm.trans there
        cases given.symm.trans read
        rfl
      · exact restored y later g before after ((kept y later).trans there)
          ((given?_congr (kept y later) y.2).trans read)

/-- A table of a join with a record of it: by which alias and which qualifier its columns go, and as which column
types the values of the record are sent. -/
structure JoinedTable where
  type : MappedType
  tableAlias : String
  qualifier : String
  record : Record
  bound : List Bound
  wires : List WireType
  numbered : Numbered type.fields
  fits : Fits type.fields record
  invertible : record.Invertible type
  values : (type.columns.withQualifier qualifier).values type record = .ok bound
  accepted : List.Forall₂ (fun b wire => b.param.type.accepts wire = true) bound wires

namespace JoinedTable

variable (p : JoinedTable)

def columns : Columns := p.type.columns.withQualifier p.qualifier

def selection : List String := p.columns.aliasedNames p.tableAlias

/-- A server calls the items of the table by what stands after `as`, or else by the column. -/
structure NamedBy (nameOf : String → String) : Prop where
  renamed : p.qualifier ≠ "" → ∀ c ∈ p.columns.items,
    nameOf (p.tableAlias ++ "." ++ c.columnName ++ " as " ++ (p.qualifier ++ c.columnName)) =
      p.qualifier ++ c.columnName
  bare : p.qualifier = "" → ∀ c ∈ p.columns.items, nameOf (p.tableAlias ++ "." ++ c.columnName) = c.columnName

def cells : List Cell :=
  match p.columns.row .memory p.bound p.wires with
  | .ok row => row.cells
  | .error _ => []

end JoinedTable

/-- A row of a join: the select list is that of all tables, one after the other, and so are the values. -/
def joinRow (nameOf : String → String) (source : RowSource) (tables : List JoinedTable) : Except String Row :=
  ((((tables.flatMap JoinedTable.selection).map nameOf).zip
    (tables.flatMap fun p : JoinedTable => p.bound.zip p.wires)).mapM
    fun (name, b, wire) => Bound.cell b name wire).map (⟨source, ·⟩)

namespace JoinedTable

variable {p : JoinedTable}

theorem items_columns (p : JoinedTable) : p.columns.items = p.type.columns.items :=
  Columns.items_withQualifier p.type.nodup_columns p.qualifier

theorem qualifier_columns (p : JoinedTable) : p.columns.qualifier = p.qualifier := Columns.qualifier_addAll _ _

theorem nodup_columns (p : JoinedTable) : p.columns.bareNames.Nodup := by
  have names := p.type.nodup_columns
  rwa [Columns.bareNames, ← items_columns] at names

theorem columns_subset (p : JoinedTable) : p.columns.items ⊆ Column.flatten p.type.table [] p.type.fields := by
  intro c there
  rw [items_columns] at there
  exact mem_flatten_of_mem_columns there

theorem nodup_names (p : JoinedTable) : p.columns.names.Nodup :=
  p.nodup_columns.map fun _ _ same => (String.append_right_inj _).mp same

theorem names_selection {nameOf : String → String} (named : p.NamedBy nameOf) :
    p.selection.map nameOf = p.columns.names := by
  simp only [selection, Columns.aliasedNames, Columns.names, Columns.bareNames, List.map_map, qualifier_columns]
  refine List.map_congr_left fun c hc => ?_
  by_cases unqualified : p.qualifier = ""
  · have bare : p.qualifier.isEmpty = true := String.isEmpty_iff.mpr unqualified
    simp only [Function.comp_apply, if_pos bare]
    rw [unqualified, String.empty_append]
    exact named.bare unqualified c hc
  · have qualified : ¬p.qualifier.isEmpty = true := by rwa [String.isEmpty_iff]
    simp only [Function.comp_apply, if_neg qualified]
    rw [String.append_assoc]
    exact named.renamed unqualified c hc

theorem count_names (p : JoinedTable) : p.columns.names.length = p.columns.items.length := by
  simp [Columns.names, Columns.bareNames]

theorem count_bound (p : JoinedTable) : p.bound.length = p.columns.items.length :=
  (mapM_ok_getElem? p.values).1

theorem row_cells (p : JoinedTable) :
    (p.columns.names.zip (p.bound.zip p.wires)).mapM (fun (name, b, wire) => Bound.cell b name wire) = .ok p.cells ∧
      p.cells.length = p.columns.items.length ∧
      ∀ (i : Nat) (c : Column) (b : Bound), p.columns.items[i]? = some c → p.bound[i]? = some b → ∃ wire cell,
        b.param.type.accepts wire = true ∧ b.cell (p.qualifier ++ c.columnName) wire = .ok cell ∧
          p.cells[i]? = some cell := by
  have sendable := sendable_of_subset p.numbered p.columns_subset p.fits p.values
  obtain ⟨row, made, count, each⟩ := Columns.row_ok p.count_bound sendable p.accepted .memory
  have own : p.cells = row.cells := by rw [cells, made]
  obtain ⟨cells, mapped, rfl⟩ := map_eq_ok.mp made
  rw [own]
  rw [qualifier_columns] at each
  exact ⟨mapped, count, each⟩

theorem names_cells (p : JoinedTable) : p.cells.map (·.name) = p.columns.names.map some := by
  obtain ⟨-, count, each⟩ := p.row_cells
  refine List.ext_getElem? fun i => ?_
  by_cases inside : i < p.columns.items.length
  · have here : p.columns.items[i]? = some p.columns.items[i] := List.getElem?_eq_getElem inside
    have sent : i < p.bound.length := p.count_bound ▸ inside
    have valued : p.bound[i]? = some p.bound[i] := List.getElem?_eq_getElem sent
    obtain ⟨wire, cell, -, made, at_i⟩ := each i _ _ here valued
    obtain ⟨raw, -, rfl⟩ := map_eq_ok.mp made
    rw [List.getElem?_map, List.getElem?_map, at_i]
    simp [Columns.names, Columns.bareNames, here, qualifier_columns]
  · have past := Nat.le_of_not_lt inside
    rw [List.getElem?_eq_none (by simpa [count]), List.getElem?_eq_none (by simpa [count_names])]

theorem lookup_cells (p : JoinedTable) (source : RowSource) (i : Nat) :
    (Row.name? ⟨source, p.cells⟩ i).bind p.columns.lookup = p.columns.items[i]? := by
  have named : p.cells.map (·.name) = p.columns.names.map some ++ [] := by rw [names_cells, List.append_nil]
  exact lookup_of_named p.nodup_columns named (fun _ _ => List.not_mem_nil) i

theorem mem_known_cells {start : Record} (former : Fits p.type.fields start) {x : Column × Cell}
    (hx : x ∈ p.columns.known p.cells) :
    ∃ f old s, leafAt p.type.typeName x.1.path p.type.fields p.record = .ok (f, s) ∧
      leafAt p.type.typeName x.1.path p.type.fields start = .ok (f, old) ∧
      p.type.given? x.1.path x.2 start = some (s.over old) := by
  obtain ⟨there, found⟩ := mem_known.mp hx
  obtain ⟨i, at_i⟩ := List.mem_iff_getElem?.mp there
  have column : p.columns.items[i]? = some x.1 := by
    rw [← p.lookup_cells .memory, Row.name?, at_i, Option.bind_some, found]
  obtain ⟨b, valued, value⟩ := (mapM_ok_getElem? p.values).2 i x.1 column
  obtain ⟨wire, cell, accepted, made, at_i'⟩ := p.row_cells.2.2 i x.1 b column valued
  obtain rfl : x.2 = cell := Option.some.inj (at_i.symm.trans at_i')
  obtain ⟨l, leaf, isOf⟩ := Column.exists_leaf p.numbered (p.columns_subset (List.mem_of_getElem? column))
  obtain ⟨s, reached, fit⟩ := leafAt_of_mem_leaves p.fits p.numbered p.type.typeName leaf
  obtain ⟨old, before, fit_before⟩ := leafAt_of_mem_leaves former p.numbered p.type.typeName leaf
  have path : x.1.path = l.1 := isOf.path
  rw [← path] at reached before
  refine ⟨l.2, old, s, reached, before, ?_⟩
  have back : readLeaf ⟨.memory, [x.2]⟩ 0 (l.2, old) = .ok (s.over old) := by
    rw [MappedType.value, reached] at value
    refine readLeaf_cell fit fit_before value accepted made (fun form d holding same => ?_) rfl
    subst same
    exact p.invertible x.1.path l.2 form d reached holding
  rw [MappedType.given?, before]
  dsimp only
  rw [back]
  rfl

theorem exists_known {c : Column} (hc : c ∈ p.columns.items) : ∃ cell, (c, cell) ∈ p.columns.known p.cells := by
  obtain ⟨i, at_i⟩ := List.mem_iff_getElem?.mp hc
  have lead := p.lookup_cells .memory i
  rw [at_i] at lead
  obtain ⟨name, named, found⟩ := Option.bind_eq_some_iff.mp lead
  obtain ⟨cell, at_i, same⟩ := Option.bind_eq_some_iff.mp named
  exact ⟨cell, mem_known.mpr ⟨List.mem_of_getElem? at_i, by rwa [same]⟩⟩

/-- No column of a table has the name of a cell of another one, when the tables report different names. -/
theorem lookup_apart {q : JoinedTable} (apart : p.columns.names.Disjoint q.columns.names) {cell : Cell}
    (there : cell ∈ q.cells) : cell.name.bind p.columns.lookup = none := by
  have name : cell.name ∈ q.cells.map (·.name) := List.mem_map_of_mem there
  rw [names_cells] at name
  obtain ⟨n, reported, same⟩ := List.mem_map.mp name
  rw [← same, Option.bind_some, Option.eq_none_iff_forall_not_mem]
  intro c found
  obtain ⟨own, rfl⟩ := (Columns.lookup_eq_some_iff p.nodup_columns).mp found
  exact apart (List.mem_map_of_mem (List.mem_map_of_mem own)) reported

/-- What is got back from a row by the columns of a table: in their leaves a record gets what the record of the table
has, and it stays as it was elsewhere, and where that one has the document `null`. A record that is zero there has it
back as well. Where the columns are those of all leaves, that is the whole record, less the fields that are left out. -/
structure GivenBack (p : JoinedTable) (row : Row) (start again : Record) : Prop where
  populated : p.type.populateByName p.columns row start = (again, .ok ())
  laid : ∀ c ∈ p.columns.items, ∃ f old s, leafAt p.type.typeName c.path p.type.fields start = .ok (f, old) ∧
    leafAt p.type.typeName c.path p.type.fields p.record = .ok (f, s) ∧
      leafAt p.type.typeName c.path p.type.fields again = .ok (f, s.over old)
  restored : ∀ c ∈ p.columns.items,
    (∀ f, leafAt p.type.typeName c.path p.type.fields p.record = .ok (f, .document .null) →
      p.type.isZero start c.path = true) →
    leafAt p.type.typeName c.path p.type.fields again = leafAt p.type.typeName c.path p.type.fields p.record
  confined : Confined p.type (· ∈ p.columns.items.map (·.path)) start again
  whole : ((Column.flatten p.type.table [] p.type.fields).map (·.columnName)).Nodup →
    ∀ path leaf, leafAt p.type.typeName path p.type.fields p.record = .ok leaf →
      (leaf.2 = .document .null → p.type.isZero start path = true) →
        leafAt p.type.typeName path p.type.fields again = .ok leaf

theorem givenBack_of_known {row : Row} (own : p.columns.known row.cells = p.columns.known p.cells) {start : Record}
    (former : Fits p.type.fields start) : ∃ again, p.GivenBack row start again := by
  have reported : p.cells.filterMap (·.name) = p.columns.names := by
    have same := congrArg (List.filterMap id) p.names_cells
    simpa [List.filterMap_map] using same
  have apart : ((p.columns.known p.cells).map (·.1.path)).Nodup :=
    nodup_known_paths p.nodup_columns (reported ▸ p.nodup_names.filter _) fun x hx y hy =>
      column_eq_of_path p.numbered (p.columns_subset (mem_items_of_known p.nodup_columns hx))
        (p.columns_subset (mem_items_of_known p.nodup_columns hy))
  obtain ⟨again, taken, confined, read⟩ := takenAll?_restores former apart fun x hx => by
    obtain ⟨f, old, s, -, before, given⟩ := mem_known_cells former hx
    exact ⟨f, old, _, before, given⟩
  have laid : ∀ c ∈ p.columns.items, ∃ f old s, leafAt p.type.typeName c.path p.type.fields start = .ok (f, old) ∧
      leafAt p.type.typeName c.path p.type.fields p.record = .ok (f, s) ∧
        leafAt p.type.typeName c.path p.type.fields again = .ok (f, s.over old) := by
    intro c hc
    obtain ⟨cell, there⟩ := exists_known hc
    obtain ⟨f, old, s, reached, before, given⟩ := mem_known_cells former there
    exact ⟨f, old, s, before, reached, read _ there f old _ before given⟩
  have restored : ∀ c ∈ p.columns.items,
      (∀ f, leafAt p.type.typeName c.path p.type.fields p.record = .ok (f, .document .null) →
        p.type.isZero start c.path = true) →
      leafAt p.type.typeName c.path p.type.fields again = leafAt p.type.typeName c.path p.type.fields p.record := by
    intro c hc zero
    obtain ⟨f, old, s, before, reached, after⟩ := laid c hc
    rw [after, reached, over_of_isZero former p.fits before reached fun null => zero f (null ▸ reached)]
  refine ⟨again, populateByName_ok_iff.mpr (by rw [own]; exact taken), laid, restored, confined.mono ?_, ?_⟩
  · intro path touched
    obtain ⟨x, hx, rfl⟩ := List.mem_map.mp touched
    exact List.mem_map_of_mem (mem_items_of_known p.nodup_columns hx)
  · intro distinct path leaf found zero
    have isLeaf := (reaches_of_leafAt p.fits found).mem_leaves
    obtain ⟨c, there, isOf⟩ := Column.exists_column p.numbered isLeaf p.type.table
    have path_of : c.path = path := isOf.path
    rw [← path_of] at found zero ⊢
    refine (restored c (by rwa [items_columns, MappedType.items_columns distinct]) fun f null => zero ?_).trans found
    cases found.symm.trans null
    rfl

end JoinedTable

variable {tables before after : List JoinedTable} {p : JoinedTable} {nameOf : String → String}

theorem joinRow_ok (named : ∀ p ∈ tables, p.NamedBy nameOf) (source : RowSource) :
    joinRow nameOf source tables = .ok ⟨source, tables.flatMap JoinedTable.cells⟩ := by
  refine map_eq_ok.mpr ⟨_, ?_, rfl⟩
  induction tables with
  | nil => rfl
  | cons p rest ih =>
    obtain ⟨first, others⟩ := List.forall_mem_cons.mp named
    have count : p.columns.names.length = (p.bound.zip p.wires).length := by
      rw [p.count_names, List.length_zip, ← p.accepted.length_eq, Nat.min_self, p.count_bound]
    simp only [List.flatMap_cons, List.map_append]
    rw [JoinedTable.names_selection first, List.zip_append count, List.mapM_append, p.row_cells.1, ih others]
    rfl

namespace JoinedTable

theorem length_selections (before : List JoinedTable) :
    (before.flatMap selection).length = (before.flatMap cells).length := by
  simp only [List.length_flatMap]
  refine congrArg List.sum (List.map_congr_left fun q _ => ?_)
  rw [q.row_cells.2.1, selection, Columns.aliasedNames, List.length_map, Columns.bareNames, List.length_map]

theorem flatMap_cells :
    (before ++ p :: after).flatMap cells = before.flatMap cells ++ (p.cells ++ after.flatMap cells) := by
  rw [List.flatMap_append, List.flatMap_cons]

section
variable (apart : (before ++ p :: after).Pairwise fun p q => p.columns.names.Disjoint q.columns.names)
include apart

theorem lookup_others {cell : Cell} (there : cell ∈ before.flatMap cells ∨ cell ∈ after.flatMap cells) :
    cell.name.bind p.columns.lookup = none := by
  obtain ⟨-, following, preceding⟩ := List.pairwise_append.mp apart
  rcases there with there | there
  · obtain ⟨q, hq, own⟩ := List.mem_flatMap.mp there
    exact lookup_apart (preceding q hq p List.mem_cons_self).symm own
  · obtain ⟨q, hq, own⟩ := List.mem_flatMap.mp there
    exact lookup_apart ((List.pairwise_cons.mp following).1 q hq) own

/-- The cells with a column of a table are the ones of its part of the select list, in order. -/
theorem lookup_part (source : RowSource) :
    (∀ i < (before.flatMap selection).length,
      (Row.name? ⟨source, (before ++ p :: after).flatMap cells⟩ i).bind p.columns.lookup = none) ∧
    ∀ j, (Row.name? ⟨source, (before ++ p :: after).flatMap cells⟩
      ((before.flatMap selection).length + j)).bind p.columns.lookup = p.columns.items[j]? := by
  rw [flatMap_cells, length_selections]
  refine ⟨fun i earlier => ?_, fun j => ?_⟩
  · rw [Row.name?, List.getElem?_append_left earlier, List.getElem?_eq_getElem earlier, Option.bind_some]
    exact lookup_others apart (.inl (List.getElem_mem earlier))
  · have shifted : Row.name? ⟨source, before.flatMap cells ++ (p.cells ++ after.flatMap cells)⟩
        ((before.flatMap cells).length + j) = Row.name? ⟨source, p.cells ++ after.flatMap cells⟩ j := by
      rw [Row.name?, Row.name?, List.getElem?_append_right (Nat.le_add_right _ _), Nat.add_sub_cancel_left]
    have named : (p.cells ++ after.flatMap cells).map (·.name) =
        p.columns.names.map some ++ (after.flatMap cells).map (·.name) := by
      rw [List.map_append, p.names_cells]
    rw [shifted]
    refine lookup_of_named p.nodup_columns named (fun name reported there => ?_) j
    obtain ⟨cell, later, same⟩ := List.mem_map.mp there
    have unknown := lookup_others apart (.inr later)
    obtain ⟨bare, mem, rfl⟩ := List.mem_map.mp reported
    obtain ⟨c, own, rfl⟩ := List.mem_map.mp mem
    rw [same, Option.bind_some, Columns.lookup_name p.nodup_columns own] at unknown
    cases unknown

theorem known_part : p.columns.known ((before ++ p :: after).flatMap cells) = p.columns.known p.cells := by
  have unknown {others : List Cell} (foreign : ∀ cell ∈ others, cell.name.bind p.columns.lookup = none) :
      p.columns.known others = [] := by
    rw [Columns.known, List.filterMap_eq_nil_iff]
    intro cell there
    rw [foreign cell there, Option.map_none]
  have none_before := unknown fun cell there => lookup_others apart (.inl there)
  have none_after := unknown fun cell there => lookup_others apart (.inr there)
  unfold Columns.known at *
  rw [flatMap_cells, List.filterMap_append, List.filterMap_append, none_before, none_after, List.nil_append,
    List.append_nil]

end

end JoinedTable

/-- A row of a join, whose tables report different names, gives each table its own record back, read over any record of
its type from the cells of its part of the select list. A column of the table is looked up by its reported name and by
no other. -/
theorem population_of_join (named : ∀ p ∈ tables, p.NamedBy nameOf)
    (apart : tables.Pairwise fun p q => p.columns.names.Disjoint q.columns.names) (source : RowSource) :
    ∃ row, joinRow nameOf source tables = .ok row ∧ ∀ before p after, tables = before ++ p :: after →
      ((∀ i < (before.flatMap JoinedTable.selection).length, (row.name? i).bind p.columns.lookup = none) ∧
        ∀ j, (row.name? ((before.flatMap JoinedTable.selection).length + j)).bind p.columns.lookup =
          p.columns.items[j]?) ∧
      (∀ (i : Nat) c, p.columns.items[i]? = some c →
        ∀ name, p.columns.lookup name = some c ↔ p.columns.names[i]? = some name) ∧
      ∀ start, Fits p.type.fields start → ∃ again, p.GivenBack row start again := by
  refine ⟨_, joinRow_ok named source, ?_⟩
  rintro before p after rfl
  refine ⟨JoinedTable.lookup_part apart source, fun i c at_i name => ?_,
    fun start former => JoinedTable.givenBack_of_known (JoinedTable.known_part apart) former⟩
  have there : p.columns.names[i]? = some (p.columns.qualifier ++ c.columnName) := by
    simp [Columns.names, Columns.bareNames, at_i]
  rw [Columns.lookup_eq_some_iff p.nodup_columns, there, Option.some_inj, eq_comm]
  exact and_iff_right (List.mem_of_getElem? at_i)

def itemName (item : String) : String :=
  match Text.afterPart? " as ".toList item.toList, Text.afterPart? ".".toList item.toList with
  | some name, _ => String.ofList name
  | none, some name => String.ofList name
  | none, none => item

theorem fits_posted : Fits parcel.fields posted :=
  .plain (by decide +kernel) rfl (by decide) (.skipped (by decide +kernel)
    (.inlined (by decide +kernel) rfl
      (.plain (by decide +kernel) rfl (by decide) (.json (by decide +kernel) rfl .nil)) .nil))

theorem invertible_posted : posted.Invertible parcel := by
  intro path f form d found holding
  have leaf := (reaches_of_leafAt fits_posted found).mem_leaves
  have all : leaves parcel.fields = [([0], .mk 0 "id" "id,pk" "i64" (.plain (.plain .int64)) none),
      ([2, 0], street), ([2, 1], marks)] := by rfl
  simp only [all, List.mem_cons, Prod.mk.injEq, List.not_mem_nil, or_false] at leaf
  rcases leaf with ⟨-, rfl⟩ | ⟨-, rfl⟩ | ⟨rfl, rfl⟩
  · cases holding
  · cases holding
  · cases holding
    cases found
    intro text written
    obtain rfl : "true" = text := Except.ok.inj written
    exact Json.Form.read_any_true

/-- The parcels of a join. Without the qualifier, the names of their columns are those of the lanes. -/
def parcels : JoinedTable where
  type := parcel
  tableAlias := "p"
  qualifier := "p_"
  record := posted
  bound := [.field ⟨.plain .int64, .int64 7⟩, .field ⟨.plain .text, .text "Elm Street"⟩, .json (some "true")]
  wires := [.int8, .varchar, .jsonb]
  numbered := .cons (by decide) nofun (.cons (by decide) nofun (.cons (by decide)
    (fun _ _ same => by cases same; exact .cons (by decide) nofun (.cons (by decide) nofun .nil)) .nil))
  fits := fits_posted
  invertible := invertible_posted
  values := by decide +kernel
  accepted := .cons rfl (.cons rfl (.cons rfl .nil))

def lane : MappedType where
  typeName := "Lane"
  table := "lanes"
  cacheKey := none
  fields := [.mk 0 "id" "id,pk" "i64" (.plain (.plain .int64)) none,
    .mk 1 "street" "street" "String" (.plain (.plain .text)) none]
  ownPopulation := none

def lanes : JoinedTable where
  type := lane
  tableAlias := "l"
  qualifier := ""
  record := [.plain (.int64 2), .plain (.text "Oak Lane")]
  bound := [.field ⟨.plain .int64, .int64 2⟩, .field ⟨.plain .text, .text "Oak Lane"⟩]
  wires := [.int8, .text]
  numbered := .cons (by decide) nofun (.cons (by decide) nofun .nil)
  fits := .plain (by decide +kernel) rfl (by decide) (.plain (by decide +kernel) rfl (by decide) .nil)
  invertible := by
    intro path f form d found holding
    have fits : Fits lane.fields [.plain (.int64 2), .plain (.text "Oak Lane")] :=
      .plain (by decide +kernel) rfl (by decide) (.plain (by decide +kernel) rfl (by decide) .nil)
    have leaf := (reaches_of_leafAt fits found).mem_leaves
    have all : leaves lane.fields = [([0], .mk 0 "id" "id,pk" "i64" (.plain (.plain .int64)) none),
      ([1], .mk 1 "street" "street" "String" (.plain (.plain .text)) none)] := by rfl
    simp only [all, List.mem_cons, Prod.mk.injEq, List.not_mem_nil, or_false] at leaf
    rcases leaf with ⟨-, rfl⟩ | ⟨-, rfl⟩ <;> cases holding
  values := by decide +kernel
  accepted := .cons rfl (.cons rfl .nil)

/-- The street of the parcel and that of the lane each go to their own record. -/
theorem population_of_join_parcels :
    (joinRow itemName .server [parcels, lanes]).map (·.cells.map (·.name)) =
        .ok [some "p_id", some "p_street", some "p_marks", some "id", some "street"] ∧
      Fits parcel.fields parcel.newRecord ∧ Fits lane.fields lane.newRecord ∧
      ∃ row, joinRow itemName .server [parcels, lanes] = .ok row ∧
        (∃ again, parcels.GivenBack row parcel.newRecord again) ∧
          ∃ again, lanes.GivenBack row lane.newRecord again := by
  have named_parcels : parcels.NamedBy itemName :=
    ⟨fun _ => by decide +kernel, fun unqualified => absurd unqualified (by decide)⟩
  have named_lanes : lanes.NamedBy itemName := ⟨fun qualified => absurd rfl qualified, fun _ => by decide +kernel⟩
  have named : ∀ p ∈ [parcels, lanes], p.NamedBy itemName :=
    List.forall_mem_cons.mpr ⟨named_parcels, List.forall_mem_singleton.mpr named_lanes⟩
  have apart : [parcels, lanes].Pairwise fun p q => p.columns.names.Disjoint q.columns.names :=
    List.pairwise_pair.mpr (List.disjoint_left.mpr (by decide +kernel))
  have new_parcel : Fits parcel.fields parcel.newRecord := parcels.fits.initial
  have new_lane : Fits lane.fields lane.newRecord := lanes.fits.initial
  obtain ⟨row, joined, each⟩ := population_of_join named apart .server
  exact ⟨by decide +kernel, new_parcel, new_lane, row, joined, (each [] parcels [lanes] rfl).2.2 _ new_parcel,
    (each [parcels] lanes [] rfl).2.2 _ new_lane⟩

end RowMapper
