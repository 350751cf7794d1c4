import RowMapper.Proofs.Operation.ColumnNames
import RowMapper.Proofs.Record.Filling
import RowMapper.Proofs.Record.Flattening
import RowMapper.Proofs.Results

/-!
From a record to a row and back. The values of a record, sent under the reported names of the columns, fill a
new record with all that the first one has in its leaves.
-/
namespace RowMapper

/-! ### Rows of values -/

def Bound.cell (b : Bound) (name : String) (wire : WireType) : Except String Cell :=
  (b.param.type.bind wire b.param.value).map fun raw => ⟨some name, wire, raw⟩

def Columns.row (cs : Columns) (source : RowSource) (bound : List Bound) (wires : List WireType) :
    Except String Row :=
  ((cs.names.zip (bound.zip wires)).mapM fun (name, b, wire) => Bound.cell b name wire).map (⟨source, ·⟩)

theorem Row.scan_cell {row : Row} {i : Nat} {c : Cell} {type : HostType} {v : Value}
    (at_i : row.cells[i]? = some c) (accepted : type.accepts c.type = true)
    (read : type.read c.type c.raw = .ok v) : row.scan type i = .ok v := by
  simp [scan, at_i, accepted, read]

/-! ### Documents -/

namespace Json

theorem Form.read_empty (form : Form) : form.read "" = none := by
  have nothing : Source.read "" = none := by decide +kernel
  rw [read, nothing]
  rfl

theorem Form.document?_any (x : Source) : Form.any.document? x = x.document? maxDepth := by
  change Shape.document? .any x = _
  rw [Shape.document?]

theorem Form.read_any_true : Form.any.read "true" = some (.bool true) := by
  have read : Source.read "true" = some (.bool true) := by rfl
  rw [Form.read, read, Option.bind_some, document?_any, Source.document?]

theorem Form.any_takes_null : Form.any.document? .null = some .null := by
  rw [document?_any, Source.document?]

/-- What is written of a document reads as the document again. -/
def Form.Inverts (form : Form) (d : Document) : Prop :=
  ∀ text, d.serialize = .ok text → form.read text = some d

theorem ne_null_of_mem {text : String} {c : Char} (there : c ∈ text.toList)
    (foreign : c ∉ "null".toList := by decide) : text ≠ "null" := by
  rintro rfl
  exact foreign there

theorem toString_ne_null (n : Int) : toString n ≠ "null" := by
  cases n with
  | negSucc m => exact ne_null_of_mem (c := '-') (by simp [toString, Int.repr])
  | ofNat m =>
    intro null
    have digits : ∀ c ∈ (toString (Int.ofNat m)).toList, c.isDigit = true := fun c there =>
      Nat.isDigit_of_mem_toDigits (b := 10) (n := m) (by decide) (by decide)
        (by simpa [toString, Int.repr, Nat.repr] using there)
    have letter : Char.isDigit 'n' = true := digits 'n' (by rw [null]; decide)
    exact absurd letter (by decide)

theorem mem_placePoint (digits : String) (point : Int) :
    '.' ∈ (Number.placePoint digits point).toList ∨ 'e' ∈ (Number.placePoint digits point).toList := by
  simp only [Number.placePoint]
  split
  · exact .inl (by simp)
  · split
    · exact .inl (by simp)
    · split
      · exact .inl (by simp)
      · refine .inr ?_
        by_cases large : 0 < point <;> simp [large]

theorem doubleText_ne_null (bits : UInt64) : Number.doubleText bits ≠ "null" := by
  simp only [Number.doubleText]
  split
  · exact ne_null_of_mem (c := '.') (by simp)
  · rcases mem_placePoint (toString (Number.shortest bits).digits)
      ((toString (Number.shortest bits).digits).length + (Number.shortest bits).power) with there | there
    · exact ne_null_of_mem (by rw [String.toList_append]; exact List.mem_append_right _ there)
    · exact ne_null_of_mem (by rw [String.toList_append]; exact List.mem_append_right _ there)

theorem serialize_eq_null {d : Document} : d.serialize = .ok "null" ↔ d = .null := by
  refine ⟨fun written => ?_, fun null => null ▸ rfl⟩
  rw [Document.serialize] at written
  split at written
  · cases written
  · rename_i writable
    have text : d.render = "null" := Except.ok.inj written
    cases d with
    | null => rfl
    | bool b => cases b <;> exact absurd text (by decide)
    | int n => exact absurd text (toString_ne_null n)
    | double bits => exact absurd text (doubleText_ne_null bits)
    | text s => exact absurd text (ne_null_of_mem (c := '"') (by simp [Document.render, textOf]))
    | list items => exact absurd text (ne_null_of_mem (c := '[') (by simp [Document.render]))
    | dict members => exact absurd text (ne_null_of_mem (c := '\x7b') (by simp [Document.render]))
    | failing reason => cases writable

end Json

/-! ### Leaves -/

theorem LeafFits.sendable {leaf : Field × Slot} (fit : LeafFits leaf) {b : Bound}
    (value : leafValue leaf = .ok b) : b.param.type.has b.param.value = true := by
  cases fit with
  | plain role holding has =>
    simp only [leafValue, holding] at value
    cases value
    exact has
  | @json f form d role holding =>
    simp only [leafValue, Json.Document.bound] at value
    split at value
    · cases value
    · cases value
      split <;> rfl

/-- A cell that a leaf's value made is read over the same leaf of another record as that value. -/
theorem readLeaf_cell {f : Field} {s old : Slot} (fit : LeafFits (f, s)) (former : LeafFits (f, old)) {b : Bound}
    (value : leafValue (f, s) = .ok b) {name : String} {wire : WireType}
    (accepted : b.param.type.accepts wire = true) {cell : Cell} (made : b.cell name wire = .ok cell)
    (inverts : ∀ form d, f.holding = .document form → s = .document d → form.Inverts d)
    {row : Row} {i : Nat} (at_i : row.cells[i]? = some cell) :
    readLeaf row i (f, old) = .ok (s.over old) := by
  obtain ⟨raw, sent, back⟩ := HostType.read_bind (fit.sendable value) accepted
  rw [Bound.cell, sent] at made
  cases made
  have scanned : row.scan b.param.type i = .ok b.param.value := Row.scan_cell at_i accepted back
  cases fit with
  | @plain _ type v role holding has =>
    cases former with
    | json other _ => cases role.symm.trans other
    | plain =>
      simp only [leafValue, holding] at value
      cases value
      simp only [readLeaf, holding]
      rw [show row.scan type i = .ok v from scanned]
      rfl
  | @json _ form d role holding =>
    cases former with
    | plain other _ _ => cases role.symm.trans other
    | @json _ _ before =>
      simp only [leafValue, Json.Document.bound] at value
      split at value
      · cases value
      · rename_i text written
        have again := inverts form d holding rfl text written
        cases value
        simp only [readLeaf, holding, readDocument]
        by_cases null : text = "null"
        · obtain rfl := Json.serialize_eq_null.mp (null ▸ written)
          simp only [null, if_true, Bound.param] at scanned
          rw [scanned]
          rfl
        · have filled : text.isEmpty = false := by
            cases blank : text.isEmpty with
            | false => rfl
            | true =>
              rw [String.isEmpty_iff.mp blank, Json.Form.read_empty] at again
              cases again
          -- Another text than `null` is no NULL, so it was read.
          have given : Slot.document d ≠ .document .null := fun same =>
            null (Except.ok.inj (written.symm.trans (Json.serialize_eq_null.mpr (Slot.document.inj same))))
          simp only [null, if_false, Bound.param] at scanned
          rw [scanned, Slot.over_of_ne given]
          simp only [filled, again]
          rfl

theorem null_of_isZero {f : Field} {d : Json.Document} {old : Slot} (fit : LeafFits (f, .document d))
    (former : LeafFits (f, old)) (zero : leafIsZero (f, old) = true) : old = .document .null := by
  cases fit with
  | json role holding =>
    cases former with
    | plain other _ _ => cases role.symm.trans other
    | @json _ _ before =>
      cases before <;> first | rfl | cases zero

/-- The cell of a document has no text `null`. The document `null` is NULL. -/
theorem document_cell {f : Field} {d : Json.Document} {b : Bound}
    (value : leafValue (f, .document d) = .ok b) {name : String} {wire : WireType}
    (accepted : b.param.type.accepts wire = true) {cell : Cell} (made : b.cell name wire = .ok cell) :
    cell.raw ≠ some (Scalar.encode cell.type (.text "null")) ∧ (d = .null → cell.raw = none) := by
  have sendable : ¬(!b.param.type.accepts wire) = true := by simp [accepted]
  simp only [leafValue, Json.Document.bound] at value
  split at value
  · cases value
  · rename_i text written
    rw [Bound.cell, HostType.bind, if_neg sendable] at made
    by_cases null : text = "null"
    · rw [if_pos null] at value
      cases value
      cases made
      exact ⟨(Option.some_ne_none _).symm, fun _ => rfl⟩
    · rw [if_neg null] at value
      cases value
      cases made
      constructor
      · intro same
        have alike := Scalar.encode_inj (s := .document) (v := .text text) (w := .text "null") rfl rfl
          accepted (Option.some.inj same)
        exact null (Value.text.inj alike)
      · rintro rfl
        exact absurd (Except.ok.inj written).symm null

/-! ### Populations -/

theorem Columns.row_ok {cs : Columns} {bound : List Bound} {wires : List WireType}
    (length : bound.length = cs.items.length)
    (sendable : ∀ b ∈ bound, b.param.type.has b.param.value = true)
    (accepted : List.Forall₂ (fun b wire => b.param.type.accepts wire = true) bound wires)
    (source : RowSource) :
    ∃ row, cs.row source bound wires = .ok row ∧ row.cells.length = cs.items.length ∧
      ∀ (i : Nat) (c : Column) (b : Bound), cs.items[i]? = some c → bound[i]? = some b → ∃ wire cell,
        b.param.type.accepts wire = true ∧ b.cell (cs.qualifier ++ c.columnName) wire = .ok cell ∧
          row.cells[i]? = some cell := by
  have sent : ∀ e ∈ cs.names.zip (bound.zip wires), ∃ cell,
      (fun (name, b, wire) => Bound.cell b name wire) e = .ok cell := by
    rintro ⟨name, b, wire⟩ he
    have pair := (List.of_mem_zip he).2
    obtain ⟨raw, sent, _⟩ := HostType.read_bind (sendable b (List.of_mem_zip pair).1)
      (List.forall₂_zip accepted pair)
    exact ⟨_, map_eq_ok.mpr ⟨raw, sent, rfl⟩⟩
  obtain ⟨cells, made⟩ := mapM_ok_of_forall sent
  obtain ⟨count, each⟩ := mapM_ok_getElem? made
  have names : cs.names.length = cs.items.length := by simp [names, bareNames]
  refine ⟨⟨source, cells⟩, map_eq_ok.mpr ⟨cells, made, rfl⟩, ?_, fun i c b at_c at_b => ?_⟩
  · rw [count, List.length_zip, List.length_zip, names, ← accepted.length_eq, length, Nat.min_self,
      Nat.min_self]
  · obtain ⟨inside, rfl⟩ := List.getElem?_eq_some_iff.mp at_b
    have there : i < wires.length := accepted.length_eq ▸ inside
    have name : cs.names[i]? = some (cs.qualifier ++ c.columnName) := by
      simp [Columns.names, bareNames, at_c]
    have pair : (bound.zip wires)[i]? = some (bound[i], wires[i]) :=
      List.getElem?_zip_eq_some.mpr ⟨at_b, List.getElem?_eq_getElem there⟩
    obtain ⟨cell, at_i, cell_made⟩ :=
      each i (_, _) (List.getElem?_zip_eq_some.mpr ⟨name, pair⟩)
    exact ⟨wires[i], cell, List.forall₂_zip accepted (List.mem_of_getElem? pair), cell_made, at_i⟩

theorem populateCells_eq_fill (t : MappedType) (cs : Columns) (row : Row) (columns : List Column)
    (i : Nat) (r : Record)
    (named : ∀ j c, columns[j]? = some c → (row.name? (i + j)).bind cs.lookup = some c) :
    t.populateCells cs row ((List.range' i columns.length).map fun i => (i, row.name? i)) r =
      fill row t.typeName t.fields i (columns.map (·.path)) r := by
  induction columns generalizing i r with
  | nil => rfl
  | cons c rest ih =>
    have first : (row.name? i).bind cs.lookup = some c := named 0 c rfl
    have others : ∀ j d, rest[j]? = some d → (row.name? (i + 1 + j)).bind cs.lookup = some d := by
      intro j d at_j
      rw [Nat.add_assoc, Nat.add_comm 1]
      exact named (j + 1) d at_j
    rw [List.length_cons, List.range'_succ, List.map_cons, List.map_cons, MappedType.populateCells, first]
    dsimp only
    rw [fill, MappedType.read]
    cases leafAt t.typeName c.path t.fields r with
    | error stray => rfl
    | ok leaf =>
      dsimp only
      cases readLeaf row i leaf with
      | error e => rfl
      | ok new => exact ih (i + 1) _ others

theorem MappedType.items_columns {t : MappedType}
    (distinct : ((Column.flatten t.table [] t.fields).map (·.columnName)).Nodup) :
    t.columns.items = Column.flatten t.table [] t.fields :=
  Columns.items_addAll .empty _ distinct

def Record.Invertible (t : MappedType) (r : Record) : Prop :=
  ∀ path f form d, leafAt t.typeName path t.fields r = .ok (f, .document d) →
    f.holding = .document form → form.Inverts d

section
variable {t : MappedType} {cs : Columns} {start r : Record} {bound : List Bound}

theorem sendable_of_subset (numbered : Numbered t.fields)
    (subset : cs.items ⊆ Column.flatten t.table [] t.fields) (fits : Fits t.fields r)
    (values : cs.values t r = .ok bound) : ∀ b ∈ bound, b.param.type.has b.param.value = true := by
  intro b hb
  obtain ⟨length, each⟩ := mapM_ok_getElem? values
  obtain ⟨i, inside, rfl⟩ := List.getElem_of_mem hb
  have there : i < cs.items.length := by omega
  have at_i : cs.items[i]? = some cs.items[i] := List.getElem?_eq_getElem there
  obtain ⟨b, at_b, value⟩ := each i _ at_i
  obtain ⟨l, leaf, isOf⟩ := Column.exists_leaf numbered (subset (List.getElem_mem there))
  obtain ⟨s, found, fit⟩ := leafAt_of_mem_leaves fits numbered t.typeName leaf
  have path : cs.items[i].path = l.1 := isOf.path
  rw [MappedType.value, path, found] at value
  obtain rfl : bound[i] = b := Option.some.inj ((List.getElem?_eq_getElem inside).symm.trans at_b)
  exact fit.sendable value

theorem sendable_of_values (numbered : Numbered t.fields)
    (all : cs.items = Column.flatten t.table [] t.fields) (fits : Fits t.fields r)
    (values : cs.values t r = .ok bound) : ∀ b ∈ bound, b.param.type.has b.param.value = true :=
  sendable_of_subset numbered (fun _ there => all ▸ there) fits values

theorem readable_row (numbered : Numbered t.fields)
    (all : cs.items = Column.flatten t.table [] t.fields) (former : Fits t.fields start) (fits : Fits t.fields r)
    (invertible : r.Invertible t) (values : cs.values t r = .ok bound) {row : Row}
    (made : ∀ (i : Nat) (c : Column) (b : Bound), cs.items[i]? = some c → bound[i]? = some b →
      ∃ wire cell, b.param.type.accepts wire = true ∧
        b.cell (cs.qualifier ++ c.columnName) wire = .ok cell ∧ row.cells[i]? = some cell) :
    Readable row 0 t.fields start r := by
  intro j l old s at_j before reaches
  have found := reaches.leafAt t.typeName
  obtain ⟨c, at_c, path⟩ : ∃ c, cs.items[j]? = some c ∧ c.path = l.1 := by
    have same := congrArg (·[j]?) (Column.paths_flatten numbered t.table)
    simp only [List.getElem?_map, at_j, Option.map_some, Option.map_eq_some_iff, ← all] at same
    exact same
  obtain ⟨b, at_b, value⟩ := (mapM_ok_getElem? values).2 j c at_c
  rw [MappedType.value, path, found] at value
  obtain ⟨wire, cell, accepted, cell_made, at_i⟩ := made j c b at_c at_b
  rw [Nat.zero_add]
  refine readLeaf_cell (reaches.leafFits fits) (before.leafFits former) value accepted cell_made
    (fun form d holding same => ?_) at_i
  subst same
  exact invertible l.1 l.2 form d found holding

/-- A document `null` that meets a leaf which is zero comes to the same as if it had been read. -/
theorem over_of_isZero {path : List Nat} {f : Field} {old s : Slot} (former : Fits t.fields start)
    (fits : Fits t.fields r) (before : leafAt t.typeName path t.fields start = .ok (f, old))
    (found : leafAt t.typeName path t.fields r = .ok (f, s))
    (zero : s = .document .null → t.isZero start path = true) : s.over old = s := by
  refine Slot.over_self_of_null fun null => ?_
  subst null
  have there := zero rfl
  rw [MappedType.isZero, before] at there
  exact null_of_isZero ((reaches_of_leafAt fits found).leafFits fits)
    ((reaches_of_leafAt former before).leafFits former) there

theorem exists_populated (numbered : Numbered t.fields) (all : cs.items = Column.flatten t.table [] t.fields)
    (distinct : cs.bareNames.Nodup) (former : Fits t.fields start) (fits : Fits t.fields r)
    (invertible : r.Invertible t) (values : cs.values t r = .ok bound) {row : Row} (count : row.cells.length = cs.items.length)
    (made : ∀ (i : Nat) (c : Column) (b : Bound), cs.items[i]? = some c → bound[i]? = some b →
      ∃ wire cell, b.param.type.accepts wire = true ∧
        b.cell (cs.qualifier ++ c.columnName) wire = .ok cell ∧ row.cells[i]? = some cell) :
    ∃ again, t.populateByName cs row start = (again, .ok ()) ∧ Restored t.fields start r again := by
  have readable := readable_row numbered all former fits invertible values made
  obtain ⟨again, filled, restored⟩ := fill_leaves former fits numbered row t.typeName 0 readable
  -- The cells lead by their names to the columns that they were made for.
  have named : ∀ j c, cs.items[j]? = some c → (row.name? (0 + j)).bind cs.lookup = some c := by
    intro j c at_j
    obtain ⟨b, at_b, _⟩ := (mapM_ok_getElem? values).2 j c at_j
    obtain ⟨wire, cell, _, cell_made, at_cell⟩ := made j c b at_j at_b
    obtain ⟨raw, _, rfl⟩ := map_eq_ok.mp cell_made
    rw [Nat.zero_add, Row.name?, at_cell]
    exact Columns.lookup_name distinct (List.mem_of_getElem? at_j)
  refine ⟨again, ?_, restored⟩
  rw [MappedType.populateByName, MappedType.numberedNames, Row.size, count, List.range_eq_range',
    populateCells_eq_fill t cs row cs.items 0 _ named, all, Column.paths_flatten numbered]
  exact filled

/-- The values of a record, sent under the reported names as any column types that take them, populate another record
of the type with all that the first has in its leaves. The fields that are left out stay as they are. The document
`null` is sent as NULL, not as a text, and leaves a document field as it is; so it comes back wherever the field was
zero. -/
theorem population_restores (numbered : Numbered t.fields)
    (distinct : ((Column.flatten t.table [] t.fields).map (·.columnName)).Nodup) (qualifier : String)
    (former : Fits t.fields start) (fits : Fits t.fields r) (invertible : r.Invertible t)
    (values : (t.columns.withQualifier qualifier).values t r = .ok bound) {wires : List WireType}
    (accepted : List.Forall₂ (fun b wire => b.param.type.accepts wire = true) bound wires)
    (source : RowSource) :
    ∃ row again, (t.columns.withQualifier qualifier).row source bound wires = .ok row ∧
      t.populateByName (t.columns.withQualifier qualifier) row start = (again, .ok ()) ∧
      Restored t.fields start r again ∧
      (∀ path f s, leafAt t.typeName path t.fields r = .ok (f, s) →
        ∃ old, leafAt t.typeName path t.fields start = .ok (f, old) ∧
          leafAt t.typeName path t.fields again = .ok (f, s.over old)) ∧
      (∀ path leaf, leafAt t.typeName path t.fields r = .ok leaf →
        (leaf.2 = .document .null → t.isZero start path = true) →
          leafAt t.typeName path t.fields again = .ok leaf) ∧
      (∀ (i : Nat) (c : Column) f d, (t.columns.withQualifier qualifier).items[i]? = some c →
        leafAt t.typeName c.path t.fields r = .ok (f, .document d) → ∃ cell : Cell, row.cells[i]? = some cell ∧
          cell.raw ≠ some (Scalar.encode cell.type (.text "null")) ∧ (d = .null → cell.raw = none)) ∧
      (qualifier = "" → t.ownPopulation = none → t.columns.isEmpty = false →
        t.populate row start = (again, .ok ())) := by
  have columns := MappedType.items_columns distinct
  have apart : t.columns.bareNames.Nodup := t.nodup_columns
  have all := Columns.items_withQualifier apart qualifier
  generalize cs_eq : t.columns.withQualifier qualifier = cs at values all
  have cs_all : cs.items = Column.flatten t.table [] t.fields := all.trans columns
  have cs_apart : cs.bareNames.Nodup := by rwa [Columns.bareNames, cs_all]
  have valued := mapM_ok_getElem? values
  have sendable := sendable_of_values numbered cs_all fits values
  obtain ⟨row, made, count, each⟩ := Columns.row_ok valued.1 sendable accepted source
  obtain ⟨again, populated, restored⟩ :=
    exists_populated numbered cs_all cs_apart former fits invertible values count each
  have laid : ∀ path f s, leafAt t.typeName path t.fields r = .ok (f, s) →
      ∃ old, leafAt t.typeName path t.fields start = .ok (f, old) ∧
        leafAt t.typeName path t.fields again = .ok (f, s.over old) := fun path f s found => by
    obtain ⟨old, before, after⟩ := (reaches_of_leafAt fits found).restored restored
    exact ⟨old, before.leafAt t.typeName, after.leafAt t.typeName⟩
  refine ⟨row, again, made, populated, restored, laid, fun path leaf found zero => ?_, fun i c f d at_i found => ?_,
    fun unqualified own some_column => ?_⟩
  · obtain ⟨old, before, after⟩ := laid path leaf.1 leaf.2 found
    rw [after, over_of_isZero former fits before found zero]
  · obtain ⟨b, at_b, value⟩ := valued.2 i c at_i
    obtain ⟨wire, cell, taken, cell_made, at_cell⟩ := each i c b at_i at_b
    rw [MappedType.value, found] at value
    exact ⟨cell, at_cell, document_cell value taken cell_made⟩
  · -- A type populates itself by its own columns, which have no qualifier.
    subst unqualified
    have unnamed : t.columns.qualifier = "" := Columns.qualifier_addAll .empty _
    have same : cs = t.columns := by
      rw [← cs_eq, ← unnamed]
      exact Columns.withQualifier_self apart
    rw [MappedType.populate, own, MappedType.mappedColumns, some_column]
    simp only [Bool.false_eq_true, if_false]
    rw [← same, populated]
    rfl

end

def lodging : List Field :=
  [.mk 0 "street" "street" "String" (.plain (.plain .text)) none,
    .mk 1 "marks" "marks,json" "Marks" (.document .any) none]

/-- A document that a new record has as `false`. -/
def refused : Json.Form := { Json.Form.any with initial := .bool false }

def guest : MappedType where
  typeName := "Guest"
  table := "guest"
  cacheKey := none
  fields := [.mk 0 "id" "id,pk" "i64" (.plain (.plain .int64)) none,
    .mk 1 "draft" "-" "String" (.plain (.plain .text)) none,
    .mk 2 "lodging" "lodging,inline" "Lodging" (.plain (.plain .text)) (some ("Lodging", lodging)),
    .mk 3 "smokes" "smokes,json" "Option<bool>" (.document refused) none,
    .mk 4 "diet" "diet,json" "Option<Diet>" (.document .any) none]
  ownPopulation := none

def visitor : Record :=
  [.plain (.int64 7), .plain (.text "Dear"), .record [.plain (.text "Elm Street"), .document (.bool true)],
    .document .null, .document .null]

def visitorValues : List Bound :=
  [.field ⟨.plain .int64, .int64 7⟩, .field ⟨.plain .text, .text "Elm Street"⟩, .json (some "true"), .json none,
    .json none]

theorem fits_guest {id : Int64} {draft street : String} {marks smokes diet : Json.Document} :
    Fits guest.fields [.plain (.int64 id), .plain (.text draft), .record [.plain (.text street), .document marks],
      .document smokes, .document diet] :=
  .plain (by decide +kernel) rfl rfl (.skipped (by decide +kernel)
    (.inlined (by decide +kernel) rfl
      (.plain (by decide +kernel) rfl rfl (.json (by decide +kernel) rfl .nil))
      (.json (by decide +kernel) rfl (.json (by decide +kernel) rfl .nil))))

theorem inverts_null {form : Json.Form} (takes : form.document? .null = some .null) : form.Inverts .null := by
  intro text written
  obtain rfl : "null" = text := Except.ok.inj written
  have read : Json.Source.read "null" = some .null := by rfl
  rw [Json.Form.read, read, Option.bind_some, takes]

/-- Of the documents that are null, one comes back and the other leaves what a new record has. What is left out is
lost. -/
theorem population_restores_visitor :
    guest.newRecord = [.plain (.int64 0), .plain (.text ""), .record [.plain (.text ""), .document .null],
      .document (.bool false), .document .null] ∧
    ∃ row, (guest.columns.withQualifier "g_").row .memory visitorValues [.int8, .varchar, .json, .jsonb, .text] =
        .ok row ∧
      guest.populateByName (guest.columns.withQualifier "g_") row guest.newRecord =
        ([.plain (.int64 7), .plain (.text ""), .record [.plain (.text "Elm Street"), .document (.bool true)],
          .document (.bool false), .document .null], .ok ()) := by
  have fresh : guest.newRecord = [.plain (.int64 0), .plain (.text ""), .record [.plain (.text ""), .document .null],
      .document (.bool false), .document .null] := by rfl
  have fits : Fits guest.fields visitor := fits_guest
  have numbered_below : Numbered lodging := .cons (by decide) nofun (.cons (by decide) nofun .nil)
  have numbered : Numbered guest.fields :=
    .cons (by decide) nofun (.cons (by decide) nofun (.cons (by decide)
      (fun _ _ same => by cases same; exact numbered_below) (.cons (by decide) nofun (.cons (by decide) nofun .nil))))
  have invertible : visitor.Invertible guest := by
    intro path f form d found holding
    have leaf := (reaches_of_leafAt fits found).mem_leaves
    have all : leaves guest.fields = [([0], .mk 0 "id" "id,pk" "i64" (.plain (.plain .int64)) none),
      ([2, 0], .mk 0 "street" "street" "String" (.plain (.plain .text)) none),
      ([2, 1], .mk 1 "marks" "marks,json" "Marks" (.document .any) none),
      ([3], .mk 3 "smokes" "smokes,json" "Option<bool>" (.document refused) none),
      ([4], .mk 4 "diet" "diet,json" "Option<Diet>" (.document .any) none)] := by rfl
    simp only [all, List.mem_cons, Prod.mk.injEq, List.not_mem_nil, or_false] at leaf
    rcases leaf with ⟨-, rfl⟩ | ⟨-, rfl⟩ | ⟨rfl, rfl⟩ | ⟨rfl, rfl⟩ | ⟨rfl, rfl⟩
    · cases holding
    · cases holding
    · cases holding
      cases found
      intro text written
      obtain rfl : "true" = text := Except.ok.inj written
      exact Json.Form.read_any_true
    · cases holding
      cases found
      exact inverts_null Json.Form.any_takes_null
    · cases holding
      cases found
      exact inverts_null Json.Form.any_takes_null
  have values : (guest.columns.withQualifier "g_").values guest visitor = .ok visitorValues := by
    decide +kernel
  have accepted : List.Forall₂ (fun b wire => b.param.type.accepts wire = true) visitorValues
      [.int8, .varchar, .json, .jsonb, .text] := .cons rfl (.cons rfl (.cons rfl (.cons rfl (.cons rfl .nil))))
  obtain ⟨row, again, made, populated, restored, -⟩ :=
    population_restores numbered (by decide +kernel) "g_" (fresh ▸ fits_guest) fits invertible values accepted .memory
  have expected : Restored guest.fields guest.newRecord visitor [.plain (.int64 7), .plain (.text ""),
      .record [.plain (.text "Elm Street"), .document (.bool true)], .document (.bool false), .document .null] := by
    rw [fresh]
    exact .leaf (.inl (by decide +kernel)) (.skipped (by decide +kernel) (.inlined (by decide +kernel) rfl
      (.leaf (.inl (by decide +kernel)) (.leaf (.inr (by decide +kernel)) .nil))
      (.leaf (.inr (by decide +kernel)) (.leaf (.inr (by decide +kernel)) .nil))))
  exact ⟨fresh, row, made, populated.trans (by rw [restored.unique expected])⟩

end RowMapper
