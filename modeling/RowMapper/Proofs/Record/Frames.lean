import RowMapper.Proofs.Record.Leaves
import RowMapper.Proofs.Results

/-!
Reading a cell into one leaf of a record. What the cell says of the leaf does not depend on the record; nothing
else of the record changes, neither at other paths nor in the fields that are left out; and two readings into
different leaves can be done in either order.
-/
namespace RowMapper

/-! ### What a cell says -/

/-- What a cell says of a field that is read from it: its new content, or nothing, and then it is kept. -/
def Field.reading (f : Field) (row : Row) (index : Nat) : Except Error (Option Slot) :=
  match f.holding with
  | .plain type => (row.scan type index).map fun v => some (.plain v)
  | .document shape =>
    match row.scan (.maybe .document) index with
    | .error e => .error e
    | .ok (.text s) =>
      if s.isEmpty then .ok none
      else match shape.read s with
        | some d => .ok (some (.document d))
        | none => .error (.decode ((row.name? index).getD "") "<invalid json>")
    | .ok _ => .ok none

/-- NULL, or an empty text as the column type of the cell has it. -/
def Cell.isBlank (c : Cell) : Bool :=
  c.raw = none || c.raw = some (Scalar.encode c.type (.text ""))

theorem Row.scan_ok {row : Row} {type : HostType} {i : Nat} {v : Value} :
    row.scan type i = .ok v ↔
      ∃ c, row.cells[i]? = some c ∧ type.accepts c.type = true ∧ type.read c.type c.raw = .ok v := by
  cases cell : row.cells[i]? with
  | none => simp [scan, cell]
  | some c =>
    simp only [scan, cell, Option.some.injEq, exists_eq_left']
    cases type.accepts c.type with
    | false => simp
    | true => cases type.read c.type c.raw <;> simp

theorem readLeaf_eq {f : Field} {s : Slot} (fit : LeafFits (f, s)) (row : Row) (i : Nat) :
    readLeaf row i (f, s) = (f.reading row i).map (·.getD s) := by
  cases fit with
  | plain role holding has =>
    simp only [readLeaf, Field.reading, holding]
    cases row.scan _ i <;> rfl
  | @json f shape d role holding =>
    simp only [readLeaf, readDocument, Field.reading, holding]
    cases row.scan (.maybe .document) i with
    | error e => rfl
    | ok v =>
      cases v with
      | text s =>
        dsimp only
        split
        · rfl
        · cases shape.read s <;> rfl
      | _ => rfl

theorem reading_none_iff {f : Field} {s : Slot} (fit : LeafFits (f, s)) {row : Row} {i : Nat} :
    f.reading row i = .ok none ↔ f.role = .json ∧
      ∃ c, row.cells[i]? = some c ∧ (HostType.maybe .document).accepts c.type = true ∧ c.isBlank = true := by
  cases fit with
  | @plain _ type v role holding has =>
    have plain : f.role ≠ .json := by simp [role]
    refine iff_of_false (fun h => ?_) fun h => plain h.1
    simp only [Field.reading, holding, map_eq_ok, reduceCtorEq, and_false, exists_false] at h
  | @json _ shape d role holding =>
    have blank : f.reading row i = .ok none ↔
        row.scan (.maybe .document) i = .ok .null ∨ row.scan (.maybe .document) i = .ok (.text "") := by
      simp only [Field.reading, holding]
      cases scanned : row.scan (.maybe .document) i with
      | error e => simp
      | ok v =>
        obtain ⟨c, -, -, read⟩ := Row.scan_ok.mp scanned
        have has := HostType.has_of_read read
        cases v with
        | null => simp
        | text s =>
          by_cases empty : s = ""
          · simp [empty]
          · simp only [String.isEmpty_iff, empty, if_false]
            split <;> simp [empty]
        | _ => simp [HostType.has, HostType.maybe, Scalar.has] at has
    rw [blank, Row.scan_ok, Row.scan_ok, ← exists_or, and_iff_right role]
    refine exists_congr fun c => ?_
    rw [HostType.read_document_null, HostType.read_document_empty, ← and_or_left, ← and_or_left]
    simp [Cell.isBlank]

theorem LeafFits.reading {f : Field} {s new : Slot} (fit : LeafFits (f, s)) {row : Row} {i : Nat}
    (h : f.reading row i = .ok (some new)) : LeafFits (f, new) := by
  cases fit with
  | @plain _ type v role holding has =>
    simp only [Field.reading, holding, map_eq_ok, Option.some.injEq] at h
    obtain ⟨w, scanned, rfl⟩ := h
    obtain ⟨c, -, -, read⟩ := Row.scan_ok.mp scanned
    exact .plain role holding (HostType.has_of_read read)
  | @json _ shape d role holding =>
    simp only [Field.reading, holding] at h
    repeat' split at h
    all_goals cases h
    exact .json role holding

/-! ### The rest of the record -/

mutual
/-- What a record holds in the fields that are left out, at any depth, from left to right. -/
def excluded : List Field → Record → List Slot
  | f :: fields, s :: slots => f.ownExcluded s ++ excluded fields slots
  | _, _ => []

def Field.ownExcluded : Field → Slot → List Slot
  | .mk index name tag typeText holding nested, s =>
    match (Field.mk index name tag typeText holding (nested.map fun n => (n.1, []))).role, nested, s with
    | .inlined, some (_, inner), .record within => excluded inner within
    | .skipped, _, s => [s]
    | _, _, _ => []
end

theorem Field.ownExcluded_inlined {f : Field} {name : String} {inner : List Field} {within : Record}
    (role : f.role = .inlined) (nested : f.nested = some (name, inner)) :
    f.ownExcluded (.record within) = excluded inner within := by
  cases f with
  | mk index fieldName tag typeText holding below =>
    obtain rfl : below = some (name, inner) := nested
    rw [ownExcluded.eq_def]
    dsimp only
    rw [role_below, role]

theorem Field.ownExcluded_leaf {f : Field} (leaf : f.IsLeaf) (s : Slot) : f.ownExcluded s = [] := by
  cases f with
  | mk index fieldName tag typeText holding below =>
    rw [ownExcluded.eq_def]
    dsimp only
    rw [role_below]
    rcases leaf with role | role <;> rw [role]

section
variable {path other : List Nat} {fields : List Field} {slots : Record} {leaf : Field × Slot}

theorem Reaches.excluded (h : Reaches path fields slots leaf) (new : Slot) :
    excluded fields (setLeaf new path fields slots) = excluded fields slots := by
  induction h with
  | here isLeaf =>
    rw [setLeaf_leaf new isLeaf]
    simp only [RowMapper.excluded, Field.ownExcluded_leaf isLeaf]
  | inside role nested _ ih =>
    rw [setLeaf_inlined new role nested]
    simp only [RowMapper.excluded, Field.ownExcluded_inlined role nested, ih]
  | later pass _ ih =>
    rw [setLeaf_pass new pass]
    simp only [RowMapper.excluded, ih]

theorem leafAt_enter {f : Field} {s : Slot} {typeName : String} (enters : f.matchesPath path = true)
    (slots others : Record) :
    leafAt typeName path (f :: fields) (s :: slots) = leafAt typeName path (f :: fields) (s :: others) := by
  cases path with
  | nil => cases enters
  | cons i rest => simp only [leafAt, enter?, enters, if_true]

theorem setLeaf_enter {f : Field} {s : Slot} {path : List Nat} {fields : List Field}
    (enters : f.matchesPath path = true) (new : Slot) :
    ∃ changed, ∀ slots, setLeaf new path (f :: fields) (s :: slots) = changed :: slots := by
  cases path with
  | nil => cases enters
  | cons i rest =>
    simp only [setLeaf, enter?, enters, if_true, replaceEntered]
    split
    · exact ⟨_, fun _ => rfl⟩
    · exact ⟨_, fun _ => rfl⟩
    · exact ⟨_, fun _ => rfl⟩

theorem Reaches.leafAt_setLeaf_other (h : Reaches path fields slots leaf) (apart : other ≠ path)
    (typeName : String) (new : Slot) :
    RowMapper.leafAt typeName other fields (setLeaf new path fields slots) =
      RowMapper.leafAt typeName other fields slots := by
  induction h generalizing typeName other with
  | @here f s fields slots isLeaf =>
    rw [setLeaf_leaf new isLeaf]
    cases enters : f.matchesPath other with
    | true => exact absurd (Field.path_of_matches_leaf isLeaf enters) apart
    | false => rw [leafAt_pass enters, leafAt_pass enters]
  | @inside f name inner within rest fields slots leaf role nested _ ih =>
    rw [setLeaf_inlined new role nested]
    cases enters : f.matchesPath other with
    | true =>
      obtain ⟨rest', rfl⟩ := Field.path_of_matches enters
      rw [leafAt_inlined role nested, leafAt_inlined role nested]
      exact ih (fun same => apart (congrArg (f.index :: ·) same)) name
    | false => rw [leafAt_pass enters, leafAt_pass enters]
  | @later f s path fields slots leaf pass _ ih =>
    rw [setLeaf_pass new pass]
    cases enters : f.matchesPath other with
    | true => exact leafAt_enter enters _ _
    | false => rw [leafAt_pass enters, leafAt_pass enters, ih apart]

theorem Reaches.setLeaf_comm (h : Reaches path fields slots leaf) (apart : other ≠ path) (new new' : Slot) :
    setLeaf new' other fields (setLeaf new path fields slots) =
      setLeaf new path fields (setLeaf new' other fields slots) := by
  induction h generalizing other with
  | @here f s fields slots isLeaf =>
    cases enters : f.matchesPath other with
    | true => exact absurd (Field.path_of_matches_leaf isLeaf enters) apart
    | false =>
      rw [setLeaf_leaf new isLeaf, setLeaf_pass new' enters, setLeaf_pass new' enters,
        setLeaf_leaf new isLeaf]
  | @inside f name inner within rest fields slots leaf role nested _ ih =>
    rw [setLeaf_inlined new role nested]
    cases enters : f.matchesPath other with
    | true =>
      obtain ⟨rest', rfl⟩ := Field.path_of_matches enters
      rw [setLeaf_inlined new' role nested, setLeaf_inlined new' role nested,
        setLeaf_inlined new role nested, ih fun same => apart (congrArg (f.index :: ·) same)]
    | false =>
      rw [setLeaf_pass new' enters, setLeaf_pass new' enters, setLeaf_inlined new role nested]
  | @later f s path fields slots leaf pass _ ih =>
    rw [setLeaf_pass new pass]
    cases enters : f.matchesPath other with
    | true =>
      obtain ⟨changed, same⟩ := setLeaf_enter enters new'
      rw [same, same, setLeaf_pass new pass]
    | false =>
      rw [setLeaf_pass new' enters, setLeaf_pass new' enters, setLeaf_pass new pass, ih apart]

end

theorem Reaches.setLeaf_self {path : List Nat} {fields : List Field} {slots : Record} {f : Field} {s : Slot}
    (h : Reaches path fields slots (f, s)) : setLeaf s path fields slots = slots := by
  generalize leaf : (f, s) = l at h
  induction h with
  | here isLeaf =>
    cases leaf
    rw [setLeaf_leaf s isLeaf]
  | inside role nested _ ih => rw [setLeaf_inlined s role nested, ih leaf]
  | later pass _ ih => rw [setLeaf_pass s pass, ih leaf]

theorem Reaches.fits {path : List Nat} {fields : List Field} {slots : Record} {f : Field} {s new : Slot}
    (h : Reaches path fields slots (f, s)) (fits : Fits fields slots) (fit : LeafFits (f, new)) :
    Fits fields (setLeaf new path fields slots) := by
  generalize leaf : (f, s) = l at h
  induction h with
  | here isLeaf =>
    cases leaf
    rw [setLeaf_leaf new isLeaf]
    cases fit with
    | plain role holding has => exact .plain role holding has fits.split.1
    | json role holding => exact .json role holding fits.split.1
  | inside role nested _ ih =>
    rw [setLeaf_inlined new role nested]
    exact .inlined role nested (ih (fits.inside role nested) leaf) fits.split.1
  | later pass _ ih =>
    rw [setLeaf_pass new pass]
    exact fits.split.2 _ (ih fits.split.1 leaf)

/-! ### Readings -/

/-- One record differs from another at most in leaves at certain paths. -/
structure Confined (t : MappedType) (touched : List Nat → Prop) (r r' : Record) : Prop where
  kept : ∀ path, ¬touched path → leafAt t.typeName path t.fields r' = leafAt t.typeName path t.fields r
  excluded : excluded t.fields r' = excluded t.fields r
  fits : Fits t.fields r → Fits t.fields r'

section
variable {t : MappedType} {touched wider : List Nat → Prop} {r r' r'' : Record} {path : List Nat}

theorem Confined.refl (t : MappedType) (touched : List Nat → Prop) (r : Record) : Confined t touched r r :=
  ⟨fun _ _ => rfl, rfl, id⟩

theorem Confined.trans (h : Confined t touched r r') (h' : Confined t touched r' r'') :
    Confined t touched r r'' :=
  ⟨fun path free => (h'.kept path free).trans (h.kept path free), h'.excluded.trans h.excluded,
    h'.fits ∘ h.fits⟩

theorem Confined.mono (h : Confined t touched r r') (all : ∀ path, touched path → wider path) :
    Confined t wider r r' :=
  ⟨fun path free => h.kept path (free ∘ all path), h.excluded, h.fits⟩

theorem Confined.value (h : Confined t touched r r') (free : ¬touched path) : t.value r' path = t.value r path := by
  rw [MappedType.value, h.kept path free, MappedType.value]

theorem Confined.isZero (h : Confined t touched r r') (free : ¬touched path) :
    t.isZero r' path = t.isZero r path := by
  rw [MappedType.isZero, h.kept path free, MappedType.isZero]

theorem read_eq {f : Field} {s : Slot} (found : leafAt t.typeName path t.fields r = .ok (f, s))
    (fit : LeafFits (f, s)) (row : Row) (i : Nat) :
    t.read r path row i = match f.reading row i with
      | .error e => (r, .error e)
      | .ok new => (setLeaf (new.getD s) path t.fields r, .ok ()) := by
  simp only [MappedType.read, found, readLeaf_eq fit]
  cases f.reading row i <;> rfl

/-- A reading that fails changes nothing, and one that succeeds changes what its path leads to. -/
theorem confined_read (fits : Fits t.fields r) (path : List Nat) (row : Row) (i : Nat) :
    Confined t (· = path) r (t.read r path row i).1 := by
  cases found : leafAt t.typeName path t.fields r with
  | error stray =>
    simp only [MappedType.read, found]
    exact .refl t _ r
  | ok leaf =>
    obtain ⟨f, s⟩ := leaf
    have reaches := reaches_of_leafAt fits found
    have fit := reaches.leafFits fits
    rw [read_eq found fit]
    cases said : f.reading row i with
    | error e => exact .refl t _ r
    | ok new =>
      refine ⟨fun other apart => reaches.leafAt_setLeaf_other apart t.typeName _, reaches.excluded _,
        fun fits => reaches.fits fits ?_⟩
      cases new with
      | none => exact fit
      | some new => exact fit.reading said

end

structure Framed (t : MappedType) (r : Record) (path : List Nat) (f : Field) (row : Row) (i : Nat) : Prop where
  failed : ∀ e, f.reading row i = .error e → t.read r path row i = (r, .error e)
  kept : f.reading row i = .ok none → t.read r path row i = (r, .ok ())
  taken : ∀ new, f.reading row i = .ok (some new) → (t.read r path row i).2 = .ok () ∧
    leafAt t.typeName path t.fields (t.read r path row i).1 = .ok (f, new)
  /-- Only a document is ever kept, and only when the cell is NULL or an empty text. -/
  kept_iff : f.reading row i = .ok none ↔ f.role = .json ∧
    ∃ c, row.cells[i]? = some c ∧ (HostType.maybe .document).accepts c.type = true ∧ c.isBlank = true
  value : ∀ other, other ≠ path → t.value (t.read r path row i).1 other = t.value r other
  isZero : ∀ other, other ≠ path → t.isZero (t.read r path row i).1 other = t.isZero r other
  excluded : excluded t.fields (t.read r path row i).1 = excluded t.fields r
  commutes : ∀ other g, (other, g) ∈ leaves t.fields → other ≠ path → ∀ row' j,
    (t.read r path row i).2 = .ok () → (t.read r other row' j).2 = .ok () →
      ∃ both, t.read (t.read r path row i).1 other row' j = (both, .ok ()) ∧
        t.read (t.read r other row' j).1 path row i = (both, .ok ())

/-- Reading a cell into a leaf of a record fails and changes nothing, or succeeds and changes that leaf at most.
What it does to the leaf is said by the cell and the field alone, whatever the record is. -/
theorem reading_framed {t : MappedType} (numbered : Numbered t.fields) {r : Record} (fits : Fits t.fields r)
    {path : List Nat} {f : Field} (leaf : (path, f) ∈ leaves t.fields) (row : Row) (i : Nat) :
    Framed t r path f row i := by
  obtain ⟨s, found, fit⟩ := leafAt_of_mem_leaves fits numbered t.typeName leaf
  have reaches := reaches_of_leafAt fits found
  have confined := confined_read fits path row i
  have reads := read_eq found fit row i
  refine ⟨fun e said => ?_, fun said => ?_, fun new said => ?_, reading_none_iff fit,
    fun other apart => confined.value apart, fun other apart => confined.isZero apart, confined.excluded,
    fun other g there apart row' j fine fine' => ?_⟩
  · rw [reads, said]
  · rw [reads, said]
    simp only [Option.getD_none, reaches.setLeaf_self]
  · rw [reads, said]
    exact ⟨rfl, reaches.leafAt_setLeaf t.typeName new⟩
  · obtain ⟨s', found', fit'⟩ := leafAt_of_mem_leaves fits numbered t.typeName there
    have confined' := confined_read fits other row' j
    have reads' := read_eq found' fit' row' j
    -- Each path still leads to the same content after the other reading.
    have again := read_eq ((confined.kept other apart).trans found') fit' row' j
    have again' := read_eq ((confined'.kept path apart.symm).trans found) fit row i
    rw [again, again']
    cases said : f.reading row i with
    | error e =>
      rw [reads, said] at fine
      cases fine
    | ok new =>
      cases said' : g.reading row' j with
      | error e =>
        rw [reads', said'] at fine'
        cases fine'
      | ok new' =>
        rw [reads, reads', said, said']
        exact ⟨_, rfl, by rw [reaches.setLeaf_comm apart]⟩

def street : Field := .mk 0 "street" "street" "String" (.plain (.plain .text)) none

def marks : Field := .mk 1 "marks" "marks,json" "Marks" (.document .any) none

def parcel : MappedType where
  typeName := "Parcel"
  table := "parcels"
  cacheKey := none
  fields := [.mk 0 "id" "id,pk" "i64" (.plain (.plain .int64)) none,
    .mk 1 "note" "-" "String" (.plain (.plain .text)) none,
    .mk 2 "to" "to,inline" "Place" (.plain (.plain .text)) (some ("Place", [street, marks]))]
  ownPopulation := none

def posted : Record :=
  [.plain (.int64 7), .plain (.text "fragile"), .record [.plain (.text "Elm Street"), .document (.bool true)]]

def redirection : Row :=
  ⟨.server, [⟨some "street", .text, some [79, 97, 107]⟩, ⟨some "marks", .jsonb, none⟩]⟩

/-- The street is taken and the marks are kept, in either order. What is left out stays. -/
theorem reading_framed_parcel :
    parcel.read posted [2, 1] redirection 1 = (posted, .ok ()) ∧
      (∃ r, parcel.read posted [2, 0] redirection 0 = (r, .ok ()) ∧
        leafAt "Parcel" [2, 0] parcel.fields r = .ok (street, .plain (.text "Oak")) ∧
        parcel.value r [2, 1] = parcel.value posted [2, 1] ∧
        excluded parcel.fields r = [.plain (.text "fragile")]) ∧
      ∃ both, parcel.read (parcel.read posted [2, 0] redirection 0).1 [2, 1] redirection 1 = (both, .ok ()) ∧
        parcel.read (parcel.read posted [2, 1] redirection 1).1 [2, 0] redirection 0 = (both, .ok ()) := by
  have fits : Fits parcel.fields posted :=
    .plain (by decide +kernel) rfl (by decide) (.skipped (by decide +kernel)
      (.inlined (by decide +kernel) rfl
        (.plain (by decide +kernel) rfl (by decide) (.json (by decide +kernel) rfl .nil)) .nil))
  have numbered_below : Numbered [street, marks] := .cons (by decide) nofun (.cons (by decide) nofun .nil)
  have numbered : Numbered parcel.fields :=
    .cons (by decide) nofun (.cons (by decide) nofun (.cons (by decide)
      (fun _ _ same => by cases same; exact numbered_below) .nil))
  have all : leaves parcel.fields = [([0], .mk 0 "id" "id,pk" "i64" (.plain (.plain .int64)) none),
      ([2, 0], street), ([2, 1], marks)] := by rfl
  have street_leaf : ([2, 0], street) ∈ leaves parcel.fields := by simp [all]
  have marks_leaf : ([2, 1], marks) ∈ leaves parcel.fields := by simp [all]
  have taken := reading_framed numbered fits street_leaf redirection 0
  have kept := (reading_framed numbered fits marks_leaf redirection 1).kept (by rfl)
  obtain ⟨fine, put⟩ := taken.taken (.plain (.text "Oak")) (by rfl)
  exact ⟨kept, ⟨_, Prod.ext rfl fine, put, taken.value _ (by decide), taken.excluded⟩,
    taken.commutes _ _ marks_leaf (by decide) redirection 1 fine (congrArg Prod.snd kept)⟩

end RowMapper
