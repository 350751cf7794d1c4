import RowMapper.Declaration.Mapping
import RowMapper.Proofs.Record.Flattening
import RowMapper.Proofs.Results

/-!
A declaration says by the tags how its accessors go on at each field, before there is any record; the
columns come from the tags again, when they are wanted. Both read a tag alike: each column is the leaf that
the accessors reach on its path, and no other path reaches anything.
-/
namespace RowMapper

/-- The flags of a tag, and what the tag alone says of the access, come from the same piece of it. -/
theorem Role.ofTag_eq (tag : List Char) :
    Role.ofTag tag = match Tag.parse? tag with
      | none => .skipped
      | some t => if t.flags.inlined then .inlined else if t.flags.json then .json else .plain := by
  simp only [ofTag, Tag.parse?]
  generalize Text.trim tag = trimmed
  by_cases out : trimmed = ['-']
  · simp only [out, if_true]
  · cases trimmed with
    | nil => rfl
    | cons c cs =>
      simp only [out, if_false, List.isEmpty_cons, Bool.false_eq_true]
      cases Text.splitAt ',' (c :: cs) with
      | nil => rfl
      | cons first rest => rfl

theorem Field.role_of_tag {f : Field}
    (nested : f.nested.isSome = (Role.ofTag f.tag.toList == .inlined)) :
    f.role = Role.ofTag f.tag.toList := by
  rw [Role.ofTag_eq] at nested ⊢
  rw [role]
  cases parsed : Tag.parse? f.tag.toList with
  | none => rfl
  | some t =>
    rw [parsed] at nested
    cases inlined : t.flags.inlined with
    | false => simp [inlined]
    | true =>
      simp only [inlined, if_true, beq_self_eq_true] at nested
      simp [inlined, nested]

namespace Declaration

/-! ### What a declaration generates -/

/-- The fields of a record type whose declaration has these field mappings. An inlined field has the fields
of a type that is declared in turn. -/
inductive Derives : List FieldMapping → List Field → Prop where
  | nil : Derives [] []
  | leaf {m : FieldMapping} {holding : Holding} {ms : List FieldMapping} {fields : List Field}
    (role : m.role ≠ .inlined) (rest : Derives ms fields) :
    Derives (m :: ms) (.mk m.index m.name m.tag m.typeText holding none :: fields)
  | inlined {m : FieldMapping} {holding : Holding} {d : TypeDeclaration} {inner : Mapping}
    {name : String} {within : List Field} {ms : List FieldMapping} {fields : List Field}
    (role : m.role = .inlined) (accepted : Mapping.ofDeclaration d = .ok inner)
    (below : Derives inner.fields within) (rest : Derives ms fields) :
    Derives (m :: ms) (.mk m.index m.name m.tag m.typeText holding (some (name, within)) :: fields)

def armOf (a : Accessor) (f : Field) : Option Arm :=
  (a.function? (Role.ofTag f.tag.toList)).map fun function =>
    ⟨f.index, Role.ofTag f.tag.toList == .inlined, function⟩

def Arm.takes (arm : Arm) : List Nat → Bool
  | [] => false
  | i :: rest => i == arm.index && (arm.goesOn || rest.isEmpty)

def firstArm (a : Accessor) (path : List Nat) (fields : List Field) : Option (Field × Arm) :=
  fields.findSome? fun f => ((armOf a f).filter (·.takes path)).map (f, ·)

/-- The field that the accessor's arms lead to on a path, and the function called for it. -/
def dispatch (a : Accessor) : List Nat → List Field → Option (Field × String)
  | [], _ => none
  | i :: rest, fields =>
    match firstArm a (i :: rest) fields with
    | none => none
    | some (f, arm) =>
      if arm.goesOn then f.nested.bind fun n => dispatch a rest n.2 else some (f, arm.function)

/-! ### Mappings -/

theorem FieldMapping.ofFields_ok {index : Nat} {fields : List FieldDeclaration} {ms : List FieldMapping}
    (h : ofFields index fields = .ok ms) :
    (∀ m ∈ ms, m.role = Role.ofTag m.tag.toList) ∧ ms.map (·.index) = List.range' index ms.length := by
  induction fields generalizing index ms with
  | nil =>
    cases h
    simp
  | cons f rest ih =>
    rw [ofFields] at h
    cases first : ofField index f with
    | error e => simp [first] at h
    | ok m =>
      simp only [first, map_eq_ok] at h
      obtain ⟨later, found, rfl⟩ := h
      obtain ⟨roles, indices⟩ := ih found
      obtain ⟨tag, _, rfl⟩ := map_eq_ok.mp first
      refine ⟨List.forall_mem_cons.mpr ⟨rfl, roles⟩, ?_⟩
      rw [List.map_cons, indices, List.length_cons, List.range'_succ]

theorem Mapping.ofDeclaration_ok {d : TypeDeclaration} {m : Mapping} (h : ofDeclaration d = .ok m) :
    (∀ f ∈ m.fields, f.role = Role.ofTag f.tag.toList) ∧ (m.fields.map (·.index)).Nodup := by
  rw [ofDeclaration] at h
  split at h
  · cases h
  · cases h
  · split at h
    · cases h
    · obtain ⟨fields, found, rfl⟩ := map_eq_ok.mp h
      obtain ⟨roles, indices⟩ := FieldMapping.ofFields_ok found
      exact ⟨roles, indices ▸ List.nodup_range'⟩

/-- The fields are numbered apart and have the roles that their tags say, on every level. -/
inductive Declared : List Field → Prop where
  | nil : Declared []
  | cons {f : Field} {fields : List Field} (new : f.index ∉ fields.map Field.index)
    (role : f.role = Role.ofTag f.tag.toList)
    (inside : ∀ name inner, f.nested = some (name, inner) → Declared inner)
    (rest : Declared fields) : Declared (f :: fields)

theorem Declared.numbered {fields : List Field} (h : Declared fields) : Numbered fields := by
  induction h with
  | nil => exact .nil
  | cons new _ _ _ ih_inside ih => exact .cons new ih_inside ih

theorem Derives.indices {ms : List FieldMapping} {fields : List Field} (h : Derives ms fields) :
    fields.map Field.index = ms.map (·.index) := by
  induction h with
  | nil => rfl
  | leaf _ _ ih => exact congrArg _ ih
  | inlined _ _ _ _ _ ih => exact congrArg _ ih

theorem Derives.declared {ms : List FieldMapping} {fields : List Field} (h : Derives ms fields)
    (roles : ∀ m ∈ ms, m.role = Role.ofTag m.tag.toList) (apart : (ms.map (·.index)).Nodup) :
    Declared fields := by
  induction h with
  | nil => exact .nil
  | @leaf m holding ms fields role rest ih =>
    obtain ⟨new, apart⟩ := List.nodup_cons.mp apart
    have said : m.role = Role.ofTag m.tag.toList := roles m List.mem_cons_self
    refine .cons (rest.indices ▸ new) (Field.role_of_tag ?_) nofun ?_
    · simpa [Field.nested, Field.tag, ← said] using role
    · exact ih (fun m hm => roles m (List.mem_cons_of_mem _ hm)) apart
  | @inlined m holding d inner name within ms fields role accepted _ rest ih_below ih =>
    obtain ⟨new, apart⟩ := List.nodup_cons.mp apart
    have said : m.role = Role.ofTag m.tag.toList := roles m List.mem_cons_self
    obtain ⟨inner_roles, inner_apart⟩ := Mapping.ofDeclaration_ok accepted
    refine .cons (rest.indices ▸ new) (Field.role_of_tag ?_) (fun _ _ same => ?_) ?_
    · simp [Field.nested, Field.tag, ← said, role]
    · cases same
      exact ih_below inner_roles inner_apart
    · exact ih (fun m hm => roles m (List.mem_cons_of_mem _ hm)) apart

theorem arms_eq {m : Mapping} {fields : List Field} (h : Derives m.fields fields)
    (roles : ∀ f ∈ m.fields, f.role = Role.ofTag f.tag.toList) (a : Accessor) :
    m.arms a = fields.filterMap (armOf a) := by
  rw [Mapping.arms]
  generalize m.fields = ms at h roles
  have arm {m : FieldMapping} (said : m.role = Role.ofTag m.tag.toList) (holding : Holding)
      (nested : Option (String × List Field)) :
      armOf a (.mk m.index m.name m.tag m.typeText holding nested) =
        (a.function? m.role).map fun function => ⟨m.index, m.role == .inlined, function⟩ := by
    rw [said]
    rfl
  induction h with
  | nil => rfl
  | @leaf m holding ms fields _ _ ih =>
    rw [List.filterMap_cons, List.filterMap_cons, arm (roles m List.mem_cons_self),
      ih fun m hm => roles m (List.mem_cons_of_mem _ hm)]
  | @inlined m holding _ _ _ _ ms fields _ _ _ _ _ ih =>
    rw [List.filterMap_cons, List.filterMap_cons, arm (roles m List.mem_cons_self),
      ih fun m hm => roles m (List.mem_cons_of_mem _ hm)]

/-! ### Dispatch -/

section
variable {f : Field} {fields : List Field} {path : List Nat}

theorem takes_armOf (role : f.role = Role.ofTag f.tag.toList) (a : Accessor) (path : List Nat) :
    (armOf a f).filter (·.takes path) = if f.matchesPath path then armOf a f else none := by
  rw [armOf, ← role]
  cases path with
  | nil => cases a.function? f.role <;> rfl
  | cons i rest =>
    cases known : f.role <;> cases a <;>
      simp [Accessor.function?, Arm.takes, Field.matchesPath, known, Option.filter]

theorem dispatch_pass (role : f.role = Role.ofTag f.tag.toList) (pass : f.matchesPath path = false)
    (a : Accessor) : dispatch a path (f :: fields) = dispatch a path fields := by
  cases path with
  | nil => rfl
  | cons i rest =>
    rw [dispatch, dispatch, firstArm, firstArm, List.findSome?_cons, takes_armOf role, pass]
    rfl

theorem dispatch_leaf (role : f.role = Role.ofTag f.tag.toList) (leaf : f.IsLeaf) (a : Accessor) :
    dispatch a [f.index] (f :: fields) = (a.function? f.role).map (f, ·) := by
  rw [dispatch, firstArm, List.findSome?_cons, takes_armOf role, Field.matchesPath_leaf leaf, armOf, ← role]
  rcases leaf with known | known <;> cases a <;> simp [known, Accessor.function?]

theorem dispatch_inlined (role : f.role = Role.ofTag f.tag.toList) {name : String}
    {inner : List Field} (inlined : f.role = .inlined) (nested : f.nested = some (name, inner))
    (a : Accessor) (rest : List Nat) :
    dispatch a (f.index :: rest) (f :: fields) = dispatch a rest inner := by
  rw [dispatch, firstArm, List.findSome?_cons, takes_armOf role, Field.matchesPath_inlined inlined, armOf,
    ← role]
  cases a <;> simp [inlined, nested, Accessor.function?]

end

/-- The arms lead where the path leads in a record, and the function called there is that of the role. -/
theorem dispatch_eq {fields : List Field} {slots : Record} (fits : Fits fields slots)
    (declared : Declared fields) (a : Accessor) (typeName : String) (path : List Nat) :
    dispatch a path fields = (leafAt typeName path fields slots).toOption.bind fun l =>
      (a.function? l.1.role).map (l.1, ·) := by
  induction fits generalizing typeName path with
  | nil => cases path <;> rfl
  | @plain f _ _ _ _ known _ _ _ ih =>
    rcases declared with _ | ⟨_, role, _, declared⟩
    cases enters : f.matchesPath path with
    | false => rw [dispatch_pass role enters, leafAt_pass enters, ih declared typeName]
    | true =>
      obtain rfl := Field.path_of_matches_leaf (.inl known) enters
      rw [dispatch_leaf role (.inl known), leafAt_leaf (.inl known)]
      rfl
  | @json f _ _ _ _ known _ _ ih =>
    rcases declared with _ | ⟨_, role, _, declared⟩
    cases enters : f.matchesPath path with
    | false => rw [dispatch_pass role enters, leafAt_pass enters, ih declared typeName]
    | true =>
      obtain rfl := Field.path_of_matches_leaf (.inr known) enters
      rw [dispatch_leaf role (.inr known), leafAt_leaf (.inr known)]
      rfl
  | @inlined f _ _ _ _ _ known nested _ _ ih_below ih =>
    rcases declared with _ | ⟨_, role, inside, declared⟩
    cases enters : f.matchesPath path with
    | false => rw [dispatch_pass role enters, leafAt_pass enters, ih declared typeName]
    | true =>
      obtain ⟨rest, rfl⟩ := Field.path_of_matches enters
      rw [dispatch_inlined role known nested, leafAt_inlined known nested]
      exact ih_below (inside _ _ nested) _ rest
  | skipped known _ ih =>
    rcases declared with _ | ⟨_, role, _, declared⟩
    have pass := Field.matchesPath_skipped known path
    rw [dispatch_pass role pass, leafAt_pass pass, ih declared typeName]

/-! ### Agreement -/

theorem scan_settable (row : Row) (type : HostType) (i : Nat) (reason : String) :
    row.scan type i ≠ .error (.unsettable reason) := by
  rw [Row.scan]
  split
  · exact nofun
  · split
    · exact nofun
    · split <;> exact nofun

theorem readLeaf_settable {leaf : Field × Slot} (fit : LeafFits leaf) (row : Row) (i : Nat)
    (reason : String) : readLeaf row i leaf ≠ .error (.unsettable reason) := by
  cases fit with
  | plain role holding has =>
    rw [readLeaf, ne_eq, map_eq_error]
    exact scan_settable row _ i reason
  | json role holding =>
    rw [readLeaf, ne_eq, map_eq_error, readDocument]
    cases scanned : row.scan (.maybe .document) i with
    | error e =>
      rintro ⟨⟩
      exact scan_settable _ _ _ reason scanned
    | ok v =>
      cases v with
      | text s =>
        dsimp only
        split
        · exact nofun
        · split <;> exact nofun
      | _ => exact nofun

theorem leafValue_settable {leaf : Field × Slot} (fit : LeafFits leaf) (reason : String) :
    leafValue leaf ≠ .error (.unsettable reason) := by
  cases fit with
  | plain role holding has => simp [leafValue, holding]
  | @json f shape d role holding =>
    rw [leafValue, Json.Document.bound]
    split <;> exact nofun

/-- All accessors of a record reach a field on a path, and none says that there is no such field. -/
structure Reached (t : MappedType) (r : Record) (path : List Nat) (f : Field) (s : Slot) : Prop where
  value : t.value r path = leafValue (f, s)
  zero : t.isZero r path = leafIsZero (f, s)
  read_ok : ∀ row i new, readLeaf row i (f, s) = .ok new →
    t.read r path row i = (setLeaf new path t.fields r, .ok ())
  read_error : ∀ row i e, readLeaf row i (f, s) = .error e → t.read r path row i = (r, .error e)
  /-- What is read goes into the field whose value is bound. -/
  put : ∀ new, leafAt t.typeName path t.fields (setLeaf new path t.fields r) = .ok (f, new)
  valued : ∀ reason, t.value r path ≠ .error (.unsettable reason)
  settable : ∀ row i reason, (t.read r path row i).2 ≠ .error (.unsettable reason)

theorem reached_of_leafAt {t : MappedType} {r : Record} (fits : Fits t.fields r) {path : List Nat}
    {f : Field} {s : Slot} (found : leafAt t.typeName path t.fields r = .ok (f, s))
    (fit : LeafFits (f, s)) : Reached t r path f s where
  value := by rw [MappedType.value, found]
  zero := by rw [MappedType.isZero, found]
  read_ok row i new taken := by simp only [MappedType.read, found, taken]
  read_error row i e failed := by simp only [MappedType.read, found, failed]
  put new := (reaches_of_leafAt fits found).leafAt_setLeaf t.typeName new
  valued reason := by
    rw [MappedType.value, found]
    exact leafValue_settable fit reason
  settable row i reason := by
    rw [MappedType.read, found]
    cases taken : readLeaf row i (f, s) with
    | ok new => simp [taken]
    | error e =>
      simp only [taken]
      rintro ⟨⟩
      exact readLeaf_settable fit row i reason taken

def Calls (fields : List Field) (path : List Nat) (f : Field) (value set zero : String) : Prop :=
  dispatch .value path fields = some (f, value) ∧ dispatch .set path fields = some (f, set) ∧
    dispatch .zero path fields = some (f, zero)

def TreatedPlain (t : MappedType) (path : List Nat) (f : Field) (s : Slot) : Prop :=
  Calls t.fields path f "field_value" "set_field" "is_zero" ∧
    ∃ type v, f.holding = .plain type ∧ s = .plain v ∧
      leafValue (f, s) = .ok (.field ⟨type, v⟩) ∧ leafIsZero (f, s) = type.isZero v ∧
      ∀ row i, readLeaf row i (f, s) = (row.scan type i).map .plain

def TreatedJson (t : MappedType) (path : List Nat) (f : Field) (s : Slot) : Prop :=
  Calls t.fields path f "json_value" "set_json" "is_json_zero" ∧
    ∃ shape d, f.holding = .document shape ∧ s = .document d ∧
      leafValue (f, s) = d.bound ∧ leafIsZero (f, s) = d.isZero ∧
      ∀ row i, readLeaf row i (f, s) = (readDocument shape d row i).map .document

structure Stray (t : MappedType) (r : Record) (path : List Nat) : Prop where
  dispatched : ∀ a, dispatch a path t.fields = none
  value : ∃ reason, t.value r path = .error (.unsettable reason)
  read : ∀ row i, ∃ reason, t.read r path row i = (r, .error (.unsettable reason))
  zero : t.isZero r path = false

theorem calls_of_leafAt {fields : List Field} {r : Record} (fits : Fits fields r)
    (declared : Declared fields) {typeName : String} {path : List Nat} {f : Field} {s : Slot}
    (found : leafAt typeName path fields r = .ok (f, s)) {value set zero : String}
    (hvalue : Accessor.value.function? f.role = some value)
    (hset : Accessor.set.function? f.role = some set)
    (hzero : Accessor.zero.function? f.role = some zero) : Calls fields path f value set zero := by
  refine ⟨?_, ?_, ?_⟩
  · rw [dispatch_eq fits declared .value typeName, found]
    simp [Except.toOption, hvalue]
  · rw [dispatch_eq fits declared .set typeName, found]
    simp [Except.toOption, hset]
  · rw [dispatch_eq fits declared .zero typeName, found]
    simp [Except.toOption, hzero]

/-- Whatever the tags are, the columns and the accessors agree: the path of each column leads all accessors to
its field, which they treat as a document just when the column is flagged as one, and every other path leads
them nowhere. -/
theorem access_agrees {d : TypeDeclaration} {m : Mapping} (accepted : Mapping.ofDeclaration d = .ok m)
    {t : MappedType} (derives : Derives m.fields t.fields) {r : Record} (fits : Fits t.fields r) :
    (∀ a, m.arms a = t.fields.filterMap (armOf a)) ∧
      (∀ c ∈ Column.flatten t.table [] t.fields, ∃ f s,
        c.fieldName = f.name ∧ c.index = f.index ∧ Reached t r c.path f s ∧
          if c.flags.json then TreatedJson t c.path f s else TreatedPlain t c.path f s) ∧
      ∀ path, (∀ c ∈ Column.flatten t.table [] t.fields, c.path ≠ path) → Stray t r path := by
  obtain ⟨roles, apart⟩ := Mapping.ofDeclaration_ok accepted
  have declared := derives.declared roles apart
  have numbered := declared.numbered
  refine ⟨arms_eq derives roles, fun c hc => ?_, fun path unused => ?_⟩
  · obtain ⟨⟨path, f⟩, leaf, isOf⟩ := Column.exists_leaf numbered hc
    obtain rfl : c.path = path := isOf.path
    obtain ⟨s, found, fit⟩ := leafAt_of_mem_leaves fits numbered t.typeName leaf
    refine ⟨f, s, isOf.fieldName, isOf.index, reached_of_leafAt fits found fit, ?_⟩
    cases fit with
    | @plain _ type v role holding has =>
      have unflagged : ¬c.flags.json = true := by simp [isOf.json, role]
      rw [if_neg unflagged]
      refine ⟨?_, type, v, holding, rfl, ?_, ?_, fun row i => ?_⟩
      · apply calls_of_leafAt fits declared found <;> rw [role] <;> rfl
      · simp [leafValue, holding]
      · simp [leafIsZero, holding]
      · simp [readLeaf, holding]
    | @json _ shape d role holding =>
      rw [if_pos (isOf.json.mpr role)]
      refine ⟨?_, shape, d, holding, rfl, rfl, rfl, fun row i => ?_⟩
      · apply calls_of_leafAt fits declared found <;> rw [role] <;> rfl
      · simp [readLeaf, holding]
  · -- A path that reaches a leaf is that of a column, so here it is a stray one.
    cases found : leafAt t.typeName path t.fields r with
    | ok leaf =>
      have used := (reaches_of_leafAt fits found).mem_leaves
      obtain ⟨c, hc, isOf⟩ := Column.exists_column numbered used t.table
      exact absurd isOf.path (unused c hc)
    | error stray =>
      constructor
      · intro a
        rw [dispatch_eq fits declared a t.typeName, found]
        rfl
      · exact ⟨_, by rw [MappedType.value, found]; rfl⟩
      · exact fun row i => ⟨_, by rw [MappedType.read, found]; rfl⟩
      · rw [MappedType.isZero, found]

def tagged (tag name type : String) : FieldDeclaration :=
  ⟨[⟨"db", .listed [.leaf (.text tag tag)]⟩], name, [.leaf (.word type false)]⟩

def stamp : TypeDeclaration :=
  ⟨[], "Stamp", [], [], .named [tagged "by" "by" "String", tagged "log, JSON " "log" "Log"]⟩

def letter : TypeDeclaration :=
  ⟨[], "Letter", [], [], .named [tagged "id,pk" "id" "i64", tagged " - " "draft" "String",
    tagged "stamp,json,Inline" "stamp" "Stamp"]⟩

def stampMapping : Mapping :=
  ⟨"Stamp", "", "", "stamp", none, false,
    [⟨0, "by", "by", "String", .plain⟩, ⟨1, "log", "log, JSON ", "Log", .json⟩]⟩

def letterMapping : Mapping :=
  ⟨"Letter", "", "", "letter", none, false, [⟨0, "id", "id,pk", "i64", .plain⟩,
    ⟨1, "draft", " - ", "String", .skipped⟩, ⟨2, "stamp", "stamp,json,Inline", "Stamp", .inlined⟩]⟩

def stampFields : List Field :=
  [.mk 0 "by" "by" "String" (.plain (.plain .text)) none,
    .mk 1 "log" "log, JSON " "Log" (.document .any) none]

def letterType : MappedType where
  typeName := "Letter"
  table := "letter"
  cacheKey := none
  fields := [.mk 0 "id" "id,pk" "i64" (.plain (.plain .int64)) none,
    .mk 1 "draft" " - " "String" (.plain (.plain .text)) none,
    .mk 2 "stamp" "stamp,json,Inline" "Stamp" (.plain (.plain .text)) (some ("Stamp", stampFields))]
  ownPopulation := none

def sent : Record :=
  [.plain (.int64 7), .plain (.text "Dear"), .record [.plain (.text "Ada"), .document .null]]

def stampLog : Column where
  columnName := "log"
  fieldName := "log"
  fieldType := "Log"
  tableName := "letter"
  index := 1
  path := [2, 1]
  parents := [⟨"stamp", "stamp", "letter", [2]⟩]
  flags := ⟨false, false, false, false, false, true, false⟩

/-- A document below an inlined field is reached. The field that is left out and the inlined field itself are
not. -/
theorem access_agrees_letter :
    (∃ f s, Reached letterType sent [2, 1] f s ∧ TreatedJson letterType [2, 1] f s) ∧
      Stray letterType sent [1] ∧ Stray letterType sent [2] := by
  have stamped : Mapping.ofDeclaration stamp = .ok stampMapping := by decide +kernel
  have accepted : Mapping.ofDeclaration letter = .ok letterMapping := by decide +kernel
  have below : Derives stampMapping.fields stampFields :=
    .leaf (m := ⟨0, "by", "by", "String", .plain⟩) nofun
      (.leaf (m := ⟨1, "log", "log, JSON ", "Log", .json⟩) nofun .nil)
  have fits_below : Fits stampFields [.plain (.text "Ada"), .document .null] :=
    .plain (by decide +kernel) rfl (by decide) (.json (by decide +kernel) rfl .nil)
  have fits : Fits letterType.fields sent :=
    .plain (by decide +kernel) rfl (by decide)
      (.skipped (by decide +kernel) (.inlined (by decide +kernel) rfl fits_below .nil))
  have derives : Derives letterMapping.fields letterType.fields :=
    .leaf (m := ⟨0, "id", "id,pk", "i64", .plain⟩) nofun
      (.leaf (m := ⟨1, "draft", " - ", "String", .skipped⟩) nofun
        (.inlined (m := ⟨2, "stamp", "stamp,json,Inline", "Stamp", .inlined⟩) rfl stamped below .nil))
  obtain ⟨-, reached, strays⟩ := access_agrees accepted derives fits
  refine ⟨?_, strays [1] (by decide +kernel), strays [2] (by decide +kernel)⟩
  obtain ⟨f, s, -, -, found, treated⟩ := reached stampLog (by decide +kernel)
  exact ⟨f, s, found, treated⟩

end Declaration

end RowMapper
