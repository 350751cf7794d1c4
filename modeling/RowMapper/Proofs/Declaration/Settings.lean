import RowMapper.Declaration.Mapping
import RowMapper.Proofs.Results

/-!
The settings of a type. What an attribute may hold is a grammar: settings with commas between them. The settings of all
attributes together count as one list, in which the last table and the last key are taken; how the list is spread over
attributes, and which other attributes stand between them, does not matter.
-/
namespace RowMapper.Declaration

namespace Setting

/-! ### The grammar -/

inductive Written : Setting → List Tree → Prop where
  | table (name spelling : String) (joined : Bool) :
    Written (.table name) [.leaf (.word "table" false), .leaf (.mark '=' joined), .leaf (.text name spelling)]
  | cacheKey (key spelling : String) (joined : Bool) :
    Written (.cacheKey key) [.leaf (.word "cache_key" false), .leaf (.mark '=' joined), .leaf (.text key spelling)]
  | populatable : Written .populatable [.leaf (.word "populatable" false)]

inductive Listed : List Setting → List Tree → Prop where
  | nil : Listed [] []
  | last {s : Setting} {ts : List Tree} (item : Written s ts) : Listed [s] ts
  | cons {s : Setting} {ss : List Setting} {ts more : List Tree} (joined : Bool) (item : Written s ts)
    (rest : Listed ss more) : Listed (s :: ss) (ts ++ .leaf (.mark ',' joined) :: more)

variable {settings : List Setting} {ts : List Tree}

theorem readAll_of_listed (h : Listed settings ts) : readAll ts = .ok settings := by
  induction h with
  | nil => rfl
  | last item => cases item <;> rfl
  | cons joined item _ ih =>
    cases item <;> simp [readAll, ofText?, ih, Except.map]

theorem written_of_ofText? {name : String} (known : ¬ (ofText? name "").isNone = true) (value : String) :
    ∃ s, ofText? name value = some s ∧ ∀ joined spelling,
      Written s [.leaf (.word name false), .leaf (.mark '=' joined), .leaf (.text value spelling)] := by
  by_cases table : name = "table"
  · subst table
    exact ⟨.table value, rfl, fun joined spelling => .table value spelling joined⟩
  · by_cases key : name = "cache_key"
    · subst key
      exact ⟨.cacheKey value, rfl, fun joined spelling => .cacheKey value spelling joined⟩
    · exact absurd (by simp [ofText?, table, key]) known

theorem listed_of_readAll (h : readAll ts = .ok settings) : Listed settings ts := by
  -- The cases that read nothing are those of the errors.
  fun_induction readAll ts generalizing settings with
  | case1 =>
    cases h
    exact .nil
  | case2 =>
    cases h
    exact .last .populatable
  | case3 joined more ih =>
    obtain ⟨later, read, rfl⟩ := map_eq_ok.mp h
    exact .cons joined .populatable (ih read)
  | case6 name _ known joined value spelling =>
    obtain ⟨s, same, written⟩ := written_of_ofText? known value
    rw [same] at h
    cases h
    exact .last (written joined spelling)
  | case7 name _ known joined value spelling joined' more ih =>
    obtain ⟨later, read, rfl⟩ := map_eq_ok.mp h
    obtain ⟨s, same, written⟩ := written_of_ofText? known value
    rw [same]
    exact .cons joined' (written joined spelling) (ih read)
  | case4 | case5 | case8 | case9 | case10 | case11 => cases h

/-- An attribute's inside is accepted just when it is such a list, and comes to its settings. -/
theorem readAll_eq_ok_iff : readAll ts = .ok settings ↔ Listed settings ts :=
  ⟨listed_of_readAll, readAll_of_listed⟩

theorem exists_listed (settings : List Setting) : ∃ ts, Listed settings ts := by
  induction settings with
  | nil => exact ⟨[], .nil⟩
  | cons s _ ih =>
    obtain ⟨ts, rest⟩ := ih
    cases s with
    | table name => exact ⟨_, .cons false (.table name "" false) rest⟩
    | cacheKey key => exact ⟨_, .cons false (.cacheKey key "" false) rest⟩
    | populatable => exact ⟨_, .cons false .populatable rest⟩

def tableName? : Setting → Option String
  | .table name => some name
  | _ => none

def key? : Setting → Option String
  | .cacheKey key => some key
  | _ => none

end Setting

/-! ### What settings come to -/

namespace Options

open Setting

variable {settings later : List Setting} {ts : List Tree} {attributes : List Attribute} {o before : Options}

/-- The options that a list of settings gives: the last table, the last key, and whether the type populates itself. -/
def given (settings : List Setting) : Options where
  table := (settings.filterMap tableName?).getLast?
  cacheKey := (settings.filterMap key?).getLast?
  populatable := settings.contains .populatable

theorem given_append (settings later : List Setting) :
    given (settings ++ later) = (given settings).merge (given later) := by
  simp only [given, merge, List.filterMap_append, List.getLast?_append, List.contains_eq_mem, List.mem_append,
    Bool.decide_or]

theorem set_eq_merge (o : Options) (s : Setting) : o.set s = o.merge (given [s]) := by
  cases s <;> simp [set, merge, given, tableName?, key?]

theorem merge_assoc (a b c : Options) : (a.merge b).merge c = a.merge (b.merge c) := by
  simp [merge, Option.or_assoc, Bool.or_assoc]

theorem none_merge (o : Options) : none.merge o = o := by
  simp [merge, none]

theorem merge_given_nil (o : Options) : o.merge (given []) = o := by
  simp [merge, given]

theorem foldl_set (settings : List Setting) (o : Options) : settings.foldl set o = o.merge (given settings) := by
  induction settings generalizing o with
  | nil => exact (merge_given_nil o).symm
  | cons s rest ih =>
    rw [List.foldl_cons, ih, set_eq_merge, merge_assoc, ← given_append, List.singleton_append]

theorem ofSettings_eq (settings : List Setting) : ofSettings settings = given settings := by
  rw [ofSettings, foldl_set, none_merge]

/-! ### Attributes -/

/-- The settings that the attributes of a type hold together. Attributes of other names count for nothing. -/
inductive Held : List Attribute → List Setting → Prop where
  | nil : Held [] []
  | other {a : Attribute} {rest : List Attribute} {settings : List Setting} (foreign : a.isMapping = false)
    (others : Held rest settings) : Held (a :: rest) settings
  | mapping {a : Attribute} {ts : List Tree} {rest : List Attribute} {settings later : List Setting}
    (own : a.isMapping = true) (inside : a.body = .listed ts) (here : Listed settings ts) (others : Held rest later) :
    Held (a :: rest) (settings ++ later)

theorem ofAttribute_eq_ok_iff {a : Attribute} :
    ofAttribute a = .ok o ↔ ∃ ts settings, a.body = .listed ts ∧ Listed settings ts ∧ o = given settings := by
  rw [ofAttribute, Attribute.content]
  cases a.body with
  | bare => simp
  | assigned value => simp
  | listed ts =>
    simp only [map_eq_ok, readAll_eq_ok_iff, ofSettings_eq, AttributeBody.listed.injEq]
    constructor
    · rintro ⟨settings, here, rfl⟩
      exact ⟨ts, settings, rfl, here, rfl⟩
    · rintro ⟨_, settings, rfl, here, rfl⟩
      exact ⟨settings, here, rfl⟩

theorem ofAttributesAfter_of_held (h : Held attributes settings) (before : Options) :
    ofAttributesAfter before attributes = .ok (before.merge (given settings)) := by
  induction h generalizing before with
  | nil => rw [ofAttributesAfter, merge_given_nil]
  | other foreign _ ih =>
    rw [ofAttributesAfter, foreign]
    exact ih before
  | @mapping a ts rest settings later own inside here _ ih =>
    have read : ofAttribute a = .ok (given settings) := ofAttribute_eq_ok_iff.mpr ⟨ts, settings, inside, here, rfl⟩
    rw [ofAttributesAfter, if_pos own, read]
    dsimp only
    rw [ih, merge_assoc, given_append]

theorem held_of_ofAttributesAfter (h : ofAttributesAfter before attributes = .ok o) :
    ∃ settings, Held attributes settings := by
  induction attributes generalizing before with
  | nil => exact ⟨[], .nil⟩
  | cons a rest ih =>
    rw [ofAttributesAfter] at h
    split at h
    · rename_i own
      split at h
      · cases h
      · rename_i read
        obtain ⟨ts, settings, inside, here, -⟩ := ofAttribute_eq_ok_iff.mp read
        obtain ⟨later, others⟩ := ih h
        exact ⟨settings ++ later, .mapping own inside here others⟩
    · rename_i foreign
      obtain ⟨settings, others⟩ := ih h
      exact ⟨settings, .other (Bool.eq_false_iff.mpr foreign) others⟩

theorem ofAttributes_eq_ok_iff :
    ofAttributes attributes = .ok o ↔ ∃ settings, Held attributes settings ∧ o = given settings := by
  constructor
  · intro h
    obtain ⟨settings, held⟩ := held_of_ofAttributesAfter h
    have same := ofAttributesAfter_of_held held none
    rw [none_merge] at same
    exact ⟨settings, held, Except.ok.inj (h.symm.trans same)⟩
  · rintro ⟨settings, held, rfl⟩
    rw [ofAttributes, ofAttributesAfter_of_held held, none_merge]

theorem of_ofDeclaration {d : TypeDeclaration} {m : Mapping} (held : Held d.attributes settings)
    (h : Mapping.ofDeclaration d = .ok m) :
    m.table = (given settings).table.getD (Text.lowered d.name) ∧ m.cacheKey = (given settings).cacheKey ∧
      m.populatable = (given settings).populatable := by
  rw [Mapping.ofDeclaration, ofAttributes_eq_ok_iff.mpr ⟨settings, held, rfl⟩] at h
  split at h
  · cases h
  · cases h
  · obtain ⟨fields, -, rfl⟩ := map_eq_ok.mp h
    exact ⟨rfl, rfl, rfl⟩

/-- The settings of a type. The inside of an attribute is accepted just when it is a list of settings with commas
between them, perhaps with one at the end, and every list of settings can be written so. One attribute comes to the last
table, the last key and whether the type populates itself, and a list that is spread over attributes, with any others
between them, comes to the same as in one. The mapping of the type goes by these. -/
theorem settings_count_as_one_list :
    (∀ ts settings, readAll ts = .ok settings ↔ Listed settings ts) ∧
    (∀ settings, ∃ ts, Listed settings ts) ∧
    (∀ ts o, ofAttributes [⟨"db", .listed ts⟩] = .ok o ↔ ∃ settings, Listed settings ts ∧ o = given settings) ∧
    (∀ attributes, (∃ o, ofAttributes attributes = .ok o) ↔ ∃ settings, Held attributes settings) ∧
    (∀ attributes settings ts, Held attributes settings → Listed settings ts →
      ofAttributes attributes = .ok (given settings) ∧
      ofAttributes attributes = ofAttributes [⟨"db", .listed ts⟩]) ∧
    (∀ (d : TypeDeclaration) (m : Mapping) settings, Held d.attributes settings → Mapping.ofDeclaration d = .ok m →
      m.table = (given settings).table.getD (Text.lowered d.name) ∧ m.cacheKey = (given settings).cacheKey ∧
        m.populatable = (given settings).populatable) := by
  have single (ts : List Tree) (o : Options) :
      ofAttributes [⟨"db", .listed ts⟩] = .ok o ↔ ∃ settings, Listed settings ts ∧ o = given settings := by
    rw [ofAttributes_eq_ok_iff]
    constructor
    · rintro ⟨_, held, rfl⟩
      cases held with
      | other foreign _ => exact absurd foreign (by simp [Attribute.isMapping])
      | mapping _ inside here others =>
        cases inside
        cases others
        exact ⟨_, here, by rw [List.append_nil]⟩
    · rintro ⟨settings, here, rfl⟩
      exact ⟨settings ++ [], .mapping rfl rfl here .nil, by rw [List.append_nil]⟩
  refine ⟨fun ts settings => readAll_eq_ok_iff, exists_listed, single, fun attributes => ⟨?_, ?_⟩,
    fun attributes settings ts held listed => ?_, fun d m settings => of_ofDeclaration⟩
  · rintro ⟨o, read⟩
    obtain ⟨settings, held, -⟩ := ofAttributes_eq_ok_iff.mp read
    exact ⟨settings, held⟩
  · rintro ⟨settings, held⟩
    exact ⟨_, ofAttributes_eq_ok_iff.mpr ⟨settings, held, rfl⟩⟩
  · have spread := ofAttributes_eq_ok_iff.mpr ⟨settings, held, rfl⟩
    exact ⟨spread, spread.trans ((single ts _).mpr ⟨settings, listed, rfl⟩).symm⟩

theorem settings_count_as_one_list_spread :
    ofAttributes
      [⟨"db", .listed [.leaf (.word "populatable" false), .leaf (.mark ',' false), .leaf (.word "table" false),
          .leaf (.mark '=' false), .leaf (.text "drafts" "\"drafts\"")]⟩,
        ⟨"db", .listed []⟩, ⟨"allow", .listed [.leaf (.word "dead_code" false)]⟩,
        ⟨"db", .listed [.leaf (.word "table" false), .leaf (.mark '=' false), .leaf (.text "notes" "\"notes\""),
          .leaf (.mark ',' false)]⟩] =
      .ok ⟨some "notes", .none, true⟩ := by
  have held : Held
      [⟨"db", .listed [.leaf (.word "populatable" false), .leaf (.mark ',' false), .leaf (.word "table" false),
          .leaf (.mark '=' false), .leaf (.text "drafts" "\"drafts\"")]⟩,
        ⟨"db", .listed []⟩, ⟨"allow", .listed [.leaf (.word "dead_code" false)]⟩,
        ⟨"db", .listed [.leaf (.word "table" false), .leaf (.mark '=' false), .leaf (.text "notes" "\"notes\""),
          .leaf (.mark ',' false)]⟩]
      [.populatable, .table "drafts", .table "notes"] :=
    .mapping rfl rfl (.cons false .populatable (.last (.table "drafts" "\"drafts\"" false)))
      (.mapping rfl rfl .nil (.other rfl
        (.mapping rfl rfl (.cons false (.table "notes" "\"notes\"" false) .nil) .nil)))
  obtain ⟨ts, listed⟩ := exists_listed [.populatable, .table "drafts", .table "notes"]
  exact (settings_count_as_one_list.2.2.2.2.1 _ _ ts held listed).1

end Options

end RowMapper.Declaration
