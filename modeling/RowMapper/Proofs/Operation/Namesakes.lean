import RowMapper.Proofs.Cache.Recovery
import RowMapper.Proofs.Columns.Resolving
import RowMapper.Proofs.Operation.Conflicts
import RowMapper.Proofs.Operation.Labels

/-!
Statements with the same usual label. A label says the table and the operation, and for an upsert the
generated columns that are written; the text also depends on the columns that the type maps. So a label
tells the text as far as the columns are told by the table, and as far as joined names can be told apart.
-/
namespace RowMapper

structure Outline where
  name : String
  primaryKey : Bool
  auto : Bool
  readOnly : Bool
  deriving DecidableEq, Repr

def Column.outline (c : Column) : Outline :=
  ⟨c.columnName, c.flags.primaryKey, c.flags.auto, c.flags.readOnly⟩

def MappedType.outline (t : MappedType) : List Outline := t.columns.items.map Column.outline

namespace Outline

def names (keep : Outline → Bool) (os : List Outline) : List String := (os.filter keep).map name

def upsert (table : String) (os : List Outline) (autos : List String) : Statement :=
  .insert table (names (fun o => !o.readOnly && (!o.auto || autos.contains o.name)) os) 1
    (.doUpdate (names (·.primaryKey) os)
      (names (fun o => (!o.readOnly && !o.primaryKey) && !o.auto) os))
    (if (names (·.auto) os).length = 1 then names (·.auto) os else [])

/-- No two choices of generated columns have the same names when these are joined. -/
def Legible (os : List Outline) : Prop :=
  ∀ as bs : List String, as.Sublist (names (·.auto) os) → bs.Sublist (names (·.auto) os) →
    as ≠ [] → bs ≠ [] → "_".intercalate as = "_".intercalate bs → as = bs

end Outline

open Outline

namespace Naming

def statement (table : String) (os : List Outline) : Naming → Statement
  | .get => .selectByKey table (names (!·.readOnly) os) (names (fun o => !o.readOnly && o.primaryKey) os)
  | .getAll => .selectAll table (names (!·.readOnly) os)
  | .create => .insert table (names (fun o => !o.readOnly && !o.auto) os) 1 .none (names (·.auto) os)
  | .createIfNew =>
    .insert table (names (fun o => !o.readOnly && !o.auto) os) 1 (.doNothing (names (·.primaryKey) os))
      (names (·.auto) os)
  | .upsert => Outline.upsert table os []
  | .upsertWith autos => Outline.upsert table os autos
  | .update =>
    .update table (names (fun o => !o.readOnly && !o.primaryKey) os) (names (·.primaryKey) os)
  | .exists => .exists table (names (·.primaryKey) os)
  | .delete => .delete table (names (·.primaryKey) os)
  | .truncate => .truncate table

/-- Operations with the same text in their labels: they are of one kind, and upserts write generated
columns whose names are the same when they are joined. -/
inductive Alike : Naming → Naming → Prop where
  | same (n : Naming) : Alike n n
  | joined {as bs : List String} : "_".intercalate as = "_".intercalate bs →
    Alike (.upsertWith as) (.upsertWith bs)

/-- A label of one table that is also one of a table with a longer name. -/
inductive Overlap (short long : String) : Naming → Naming → Prop where
  | existing : long = short ++ "_create_if_not" → Overlap short long .createIfNew .exists
  | joined {autos : List String} {n : Naming} (more : String) : long = short ++ "_upsert_with" ++ more →
    Overlap short long (.upsertWith autos) n

end Naming

variable {t : MappedType} {r : Record} {o : Operation} {d : Draft} {n n₁ n₂ : Naming}

theorem bareNames_eq_names {cs : Columns} {keep : Column → Bool} {keep' : Outline → Bool}
    (items : cs.items = t.columns.items.filter keep)
    (same : ∀ c ∈ t.columns.items, keep c = keep' c.outline) : cs.bareNames = names keep' t.outline := by
  rw [bareNames_of_items items, List.filter_congr same, names, MappedType.outline, List.filter_map,
    List.map_map]
  rfl

theorem bareNames_view (t : MappedType) (v : View) {keep : Outline → Bool}
    (same : ∀ c : Column, v.keeps c = keep c.outline) :
    (t.columns.view v).bareNames = names keep t.outline :=
  bareNames_eq_names (Columns.items_view t.nodup_columns v) fun c _ => same c

theorem names_autos (t : MappedType) : (t.columns.view .autos).bareNames = names (·.auto) t.outline :=
  bareNames_view t .autos fun _ => rfl

theorem has_eq_contains (cs : Columns) (name : String) : cs.has name = cs.bareNames.contains name := by
  rw [Bool.eq_iff_iff, Columns.has_iff, List.contains_iff_mem, Columns.bareNames, List.mem_map]

theorem names_upsertColumns (t : MappedType) (r : Record) :
    (t.upsertColumns r).bareNames =
      names (fun o => !o.readOnly && (!o.auto || (t.presentAutos r).bareNames.contains o.name)) t.outline := by
  refine bareNames_eq_names (items_upsertColumns t r) fun c there => ?_
  have present := has_presentAutos (r := r) there
  rw [has_eq_contains] at present
  simp only [Column.outline, present]
  cases c.flags.auto <;> rfl

theorem names_upsertSet (t : MappedType) (r : Record) :
    (t.upsertSet r).bareNames =
      names (fun o => (!o.readOnly && !o.primaryKey) && !o.auto) t.outline := by
  have items : (t.upsertSet r).items = t.columns.items.filter fun c =>
      (!c.flags.readOnly && !c.flags.primaryKey) && !c.flags.auto := by
    rw [items_upsertSet, MappedType.settable, List.filter_filter]
    exact List.filter_congr fun c _ => Bool.and_comm _ _
  exact bareNames_eq_names items fun c _ => rfl

theorem names_upsertReturning (t : MappedType) :
    t.upsertReturning.bareNames =
      if (names (·.auto) t.outline).length = 1 then names (·.auto) t.outline else [] := by
  have autos := names_autos t
  have size : (t.columns.view .autos).size = (names (·.auto) t.outline).length := by
    rw [← autos, Columns.bareNames, List.length_map, Columns.size]
  rw [MappedType.upsertReturning, ← size, ← autos]
  split <;> rfl

theorem statement_upsert (table : String) (os : List Outline) (autos : Columns) :
    (if autos.isEmpty then Naming.upsert else .upsertWith autos.bareNames).statement table os =
      Outline.upsert table os autos.bareNames := by
  split
  · rename_i none
    rw [Columns.bareNames, List.isEmpty_iff.mp none]
    rfl
  · rfl

/-- The statement of an operation with a usual label depends on the table, on the outline of the columns, and on
how the operation is named. -/
theorem statement_of_draft? (drafted : o.draft? t = .ok (some d)) (named : o.naming? t = some n) :
    d.statement = n.statement t.table t.outline := by
  -- Every list of names in a statement is a choice of outlines by their flags.
  have keys : (t.columns.view .primaryKeys).bareNames = names (·.primaryKey) t.outline :=
    bareNames_view t .primaryKeys fun _ => rfl
  have autos := names_autos t
  have inserted : (t.columns.view .inserted).bareNames =
      names (fun o => !o.readOnly && !o.auto) t.outline := bareNames_view t .inserted fun _ => rfl
  have updated : (t.columns.view .updated).bareNames =
      names (fun o => !o.readOnly && !o.primaryKey) t.outline := bareNames_view t .updated fun _ => rfl
  have selected : t.selected.bareNames = names (!·.readOnly) t.outline :=
    bareNames_view t .notReadOnly fun _ => rfl
  cases o with
  | get ids r =>
    have readable : (t.selected.view .primaryKeys).bareNames =
        names (fun o => !o.readOnly && o.primaryKey) t.outline :=
      bareNames_eq_names (Columns.items_filter_filter t.nodup_columns _ _) fun _ _ => rfl
    obtain ⟨-, -, text, -⟩ := getDraft_ok (some_of_map drafted)
    rw [text, selected, readable, ← Option.some.inj named]
    rfl
  | getAll rs =>
    rw [(getAllDraft_ok (some_of_map drafted)).2.1, selected, ← Option.some.inj named]
    rfl
  | insert kind r =>
    obtain ⟨_, -, -, text, -⟩ := insert_ok drafted
    rw [text]
    cases kind with
    | create =>
      obtain rfl := Option.some.inj named
      simp only [MappedType.insertion, inserted, autos, Naming.statement]
    | createIfNew =>
      obtain rfl := Option.some.inj named
      simp only [MappedType.insertion, inserted, autos, keys, Naming.statement]
    | upsert =>
      obtain rfl := Option.some.inj named
      rw [statement_upsert]
      simp only [MappedType.insertion, names_upsertColumns, names_upsertSet, names_upsertReturning, keys,
        Outline.upsert]
  | insertMany kind rs => cases named
  | update r =>
    obtain ⟨_, _, -, -, -, text, -⟩ := updateDraft_ok (some_of_map drafted)
    rw [text, updated, keys, ← Option.some.inj named]
    rfl
  | delete r =>
    obtain ⟨_, -, -, text, -⟩ := deleteDraft_ok (some_of_map drafted)
    rw [text, keys, ← Option.some.inj named]
    rfl
  | contains r =>
    obtain ⟨_, -, -, text, -⟩ := existsDraft_ok (some_of_map drafted)
    rw [text, keys, ← Option.some.inj named]
    rfl
  | truncate =>
    have text : t.truncateDraft = d := Option.some.inj (Except.ok.inj drafted)
    rw [← text, ← Option.some.inj named]
    rfl

def cuts (x : Char) : List Char → List (List Char × List Char)
  | [] => []
  | c :: rest => (if c = x then [([], rest)] else []) ++ (cuts x rest).map fun p => (c :: p.1, p.2)

theorem mem_cuts {x : Char} {a b : List Char} : (a, b) ∈ cuts x (a ++ x :: b) := by
  induction a with
  | nil => simp [cuts]
  | cons c rest ih =>
    refine List.mem_append_right _ (List.mem_map.mpr ⟨_, ih, rfl⟩)

namespace Naming

def fixed : List Naming :=
  [.get, .getAll, .create, .createIfNew, .upsert, .update, .exists, .delete, .truncate]

theorem mem_fixed (n : Naming) : n ∈ fixed ∨ ∃ autos, n = .upsertWith autos := by
  cases n with
  | upsertWith autos => exact .inr ⟨autos, rfl⟩
  | _ => exact .inl (by decide)

theorem toList_upsertWith (autos : List String) :
    (upsertWith autos).text.toList =
      "upsert_with".toList ++ '_' :: ("_".intercalate autos).toList := by
  have marked : "upsert_with_".toList = "upsert_with".toList ++ ['_'] := by decide
  rw [text, String.toList_append, marked, List.append_assoc, List.singleton_append]

def beginsLikeName (s : List Char) : Bool := s.head?.any ['c', 'd', 'e', 'g', 't', 'u'].contains

theorem beginsLikeName_text (n : Naming) : beginsLikeName n.text.toList = true := by
  rcases mem_fixed n with there | ⟨autos, rfl⟩
  · have each : ∀ n ∈ fixed, beginsLikeName n.text.toList = true := by decide
    exact each n there
  · rw [toList_upsertWith]
    rfl

/-- The only fixed name that ends in another name. -/
theorem cuts_fixed : ∀ n ∈ fixed, ∀ p ∈ cuts '_' n.text.toList,
    (n = .createIfNew ∧ p = ("create_if_not".toList, "exists".toList)) ∨ beginsLikeName p.2 = false := by
  decide

theorem alike_of_text (same : n₁.text = n₂.text) : Alike n₁ n₂ := by
  have apart : ∀ n ∈ fixed, (n.text.toList.take 12) ≠ "upsert_with_".toList := by decide
  have joined (autos : List String) : (upsertWith autos).text.toList.take 12 = "upsert_with_".toList := by
    rw [toList_upsertWith]
    rfl
  rcases mem_fixed n₁ with fixed₁ | ⟨as, rfl⟩ <;> rcases mem_fixed n₂ with fixed₂ | ⟨bs, rfl⟩
  · have injective : ∀ n ∈ fixed, ∀ m ∈ fixed, n.text = m.text → n = m := by decide
    exact injective n₁ fixed₁ n₂ fixed₂ same ▸ .same n₁
  · exact absurd (same ▸ joined bs) (apart n₁ fixed₁)
  · exact absurd (same ▸ joined as) (apart n₂ fixed₂)
  · refine .joined (String.toList_inj.mp ?_)
    have texts := congrArg String.toList same
    rw [toList_upsertWith, toList_upsertWith] at texts
    exact (List.cons.inj (List.append_cancel_left texts)).2

/-- A name that ends in another name, with an underscore before it. -/
theorem text_cut {a : List Char} (ends : n₁.text.toList = a ++ '_' :: n₂.text.toList) :
    (n₁ = .createIfNew ∧ n₂ = .exists ∧ a = "create_if_not".toList) ∨
      ∃ autos more, n₁ = .upsertWith autos ∧ a = "upsert_with".toList ++ more := by
  have begins := beginsLikeName_text n₂
  rcases mem_fixed n₁ with fixed | ⟨autos, rfl⟩
  · have cut : (a, n₂.text.toList) ∈ cuts '_' n₁.text.toList := ends ▸ mem_cuts
    rcases cuts_fixed n₁ fixed _ cut with ⟨new, parts⟩ | other
    · obtain ⟨rfl, text⟩ := Prod.mk.inj parts
      have alike : Alike n₂ .exists := alike_of_text (String.toList_inj.mp text)
      cases alike
      exact .inl ⟨new, rfl, rfl⟩
    · exact absurd (begins.symm.trans other) (by decide)
  · rw [toList_upsertWith, append_cons_eq_append_cons_iff] at ends
    rcases ends with ⟨rfl, -⟩ | ⟨m, ⟨rfl, -⟩ | ⟨inside, text⟩⟩
    · exact .inr ⟨autos, [], rfl, (List.append_nil _).symm⟩
    · exact .inr ⟨autos, '_' :: m, rfl, rfl⟩
    · have cut : (a, m) ∈ cuts '_' "upsert_with".toList := inside ▸ mem_cuts
      have only : cuts '_' "upsert_with".toList = [("upsert".toList, "with".toList)] := by decide
      rw [only, List.mem_singleton] at cut
      obtain ⟨rfl, rfl⟩ := Prod.mk.inj cut
      rw [text] at begins
      cases begins

theorem Overlap.ne {short long : String} (h : Overlap short long n₁ n₂) : short ≠ long := by
  rintro rfl
  have longer (more : String) (nonempty : 0 < more.length) : short ≠ short ++ more := by
    intro same
    have := congrArg String.length same
    rw [String.length_append] at this
    omega
  cases h with
  | existing same => exact longer _ (by decide) same
  | joined more same =>
    rw [String.append_assoc] at same
    refine longer _ ?_ same
    have : "_upsert_with".length = 12 := by decide
    rw [String.length_append]
    omega

end Naming

open Naming

theorem toList_labelOf (t : MappedType) (n : Naming) :
    (t.labelOf n.text).toList = t.table.toList ++ '_' :: n.text.toList := by
  simp [MappedType.labelOf]

/-- Equal labels name the same table and alike operations, unless one table is named for an operation on the
other. -/
theorem alike_or_overlap {t₁ t₂ : MappedType} (same : t₁.labelOf n₁.text = t₂.labelOf n₂.text) :
    (t₁.table = t₂.table ∧ Alike n₁ n₂) ∨
      Overlap t₁.table t₂.table n₁ n₂ ∨ Overlap t₂.table t₁.table n₂ n₁ := by
  have inside {short long : String} {m m' : Naming} {k : List Char}
      (table : long.toList = short.toList ++ '_' :: k) (text : m.text.toList = k ++ '_' :: m'.text.toList) :
      Overlap short long m m' := by
    rcases text_cut text with ⟨rfl, rfl, rfl⟩ | ⟨autos, more, rfl, rfl⟩
    · exact .existing (String.toList_inj.mp (by rw [table, String.toList_append]; rfl))
    · refine .joined (.ofList more) (String.toList_inj.mp ?_)
      simp [table]
  have texts := congrArg String.toList same
  rw [toList_labelOf, toList_labelOf, append_cons_eq_append_cons_iff] at texts
  rcases texts with ⟨table, text⟩ | ⟨k, ⟨table, text⟩ | ⟨table, text⟩⟩
  · exact .inl ⟨String.toList_inj.mp table, alike_of_text (String.toList_inj.mp text)⟩
  · exact .inr (.inl (inside table text))
  · exact .inr (.inr (inside table text))

theorem naming_upsertWith {autos : List String} (named : o.naming? t = some (.upsertWith autos)) :
    autos ≠ [] ∧ autos.Sublist (names (·.auto) t.outline) := by
  cases o with
  | insert kind r =>
    cases kind with
    | upsert =>
      have named := Option.some.inj named
      split at named
      · cases named
      · rename_i some
        obtain rfl := Naming.upsertWith.inj named
        refine ⟨fun none => some (List.isEmpty_iff.mpr (List.map_eq_nil_iff.mp none)), ?_⟩
        have kept : (t.presentAutos r).items = _ :=
          Columns.items_filter (Columns.nodup_filter _ _) fun c => !t.isZero r c.path
        rw [← names_autos, bareNames_of_items kept]
        exact List.filter_sublist.map _
    | _ => cases named
  | _ => cases named

theorem legible_of_plain {os : List Outline} (plain : ∀ name ∈ names (·.auto) os, '_' ∉ name.toList) :
    Legible os := by
  have read {as : List String} (some : as.Sublist (names (·.auto) os)) (nonempty : as ≠ []) :
      ("_".intercalate as).toList.splitOn '_' = as.map String.toList := by
    rw [String.toList_intercalate]
    refine List.splitOn_intercalate '_' ?_ (by simpa using nonempty)
    intro part there
    obtain ⟨name, chosen, rfl⟩ := List.mem_map.mp there
    exact plain name (some.subset chosen)
  intro as bs ha hb na nb joined
  have parts := read ha na
  rw [joined, read hb nb] at parts
  exact (List.map_injective_iff.mpr fun _ _ => String.toList_inj.mp).eq_iff.mp parts.symm

theorem naming_eq_of_alike {t' : MappedType} {o' : Operation} (alike : Alike n₁ n₂)
    (named : o.naming? t = some n₁) (named' : o'.naming? t' = some n₂) (columns : t.outline = t'.outline)
    (legible : Legible t.outline) : n₁ = n₂ := by
  cases alike with
  | same => rfl
  | joined same =>
    obtain ⟨some, choice⟩ := naming_upsertWith named
    obtain ⟨some', choice'⟩ := naming_upsertWith named'
    rw [legible _ _ choice (columns ▸ choice') some some' same]

structure Lookup where
  link : Nat
  sql : String
  answer : Except ClientFault Prepared

namespace StatementCache

def lookUp (c : StatementCache) (label : String) (u : Lookup) : StatementCache :=
  match c.seek u.link label u.sql with
  | (.error _, c) => c
  | (.ok sought, c) =>
    match sought.plan with
    | some _ => c
    | none => c.settle u.link label sought u.answer

def lookUps (c : StatementCache) (label : String) (us : List Lookup) : StatementCache :=
  us.foldl (·.lookUp label ·) c

/-- No label has got another text, and no plan is dropped. -/
structure Steady (c c' : StatementCache) : Prop where
  labels : ∀ name, c'.labels.value? name = c.labels.value? name
  plans : ∀ p ∈ c.plans, p ∈ c'.plans

variable {c : StatementCache} {label sql : String}

theorem steady_lookUp {u : Lookup} (named : label ≠ "") (bound : c.labels.value? label = some u.sql) :
    c.Steady (c.lookUp label u) := by
  have labels (name : String) :
      ({ c.labels with entries := c.labels.rebound label u.sql } : Labels String).value? name =
        c.labels.value? name := by
    rw [Labels.value?_rebound]
    split
    · rename_i same
      rw [same, bound]
    · rfl
  simp only [lookUp, seek_of_named named, bind_of_bound bound]
  split
  · exact ⟨labels, fun _ there => there⟩
  · cases u.answer with
    | ok p => exact ⟨labels, fun _ there => List.mem_append_left _ there⟩
    | error fault => exact ⟨labels, fun _ there => there⟩

theorem steady_lookUps {us : List Lookup} (named : label ≠ "") (bound : c.labels.value? label = some sql)
    (same : ∀ u ∈ us, u.sql = sql) : c.Steady (c.lookUps label us) := by
  induction us generalizing c with
  | nil => exact ⟨fun _ => rfl, fun _ there => there⟩
  | cons u rest ih =>
    obtain ⟨first, later⟩ := List.forall_mem_cons.mp same
    have step := steady_lookUp named (first.symm ▸ bound)
    have run := ih ((step.labels label).trans bound) later
    exact ⟨fun name => (run.labels name).trans (step.labels name),
      fun p there => run.plans p (step.plans p there)⟩

end StatementCache

/-- Statements with the same usual label. Each goes by the table, the named operation and the columns that its type
maps. On one table they are for operations of one kind, and where the types map the same columns and no choices of
generated columns are joined to the same name, the texts are the same, so that the label keeps its text and all
plans stay. A label of two tables needs a table that is named for an operation on the other. -/
theorem label_determines_text {t₁ t₂ : MappedType} {o₁ o₂ : Operation} {d₁ d₂ : Draft} {label : String}
    (drafted₁ : o₁.draft? t₁ = .ok (some d₁)) (drafted₂ : o₂.draft? t₂ = .ok (some d₂))
    (labeled₁ : d₁.label = some label) (labeled₂ : d₂.label = some label) :
    ∃ n₁ n₂, o₁.naming? t₁ = some n₁ ∧ o₂.naming? t₂ = some n₂ ∧
      d₁.statement = n₁.statement t₁.table t₁.outline ∧ d₂.statement = n₂.statement t₂.table t₂.outline ∧
      (t₁.table = t₂.table → Alike n₁ n₂) ∧
      (t₁.table = t₂.table → t₁.outline = t₂.outline → n₁ = n₂ ∨ Legible t₁.outline →
        d₁.statement.render = d₂.statement.render ∧
        ∀ c : StatementCache, c.labels.value? label = some d₁.statement.render → ∀ us : List Lookup,
          (∀ u ∈ us, u.sql = d₁.statement.render ∨ u.sql = d₂.statement.render) →
            c.Steady (c.lookUps label us)) ∧
      (t₁.table ≠ t₂.table →
        Overlap t₁.table t₂.table n₁ n₂ ∨ Overlap t₂.table t₁.table n₂ n₁) := by
  have known {t : MappedType} {o : Operation} {d : Draft} (drafted : o.draft? t = .ok (some d))
      (labeled : d.label = some label) : ∃ n, o.naming? t = some n ∧ t.labelOf n.text = label :=
    Option.map_eq_some_iff.mp ((MappedType.label_eq_of_draft? drafted).symm.trans labeled)
  obtain ⟨n₁, named₁, text₁⟩ := known drafted₁ labeled₁
  obtain ⟨n₂, named₂, text₂⟩ := known drafted₂ labeled₂
  have told := alike_or_overlap (text₁.trans text₂.symm)
  have alike (table : t₁.table = t₂.table) : Alike n₁ n₂ := by
    rcases told with ⟨-, alike⟩ | overlap | overlap
    · exact alike
    · exact absurd table overlap.ne
    · exact absurd table.symm overlap.ne
  have statement₁ := statement_of_draft? drafted₁ named₁
  have statement₂ := statement_of_draft? drafted₂ named₂
  refine ⟨n₁, n₂, named₁, named₂, statement₁, statement₂, alike, fun table columns clear => ?_, fun apart => ?_⟩
  · have one : n₁ = n₂ := clear.elim id (naming_eq_of_alike (alike table) named₁ named₂ columns)
    have texts : d₁.statement.render = d₂.statement.render := by
      rw [statement₁, statement₂, one, table, columns]
    refine ⟨texts, fun c bound us asked => ?_⟩
    have named : label ≠ "" := fun empty =>
      MappedType.label_of_draft? drafted₁ (empty ▸ labeled₁)
    refine StatementCache.steady_lookUps named bound fun u there => ?_
    exact (asked u there).elim id fun other => other.trans texts.symm
  · exact told.elim (fun same => absurd same.1 apart) id

def ticket : MappedType where
  typeName := "desk::Ticket"
  table := "tickets"
  cacheKey := none
  fields := [.mk 0 "id" "id,pk,serial" "i64" (.plain (.plain .int64)) none,
    .mk 1 "seq" "seq,auto" "i64" (.plain (.plain .int64)) none,
    .mk 2 "note" "note" "String" (.plain (.plain .text)) none]
  ownPopulation := none

def noted : Record := [.plain (.int64 1), .plain (.int64 2), .plain (.text "a")]

def ticketRow : MappedType where
  typeName := "desk::TicketRow"
  table := "tickets"
  cacheKey := some "row"
  fields := [.mk 0 "number" "id,pk,auto" "i64" (.plain (.plain .int64)) none,
    .mk 1 "order" "seq,serial" "i64" (.plain (.plain .int64)) none,
    .mk 2 "text" "note,nullable" "Option<String>" (.plain ⟨.text, true⟩) none]
  ownPopulation := none

def prepared (sql : String) : Lookup := ⟨1, sql, .ok ⟨sql, [], []⟩⟩

theorem label_determines_text_tickets :
    ∃ d₁ d₂ : Draft,
      (Operation.insert .upsert noted).draft? ticket = .ok (some d₁) ∧
      (Operation.insert .upsert [.plain (.int64 7), .plain (.int64 5), .plain .null]).draft? ticketRow =
        .ok (some d₂) ∧
      d₁.values ≠ d₂.values ∧
      d₁.label = some "tickets_upsert_with_id_seq" ∧ d₂.label = some "tickets_upsert_with_id_seq" ∧
      d₁.statement.render = d₂.statement.render ∧
      let c := (StatementCache.empty none).lookUp "tickets_upsert_with_id_seq" (prepared d₁.statement.render)
      c.labels.value? "tickets_upsert_with_id_seq" = some d₁.statement.render ∧
        c.Steady (c.lookUps "tickets_upsert_with_id_seq"
          [prepared d₂.statement.render, prepared d₁.statement.render]) := by
  have one : (Operation.insert .upsert noted).draft? ticket =
      .ok (some ⟨.insert "tickets" ["id", "seq", "note"] 1 (.doUpdate ["id"] ["note"]) [],
        [⟨.plain .int64, .int64 1⟩, ⟨.plain .int64, .int64 2⟩, ⟨.plain .text, .text "a"⟩],
        some "tickets_upsert_with_id_seq"⟩) := by decide +kernel
  have other : (Operation.insert .upsert [.plain (.int64 7), .plain (.int64 5), .plain .null]).draft? ticketRow =
      .ok (some ⟨.insert "tickets" ["id", "seq", "note"] 1 (.doUpdate ["id"] ["note"]) [],
        [⟨.plain .int64, .int64 7⟩, ⟨.plain .int64, .int64 5⟩, ⟨⟨.text, true⟩, .null⟩],
        some "tickets_upsert_with_id_seq"⟩) := by decide +kernel
  obtain ⟨_, _, -, -, -, -, -, same, -⟩ := label_determines_text one other rfl rfl
  have legible : Legible ticket.outline := legible_of_plain (by decide +kernel)
  obtain ⟨texts, steady⟩ := same rfl (by decide +kernel) (.inr legible)
  refine ⟨_, _, one, other, by decide, rfl, rfl, texts, by decide +kernel, ?_⟩
  exact steady _ (by decide +kernel) _ (by simp [prepared])

def Clash (t₁ : MappedType) (o₁ : Operation) (t₂ : MappedType) (o₂ : Operation) : Prop :=
  ∃ d₁ d₂ label, o₁.draft? t₁ = .ok (some d₁) ∧ o₂.draft? t₂ = .ok (some d₂) ∧
    d₁.label = some label ∧ d₂.label = some label ∧ d₁.statement.render ≠ d₂.statement.render

/-- Generated columns whose names can be joined to one name in two ways. -/
def counters : MappedType where
  typeName := "Counters"
  table := "counters"
  cacheKey := none
  fields := [.mk 0 "id" "id,pk" "i64" (.plain (.plain .int64)) none,
    .mk 1 "a" "a,auto" "i64" (.plain (.plain .int64)) none,
    .mk 2 "b" "b,auto" "i64" (.plain (.plain .int64)) none,
    .mk 3 "a_b" "a_b,auto" "i64" (.plain (.plain .int64)) none]
  ownPopulation := none

def counted (a b ab : Int64) : Record :=
  [.plain (.int64 1), .plain (.int64 a), .plain (.int64 b), .plain (.int64 ab)]

/-- A label tells the text neither for two types of one table, nor for two choices of generated columns, nor for
two tables. Where it does not, the plan of one text is dropped when the other is looked up. -/
theorem labels_clash :
    Clash Catalog.order (.getAll []) Catalog.orderSummary (.getAll []) ∧
      ((StatementCache.empty none).lookUps "orders_get_all" [prepared "SELECT id,total FROM orders",
        prepared "SELECT id FROM orders"]).plan? 1 "SELECT id,total FROM orders" = none ∧
      Clash counters (.insert .upsert (counted 1 1 0)) counters (.insert .upsert (counted 0 0 1)) ∧
      Clash ticket (.insert .createIfNew noted)
        { ticket with table := "tickets_create_if_not" } (.contains noted) := by
  refine ⟨?_, by decide +kernel, ?_, ?_⟩
  · exact ⟨⟨.selectAll "orders" ["id", "total"], [], _⟩, ⟨.selectAll "orders" ["id"], [], _⟩,
      "orders_get_all", by decide +kernel, by decide +kernel, rfl, rfl, by decide +kernel⟩
  · exact ⟨⟨.insert "counters" ["id", "a", "b"] 1 (.doUpdate ["id"] []) [],
        List.replicate 3 ⟨.plain .int64, .int64 1⟩, _⟩,
      ⟨.insert "counters" ["id", "a_b"] 1 (.doUpdate ["id"] []) [],
        List.replicate 2 ⟨.plain .int64, .int64 1⟩, _⟩,
      "counters_upsert_with_a_b", by decide +kernel, by decide +kernel, rfl, rfl, by decide +kernel⟩
  · exact ⟨⟨.insert "tickets" ["note"] 1 (.doNothing ["id"]) ["id", "seq"], [⟨.plain .text, .text "a"⟩], _⟩,
      ⟨.exists "tickets_create_if_not" ["id"], [⟨.plain .int64, .int64 1⟩], _⟩,
      "tickets_create_if_not_exists", by decide +kernel, by decide +kernel, rfl, rfl, by decide +kernel⟩

end RowMapper
