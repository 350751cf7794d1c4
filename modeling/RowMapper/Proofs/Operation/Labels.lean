import RowMapper.Proofs.Operation.ColumnNames
import RowMapper.Proofs.Operation.Drafts
import RowMapper.Proofs.Session.Operations

/-!
The labels under which the statements of the operations run when the caller has no other.
-/
namespace RowMapper

inductive Naming where
  | get
  | getAll
  | create
  | createIfNew
  | upsert
  | upsertWith (autos : List String)
  | update
  | exists
  | delete
  | truncate
  deriving DecidableEq, Repr

def Naming.text : Naming → String
  | .get => "get"
  | .getAll => "get_all"
  | .create => "create"
  | .createIfNew => "create_if_not_exists"
  | .upsert => "upsert"
  | .upsertWith autos => "upsert_with_" ++ "_".intercalate autos
  | .update => "update"
  | .exists => "exists"
  | .delete => "delete"
  | .truncate => "truncate"

/-- How an operation is named in its usual label; batches have none. -/
def Operation.naming? (t : MappedType) : Operation → Option Naming
  | .get _ _ => some .get
  | .getAll _ => some .getAll
  | .insert .create _ => some .create
  | .insert .createIfNew _ => some .createIfNew
  | .insert .upsert r =>
    some (if (t.presentAutos r).isEmpty then .upsert else .upsertWith (t.presentAutos r).bareNames)
  | .insertMany _ _ => none
  | .update _ => some .update
  | .contains _ => some .exists
  | .delete _ => some .delete
  | .truncate => some .truncate

namespace MappedType

variable {t : MappedType}

theorem labelOf_ne_empty (t : MappedType) (operation : String) : t.labelOf operation ≠ "" := by
  simp [labelOf]

theorem names_presentAutos (t : MappedType) (r : Record) :
    (t.presentAutos r).names = (t.presentAutos r).bareNames := by
  have plain : (t.presentAutos r).qualifier = "" := by
    simp only [presentAutos, Columns.notZero, Columns.filter, Columns.view, columns, Columns.ofList,
      Columns.qualifier_addAll]
    rfl
  simp [Columns.names, plain]

theorem label_eq_of_draft? {o : Operation} {d : Draft} (h : o.draft? t = .ok (some d)) :
    d.label = (o.naming? t).map fun n => t.labelOf n.text := by
  cases o with
  | get ids r =>
    obtain ⟨-, -, -, label⟩ := getDraft_ok (some_of_map h)
    exact label
  | getAll rs =>
    obtain ⟨-, -, label⟩ := getAllDraft_ok (some_of_map h)
    exact label
  | insert kind r =>
    obtain ⟨_, -, drafted⟩ := bind_eq_ok.mp (some_of_map h)
    obtain ⟨_, -, -, -, label⟩ := insertDraft_ok drafted
    rw [label]
    cases kind with
    | create | createIfNew => rfl
    | upsert =>
      simp only [insertion, upsertLabel, Operation.naming?, names_presentAutos]
      split <;> rfl
  | insertMany kind rs =>
    obtain ⟨_, -, -, -, label⟩ := batchDraft_ok h
    exact label
  | update r =>
    obtain ⟨_, _, -, -, -, -, label⟩ := updateDraft_ok (some_of_map h)
    exact label
  | delete r =>
    obtain ⟨_, -, -, -, label⟩ := deleteDraft_ok (some_of_map h)
    exact label
  | contains r =>
    obtain ⟨_, -, -, -, label⟩ := existsDraft_ok (some_of_map h)
    exact label
  | truncate =>
    have h : t.truncateDraft = d := Option.some.inj (Except.ok.inj h)
    exact h ▸ rfl

theorem label_of_draft? {o : Operation} {d : Draft} (h : o.draft? t = .ok (some d)) :
    d.label ≠ some "" := by
  rw [label_eq_of_draft? h]
  intro empty
  obtain ⟨n, -, named⟩ := Option.map_eq_some_iff.mp empty
  exact labelOf_ne_empty t n.text named

end MappedType

theorem Call.labeled {c : Call} {usual : Option String} (label : c.label ≠ some "")
    (other : usual ≠ some "") : (c.label <|> usual) ≠ some "" := by
  cases h : c.label with
  | none => exact other
  | some name => exact fun e => label (h.trans e)

end RowMapper
