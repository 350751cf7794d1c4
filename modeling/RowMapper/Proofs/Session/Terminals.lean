import RowMapper.Proofs.Session.Reading
import RowMapper.Session.Records

/-!
The ways to finish with a cursor, as folds over the rows that come in. A fold sees the rows in their order
and how they end: normally, with an error, or by a limit. The main statement says of every terminal what is
left of its state, how many rows it has read, and how it ended.
-/
namespace RowMapper

variable {σ : Type}

/-- What is done with a row of a given number; when it breaks off, the state is kept as it is then. -/
abbrev RowAct (σ : Type) := Nat → Row → σ → σ × Except Breakdown Unit

/-- A row is taken. It counts as read whatever becomes of it. -/
def RowAct.take (act : RowAct σ) (row : Row) : ExceptT Breakdown (StateM (σ × Nat)) Unit :=
  fun (state, seen) => ((act seen row state).2, ((act seen row state).1, seen + 1))

def endedBy (result : Except Halt Unit) : Except Breakdown Unit → Except Halt Unit
  | .ok () => result
  | .error b => .error (.error b.toError)

def toCaller (x : σ × Nat × Except Halt Unit) : σ × Except Halt Nat := (x.1, x.2.2.map fun _ => x.2.1)

namespace Stream

def contents (s : Stream) : List Row := s.rows.map (·.2)

def first (s : Stream) (act : RowAct σ) (state : σ) : σ × Nat × Except Halt Unit :=
  match s.contents with
  | [] => (state, 0, s.result)
  | row :: _ => ((act 0 row state).1, 1, endedBy (.ok ()) (act 0 row state).2)

/-- The first row is taken; a second one is looked at, and that is too many. -/
def single (s : Stream) (tooMany : String) (act : Row → σ → σ × Except Breakdown Unit) (state : σ) :
    σ × Nat × Except Halt Unit :=
  match s.contents with
  | [] => (state, 0, s.result)
  | row :: more =>
    match act row state, more with
    | (state, .error b), _ => (state, 1, .error (.error b.toError))
    | (state, .ok ()), [] => (state, 1, s.result)
    | (state, .ok ()), _ :: _ => (state, 2, .error (.error (.tooManyRows tooMany)))

def each (s : Stream) (act : RowAct σ) (state : σ) : σ × Nat × Except Halt Unit :=
  let (result, (state, seen)) := (s.contents.forM act.take).run (state, 0)
  (state, seen, endedBy s.result result)

def filled (s : Stream) (fresh : Record) (fill : Reader.Fill) (old : List Record) :
    List Record × Nat × Except Halt Unit :=
  let made := s.contents.map fun row => fill row fresh
  let whole := made.takeWhile (·.2.isOk)
  match made[whole.length]? with
  | some broken => (old ++ whole.map (·.1), whole.length + 1, endedBy s.result broken.2)
  | none => (old ++ whole.map (·.1), whole.length, s.result)

variable (s : Stream)

theorem gist_onlyFirst (act : RowAct σ) (state : σ) :
    (s.read (Reader.onlyFirst act) state).gist = s.first act state := by
  obtain ⟨rows, endAt, result⟩ := s
  cases rows with
  | nil => rfl
  | cons row more =>
    obtain ⟨t, row⟩ := row
    simp only [read, readFrom, Reader.onlyFirst, first, contents, List.map_cons]
    obtain ⟨state', _ | _⟩ := act 0 row state <;> rfl

theorem gist_single (tooMany : String) (act : Row → σ → σ × Except Breakdown Unit) (state : σ) :
    (s.read (Reader.single tooMany act) state).gist = s.single tooMany act state := by
  obtain ⟨rows, endAt, result⟩ := s
  cases rows with
  | nil => rfl
  | cons row more =>
    obtain ⟨t, row⟩ := row
    simp only [read, readFrom, Reader.single, single, contents, List.map_cons, if_pos]
    obtain ⟨state', _ | _⟩ := act row state
    · rfl
    · cases more <;> rfl

theorem take_bind (act : RowAct σ) (row : Row) (next : ExceptT Breakdown (StateM (σ × Nat)) Unit)
    (state : σ) (seen : Nat) :
    (act.take row >>= fun _ => next).run (state, seen) =
      match act seen row state with
      | (state, .ok ()) => next.run (state, seen + 1)
      | (state, .error b) => (.error b, (state, seen + 1)) := by
  change ExceptT.bindCont (fun _ => next) (act seen row state).2 ((act seen row state).1, seen + 1) = _
  obtain ⟨state', _ | _⟩ := act seen row state <;> rfl

theorem gist_everyFrom (act : RowAct σ) (seen : Nat) (rows : List (Instant × Row)) (state : σ) :
    (s.readFrom (Reader.every act) seen rows state).gist =
      let (result, (state, seen)) := ((rows.map (·.2)).forM act.take).run (state, seen)
      (state, seen, endedBy s.result result) := by
  induction rows generalizing seen state with
  | nil => rfl
  | cons row rest ih =>
    obtain ⟨t, row⟩ := row
    have taken : (((t, row) :: rest).map (·.2)).forM act.take =
        act.take row >>= fun _ => (rest.map (·.2)).forM act.take := rfl
    simp only [readFrom, Reader.every]
    rw [taken, take_bind]
    obtain ⟨state', _ | _⟩ := act seen row state
    · rfl
    · exact ih (seen + 1) state'

theorem gist_every (act : RowAct σ) (state : σ) :
    (s.read (Reader.every act) state).gist = s.each act state :=
  s.gist_everyFrom act 0 s.rows state

theorem outMany_eq (fresh : Record) (fill : Reader.Fill) (seen : Nat) (row : Row) (old : List Record) :
    Reader.outMany fresh fill seen row old =
      match fill row fresh with
      | (r, .ok ()) => (old ++ [r], .ok .more)
      | (_, .error b) => (old, .error b.toError) := by
  simp only [Reader.outMany, Reader.every]
  obtain ⟨r, _ | _⟩ := fill row fresh <;> rfl

theorem gist_outManyFrom (fresh : Record) (fill : Reader.Fill) (seen : Nat)
    (rows : List (Instant × Row)) (old : List Record) :
    (s.readFrom (Reader.outMany fresh fill) seen rows old).gist =
      let made := rows.map fun row => fill row.2 fresh
      let whole := made.takeWhile (·.2.isOk)
      match made[whole.length]? with
      | some broken => (old ++ whole.map (·.1), seen + whole.length + 1, endedBy s.result broken.2)
      | none => (old ++ whole.map (·.1), seen + whole.length, s.result) := by
  induction rows generalizing seen old with
  | nil => simp [readFrom, Reading.gist]
  | cons row rest ih =>
    obtain ⟨t, row⟩ := row
    simp only [readFrom, outMany_eq, List.map_cons]
    obtain ⟨r, b | _⟩ := fill row fresh
    · simp [Reading.gist, endedBy, Except.isOk, Except.toBool]
    · have more := ih (seen + 1) (old ++ [r])
      have good : Except.isOk (Except.ok (ε := Breakdown) ()) = true := rfl
      simp only [List.takeWhile_cons, good, if_true, List.length_cons, List.getElem?_cons_succ, List.map_cons]
      rw [more]
      simp only [List.append_assoc, List.singleton_append, Nat.add_assoc, Nat.add_comm 1]

theorem gist_outMany (fresh : Record) (fill : Reader.Fill) (old : List Record) :
    (s.read (Reader.outMany fresh fill) old).gist = s.filled fresh fill old := by
  have all := s.gist_outManyFrom fresh fill 0 s.rows old
  simp only [Nat.zero_add] at all
  simp only [filled, contents, List.map_map, Function.comp_def]
  exact all

theorem gist_collectFrom (seen : Nat) (rows : List (Instant × Row)) (old : List Row) :
    (s.readFrom Reader.collect seen rows old).gist =
      (old ++ rows.map (·.2), seen + rows.length, s.result) := by
  induction rows generalizing seen old with
  | nil => simp [readFrom, Reading.gist]
  | cons row rest ih =>
    have more := ih (seen + 1) (old ++ [row.2])
    simpa [readFrom, Reader.collect, Reader.every, Nat.add_comm 1, Nat.add_assoc] using more

theorem gist_collect (old : List Row) :
    (s.read Reader.collect old).gist = (old ++ s.contents, s.contents.length, s.result) := by
  have all := s.gist_collectFrom 0 s.rows old
  rwa [Nat.zero_add, ← List.length_map (f := (·.2))] at all

/-- A reader that does not stop of itself and does not fail has read every row. -/
theorem seen_of_ok {reader : Reader σ} (goesOn : ∀ seen row state, (reader seen row state).2 ≠ .ok .stop)
    (seen : Nat) (rows : List (Instant × Row)) (state : σ)
    (fine : (s.readFrom reader seen rows state).result = .ok ()) :
    (s.readFrom reader seen rows state).seen = seen + rows.length := by
  induction rows generalizing seen state with
  | nil => rfl
  | cons row rest ih =>
    obtain ⟨t, row⟩ := row
    have next := goesOn seen row state
    simp only [readFrom] at fine ⊢
    rcases e : reader seen row state with ⟨state', e' | _ | _⟩
    · rw [e] at fine
      simp at fine
    · rw [e] at fine
      rw [ih (seen + 1) state' fine, List.length_cons]
      omega
    · exact absurd (congrArg Prod.snd e) next

theorem every_goesOn (act : RowAct σ) (seen : Nat) (row : Row) (state : σ) :
    (Reader.every act seen row state).2 ≠ .ok .stop := by
  simp only [Reader.every]
  obtain ⟨state', _ | _⟩ := act seen row state <;> simp

theorem count_of_ok {reader : Reader σ} (goesOn : ∀ seen row state, (reader seen row state).2 ≠ .ok .stop)
    {state state' : σ} {n : Nat} (fine : (s.read reader state).gist = (state', n, .ok ())) :
    n = s.contents.length := by
  have result : (s.read reader state).result = .ok () := congrArg (·.2.2) fine
  have seen : (s.read reader state).seen = n := congrArg (·.2.1) fine
  rw [← seen, contents, List.length_map]
  exact (s.seen_of_ok goesOn 0 s.rows state result).trans (Nat.zero_add _)

theorem getElem?_takeWhile {α : Type} (p : α → Bool) (l : List α) :
    l[(l.takeWhile p).length]? = (l.dropWhile p).head? := by
  induction l with
  | nil => rfl
  | cons a rest ih => cases e : p a <;> simp [e, ih]

theorem made_of_ok {fresh : Record} {fill : Reader.Fill} {old made : List Record} {n : Nat}
    (fine : s.filled fresh fill old = (made, n, .ok ())) :
    made = old ++ s.contents.map fun row => (fill row fresh).1 := by
  simp only [filled, getElem?_takeWhile] at fine
  generalize rows : s.contents.map (fun row => fill row fresh) = all at fine
  have firsts : (s.contents.map fun row => (fill row fresh).1) = all.map (·.1) := by
    rw [← rows, List.map_map, Function.comp_def]
  have failing := List.head?_dropWhile_not (·.2.isOk) all
  cases broken : (all.dropWhile (·.2.isOk)).head? with
  | some record =>
    rw [broken] at fine failing
    obtain ⟨r, b | _⟩ := record
    · simp [endedBy] at fine
    · simp [Except.isOk, Except.toBool] at failing
  | none =>
    have whole : all.takeWhile (·.2.isOk) = all := by
      have parts := List.takeWhile_append_dropWhile (p := (·.2.isOk)) (l := all)
      rwa [List.head?_eq_none_iff.mp broken, List.append_nil] at parts
    rw [broken, whole, ← firsts] at fine
    exact (congrArg Prod.fst fine).symm

theorem first_seen_le (act : RowAct σ) (state : σ) : (s.first act state).2.1 ≤ 1 := by
  simp only [first]
  split <;> simp

theorem single_seen_le (tooMany : String) (act : Row → σ → σ × Except Breakdown Unit) (state : σ) :
    (s.single tooMany act state).2.1 ≤ 2 := by
  simp only [single]
  split
  · simp
  · split <;> simp

end Stream

namespace Reader

def fillTargets (row : Row) (targets : List Target) : List Target × Except Breakdown Unit :=
  match scanTargets row 0 targets with
  | (targets, .ok ()) => (targets, .ok ())
  | (targets, .error e) => (targets, .error (.error e))

theorem scan_eq : scan = single "scan expected at most one row" fillTargets := rfl

theorem peek_eq : peek = onlyFirst fun _ _ _ => ((), .ok ()) := rfl

end Reader

namespace Session

variable (s : Session) (c : Cursor)

def incoming : Stream :=
  if c.begun.run.limits.isRefused s.now s.waits then ⟨[], s.now, .error (.error .cancelled)⟩
  else c.feed.under c.begun.run.limits s.now s.waits

theorem reading_eq (reader : Reader σ) (state : σ) :
    s.reading c reader state = (s.incoming c).read reader state := by
  simp only [reading, incoming]
  split <;> rfl

theorem consume_fst (reader : Reader σ) (state : σ) :
    (s.consume c reader state).1 = toCaller ((s.incoming c).read reader state).gist := by
  rw [consume_eq, reading_eq]
  rfl

/-- Whether there was a row: the caller of a reading of at most one row asks for no more. -/
def foundOf (x : σ × Nat × Except Halt Unit) : σ × Except Halt Bool :=
  (x.1, x.2.2.map fun _ => decide (0 < x.2.1))

theorem any_fst :
    (s.any c).1 = (match (s.incoming c).contents with
      | [] => (s.incoming c).result.map fun _ => false
      | _ :: _ => .ok true) := by
  have read := s.consume_fst c Reader.peek ()
  rw [Reader.peek_eq, Stream.gist_onlyFirst, ← Reader.peek_eq] at read
  have fold : (s.any c).1 = (s.consume c Reader.peek ()).1.2.map fun n => decide (0 < n) := rfl
  rw [fold, read, Stream.first, toCaller]
  cases (s.incoming c).contents with
  | nil => cases (s.incoming c).result <;> rfl
  | cons row more => rfl

theorem readOut_fst (typeName : String) (fill : Reader.Fill) (r : Record) :
    (s.readOut c typeName fill r).1 = foundOf ((s.incoming c).single
      ("expected at most one row for `" ++ typeName ++ "`") fill r) := by
  have read := s.consume_fst c (Reader.out typeName fill) r
  rw [Reader.out, Stream.gist_single, ← Reader.out] at read
  have fold : (s.readOut c typeName fill r).1 =
      ((s.consume c (Reader.out typeName fill) r).1.1,
        (s.consume c (Reader.out typeName fill) r).1.2.map fun n => decide (0 < n)) := rfl
  rw [fold, read, toCaller, foundOf]
  congr 1
  cases ((s.incoming c).single _ fill r).2.2 <;> rfl

end Session

structure Stream.ReadByFolds (s : Stream) : Prop where
  peek : (s.read Reader.peek ()).gist = s.first (fun _ _ _ => ((), .ok ())) ()
  first : ∀ {σ : Type} (act : RowAct σ) (state : σ),
    (s.read (Reader.onlyFirst act) state).gist = s.first act state
  scan : ∀ targets, (s.read Reader.scan targets).gist =
    s.single "scan expected at most one row" Reader.fillTargets targets
  out : ∀ typeName fill r, (s.read (Reader.out typeName fill) r).gist =
    s.single ("expected at most one row for `" ++ typeName ++ "`") fill r
  each : ∀ {σ : Type} (act : RowAct σ) (state : σ),
    (s.read (Reader.every act) state).gist = s.each act state
  rows : (s.read Reader.collect []).gist = (s.contents, s.contents.length, s.result)
  outMany : ∀ fresh fill old,
    (s.read (Reader.outMany fresh fill) old).gist = s.filled fresh fill old
  /-- No row after the first is taken from the stream. -/
  readsOne : ∀ {σ : Type} (act : RowAct σ) (state : σ), (s.first act state).2.1 ≤ 1
  /-- No row after the second is taken from the stream. -/
  readsTwo : ∀ {σ : Type} (tooMany : String) (act : Row → σ → σ × Except Breakdown Unit) (state : σ),
    (s.single tooMany act state).2.1 ≤ 2
  countsAll : ∀ {σ : Type} (act : RowAct σ) (state state' : σ) (n : Nat),
    s.each act state = (state', n, .ok ()) → n = s.contents.length
  fillsAll : ∀ fresh fill old made n,
    s.filled fresh fill old = (made, n, .ok ()) → n = s.contents.length ∧
      made = old ++ s.contents.map fun row => (fill row fresh).1

theorem Stream.readByFolds (s : Stream) : s.ReadByFolds where
  peek := by rw [Reader.peek_eq, s.gist_onlyFirst]
  first := s.gist_onlyFirst
  scan targets := by rw [Reader.scan_eq, s.gist_single]
  out typeName fill r := by rw [Reader.out, s.gist_single]
  each := s.gist_every
  rows := s.gist_collect []
  outMany := s.gist_outMany
  readsOne := s.first_seen_le
  readsTwo := s.single_seen_le
  countsAll act state state' n fine :=
    s.count_of_ok (every_goesOn act) ((s.gist_every act state).trans fine)
  fillsAll fresh fill old made n fine := by
    have read := (s.gist_outMany fresh fill old).trans fine
    exact ⟨s.count_of_ok (every_goesOn _) read, s.made_of_ok fine⟩

/-- Every terminal answers what its fold makes of the rows that its cursor still has to see, and a consumer
that panics fails with its message. -/
theorem terminals_fold :
    (∀ stream : Stream, stream.ReadByFolds) ∧
    (∀ payload : PanicPayload, (Breakdown.panic payload).toError = .panic payload.reason) ∧
    ∀ (s : Session) (c : Cursor),
      (∀ {σ : Type} (reader : Reader σ) (state : σ),
        (s.consume c reader state).1 = toCaller ((s.incoming c).read reader state).gist) ∧
      (s.any c).1 = (match (s.incoming c).contents with
        | [] => (s.incoming c).result.map fun _ => false
        | _ :: _ => .ok true) ∧
      (s.none c).1 = (s.any c).1.map (!·) ∧
      ∀ typeName fill r, (s.readOut c typeName fill r).1 = Session.foundOf
        ((s.incoming c).single ("expected at most one row for `" ++ typeName ++ "`") fill r) :=
  ⟨Stream.readByFolds, fun _ => rfl, fun s c =>
    ⟨s.consume_fst c, s.any_fst c, rfl, s.readOut_fst c⟩⟩

end RowMapper
