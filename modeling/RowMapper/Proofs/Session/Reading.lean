import RowMapper.Proofs.Session.Settled

/-!
Reading the rows of a cursor. What a reader makes of them does not depend on when they come; a limit can
only end the reading.
-/
namespace RowMapper

def Reading.gist {σ : Type} (r : Reading σ) : σ × Nat × Except Halt Unit := (r.state, r.seen, r.result)

def Feed.whole (f : Feed) : Stream :=
  ⟨f.rows, f.endAt, (callerResult f.result).map fun _ => ()⟩

variable {σ : Type} {l l' : Limits}

theorem Stream.readFrom_push (s : Stream) (row : Instant × Row) (reader : Reader σ) (seen : Nat)
    (rows : List (Instant × Row)) (state : σ) :
    (s.push row).readFrom reader seen rows state = s.readFrom reader seen rows state := by
  induction rows generalizing seen state with
  | nil => rfl
  | cons first rest ih =>
    obtain ⟨t, r⟩ := first
    simp only [readFrom]
    split
    · rfl
    · rfl
    · exact ih _ _

/-- A reader does not see when the rows come. -/
theorem Stream.gist_readFrom {s s' : Stream} (result : s.result = s'.result) (reader : Reader σ)
    (seen : Nat) {rows rows' : List (Instant × Row)} (same : rows.map (·.2) = rows'.map (·.2))
    (state : σ) :
    (s.readFrom reader seen rows state).gist = (s'.readFrom reader seen rows' state).gist := by
  induction rows generalizing seen state rows' with
  | nil =>
    obtain rfl : rows' = [] := List.map_eq_nil_iff.mp same.symm
    simp only [readFrom, Reading.gist, result]
  | cons first rest ih =>
    cases rows' with
    | nil => simp at same
    | cons first' rest' =>
      obtain ⟨t, r⟩ := first
      obtain ⟨t', r'⟩ := first'
      obtain ⟨rfl, others⟩ := List.cons.inj same
      simp only [readFrom]
      split
      · rfl
      · rfl
      · exact ih _ others _

theorem Feed.awaitParcel_limit (f : Feed) (patient : l.patience = none) {waits number : Nat}
    {now t u : Instant} {h : Halt} (e : f.awaitParcel l waits number now t = (u, .error h)) :
    h.isLimit = true := by
  simp only [awaitParcel] at e
  split at e
  · rename_i halt reached
    split at e
    · simp at e
    · simp only [Prod.mk.injEq, Except.error.injEq] at e
      exact e.2 ▸ Limits.isLimit_of_reached? patient reached
  · rcases Limits.await_some patient now t with ⟨v, halt, e', limit⟩ | ⟨v, e', -⟩
    · rw [e'] at e
      simp only [Prod.mk.injEq, Except.error.injEq] at e
      exact e.2 ▸ limit
    · rw [e'] at e
      simp at e

/-- A limit ends the reading, or it is as without limits. -/
theorem Feed.read_rowsUnder (f : Feed) (patient : l.patience = none) (waits number : Nat)
    (now : Instant) (rows : List (Instant × Row)) (reader : Reader σ) (seen : Nat) (state : σ) :
    (∃ h, ((f.rowsUnder l waits number now rows).readFrom reader seen
        (f.rowsUnder l waits number now rows).rows state).result = .error h ∧ h.isLimit = true) ∨
      ((f.rowsUnder l waits number now rows).readFrom reader seen
        (f.rowsUnder l waits number now rows).rows state).gist =
          (f.whole.readFrom reader seen rows state).gist := by
  induction rows generalizing number now seen state with
  | nil =>
    simp only [rowsUnder, endUnder]
    split
    · exact .inr rfl
    · rename_i t h e
      exact .inl ⟨h, rfl, f.awaitParcel_limit patient e⟩
  | cons first rest ih =>
    obtain ⟨t, row⟩ := first
    simp only [rowsUnder]
    split
    · rename_i u e
      have rows : ((f.rowsUnder l waits (number + 1) u rest).push (u, row)).rows =
          (u, row) :: (f.rowsUnder l waits (number + 1) u rest).rows := rfl
      simp only [Stream.readFrom_push, rows, Stream.readFrom]
      split
      · exact .inr rfl
      · exact .inr rfl
      · exact ih _ _ _ _
    · rename_i u h e
      exact .inl ⟨h, rfl, f.awaitParcel_limit patient e⟩

theorem rows_timeless {f g : Feed} (same : f.timeless = g.timeless) :
    f.rows.map (·.2) = g.rows.map (·.2) := by
  have rows : f.rows.map (fun r => (0, r.2)) = g.rows.map (fun r => (0, r.2)) :=
    congrArg Feed.rows same
  have seconds := congrArg (List.map Prod.snd) rows
  simpa only [List.map_map, Function.comp_def] using seconds

def Feed.readWhole (f : Feed) (reader : Reader σ) (state : σ) : σ × Nat × Except Halt Unit :=
  (f.whole.read reader state).gist

theorem Feed.readWhole_timeless {f g : Feed} (same : f.timeless = g.timeless) (reader : Reader σ)
    (state : σ) : f.readWhole reader state = g.readWhole reader state := by
  have result : f.timeless.result = g.timeless.result := congrArg Feed.result same
  have ends : f.whole.result = g.whole.result := congrArg (fun r => (callerResult r).map fun _ => ()) result
  exact Stream.gist_readFrom ends reader 0 (rows_timeless same) state

theorem Feed.under_cases (f : Feed) (patient : l.patience = none) (now : Instant) (waits : Nat)
    (reader : Reader σ) (state : σ) :
    (∃ h, ((f.under l now waits).read reader state).result = .error h ∧ h.isLimit = true) ∨
      ((f.under l now waits).read reader state).gist = f.readWhole reader state :=
  f.read_rowsUnder patient waits 0 now f.rows reader 0 state

theorem Session.reading_cases (s : Session) {c : Cursor}
    (patient : c.begun.run.limits.patience = .none) (reader : Reader σ) (state : σ) :
    (∃ h, (s.reading c reader state).result = .error h ∧ h.isLimit = true) ∨
      (s.reading c reader state).gist = c.feed.readWhole reader state := by
  simp only [reading]
  split
  · exact .inl ⟨_, rfl, rfl⟩
  · exact c.feed.under_cases patient s.now s.waits reader state

end RowMapper
