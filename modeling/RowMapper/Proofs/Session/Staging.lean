import RowMapper.Proofs.Session.Keeping
import RowMapper.Proofs.Session.Reading
import RowMapper.Proofs.Session.Returning

/-!
The stages of a call, one after the other. What comes of the call is decided by the first wait that a limit
ends; where no limit does, it is the same within all limits.
-/
namespace RowMapper

open Limits (throughWaits throughStages)

universe u v
variable {ρ : Type u} {κ : Type v} {halt? : ρ → Option Halt} {among : Limits → Prop} {clock : Clock}
  {F : Limits → ρ × Session} {waits : List (Option Instant)} {stages : List (List (Option Instant))}

/-- It is `x` where the stages are gone through, at the instant of the last result, and is halted otherwise. -/
def Decides (halt? : ρ → Option Halt) (x : ρ × Session) : Except Halt Clock → ρ × Session → Prop
  | .ok next, y => y = x ∧ y.2.now = next.1
  | .error h, y => halt? y.1 = some h

/-- Before the first of some stages. What the stages come to is what they come to without limits. -/
def Staged (halt? : ρ → Option Halt) (among : Limits → Prop) (clock : Clock) (F : Limits → ρ × Session)
    (stages : List (List (Option Instant))) : Prop :=
  ∀ l, among l → Decides halt? (F .free) (l.throughStages clock stages) (F l)

/-- In the middle of a stage, before some others. -/
def Underway (halt? : ρ → Option Halt) (among : Limits → Prop) (clock : Clock) (F : Limits → ρ × Session)
    (waits : List (Option Instant)) (stages : List (List (Option Instant))) : Prop :=
  ∀ l, among l →
    Decides halt? (F .free) (l.throughWaits clock waits >>= fun next => l.throughStages next stages) (F l)

theorem Decides.relaxed {x y y' : ρ × Session} {r r' : Except Halt Clock}
    (h : Decides halt? x r y) (h' : Decides halt? x r' y') (eases : Limits.Eases r r') :
    (∃ d, r = .error (.error (.timeout d)) ∧ halt? y.1 = some (.error (.timeout d))) ∨
      halt? y'.1 = halt? y.1 ∧ (halt? y.1 = none → y' = y) := by
  rcases eases with ⟨d, rfl⟩ | rfl
  · exact .inl ⟨d, rfl, h⟩
  · refine .inr ?_
    cases r with
    | ok next =>
      obtain ⟨rfl, -⟩ := h
      obtain ⟨rfl, -⟩ := h'
      exact ⟨rfl, fun _ => rfl⟩
    | error e =>
      have halted : halt? y.1 = some e := h
      have halted' : halt? y'.1 = some e := h'
      rw [halted, halted']
      exact ⟨rfl, fun passed => by cases passed⟩

theorem Staged.map (h : Staged halt? among clock F stages) {halt?' : κ → Option Halt} (give : ρ → κ)
    (halts : ∀ y h, halt? y = some h → halt?' (give y) = some h) :
    Staged halt?' among clock (fun l => (give (F l).1, (F l).2)) stages := by
  intro l hl
  have decided := h l hl
  cases passed : l.throughStages clock stages with
  | ok next =>
    rw [passed] at decided
    exact ⟨congrArg (fun y : ρ × Session => (give y.1, y.2)) decided.1, decided.2⟩
  | error e =>
    rw [passed] at decided
    exact halts _ e decided

theorem Staged.of_eq {G : Limits → ρ × Session} (h : Staged halt? among clock F stages) (same : ∀ l, G l = F l) :
    Staged halt? among clock G stages :=
  (funext same : G = F) ▸ h

theorem Underway.of_eq {G : Limits → ρ × Session} (h : Underway halt? among clock F waits stages)
    (same : ∀ l, G l = F l) : Underway halt? among clock G waits stages :=
  (funext same : G = F) ▸ h

theorem Underway.mono {among' : Limits → Prop} (h : Underway halt? among clock F waits stages)
    (fewer : ∀ l, among' l → among l) : Underway halt? among' clock F waits stages :=
  fun l hl => h l (fewer l hl)

theorem underway_now {x : ρ × Session} (same : x.2.now = clock.1) : Underway halt? among clock (fun _ => x) [] [] :=
  fun _ _ => ⟨rfl, same⟩

theorem Staged.underway (h : Staged halt? among clock F stages) : Underway halt? among clock F [] stages := h

/-- The signal is looked at before a stage is started. -/
theorem Underway.staged
    (h : Underway halt? (fun l => among l ∧ l.isRefused clock.1 clock.2 = false) clock F waits stages)
    (refused : Limits → ρ × Session) (halts : ∀ l, halt? (refused l).1 = some (.error .cancelled)) :
    Staged halt? among clock (fun l => if l.isRefused clock.1 clock.2 then refused l else F l)
      (waits :: stages) := by
  intro l hl
  rw [Limits.throughStages_cons]
  by_cases fired : l.isRefused clock.1 clock.2 = true
  · simp only [if_pos fired]
    exact halts l
  · simp only [if_neg fired]
    exact h l ⟨hl, Bool.eq_false_iff.mpr fired⟩

open Session (thereafter)

variable {α : Type} {s : Session} {f : Limits → Except Halt α × Session}

theorem Session.Kept.underway (h : s.Kept f waits) (current : ∀ l, among l → l.Current s.clock)
    (out : Halt → Session → ρ × Session) (halts : ∀ e t, halt? (out e t).1 = some e)
    (quick : ∀ e t, (out e t).2.now = t.now)
    {g : α → Session → Limits → ρ × Session} {m : α → Session → List (Option Instant)}
    {r : α → Session → List (List (Option Instant))}
    (next : ∀ a t, f .free = (.ok a, t) →
      Underway halt? (fun l => among l ∧ l.Current t.clock) t.clock (g a t) (m a t) (r a t)) :
    Underway halt? among s.clock (fun l =>
      match f l with
      | (.ok a, t) => g a t l
      | (.error e, t) => out e t) (waits ++ thereafter (f .free) m) (thereafter (f .free) r) := by
  intro l hl
  have once := h l (current l hl)
  dsimp only
  rw [Limits.throughWaits_append]
  cases passed : l.throughWaits s.clock waits with
  | error e =>
    rw [passed] at once
    rw [Session.eq_of_halted once]
    exact halts _ _
  | ok after =>
    rw [passed] at once
    obtain ⟨same, rfl⟩ := once
    have ahead := (current l hl).throughWaits passed
    rw [same]
    cases unlimited : f .free with
    | mk result t =>
      rw [unlimited] at ahead
      cases result with
      | error e => exact ⟨rfl, quick e t⟩
      | ok a => exact next a t unlimited l ⟨hl, ahead⟩

theorem Session.underway_pass (s : Session) (t : Instant) (current : ∀ l, among l → l.Current s.clock)
    (out : Halt → Session → ρ × Session) (halts : ∀ e t, halt? (out e t).1 = some e)
    {done : Session → ρ × Session} (quick : ∀ t, (done t).2.now = t.now) :
    Underway halt? among s.clock (fun l =>
      match s.pass l (some t) with
      | (.error e, u) => out e u
      | (.ok (), u) => done u) (s.passWaits t) [] := by
  have now (u : Instant) : (s.advance u).now = max s.now u := rfl
  by_cases there : t ≤ s.now
  · -- What is over already is no wait.
    rw [passWaits, if_pos there]
    refine (underway_now (x := done (s.advance s.now)) ?_).of_eq fun l => ?_
    · rw [quick, now, Nat.max_self]
      rfl
    · simp only [pass, Limits.await, if_pos there]
  · rw [passWaits, if_neg there]
    intro l hl
    have unlimited : s.pass .free (some t) = (.ok (), s.advance t) := by
      simp only [pass, Limits.await, if_neg there]
      rfl
    have waited := (current l hl).await (some t) fun u same => Option.some.inj same ▸ Nat.lt_of_not_le there
    dsimp only [throughWaits]
    split at waited <;> rename_i decided <;> rw [decided]
    · obtain ⟨came, same⟩ := waited
      obtain rfl := Option.some.inj same
      have passed : s.pass l (some t) = (.ok (), s.advance t) := by
        simp only [pass]
        rw [show l.await s.now (some t) = _ from came]
      rw [passed, unlimited]
      refine ⟨rfl, ?_⟩
      rw [quick, now]
      exact Nat.max_eq_right (Nat.le_of_not_le there)
    · rename_i h
      have cut : s.pass l (some t) = (.error h, s.advance (l.await s.now (some t)).1) := by
        simp only [pass]
        rw [show l.await s.now (some t) = (_, .error h) from Prod.ext rfl waited]
      rw [cut]
      exact halts _ _

namespace Feed

variable {l : Limits} {σ : Type}

theorem awaitParcel_decided (f : Feed) {waits count : Nat} (alert : l.Alert waits) (since : waits ≤ count)
    (number : Nat) (now t : Instant) :
    match l.throughWaits (now, count) (f.parcelWaits number now t) with
    | .ok next => f.awaitParcel l waits number now t = (max now t, .ok ()) ∧ next.1 = max now t ∧
        waits ≤ next.2
    | .error h => (f.awaitParcel l waits number now t).2 = .error h := by
  by_cases there : f.parcel number ≤ room ∧ t ≤ now
  · have latest : max now t = now := Nat.max_eq_left there.2
    simp only [parcelWaits, if_pos there, throughWaits, latest, since, and_self, and_true]
    simp only [awaitParcel]
    split
    · simp [there]
    · simp only [Limits.await, if_pos there.2]
  · simp only [parcelWaits, if_neg there, throughWaits]
    have there' : ¬ (decide (f.parcel number ≤ room) && decide (t ≤ now)) = true := by simpa using there
    cases reached : l.reached? now waits with
    | some h =>
      rw [Limits.decide_reached alert.patient ((alert.reached? since now).trans reached)]
      simp only [awaitParcel, reached, if_neg there']
    | none =>
      have unreached : l.reached? (now, count).1 (now, count).2 = none :=
        (alert.reached? since now).trans reached
      have waited := Limits.await_open alert.patient alert.pending unreached
        (fun stop first => Nat.le_of_lt (alert.ahead reached first)) (some t)
      simp only [awaitParcel, reached]
      split at waited <;> rename_i decided <;> rw [decided]
      · obtain ⟨came, u, same, rfl⟩ := waited
        obtain rfl := Option.some.inj same
        exact ⟨came, rfl, Nat.le_succ_of_le since⟩
      · exact waited

theorem eq_of_cut {y : Instant × Except Halt Unit} {h : Halt} (cut : y.2 = .error h) : y = (y.1, .error h) :=
  Prod.ext rfl cut

theorem awaitParcel_free (f : Feed) (number : Nat) (now t : Instant) (waits : Nat) :
    f.awaitParcel .free waits number now t = (max now t, .ok ()) := by
  by_cases there : t ≤ now
  · rw [Nat.max_eq_left there]
    exact if_pos there
  · rw [Nat.max_eq_right (Nat.le_of_not_le there)]
    exact if_neg there

/-- Rows that are read within limits, from a number on. As long as their parcels come in time, the reader sees what
comes without limits, and is done when the last of them has come; a limit that ends a wait ends the reading. -/
theorem rowsUnder_decided (f : Feed) (reader : Reader σ) (rows : List (Instant × Row)) (number : Nat)
    (now : Instant) (seen : Nat) (state : σ) {noticed count : Nat} (alert : l.Alert noticed)
    (since : noticed ≤ count) (unnoticed : Nat) :
    let under (l : Limits) (noticed : Nat) : Reading σ :=
      (f.rowsUnder l noticed number now rows).readFrom reader seen (f.rowsUnder l noticed number now rows).rows state
    match l.throughWaits (now, count) (f.readingWaits reader number now seen rows state) with
    | .ok next => under l noticed = under .free unnoticed ∧ (under l noticed).time = next.1
    | .error h => haltOf (under l noticed).result = some h := by
  -- Along the rows; the clock of the waits and the instant of the reader go on together.
  induction rows generalizing number now seen state count with
  | nil =>
    have parcel := f.awaitParcel_decided alert since f.rows.length now f.endAt
    simp only [rowsUnder, endUnder, readingWaits, awaitParcel_free]
    split at parcel
    · rw [parcel.1]
      exact ⟨rfl, parcel.2.1.symm⟩
    · rw [eq_of_cut parcel]
      rfl
  | cons first rest ih =>
    obtain ⟨t, row⟩ := first
    have parcel := f.awaitParcel_decided alert since number now t
    simp only [readingWaits, rowsUnder, awaitParcel_free]
    rw [Limits.throughWaits_append]
    cases passed : l.throughWaits (now, count) (f.parcelWaits number now t) with
    | error h =>
      rw [passed] at parcel
      rw [eq_of_cut parcel]
      rfl
    | ok next =>
      obtain ⟨u, count'⟩ := next
      rw [passed] at parcel
      obtain ⟨came, rfl, later⟩ := parcel
      rw [came]
      simp only [Stream.readFrom_push]
      simp only [Stream.push, Stream.readFrom]
      -- The row has come; what the reader makes of it says whether others are waited for.
      obtain ⟨state', result⟩ := reader seen row state
      cases result with
      | error e => exact ⟨rfl, rfl⟩
      | ok flow =>
        cases flow with
        | stop => exact ⟨rfl, rfl⟩
        | more => exact ih (number + 1) (max now t) (seen + 1) state' later

end Feed

namespace Session

theorem report_limits {α : Type} (s : Session) (r : Run) (l : Limits) (summary : α → Outcome)
    (result : Except Halt α) : s.report { r with limits := l } summary result = s.report r summary result := by
  obtain (_ | _) | _ := result <;> rfl

theorem report_within {α : Type} (s : Session) (b : Begun) (l : Limits) (summary : α → Outcome)
    (result : Except Halt α) : s.report (b.within l).run summary result = s.report b.run summary result :=
  report_limits s b.run l summary result

theorem now_complete (s : Session) (r : Run) (outcome : Outcome) : (s.complete r outcome).now = s.now := by
  simp only [complete]
  split <;> rfl

theorem now_dropStale (s : Session) (cached : Option (Nat × String)) (e : Error) :
    (s.dropStale cached e).now = s.now := by
  simp only [dropStale, invalidate]
  split
  · rfl
  · split
    · split <;> rfl
    · rfl

theorem now_report {α : Type} (s : Session) (r : Run) (summary : α → Outcome) (result : Except Halt α) :
    (s.report r summary result).now = s.now := by
  obtain (e | _) | a := result
  · exact (now_complete _ r _).trans (now_dropStale s r.cached e)
  · rfl
  · exact now_complete s r _

theorem now_releaseReady (s : Session) (r : Ready) : (s.releaseReady r).now = s.now := by
  simp only [releaseReady]
  split <;> rfl

theorem now_discard (s : Session) (cursor : Cursor) : (s.discard cursor).now = s.now :=
  now_releaseReady _ _

variable {σ : Type}

/-- What is given back of a reading, with the session once that is reported and the connection is let go. -/
def closeReading (s : Session) (c : Cursor) (r : Reading σ) : (σ × Except Halt Nat) × Session :=
  ((r.state, r.result.map fun _ => r.seen),
    (((s.unblock c).advance r.time).report c.begun.run .rows (r.result.map fun _ => r.seen)).releaseReady c.begun.ready)

theorem now_closeReading (s : Session) (c : Cursor) {r : Reading σ} (later : s.now ≤ r.time) :
    (s.closeReading c r).2.now = r.time := by
  rw [closeReading, now_releaseReady, now_report]
  exact Nat.max_eq_right later

theorem haltOf_closeReading (s : Session) (c : Cursor) {r : Reading σ} {h : Halt} (halted : haltOf r.result = some h) :
    haltOf (s.closeReading c r).1.2 = some h := by
  cases e : r.result with
  | ok _ =>
    rw [e] at halted
    cases halted
  | error h' =>
    rw [e] at halted
    simp only [closeReading, e]
    exact halted

theorem consume_within (s : Session) (c : Cursor) (l : Limits) (reader : Reader σ) (state : σ) :
    s.consume (c.within l) reader state = s.closeReading c (s.reading (c.within l) reader state) := by
  simp only [consume_eq, closeReading]
  exact congrArg (fun t : Session => ((_, _), t.releaseReady c.begun.ready)) (report_within _ c.begun l .rows _)

theorem underway_reading (s : Session) (c : Cursor) (reader : Reader σ) (state : σ)
    (alert : ∀ l, among l → l.Alert s.waits) :
    Underway (fun y : σ × Except Halt Nat => haltOf y.2) among s.clock
      (fun l => s.closeReading c ((c.feed.under l s.now s.waits).read reader state))
      (c.feed.readingWaits reader 0 s.now 0 c.feed.rows state) [] := by
  intro l hl
  have once := c.feed.rowsUnder_decided reader c.feed.rows 0 s.now 0 state (alert l hl) (Nat.le_refl _) s.waits
  cases passed : l.throughWaits s.clock (c.feed.readingWaits reader 0 s.now 0 c.feed.rows state) with
  | error h =>
    rw [show l.throughWaits (s.now, s.waits) _ = _ from passed] at once
    exact haltOf_closeReading s c once
  | ok next =>
    rw [show l.throughWaits (s.now, s.waits) _ = _ from passed] at once
    have later := Limits.le_throughWaits passed
    exact ⟨congrArg (s.closeReading c) once.1, (now_closeReading s c (once.2 ▸ later)).trans once.2⟩

theorem staged_consume (s : Session) (c : Cursor) (reader : Reader σ) (state : σ)
    (alert : ∀ l, among l → l.isRefused s.now s.waits = false → l.Alert s.waits) :
    Staged (fun y : σ × Except Halt Nat => haltOf y.2) among s.clock
      (fun l => s.consume (c.within l) reader state)
      [c.feed.readingWaits reader 0 s.now 0 c.feed.rows state] := by
  have reads := underway_reading s c reader state fun l (hl : among l ∧ l.isRefused s.now s.waits = false) =>
    alert l hl.1 hl.2
  -- A signal that has fired ends the reading before it sees anything, as an empty one.
  refine (reads.staged (fun _ => s.closeReading c ⟨state, 0, s.now, .error (.error .cancelled)⟩)
    fun _ => rfl).of_eq fun l => ?_
  rw [consume_within, ← apply_ite (s.closeReading c)]
  rfl

end Session

end RowMapper
