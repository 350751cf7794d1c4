import RowMapper.Proofs.Session.Reading

/-!
What a call does between taking a connection and giving it back: it waits on that connection and makes its
reports. None of that touches the pool or makes a new connection, and the waits end at the deadline at the
latest.
-/
namespace RowMapper

namespace Server

theorem length_updateLink (s : Server) (link : Nat) (f : Link → Link) :
    (s.updateLink link f).links.length = s.links.length :=
  List.length_modify f s.links (link - 1)

theorem length_send (s : Server) (now link : Nat) (job : Job) :
    (s.send now link job).2.links.length = s.links.length :=
  length_updateLink _ link _

theorem length_takeUp {s s' : Server} {link start : Nat} {taken : TakenUp}
    (h : s.takeUp link start = some (taken, s')) : s'.links.length = s.links.length := by
  simp only [takeUp] at h
  split at h
  · cases h
  · split at h
    · cases h
    · rename_i r rest _
      split at h <;> obtain ⟨-, rfl⟩ := Prod.mk.inj (Option.some.inj h)
      · exact length_updateLink s link _
      · rw [length_updateLink, (carry_frame _ link start r.job).1, length_updateLink]

theorem length_serveFrom (ticket : Option Nat) (limit : Option Instant) (fuel : Nat) (d : Served) :
    (serveFrom ticket limit fuel d).server.links.length = d.server.links.length := by
  induction fuel generalizing d with
  | zero => rfl
  | succ fuel ih =>
    simp only [serveFrom]
    split
    · rfl
    · split
      · rfl
      · split
        · rfl
        · rename_i taken server taking
          exact (ih _).trans (length_takeUp taking)

theorem length_serve (s : Server) (ticket : Option Nat) (limit : Option Instant) :
    (s.serve ticket limit).server.links.length = s.links.length :=
  length_serveFrom ticket limit s.pending ⟨none, [], s⟩

theorem length_connect (s : Server) (now : Instant) :
    (s.connect now).2.2.links.length = s.links.length + 1 := by
  simp only [connect, length_send, List.length_append, List.length_singleton]

end Server

namespace Limits

/-- A wait that began at one instant and ended at another was over by the deadline, if it began before. -/
structure Within (l : Limits) (since now : Nat) : Prop where
  later : since ≤ now
  deadline : ∀ (stop : Nat) d, l.deadline = some (stop, d) → now ≤ max since stop

variable {l : Limits} {t u v : Nat}

theorem Within.refl (l : Limits) (t : Nat) : l.Within t t :=
  ⟨Nat.le_refl t, fun stop _ _ => Nat.le_max_left t stop⟩

theorem Within.trans (h : l.Within t u) (k : l.Within u v) : l.Within t v := by
  refine ⟨Nat.le_trans h.later k.later, fun stop d timed => ?_⟩
  have first := h.deadline stop d timed
  have second := k.deadline stop d timed
  omega

theorem Within.timed {stop : Nat} {d : Duration} (h : l.Within t u) (timed : l.deadline = some (stop, d))
    (early : t ≤ stop) : u ≤ stop :=
  Nat.max_eq_right early ▸ h.deadline stop d timed

theorem earliest_le {stops : List (Instant × Halt)} {stop : Instant × Halt} (there : stop ∈ stops) :
    ∃ first, earliest stops = some first ∧ first.1 ≤ stop.1 := by
  induction stops with
  | nil => simp at there
  | cons s rest ih =>
    rcases List.mem_cons.mp there with rfl | there
    · cases e : earliest rest with
      | none => exact ⟨stop, by simp [earliest, e], Nat.le_refl _⟩
      | some r =>
        by_cases before : r.1 < stop.1
        · exact ⟨r, by simp [earliest, e, before], Nat.le_of_lt before⟩
        · exact ⟨stop, by simp [earliest, e, before], Nat.le_refl _⟩
    · obtain ⟨first, e, le⟩ := ih there
      by_cases before : first.1 < s.1
      · exact ⟨first, by simp [earliest, e, before], le⟩
      · exact ⟨s, by simp [earliest, e, before], Nat.le_trans (Nat.le_of_not_lt before) le⟩

theorem first?_le_deadline {stop : Nat} {d : Duration} (timed : l.deadline = some (stop, d)) :
    ∃ (first : Nat) (h : Halt), l.first? = some (first, h) ∧ first ≤ stop := by
  have there : (stop, Halt.error (.timeout d)) ∈ l.deadlineStop ++ l.signalStop ++ l.patienceStop := by
    simp [deadlineStop, timed]
  obtain ⟨⟨first, h⟩, e, le⟩ := earliest_le there
  exact ⟨first, h, e, le⟩

theorem within_await (l : Limits) (now : Nat) (t : Option Instant) : l.Within now (l.await now t).1 := by
  have atOnce : l.Within now now := .refl l now
  cases e : l.first? with
  | none =>
    -- nothing ends the wait, a deadline least of all
    have untimed : ∀ (stop : Nat) d, l.deadline ≠ some (stop, d) := by
      intro stop d timed
      obtain ⟨first, h, e', -⟩ := first?_le_deadline timed
      simp [e] at e'
    simp only [await, e]
    split
    · split
      · exact atOnce
      · rename_i later
        exact ⟨Nat.le_of_not_le later, fun stop d timed => absurd timed (untimed stop d)⟩
    · exact atOnce
  | some limit =>
    obtain ⟨first, h⟩ := limit
    have byDeadline {t : Nat} (before : t ≤ first) (stop : Nat) (d : Duration)
        (timed : l.deadline = some (stop, d)) : t ≤ max now stop := by
      obtain ⟨first', h', e', le⟩ := first?_le_deadline timed
      obtain ⟨rfl, -⟩ := Prod.mk.inj (Option.some.inj (e.symm.trans e'))
      exact Nat.le_trans (Nat.le_trans before le) (Nat.le_max_right now stop)
    simp only [await, e]
    split
    · split
      · exact atOnce
      · rename_i later
        split
        · exact atOnce
        · rename_i ahead
          split
          · rename_i before
            exact ⟨Nat.le_of_not_le later, byDeadline before⟩
          · exact ⟨Nat.le_of_not_le ahead, byDeadline (Nat.le_refl first)⟩
    · exact ⟨Nat.le_max_left now first, fun stop d timed =>
        Nat.max_le.mpr ⟨Nat.le_max_left now stop, byDeadline (Nat.le_refl first) stop d timed⟩⟩

end Limits

namespace Session

def pooling (s : Session) : Nat × Option Pool := (s.openings, s.opened.map (·.pool))

/-- A session came out of another one within limits, with the pool and the connections as they were. -/
structure Abides (l : Limits) (s t : Session) : Prop where
  pooling : t.pooling = s.pooling
  links : t.server.links.length = s.server.links.length
  time : l.Within s.now t.now

variable {l : Limits} {s t u : Session}

theorem Abides.refl (l : Limits) (s : Session) : Abides l s s := ⟨rfl, rfl, .refl l s.now⟩

theorem Abides.trans (h : Abides l s t) (k : Abides l t u) : Abides l s u :=
  ⟨k.pooling.trans h.pooling, k.links.trans h.links, h.time.trans k.time⟩

theorem abides_advance {time : Nat} (within : l.Within s.now time) : Abides l s (s.advance time) := by
  have latest : (s.advance time).now = time := Nat.max_eq_right within.later
  exact ⟨rfl, Server.length_serve s.server Option.none _, latest.symm ▸ within⟩

theorem abides_pass (l : Limits) (s : Session) (t : Option Instant) : Abides l s (s.pass l t).2 :=
  abides_advance (l.within_await s.now t)

theorem abides_stall {α : Type} (l : Limits) (s : Session) : Abides l s (s.stall (α := α) l).2 := by
  have h := abides_pass l s Option.none
  simp only [stall]
  split <;> rename_i e <;> rw [e] at h <;> exact h

theorem abides_send (l : Limits) (s : Session) (link : Nat) (job : Job) :
    Abides l s { s with server := (s.server.send s.now link job).2 } :=
  ⟨rfl, Server.length_send s.server s.now link job, .refl l s.now⟩

theorem abides_awaitTicket (l : Limits) (s : Session) (ticket : Nat) :
    Abides l s (s.awaitTicket l ticket).2 := by
  simp only [awaitTicket]
  split
  · exact .refl l s
  · have served := Server.length_serve s.server (some ticket) (l.first?.map (·.1))
    have within := l.within_await s.now
      ((s.server.serve (some ticket) (l.first?.map (·.1))).answer.map (·.time))
    have latest := Nat.max_eq_right within.later
    split <;> rename_i e <;> rw [show l.await s.now _ = _ from e] at within latest <;>
      exact ⟨rfl, served, latest.symm ▸ within⟩

theorem abides_ask (l : Limits) (s : Session) (link : Nat) (job : Job) :
    Abides l s (s.ask l link job).2 := by
  simp only [ask]
  split
  · exact .refl l s
  · split
    · exact (abides_send l s link job).trans (abides_stall l _)
    · exact (abides_send l s link job).trans (abides_awaitTicket l _ _)

theorem abides_prepare (l : Limits) (s : Session) (link : Nat) (sql : String) :
    Abides l s (s.prepare l link sql).2 := by
  have h := abides_ask l s link (.prepare sql)
  simp only [prepare]
  split <;> rename_i e <;> rw [e] at h <;> exact h

theorem abides_run (l : Limits) (s : Session) (link : Nat) (p : Prepared) (values : List Param) :
    Abides l s (s.run l link p values).2 := by
  simp only [run]
  split
  · exact .refl l s
  · rename_i raw _
    have h := abides_ask l s link (.run p raw)
    split <;> rename_i e <;> rw [e] at h <;> exact h

theorem abides_prepareFresh (l : Limits) (s : Session) (link : Nat) (isPooled : Bool) (source : Source)
    (sql : String) : Abides l s (s.prepareFresh l link isPooled source sql).2 := by
  have h := abides_prepare l s link sql
  simp only [prepareFresh]
  split <;> rename_i e <;> rw [e] at h <;> exact h

theorem abides_note (l : Limits) (s : Session) (events : List Event) : Abides l s (s.note events) :=
  ⟨rfl, rfl, .refl l s.now⟩

theorem abides_setCache (l : Limits) (s : Session) (c : StatementCache) : Abides l s (s.setCache c) := by
  refine ⟨?_, rfl, .refl l s.now⟩
  simp only [pooling, setCache, updateOpened, Option.map_map]
  rfl

theorem abides_complete (l : Limits) (s : Session) (r : Run) (outcome : Outcome) :
    Abides l s (s.complete r outcome) := by
  simp only [complete]
  split <;> exact ⟨rfl, rfl, .refl l s.now⟩

theorem abides_invalidate (l : Limits) (s : Session) (label : String) :
    Abides l s (s.invalidate label).2 := by
  simp only [invalidate]
  split
  · exact .refl l s
  · exact (abides_setCache l s _).trans (abides_note l _ _)

theorem abides_dropStale (l : Limits) (s : Session) (cached : Option (Nat × String)) (e : Error) :
    Abides l s (s.dropStale cached e) := by
  simp only [dropStale]
  split
  · exact .refl l s
  · split
    · exact abides_invalidate l s _
    · exact .refl l s

theorem abides_report {α : Type} (l : Limits) (s : Session) (r : Run) (summary : α → Outcome)
    (result : Except Halt α) : Abides l s (s.report r summary result) := by
  simp only [report]
  split
  · exact abides_complete l s r _
  · exact (abides_dropStale l s r.cached _).trans (abides_complete l _ r _)
  · exact abides_note l s _

theorem abides_prepareLabeled (l : Limits) (s : Session) (generation : Nat) (c : StatementCache)
    (link : Nat) (label sql : String) : Abides l s (s.prepareLabeled l generation c link label sql).2 := by
  simp only [prepareLabeled]
  split
  · exact abides_setCache l s _
  · rename_i sought c' _
    split
    · exact abides_setCache l s c'
    · have h := (abides_setCache l s c').trans (abides_prepare l _ link sql)
      split <;> rename_i e <;> rw [e] at h
      · exact h
      · exact h.trans (abides_setCache l _ _)

theorem abides_prepareOn (l : Limits) (s : Session) (label : Option String) (link : Nat) (sql : String) :
    Abides l s (s.prepareOn l label link sql).2 := by
  simp only [prepareOn]
  split
  · split
    · exact abides_prepareLabeled l s _ _ link _ sql
    · exact abides_prepareFresh l s link true .bypass sql
  · exact abides_prepareFresh l s link true .bypass sql

theorem preparePooled_eq (s : Session) (l : Limits) (label : Option String) (sql : String) :
    s.preparePooled l label sql =
      match s.checkout l with
      | (.error h, t) => (.error h, t)
      | (.ok link, t) => unlessReady link (t.prepareOn l label link sql) := rfl

theorem abides_openCursor (l : Limits) (s : Session) (f : Feed) (b : Begun) :
    Abides l s (s.openCursor f b).2 := by
  simp only [openCursor]
  split <;> exact ⟨rfl, rfl, .refl l s.now⟩

theorem abides_unblock (l : Limits) (s : Session) (c : Cursor) : Abides l s (s.unblock c) :=
  ⟨rfl, rfl, .refl l s.now⟩

theorem abides_runStage (s : Session) (b : Begun) (values : List Param) :
    Abides b.run.limits s (s.runStage b values).2 := by
  have h := abides_run b.run.limits s b.ready.link b.ready.statement values
  simp only [runStage]
  split
  · exact .refl _ s
  · split <;> rename_i e <;> rw [e] at h <;> exact h

theorem abides_executeStage (s : Session) (b : Begun) (values : List Param) :
    Abides b.run.limits s (s.executeStage b values).2 := by
  have h := abides_runStage s b values
  simp only [executeStage]
  split <;> rename_i e <;> rw [e] at h
  · exact h
  · rename_i feed u
    have k := h.trans (abides_pass b.run.limits u (some feed.endAt))
    split <;> rename_i e' <;> rw [e'] at k <;> exact k

end Session

namespace Feed

variable {l : Limits} {σ : Type}

theorem within_awaitParcel (f : Feed) (l : Limits) (waits number now : Nat) (t : Instant) :
    l.Within now (f.awaitParcel l waits number now t).1 := by
  simp only [awaitParcel]
  split
  · split <;> exact .refl l now
  · exact l.within_await now (some t)

theorem within_rowsUnder (f : Feed) (l : Limits) (waits number now : Nat) (rows : List (Instant × Row))
    (reader : Reader σ) (seen : Nat) (state : σ) :
    l.Within now ((f.rowsUnder l waits number now rows).readFrom reader seen
      (f.rowsUnder l waits number now rows).rows state).time := by
  induction rows generalizing number now seen state with
  | nil =>
    have within := f.within_awaitParcel l waits f.rows.length now f.endAt
    simp only [rowsUnder, endUnder]
    split <;> rename_i e <;> rw [e] at within <;> exact within
  | cons first rest ih =>
    obtain ⟨t, row⟩ := first
    have within := f.within_awaitParcel l waits number now t
    simp only [rowsUnder]
    split <;> rename_i u _ <;> rename_i e <;> rw [e] at within
    · have rows : ((f.rowsUnder l waits (number + 1) u rest).push (u, row)).rows =
          (u, row) :: (f.rowsUnder l waits (number + 1) u rest).rows := rfl
      simp only [Stream.readFrom_push, rows, Stream.readFrom]
      split
      · exact within
      · exact within
      · exact within.trans (ih _ _ _ _)
    · exact within

end Feed

namespace Session

variable {σ : Type}

theorem within_reading (s : Session) (c : Cursor) (reader : Reader σ) (state : σ) :
    c.begun.run.limits.Within s.now (s.reading c reader state).time := by
  simp only [reading]
  split
  · exact .refl _ s.now
  · exact c.feed.within_rowsUnder _ s.waits 0 s.now c.feed.rows reader 0 state

def read (s : Session) (c : Cursor) (reader : Reader σ) (state : σ) : Session :=
  ((s.unblock c).advance (s.reading c reader state).time).report c.begun.run .rows
    ((s.reading c reader state).result.map fun _ => (s.reading c reader state).seen)

theorem consume_snd (s : Session) (c : Cursor) (reader : Reader σ) (state : σ) :
    (s.consume c reader state).2 = (s.read c reader state).releaseReady c.begun.ready := rfl

theorem abides_read (s : Session) (c : Cursor) (reader : Reader σ) (state : σ) :
    Abides c.begun.run.limits s (s.read c reader state) :=
  ((abides_unblock _ s c).trans (abides_advance (s := s.unblock c) (s.within_reading c reader state))).trans
    (abides_report _ _ _ _ _)

theorem abides_readReply (l : Limits) (s : Session) (f : Feed) : Abides l s (s.readReply l f).2 := by
  have h : Abides l s (s.advance ((f.under l s.now s.waits).read theRow Option.none).time) :=
    abides_advance (f.within_rowsUnder l s.waits 0 s.now f.rows theRow 0 Option.none)
  simp only [readReply]
  split
  · exact h
  · split <;> exact h

theorem abides_greet (l : Limits) (s : Session) (link : Nat) : Abides l s (s.greet l link).2 := by
  have h := abides_prepare l s link Server.greeting
  simp only [greet]
  split <;> rename_i e <;> rw [e] at h
  · exact h
  · exact h
  · rename_i p u
    have k := h.trans (abides_run l u link p [])
    split <;> rename_i e' <;> rw [e'] at k
    · exact k
    · exact k
    · exact k.trans (abides_readReply l _ _)

end Session

end RowMapper
