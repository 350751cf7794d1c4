import RowMapper.Proofs.Session.Latencies

/-!
What a call comes to within limits. Without limits each of its waits has its result at some instant; with
limits it goes the same way as long as every result comes in time, and otherwise ends with the limit that
comes first.
-/
namespace RowMapper.Session

def clock (s : Session) : Clock := (s.now, s.waits)

variable {α β : Type} {s : Session} {f : Limits → Except Halt α × Session} {waits : List (Option Instant)}

/-- A function of the limits goes through waits. It comes to what it comes to without limits, on the same clock, if all
of them end with their results, and is halted by the limit that ends one of them. -/
def Kept (s : Session) (f : Limits → Except Halt α × Session) (waits : List (Option Instant)) : Prop :=
  ∀ l : Limits, l.Current s.clock →
    match l.throughWaits s.clock waits with
    | .ok next => f l = f .free ∧ next = (f .free).2.clock
    | .error h => (f l).1 = .error h

theorem kept_now {x : Except Halt α × Session} (same : x.2.clock = s.clock) : s.Kept (fun _ => x) [] :=
  fun _ _ => ⟨rfl, same.symm⟩

theorem Kept.of_eq {g : Limits → Except Halt α × Session} (h : s.Kept f waits) (same : ∀ l, g l = f l) :
    s.Kept g waits :=
  (funext same : g = f) ▸ h

theorem Kept.of_clock {t : Session} (h : t.Kept f waits) (same : t.clock = s.clock) : s.Kept f waits := by
  simp only [Kept, ← same]
  exact h

theorem eq_of_halted {y : Except Halt α × Session} {e : Halt} (h : y.1 = .error e) : y = (.error e, y.2) :=
  Prod.ext h rfl

theorem Kept.bind (h : s.Kept f waits) {k : Halt → Session → Session}
    (quick : ∀ e t, (k e t).clock = t.clock)
    {g : α → Session → Limits → Except Halt β × Session} {m : α → Session → List (Option Instant)}
    (next : ∀ a t, f .free = (.ok a, t) → t.Kept (g a t) (m a t)) :
    s.Kept (fun l =>
      match f l with
      | (.ok a, t) => g a t l
      | (.error e, t) => (.error e, k e t)) (waits ++ thereafter (f .free) m) := by
  intro l current
  have once := h l current
  dsimp only
  rw [Limits.throughWaits_append]
  cases passed : l.throughWaits s.clock waits with
  | error e =>
    rw [passed] at once
    rw [eq_of_halted once]
    rfl
  | ok after =>
    rw [passed] at once
    obtain ⟨same, rfl⟩ := once
    have ahead := current.throughWaits passed
    rw [same]
    cases unlimited : f .free with
    | mk result t =>
      rw [unlimited] at ahead
      cases result with
      | error e => exact ⟨rfl, (quick e t).symm⟩
      | ok a => exact next a t unlimited l ahead

theorem thereafter_nil {γ : Type} (y : Except Halt α × Session) : thereafter y (fun _ _ => ([] : List γ)) = [] := by
  simp only [thereafter]
  split <;> rfl

theorem Kept.map (h : s.Kept f waits) {k : Halt → Session → Session} (quick : ∀ e t, (k e t).clock = t.clock)
    {g : α → Session → Except Halt β × Session} (now : ∀ a t, (g a t).2.clock = t.clock) :
    s.Kept (fun l =>
      match f l with
      | (.ok a, t) => g a t
      | (.error e, t) => (.error e, k e t)) waits := by
  have kept := h.bind quick (g := fun a t _ => g a t) (m := fun _ _ => [])
    fun a t _ => kept_now (now a t)
  rwa [thereafter_nil, List.append_nil] at kept

def answeredAt (s : Session) (ticket : Nat) (a : Answer) :
    Except Halt (Except ClientFault Content) × Session :=
  (.ok a.content, { { s with
    server := (s.server.serve (some ticket) .none).server
    waits := s.waits + 1 }.noteWires (s.server.serve (some ticket) .none).seen with
      now := max s.now a.time })

variable {l : Limits} {ticket : Nat} {a : Answer}

theorem awaitTicket_in_time (past : s.server.Past s.now) (current : l.Current s.clock)
    (open_still : l.reached? s.now s.waits = .none)
    (answered : (s.server.serve (some ticket) .none).answer = some a)
    (within : ∀ stop, l.earlier = some stop → a.time ≤ stop.1) :
    s.awaitTicket l ticket = s.answeredAt ticket a := by
  have first := Limits.first?_eq current.patient current.pending
  have served : s.server.serve (some ticket) (l.first?.map (·.1)) =
      s.server.serve (some ticket) .none := by
    cases e : l.earlier with
    | none => rw [first, e, Option.map_none]
    | some stop =>
      rw [first, e, Option.map_some]
      exact Server.serve_in_time past (current.ahead e) answered (within stop e)
  obtain ⟨u, waited, later⟩ : ∃ u, l.await s.now (some a.time) = (u, .ok ()) ∧
      max s.now u = max s.now a.time := Limits.await_in_time (first.symm ▸ within)
  simp only [awaitTicket, open_still, served, answered, Option.map_some, answeredAt]
  have noted : ({ s with
      server := (s.server.serve (some ticket) .none).server
      waits := s.waits + 1 }.noteWires (s.server.serve (some ticket) .none).seen).now = s.now := rfl
  rw [noted, waited]
  simp only [later]

theorem awaitTicket_late (current : l.Current s.clock) {stop : Instant} {h : Halt}
    (open_still : l.reached? s.now s.waits = .none) (first : l.earlier = some (stop, h))
    (late : ∀ a, (s.server.serve (some ticket) .none).answer = some a → stop < a.time) :
    (s.awaitTicket l ticket).1 = .error h := by
  have first' := (Limits.first?_eq current.patient current.pending).trans first
  have slow := Server.serve_late late
  have cut : (l.await s.now ((s.server.serve (some ticket) (some stop)).answer.map (·.time))).2 =
      .error h := by
    refine Limits.await_late first' (current.ahead first) fun t ht => ?_
    obtain ⟨a, ha, rfl⟩ := Option.map_eq_some_iff.mp ht
    exact slow a ha
  simp only [awaitTicket, open_still, first', Option.map_some]
  split <;> rename_i waited <;> have ended := (congrArg Prod.snd waited).symm.trans cut
  · exact congrArg _ (Except.error.inj ended)
  · cases ended

theorem awaitTicket_reached {h : Halt} (reached : l.reached? s.now s.waits = some h) :
    s.awaitTicket l ticket = (.error h, s) := by
  simp only [awaitTicket, reached]

theorem awaitTicket_forever (current : l.Current s.clock) (open_still : l.reached? s.now s.waits = .none)
    (unlimited : l.earlier = .none)
    (unanswered : (s.server.serve (some ticket) .none).answer = .none) :
    (s.awaitTicket l ticket).1 = .error .dropped := by
  have first := (Limits.first?_eq current.patient current.pending).trans unlimited
  simp only [awaitTicket, open_still, first, Option.map_none, unanswered, Limits.await]

theorem kept_awaitTicket (past : s.server.Past s.now) (ticket : Nat) :
    s.Kept (fun l => s.awaitTicket l ticket) [s.server.answerAt? ticket] := by
  intro l current
  simp only [Limits.throughWaits, Server.answerAt?]
  cases reached : l.reached? s.now s.waits with
  | some h => rw [Limits.decide_reached current.patient reached, awaitTicket_reached reached]
  | none =>
    rw [Limits.decide_open current.patient reached]
    cases answered : (s.server.serve (some ticket) .none).answer with
    | some a =>
      have unlimited : s.awaitTicket .free ticket = s.answeredAt ticket a :=
        awaitTicket_in_time past (Limits.current_free _) rfl answered fun stop limited => by cases limited
      have in_time := awaitTicket_in_time past current reached answered
      rw [unlimited]
      simp only [Option.map_some]
      cases first : l.earlier with
      | none => exact ⟨in_time (by simp [first]), rfl⟩
      | some stop =>
        by_cases within : a.time ≤ stop.1
        · simp only [if_pos within]
          exact ⟨in_time (by simpa [first] using within), rfl⟩
        · simp only [if_neg within]
          refine awaitTicket_late current reached first fun b hb => ?_
          obtain rfl := Option.some.inj (answered.symm.trans hb)
          exact Nat.lt_of_not_le within
    | none =>
      simp only [Option.map_none]
      cases first : l.earlier with
      | none => exact awaitTicket_forever current reached first answered
      | some stop => exact awaitTicket_late current reached first (by simp [answered])

theorem kept_stall (s : Session) : s.Kept (fun l => s.stall (α := α) l) [.none] := by
  intro l current
  have waited := current.await .none (by simp)
  dsimp only [Limits.throughWaits]
  split at waited <;> rename_i decided <;> rw [decided]
  · cases waited.2
  · have cut : l.await s.now .none = ((l.await s.now .none).1, .error _) := Prod.ext rfl waited
    simp only [stall, pass]
    rw [cut]

theorem kept_ask (past : s.server.Past s.now) (link : Nat) (job : Job) :
    s.Kept (fun l => s.ask l link job) (s.askWaits link job) := by
  by_cases closed : s.server.isClosed s.now link = true
  · rw [askWaits, if_pos closed]
    refine (kept_now (x := (.ok (.error .disconnected), s)) rfl).of_eq fun l => ?_
    simp only [ask, if_pos closed]
  · rw [askWaits, if_neg closed]
    by_cases blocked : s.isBlocked link = true
    · rw [if_pos blocked]
      have stalled : s.Kept (fun l =>
          stall (α := Except ClientFault Content) { s with server := (s.server.send s.now link job).2 } l) [.none] :=
        (kept_stall _).of_clock rfl
      refine stalled.of_eq fun l => ?_
      simp only [ask, if_neg closed]
      exact if_pos blocked
    · rw [if_neg blocked]
      have waited : s.Kept (fun l => { s with server := (s.server.send s.now link job).2 }.awaitTicket l
          (s.server.send s.now link job).1) _ :=
        (kept_awaitTicket (Server.past_send link job past) _).of_clock rfl
      refine waited.of_eq fun l => ?_
      simp only [ask, if_neg closed]
      exact if_neg blocked

def pooled (s : Session) : Except ClientFault Nat → Except Halt Nat × Session
  | .error fault => (.error (.error (creationFailed fault)), s)
  | .ok link => (.ok link, s.updateOpened fun o => { o with pool := o.pool.takeIn link })

def planIn : Except ClientFault Content → Except ClientFault Prepared
  | .ok (.prepared p) => .ok p
  | .ok _ => .error .disconnected
  | .error fault => .error fault

def feedIn : Except ClientFault Content → Except ClientFault Feed
  | .ok (.feed f) => .ok f
  | .ok _ => .error .disconnected
  | .error fault => .error fault

theorem kept_connect (past : s.server.Past s.now) : s.Kept (fun l => s.connect l) s.connectWaits := by
  have started : s.Kept (fun l => { s with server := (s.server.connect s.now).2.2 }.awaitTicket l
      (s.server.connect s.now).2.1) s.connectWaits :=
    (kept_awaitTicket (Server.past_connect past) _).of_clock rfl
  refine (started.map (fun _ _ => rfl) (g := fun r t => (.ok (r.map fun _ => (s.server.connect s.now).1), t))
    fun _ _ => rfl).of_eq fun l => ?_
  simp only [connect]
  split <;> rename_i e <;> rw [e] <;> rfl

theorem kept_checkout (past : s.server.Past s.now) : s.Kept (fun l => s.checkout l) s.checkoutWaits := by
  cases opened : s.opened with
  | none =>
    simp only [checkoutWaits, opened]
    exact (kept_now (x := (.error (.error .closed), s)) rfl).of_eq fun l => by simp only [checkout, opened]
  | some o =>
    cases picked : o.pool.checkout (s.server.isClosed s.now) with
    | mk pick pool =>
      simp only [checkoutWaits, opened, picked]
      cases pick with
      | reuse link =>
        exact (kept_now (x := (.ok link, s.setPool pool)) rfl).of_eq fun l => by
          simp only [checkout, opened, picked]
      | full => exact (kept_stall s).of_eq fun l => by simp only [checkout, opened, picked]
      | connect =>
        have connected : s.Kept (fun l => (s.setPool pool).connect l) s.connectWaits :=
          (kept_connect (s := s.setPool pool) past).of_clock rfl
        refine (connected.map (fun _ _ => rfl) (g := fun r t => t.pooled r) fun r t => ?_).of_eq fun l => ?_
        · cases r <;> rfl
        · simp only [checkout, opened, picked]
          split <;> rename_i e <;> rw [e] <;> rfl

theorem kept_prepare (past : s.server.Past s.now) (link : Nat) (sql : String) :
    s.Kept (fun l => s.prepare l link sql) (s.askWaits link (.prepare sql)) := by
  refine ((kept_ask past link (.prepare sql)).map (fun _ _ => rfl) (g := fun r t => (.ok (planIn r), t))
    fun _ _ => rfl).of_eq fun l => ?_
  simp only [prepare]
  obtain ⟨_ | _ | content, t⟩ := s.ask l link (.prepare sql)
  · rfl
  · rfl
  · cases content <;> rfl

theorem kept_run (past : s.server.Past s.now) (b : Begun) (values : List Param) :
    s.Kept (fun l => s.run l b.ready.link b.ready.statement values) (s.runWaits b values) := by
  cases bound : bindValues b.ready.statement values with
  | error fault =>
    simp only [runWaits, bound]
    exact (kept_now (x := (.ok (.error fault), s)) rfl).of_eq fun l => by simp only [run, bound]
  | ok raw =>
    simp only [runWaits, bound]
    refine ((kept_ask past b.ready.link (.run b.ready.statement raw)).map (fun _ _ => rfl)
      (g := fun r t => (.ok (feedIn r), t)) fun _ _ => rfl).of_eq fun l => ?_
    simp only [run, bound]
    obtain ⟨_ | _ | content, t⟩ := s.ask l b.ready.link (.run b.ready.statement raw)
    · rfl
    · rfl
    · cases content <;> rfl

theorem kept_prepareFresh (past : s.server.Past s.now) (link : Nat) (isPooled : Bool) (source : Source)
    (sql : String) :
    s.Kept (fun l => s.prepareFresh l link isPooled source sql) (s.askWaits link (.prepare sql)) := by
  refine ((kept_prepare past link sql).map (fun _ _ => rfl) (g := fun r t =>
    ((callerResult r).map fun p => ⟨link, isPooled, p, source, .none⟩, t)) fun _ _ => rfl).of_eq fun l => ?_
  simp only [prepareFresh]
  split <;> rename_i e <;> rw [e]

theorem kept_prepareLabeled (past : s.server.Past s.now) (generation : Nat) (c : StatementCache)
    (link : Nat) (label sql : String) :
    s.Kept (fun l => s.prepareLabeled l generation c link label sql) (s.prepareLabeledWaits c link label sql) := by
  cases sought : c.seek link label sql with
  | mk result c' =>
    cases result with
    | error e =>
      simp only [prepareLabeledWaits, sought]
      exact (kept_now (x := (.error (.error e), s.setCache c')) rfl).of_eq fun l => by
        simp only [prepareLabeled, sought]
    | ok found =>
      cases plan : found.plan with
      | some p =>
        simp only [prepareLabeledWaits, sought, plan, Option.isSome_some, ↓reduceIte]
        exact (kept_now (x := (.ok ⟨link, true, p, if found.reportsHit link c' c' then .hit else .miss,
          some (generation, label)⟩, s.setCache c')) rfl).of_eq fun l => by
            simp only [prepareLabeled, sought, plan]
      | none =>
        simp only [prepareLabeledWaits, sought, plan, Option.isSome_none, Bool.false_eq_true, ↓reduceIte]
        have sent : s.Kept (fun l => (s.setCache c').prepare l link sql) (s.askWaits link (.prepare sql)) :=
          (kept_prepare (s := s.setCache c') past link sql).of_clock rfl
        let ready (kept : StatementCache) (p : Prepared) : Ready :=
          ⟨link, true, p, if found.reportsHit link c' kept then .hit else .miss, some (generation, label)⟩
        refine (sent.map (fun _ _ => rfl) (g := fun r t =>
          ((callerResult r).map (ready (c'.settle link label found r)),
            t.setCache (c'.settle link label found r))) fun _ _ => rfl).of_eq fun l => ?_
        simp only [prepareLabeled, sought, plan]
        split <;> rename_i e <;> rw [e]

theorem kept_prepareOn (past : s.server.Past s.now) (label : Option String) (link : Nat) (sql : String) :
    s.Kept (fun l => s.prepareOn l label link sql) (s.prepareOnWaits label link sql) := by
  have fresh := kept_prepareFresh past link true .bypass sql
  simp only [prepareOn, prepareOnWaits, Session.cache?]
  cases label with
  | none => exact fresh
  | some label =>
    cases opened : s.opened with
    | none => exact fresh
    | some o =>
      cases cached : o.cache with
      | none => simpa only [cached, Option.bind_some] using fresh
      | some c => simpa only [cached, Option.bind_some] using kept_prepareLabeled past o.generation c link label sql

theorem kept_preparePooled (past : s.server.Past s.now) (label : Option String) (sql : String) :
    s.Kept (fun l => s.preparePooled l label sql) (s.preparePooledWaits label sql) := by
  have returned {t : Session} {link : Nat} {f : Limits → Except Halt Ready × Session}
      {waits : List (Option Instant)} (kept : t.Kept f waits) : t.Kept (fun l => unlessReady link (f l)) waits := by
    refine (kept.map (k := fun _ t => t.release link) (fun _ _ => rfl)
      (g := fun ready t => (.ok ready, t)) fun _ _ => rfl).of_eq fun l => ?_
    cases f l with
    | mk result u => cases result <;> rfl
  refine ((kept_checkout past).bind (fun _ _ => rfl)
    (g := fun link t l => unlessReady link (t.prepareOn l label link sql)) fun link t out => ?_).of_eq
      fun l => ?_
  · have later : t.server.Past t.now := by
      have := (waited_checkout s .free).past past
      rwa [out] at this
    exact returned (kept_prepareOn later label link sql)
  · simp only [preparePooled]
    split <;> rename_i e <;> rw [e]
    rfl

end RowMapper.Session
