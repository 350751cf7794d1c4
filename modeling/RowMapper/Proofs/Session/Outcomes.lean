import RowMapper.Proofs.Session.Limited

/-!
What decides the outcome of a call: the first of its stages that is not gone through within the limits.
-/
namespace RowMapper

universe u

def Account.plain : Use → Account
  | .count => .count .count
  | .read reader state => .read reader state fun x => .state x.1 x.2
  | .drop => .drop .done

def Account.refusal (h : Halt) : Account → Returned
  | .count give => give (.error h)
  | .read _ state give => give (state, .error h)
  | .drop give => give (.error h)

theorem Account.Passes.refusal {a : Account} (h : a.Passes) (halt : Halt) :
    (a.refusal halt).halt? = some halt := by
  cases a with
  | count give => exact h halt
  | read reader state give => exact h state halt
  | drop give => exact h halt

theorem passes_plain (use : Use) : (Account.plain use).Passes := by
  cases use with
  | count => exact fun _ => rfl
  | read reader state => exact fun _ _ => rfl
  | drop => exact fun _ => rfl

theorem use_plain (use : Use) : (Account.plain use).use = use := by
  cases use <;> rfl

def Cursor.bare (c : Cursor) : Cursor := c.within .free

namespace Session

def outcome (s : Session) (c : Call) : Invocation → Returned × Session
  | .record t o => s.operate c t o
  | .statement sql values use => s.account c .none sql values (.plain use)

theorem outcome_account {i : Invocation} {p : Planned} (h : i.planned? = some p) :
    ∃ a : Account, a.Passes ∧ a.use = p.use ∧ ∀ (s : Session) (c : Call),
      s.outcome c i = s.account c p.usual p.sql p.values a := by
  cases i with
  | record t o =>
    simp only [Invocation.planned?] at h
    split at h
    · rename_i d drafted
      obtain rfl := Option.some.inj h
      exact operate_account drafted
    · cases h
  | statement sql values use =>
    obtain rfl := Option.some.inj h
    exact ⟨.plain use, passes_plain use, use_plain use, fun _ _ => rfl⟩

theorem outcome_unplanned {i : Invocation} (h : i.planned? = .none) :
    ∃ returned, ∀ (s : Session) (c : Call), s.outcome c i = (returned, s.finish c.callback) := by
  cases i with
  | statement sql values use => cases h
  | record t o =>
    cases drafted : o.draft? t with
    | error e => exact ⟨_, operate_failed drafted⟩
    | ok draft =>
      cases draft with
      | none => exact ⟨_, operate_idle drafted⟩
      | some d => simp [Invocation.planned?, drafted] at h

def followed (s : Session) (b : Begun) (values : List Param) : Account → Returned × Session
  | .count give => (give (s.executeReady b values).1, (s.executeReady b values).2)
  | .read reader state give => readAll reader state give (s.queryReady b values)
  | .drop give => dropAll give (s.queryReady b values)

theorem account_eq (s : Session) (c : Call) (usual : Option String) (sql : String) (values : List Param)
    (a : Account) :
    s.account c usual sql values a =
      match s.begin c usual sql values.length with
      | (.ok b, t) => t.followed b values a
      | (.error h, t) => (a.refusal h, t) := by
  cases a <;> simp only [account, execute_eq, query_eq] <;>
    obtain ⟨_ | _, t⟩ := s.begin c usual sql values.length <;> rfl

variable {s : Session} {config : Config} {among : Limits → Prop} {c : Call} {usual : Option String}
  {sql : String} {values : List Param} {ctx : Context}

theorem staged_followed (past : s.server.Past s.now) (b : Begun) (values : List Param) {a : Account}
    (passes : a.Passes) (current : ∀ l, among l → l.Current s.clock) :
    Staged Returned.halt? among s.clock (fun l => s.followed (b.within l) values a)
      (s.useStages b values a.use) := by
  cases a with
  | count give =>
    refine (staged_executeReady past b values current).map give fun y h halted => ?_
    obtain _ | _ := y
    · exact Option.some.inj halted ▸ passes _
    · cases halted
  | read reader state give =>
    have staged := staged_queryReady past b values current (fun h t => (give (state, .error h), t))
      (fun h _ => passes state h) (fun _ _ => rfl)
      (g := fun cursor t => (give (t.consume cursor reader state).1, (t.consume cursor reader state).2))
      (r := fun feed t => [feed.readingWaits reader 0 t.now 0 feed.rows state]) fun feed t later => ?_
    · refine staged.of_eq fun l => ?_
      simp only [followed]
      obtain ⟨_ | _, t⟩ := s.queryReady (b.within l) values <;> rfl
    · -- The rows are read at once, on the same clock; what is expected of the limits still holds there.
      have clock := clock_openCursor t feed b
      have waits : t.waits = (t.openCursor feed b).2.waits := (congrArg Prod.snd clock).symm
      have alert (l : Limits) (hl : among l ∧ l.Current t.clock) : l.Alert (t.openCursor feed b).2.waits :=
        waits ▸ (current l hl.1).alert later
      have read := staged_consume (t.openCursor feed b).2 ⟨t.server.tickets, feed, b⟩ reader state
        fun l hl _ => alert l hl
      rw [clock, show (t.openCursor feed b).2.now = t.now from congrArg Prod.fst clock] at read
      refine (read.map give fun y h halted => ?_).underway
      obtain ⟨final, _ | _⟩ := y
      · exact Option.some.inj halted ▸ passes _ _
      · cases halted
  | drop give =>
    have staged := staged_queryReady past b values current (fun h t => (give (.error h), t))
      (fun h _ => passes h) (fun _ _ => rfl) (g := fun cursor t => (give (.ok ()), t.discard cursor))
      (r := fun _ _ => []) fun feed t _ =>
        underway_now ((now_discard _ _).trans (congrArg Prod.fst (clock_openCursor t feed b)))
    rw [thereafter_nil] at staged
    refine staged.of_eq fun l => ?_
    simp only [followed]
    obtain ⟨_ | _, t⟩ := s.queryReady (b.within l) values <;> rfl

theorem useStages_within (s : Session) (b : Begun) (l : Limits) (values : List Param) (use : Use) :
    s.useStages (b.within l) values use = s.useStages b values use := by
  cases use <;> rfl

def Timely (s : Session) (signal : Option Signal) : Prop := ∀ g, signal = some g → g.IsTimely s.clock

/-- Limits of a call at a session, with any timeout and with any signal that was set up to now. -/
def Timed (s : Session) (c : Call) (l : Limits) : Prop :=
  ∃ timeout signal, l = s.limitsOf (c.timed timeout signal) ∧ s.Timely signal

theorem Timed.current {l : Limits} (h : s.Timed c l) (patient : c.patience = .none)
    (unfired : l.isRefused s.now s.waits = false) : l.Current s.clock := by
  obtain ⟨timeout, signal, rfl, timely⟩ := h
  have limits : s.limitsOf (c.timed timeout signal) =
      .ofTimeout s.clock.1 (timeout <|> s.config.queryTimeout) signal .none :=
    congrArg (Limits.ofTimeout _ _ _) patient
  rw [limits] at unfired ⊢
  exact Limits.current_ofTimeout timely unfired

theorem staged_begin {ρ : Type u} {halt? : ρ → Option Halt} {m : Nat} (regular : s.Regular config)
    (patient : c.patience = .none) (connected : s.lacksConnection c = false)
    (answer : s.answered (s.asked c usual sql m) = .ok ctx) (out : Halt → Session → ρ × Session)
    (halts : ∀ e t, halt? (out e t).1 = some e) (quick : ∀ e t, (out e t).2.now = t.now)
    {g : Begun → Session → ρ × Session} {r : Begun → Session → List (List (Option Instant))}
    (next : ∀ (b : Begun) t, t.server.Past t.now →
      Underway halt? (fun l => l.Current t.clock) t.clock (fun l => g (b.within l) t) []
        (r (b.within .free) t)) :
    ∃ x, ∀ timeout signal, s.Timely signal →
      Decides halt? x
        ((s.limitsOf (c.timed timeout signal)).throughStages s.clock
          ((s.afterAsking (s.asked c usual sql m)).readyWaits c (c.label <|> usual) ctx.execSql ::
            thereafter ((s.afterAsking (s.asked c usual sql m)).beginWithin c usual ctx .free) r))
        (match s.begin (c.timed timeout signal) usual sql m with
        | (.ok b, t) => g b t
        | (.error h, t) => out h t) := by
  have staged := staged_beginWithin (regular.afterAsking (s.asked c usual sql m)) c usual ctx
    (fun l (hl : (s.afterAsking (s.asked c usual sql m)).Timed c l) unfired => hl.current patient unfired)
    out halts quick next
  refine ⟨match (s.afterAsking (s.asked c usual sql m)).beginWithin c usual ctx .free with
    | (.ok b, t) => g b t
    | (.error h, t) => out h t, fun timeout signal timely => ?_⟩
  rw [begin_within connected answer]
  exact staged (s.limitsOf (c.timed timeout signal)) ⟨timeout, signal, rfl, timely⟩

theorem staged_account (regular : s.Regular config) (patient : c.patience = .none)
    (connected : s.lacksConnection c = false) {p : Planned}
    (answer : s.answered (s.contextBefore c p) = .ok ctx) {a : Account} (passes : a.Passes) (use : a.use = p.use) :
    ∃ x, ∀ timeout signal, s.Timely signal →
      Decides Returned.halt? x
        ((s.limitsOf (c.timed timeout signal)).throughStages s.clock (s.stagesOf c p ctx))
        (s.account (c.timed timeout signal) p.usual p.sql p.values a) := by
  simp only [account_eq, stagesOf, ← use]
  exact staged_begin regular patient connected answer (fun h t => (a.refusal h, t))
    (fun h _ => passes.refusal h) (fun _ _ => rfl) fun b t past => by
      rw [useStages_within]
      exact (staged_followed past b p.values passes fun _ current => current).underway

def bared (y : Except Halt Cursor × Session) : Except Halt Cursor × Session := (y.1.map Cursor.bare, y.2)

theorem staged_bared (past : s.server.Past s.now) (b : Begun) (values : List Param)
    (current : ∀ l, among l → l.Current s.clock) :
    Staged haltOf among s.clock (fun l => bared (s.queryReady (b.within l) values))
      (s.useStages b values .drop) := by
  have halts (e : Halt) (t : Session) : haltOf ((Except.error e, t) : Except Halt Cursor × Session).1 = some e := rfl
  have staged := staged_queryReady past b values current (fun h t => (.error h, t)) halts (fun _ _ => rfl)
    (g := fun cursor t => (Except.ok cursor.bare, t)) (r := fun _ _ => []) fun feed t _ =>
      underway_now (congrArg Prod.fst (clock_openCursor t feed b))
  rw [thereafter_nil] at staged
  refine staged.of_eq fun l => ?_
  simp only [bared]
  obtain ⟨_ | _, t⟩ := s.queryReady (b.within l) values <;> rfl

theorem bared_query (s : Session) (c : Call) (usual : Option String) (sql : String) (values : List Param) :
    bared (s.query c usual sql values) =
      match s.begin c usual sql values.length with
      | (.ok b, t) => bared (t.queryReady b values)
      | (.error h, t) => (.error h, t) := by
  rw [query_eq]
  obtain ⟨_ | _, t⟩ := s.begin c usual sql values.length <;> rfl

theorem staged_query (regular : s.Regular config) (patient : c.patience = .none)
    (connected : s.lacksConnection c = false)
    (answer : s.answered (s.asked c usual sql values.length) = .ok ctx) :
    ∃ x, ∀ timeout signal, s.Timely signal →
      Decides haltOf x
        ((s.limitsOf (c.timed timeout signal)).throughStages s.clock (s.stagesOf c ⟨usual, sql, values, .drop⟩ ctx))
        (bared (s.query (c.timed timeout signal) usual sql values)) := by
  simp only [bared_query]
  exact staged_begin regular patient connected answer (fun h t => (Except.error h, t)) (fun _ _ => rfl)
    (fun _ _ => rfl) (g := fun b t => bared (t.queryReady b values)) fun b t past => by
      rw [useStages_within]
      exact (staged_bared past b values fun _ current => current).underway

/-- Nothing was sent, no connection was taken out of the pool, and no label was bound. -/
structure Untouched (s t : Session) : Prop where
  server : t.server = s.server
  opened : t.opened = s.opened
  log : ∃ heard : List Event, t.log = s.log ++ heard ∧ ∀ w, .wire w ∉ heard

theorem Untouched.trans {t u : Session} (h : Untouched s t) (k : Untouched t u) : Untouched s u := by
  obtain ⟨heard, hs, silent⟩ := h.log
  obtain ⟨more, hm, silent'⟩ := k.log
  refine ⟨k.server.trans h.server, k.opened.trans h.opened, heard ++ more, ?_, fun w hw => ?_⟩
  · rw [hm, hs, List.append_assoc]
  · exact (List.mem_append.mp hw).elim (silent w) (silent' w)

theorem untouched_note {events : List Event} (s : Session) (silent : ∀ w, .wire w ∉ events) :
    Untouched s (s.note events) :=
  ⟨rfl, rfl, events, rfl, silent⟩

theorem untouched_afterAsking (s : Session) (ctx : Context) : Untouched s (s.afterAsking ctx) :=
  ⟨rfl, rfl, (s.heardBefore ctx).map .hook, rfl, by simp⟩

theorem untouched_complete (s : Session) (r : Run) (outcome : Outcome) :
    Untouched s (s.complete r outcome) := by
  have finished (t : Session) : Untouched t (t.finish r.callback) := untouched_note t (by simp)
  simp only [complete]
  split
  · exact finished s
  · rename_i h _
    have told : Untouched s ({ s with hook := some (h.after r.context ⟨s.now - r.startedAt⟩ outcome).1 }.note
        ((h.after r.context ⟨s.now - r.startedAt⟩ outcome).2.map .hook)) :=
      ⟨rfl, rfl, _, rfl, by simp⟩
    exact told.trans (finished _)

theorem begin_refused {m : Nat} (connected : s.lacksConnection c = false)
    (answer : s.answered (s.asked c usual sql m) = .ok ctx)
    (fired : (s.limitsOf c).isRefused s.now s.waits = true) :
    (s.begin c usual sql m).1 = .error (.error .cancelled) ∧ Untouched s (s.begin c usual sql m).2 := by
  have begun := begin_within connected answer c.timeout c.signal
  have same : c.timed c.timeout c.signal = c := rfl
  let u := s.afterAsking (s.asked c usual sql m)
  have refused (label : Option String) (text : String) :
      u.prepareStage c (s.limitsOf c) label text = (.error (.error .cancelled), u) := if_pos fired
  rw [same, beginWithin, refused] at begun
  rw [begun]
  exact ⟨rfl, (untouched_afterAsking s _).trans (untouched_complete u _ _)⟩

theorem limits_of_begin {m : Nat} {b : Begun} {u : Session}
    (h : s.begin c usual sql m = (.ok b, u)) : b.run.limits = s.limitsOf c := by
  have begun := begin_begins s c usual sql m
  rw [h] at begun
  cases begun with
  | ready _ asked _ =>
    rw [askHook_eq] at asked
    exact (Prod.mk.inj asked).2 ▸ limitsOf_afterAsking s c _

theorem limits_of_query {cursor : Cursor} {u : Session}
    (h : s.query c usual sql values = (.ok cursor, u)) : cursor.begun.run.limits = s.limitsOf c := by
  rw [query_eq] at h
  cases e : s.begin c usual sql values.length with
  | mk result t =>
    rw [e] at h
    cases result with
    | error halt => cases h
    | ok b =>
      have opened := told_queryReady t b values
      simp only at h
      rw [h] at opened
      rw [opened.1, limits_of_begin e]

theorem alert_of_unrefused {l : Limits} (patient : l.patience = .none)
    (seen : ∀ t set, l.signal = some (.due t set) → set < s.waits)
    (unfired : l.isRefused s.now s.waits = false) : l.Alert s.waits := by
  refine ⟨patient, fun g hg => ?_⟩
  cases g with
  | never => exact .inl rfl
  | already => simp [Limits.isRefused, hg, Signal.hasFired] at unfired
  | due t set => exact .inr ⟨t, set, rfl, seen t set hg⟩

def timeoutOf (s : Session) (timeout : Option Duration) : Option Duration := timeout <|> s.config.queryTimeout

theorem deadline_timed (s : Session) (c : Call) (timeout : Option Duration) (signal : Option Signal) :
    (s.limitsOf (c.timed timeout signal)).deadline = (s.timeoutOf timeout).map fun d => (s.now + d.nanos, d) :=
  rfl

theorem relaxes_timed {timeout timeout' : Option Duration} (signal : Option Signal)
    (raised : ∀ d', s.timeoutOf timeout' = some d' →
      ∃ d, s.timeoutOf timeout = some d ∧ d.nanos ≤ d'.nanos) :
    Limits.Relaxes (s.limitsOf (c.timed timeout signal)) (s.limitsOf (c.timed timeout' signal)) := by
  refine ⟨rfl, fun t' d' h => ?_⟩
  obtain ⟨e', set', same'⟩ := Option.map_eq_some_iff.mp h
  obtain ⟨rfl, rfl⟩ := Prod.mk.inj same'
  obtain ⟨d, set, le⟩ := raised e' set'
  exact ⟨s.now + d.nanos, d, by rw [deadline_timed, set]; rfl, Nat.add_le_add_left le _⟩

theorem timeout_timed {timeout : Option Duration} {signal : Option Signal}
    {stages : List (List (Option Instant))} {d : Duration}
    (h : (s.limitsOf (c.timed timeout signal)).throughStages s.clock stages =
      .error (.error (.timeout d))) : s.timeoutOf timeout = some d := by
  obtain ⟨t, timed⟩ := Limits.throughStages_timeout h
  obtain ⟨e, set, same⟩ := Option.map_eq_some_iff.mp timed
  obtain ⟨-, rfl⟩ := Prod.mk.inj same
  exact set

def Timeable (s : Session) (timeout : Option Duration) : Prop :=
  ∀ d, s.timeoutOf timeout = some d → s.now + d.nanos ≤ Instant.last

/-- A call that the hook lets pass goes through stages, whose waits are those for the server, for the pool and for its
rows. What it gives back is decided by the first wait that does not end in time; if there is none, it is over when the
last result has come. A signal that has fired before leaves everything untouched. Putting off the deadline changes
nothing but a timeout. What holds for the call holds for its rows when they are left to a cursor and read at some later
time. -/
theorem outcome_decided_by_stages (reached : Reachable config s) (patient : c.patience = .none)
    (connected : s.lacksConnection c = false) :
    (∀ i p ctx, i.planned? = some p → s.answered (s.contextBefore c p) = .ok ctx →
      (∃ x, ∀ timeout signal, s.Timeable timeout → s.Timely signal →
        Decides Returned.halt? x
            ((s.limitsOf (c.timed timeout signal)).throughStages s.clock (s.stagesOf c p ctx))
            (s.outcome (c.timed timeout signal) i) ∧
          ∀ d, (s.limitsOf (c.timed timeout signal)).throughStages s.clock (s.stagesOf c p ctx) =
            .error (.error (.timeout d)) → s.timeoutOf timeout = some d) ∧
      ((s.limitsOf c).isRefused s.now s.waits = true →
        (s.outcome c i).1.halt? = some (.error .cancelled) ∧ Untouched s (s.outcome c i).2) ∧
      ∀ timeout timeout' signal, s.Timeable timeout → s.Timeable timeout' → s.Timely signal →
        (∀ d', s.timeoutOf timeout' = some d' → ∃ d, s.timeoutOf timeout = some d ∧ d.nanos ≤ d'.nanos) →
        (∃ d, s.timeoutOf timeout = some d ∧
          (s.outcome (c.timed timeout signal) i).1.halt? = some (.error (.timeout d))) ∨
        ((s.outcome (c.timed timeout' signal) i).1.halt? = (s.outcome (c.timed timeout signal) i).1.halt? ∧
          ((s.outcome (c.timed timeout signal) i).1.halt? = .none →
            s.outcome (c.timed timeout' signal) i = s.outcome (c.timed timeout signal) i))) ∧
    (∀ usual sql values ctx, s.answered (s.asked c usual sql values.length) = .ok ctx →
      (∃ x, ∀ timeout signal, s.Timeable timeout → s.Timely signal →
        Decides haltOf x
          ((s.limitsOf (c.timed timeout signal)).throughStages s.clock
            (s.stagesOf c ⟨usual, sql, values, .drop⟩ ctx))
          (bared (s.query (c.timed timeout signal) usual sql values))) ∧
      ((s.limitsOf c).isRefused s.now s.waits = true →
        (s.query c usual sql values).1 = .error (.error .cancelled) ∧
          Untouched s (s.query c usual sql values).2) ∧
      ∀ cursor u, s.query c usual sql values = (.ok cursor, u) →
        cursor.begun.run.limits = s.limitsOf c) ∧
    (∀ (σ : Type) (v : Session) (cursor : Cursor) (reader : Reader σ) (state : σ),
      (∀ l : Limits, l.patience = .none → (∀ t set, l.signal = some (.due t set) → set < v.waits) →
        Decides (fun y : σ × Except Halt Nat => haltOf y.2) (v.consume (cursor.within .free) reader state)
          (l.throughStages v.clock [cursor.feed.readingWaits reader 0 v.now 0 cursor.feed.rows state])
          (v.consume (cursor.within l) reader state)) ∧
      (cursor.begun.run.limits.isRefused v.now v.waits = true →
        (v.consume cursor reader state).1 = (state, .error (.error .cancelled)))) ∧
    ∀ (v : Session) (b : Begun) values, b.run.limits.isRefused v.now v.waits = true →
      v.runStage b values = (.error (.error .cancelled), v) ∧
        v.executeStage b values = (.error (.error .cancelled), v) := by
  have regular := regular_of_reachable reached
  refine ⟨fun i p ctx planned answer => ?_, fun usual sql values ctx answer => ⟨?_, ?_, ?_⟩,
    fun σ v cursor reader state => ⟨?_, fun fired => ?_⟩, fun v b values fired => ?_⟩
  · -- Whatever is called, an account of its one statement is given.
    obtain ⟨a, passes, use, accounts⟩ := outcome_account planned
    obtain ⟨x, decided⟩ := staged_account regular patient connected answer passes use
    simp only [accounts]
    refine ⟨⟨x, fun timeout signal _ timely =>
      ⟨decided timeout signal timely, fun d h => timeout_timed h⟩⟩, fun fired => ?_,
        fun timeout timeout' signal _ _ timely raised => ?_⟩
    · obtain ⟨refused, untouched⟩ := begin_refused connected answer fired
      rw [account_eq]
      cases e : s.begin c p.usual p.sql p.values.length with
      | mk result t =>
        rw [e] at refused untouched
        obtain rfl := refused
        exact ⟨passes.refusal _, untouched⟩
    · rcases (decided timeout signal timely).relaxed (decided timeout' signal timely)
        (Limits.throughStages_relaxed (relaxes_timed signal raised) s.clock _) with ⟨d, spent, ended⟩ | same
      · exact .inl ⟨d, timeout_timed spent, ended⟩
      · exact .inr same
  · obtain ⟨x, decided⟩ := staged_query regular patient connected answer
    exact ⟨x, fun timeout signal _ timely => decided timeout signal timely⟩
  · intro fired
    obtain ⟨refused, untouched⟩ := begin_refused connected answer fired
    rw [query_eq]
    cases e : s.begin c usual sql values.length with
    | mk result t =>
      rw [e] at refused untouched
      obtain rfl := refused
      exact ⟨rfl, untouched⟩
  · exact fun cursor u h => limits_of_query h
  · exact fun l patient seen => staged_consume v cursor reader state
      (fun l (hl : l.patience = .none ∧ ∀ t set, l.signal = some (.due t set) → set < v.waits) unfired =>
        alert_of_unrefused hl.1 hl.2 unfired) l ⟨patient, seen⟩
  · -- The signal is looked at before the first row.
    have unread : v.reading cursor reader state = ⟨state, 0, v.now, .error (.error .cancelled)⟩ := if_pos fired
    rw [consume_eq, unread]
    rfl
  · have unstarted : v.runStage b values = (.error (.error .cancelled), v) := if_pos fired
    exact ⟨unstarted, by rw [executeStage, unstarted]⟩

/-- A server that takes its time: a statement is prepared after 10, begins to answer after 20 more, and has
all its rows after another 10. -/
def slow : Session :=
  .ofPool Config.initial .none (.ofScript [⟨"SELECT", false, .fixed [], [("v", .int8)], [⟨⟨10⟩, .none⟩],
    [{ RunStep.quiet with rows := [[.none], [.none]], delay := ⟨20⟩, rowDelay := ⟨5⟩ }]⟩] [])

def slowReading (timeout : Option Duration) (signal : Option Signal) : Returned × Session :=
  slow.outcome (Call.plain.timed timeout signal) (.statement "SELECT 1" [] (.read Reader.collect []))

def slowPlan : Planned := ⟨.none, "SELECT 1", [], .read Reader.collect []⟩

/-- The first row is there with the answer, at 30, and the second one is waited for. A timeout or a signal before that
ends the reading, and of both at one instant it is the timeout. -/
theorem outcome_decided_by_stages_slow :
    (∃ x, ∀ timeout signal, slow.Timeable timeout → slow.Timely signal →
      Decides Returned.halt? x
        ((slow.limitsOf (Call.plain.timed timeout signal)).throughStages slow.clock
          (slow.stagesOf Call.plain slowPlan (slow.contextBefore Call.plain slowPlan)))
        (slowReading timeout signal)) ∧
    slow.stagesOf Call.plain slowPlan (slow.contextBefore Call.plain slowPlan) =
      [[some 0, some 10], [some 30], [some 35, some 40]] ∧
    slow.Timeable (some ⟨32⟩) ∧
    (slowReading (some ⟨32⟩) .none).1.halt? = some (.error (.timeout ⟨32⟩)) ∧
    (slowReading (some ⟨32⟩) .none).2.now = 32 ∧
    (slowReading (some ⟨40⟩) (some (.due 33 0))).1.halt? = some (.error .cancelled) ∧
    (slowReading (some ⟨37⟩) (some (.due 37 0))).1.halt? = some (.error (.timeout ⟨37⟩)) ∧
    (slowReading (some ⟨40⟩) (some (.due 41 0))).1.halt? = .none ∧
    (slowReading (some ⟨40⟩) (some (.due 41 0))).2.now = 40 := by
  have reached : Reachable Config.initial slow := .ofPool _ _ _
  obtain ⟨x, decided⟩ := ((outcome_decided_by_stages (c := Call.plain) reached rfl rfl).1
    (.statement "SELECT 1" [] (.read Reader.collect [])) slowPlan _ rfl rfl).1
  refine ⟨⟨x, fun timeout signal timeable timely => (decided timeout signal timeable timely).1⟩,
    by decide +kernel, fun d same => ?_, by decide +kernel, by decide +kernel, by decide +kernel,
    by decide +kernel, by decide +kernel, by decide +kernel⟩
  obtain rfl := Option.some.inj same
  decide

end Session

end RowMapper
