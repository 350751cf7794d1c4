import RowMapper.Proofs.Hook.Tallies
import RowMapper.Proofs.Server.Likeness
import RowMapper.Proofs.Session.Caching
import RowMapper.Proofs.Session.Dropping

/-!
A session between calls that are made one after another. Nothing is on its way to the server; what was
run had been prepared on the same connection before; and every plan in the statement cache is what its
connection was given for the text, and would be given again.
-/
namespace RowMapper

def Halt.isLimit : Halt → Bool
  | .error (.timeout _) => true
  | .error .cancelled => true
  | _ => false

/-- A limit ended the call, or it would never have ended. -/
def Halt.isCut : Halt → Bool
  | .dropped => true
  | h => h.isLimit

theorem Halt.isCut_of_isLimit {h : Halt} (limit : h.isLimit = true) : h.isCut = true := by
  cases h with
  | error e => exact limit
  | dropped => rfl

namespace Limits

variable {l : Limits}

theorem isLimit_of_deadline {stop : Instant × Halt} (h : stop ∈ l.deadlineStop) :
    stop.2.isLimit = true := by
  simp only [deadlineStop] at h
  split at h
  · rw [List.mem_singleton.mp h]
    rfl
  · simp at h

theorem isLimit_of_signal {stop : Instant × Halt} (h : stop ∈ l.signalStop) :
    stop.2.isLimit = true := by
  simp only [signalStop] at h
  split at h
  · rw [List.mem_singleton.mp h]
    rfl
  · rw [List.mem_singleton.mp h]
    rfl
  · simp at h

theorem isLimit_of_first? (patient : l.patience = none) {stop : Instant × Halt}
    (h : l.first? = some stop) : stop.2.isLimit = true := by
  have mem := mem_of_earliest h
  rw [patienceStop, patient, List.append_nil] at mem
  rcases List.mem_append.mp mem with mem | mem
  · exact isLimit_of_deadline mem
  · exact isLimit_of_signal mem

theorem isLimit_of_reached? (patient : l.patience = none) {now : Instant} {waits : Nat} {h : Halt}
    (reached : l.reached? now waits = some h) : h.isLimit = true := by
  simp only [reached?, patienceStop, patient] at reached
  split at reached
  · rename_i stop found
    exact Option.some.inj reached ▸ isLimit_of_deadline (List.mem_of_find?_eq_some found)
  · split at reached
    · exact Option.some.inj reached ▸ rfl
    · simp at reached

theorem await_some (patient : l.patience = none) (now t : Instant) :
    (∃ u h, l.await now (some t) = (u, .error h) ∧ h.isLimit = true) ∨
      ∃ u, l.await now (some t) = (u, .ok ()) ∧ max now u = max now t := by
  simp only [await]
  split
  · rename_i past
    exact .inr ⟨now, rfl, by rw [Nat.max_self, Nat.max_eq_left past]⟩
  · cases first : l.first? with
    | none => exact .inr ⟨t, rfl, rfl⟩
    | some stop =>
      obtain ⟨u, h⟩ := stop
      have limit := isLimit_of_first? patient first
      simp only
      split
      · exact .inl ⟨now, h, rfl, limit⟩
      · split
        · exact .inr ⟨t, rfl, rfl⟩
        · exact .inl ⟨u, h, rfl, limit⟩

end Limits

structure Ran where
  link : Nat
  statement : Prepared
  values : List (Option (List UInt8))
  deriving DecidableEq, Repr

def Wire.ran? : Wire → Option Ran
  | .run link p values => some ⟨link, p, values⟩
  | _ => none

def Event.ran? : Event → Option Ran
  | .wire w => w.ran?
  | _ => none

/-- What is run was prepared before, on the same connection. -/
def Founded (log : List Event) : Prop :=
  ∀ (i : Nat) (e : Event) (r : Ran), log[i]? = some e → e.ran? = some r →
    ∃ j < i, log[j]? = some (.wire (.prepare r.link r.statement.sql))

theorem founded_append {log new : List Event} (h : Founded log) (silent : ∀ e ∈ new, e.ran? = none) :
    Founded (log ++ new) := by
  intro i e r he hr
  rw [List.getElem?_append] at he
  split at he
  · rename_i hi
    obtain ⟨j, hj, prepared⟩ := h i e r he hr
    exact ⟨j, hj, by rw [List.getElem?_append_left (Nat.lt_trans hj hi), prepared]⟩
  · rw [silent e (List.mem_of_getElem? he)] at hr
    simp at hr

theorem founded_run {log : List Event} (h : Founded log) {w : Wire} {r : Ran} (ran : w.ran? = some r)
    (prepared : .wire (.prepare r.link r.statement.sql) ∈ log) : Founded (log ++ [.wire w]) := by
  intro i e q he hq
  rw [List.getElem?_append] at he
  split at he
  · rename_i hi
    obtain ⟨j, hj, before⟩ := h i e q he hq
    exact ⟨j, hj, by rw [List.getElem?_append_left (Nat.lt_trans hj hi), before]⟩
  · rename_i hi
    rw [List.getElem?_singleton] at he
    split at he
    · obtain rfl := Option.some.inj he
      obtain rfl := Option.some.inj (ran.symm.trans hq)
      obtain ⟨j, hj, there⟩ := List.mem_iff_getElem.mp prepared
      exact ⟨j, by omega, by rw [List.getElem?_append_left hj, List.getElem?_eq_getElem hj, there]⟩
    · simp at he

/-- The number under which a cursor keeps its connection from taking in anything else. -/
def Cursor.block? (c : Cursor) : Option (Nat × Nat) :=
  if c.feed.isBlocking then some (c.number, c.begun.ready.link) else none

/-- What matters of a cursor: the rows but not their instants, and the connection. -/
def Cursor.gist (c : Cursor) : Feed × Nat × Bool :=
  (c.feed.timeless, c.begun.ready.link, c.begun.ready.isPooled)

namespace Session

def ran (s : Session) : List Ran := s.log.filterMap Event.ran?

/-- What the statement cache, the clock and the tallies of a hook have no part in. -/
structure Gist where
  config : Config
  hook : Option Hook
  opened : Option (Pool × Option String × Option String)
  server : Server.Gist
  ran : List Ran

def gist (s : Session) : Gist :=
  ⟨s.config.set .noCache, s.hook.map Hook.reset, s.opened.map fun o => (o.pool, o.database, o.username),
    s.server.gist, s.ran⟩

def script (s : Session) : List Rule := s.server.gist.script

structure Uncached (s : Session) : Prop where
  cache : s.cache? = .none
  setting : s.config.cacheEnabled = false

/-- A connection has a plan: the text was prepared on it, and the plan is what that comes to. -/
structure HasPlan (s : Session) (link : Nat) (p : Prepared) : Prop where
  sent : .wire (.prepare (link - 1 + 1) p.sql) ∈ s.log
  given : Server.preparing s.script p.sql = .ok p

/-- A session between calls, with cursors whose rows nobody has read yet, the newest first. -/
structure Settled (held : List Cursor) (s : Session) : Prop where
  idle : s.server.Idle
  shut : s.server.ShutBy s.now
  steady : ∀ r ∈ s.script, r.IsSteady
  genuine : ∀ c, s.cache? = some c → ∀ p ∈ c.plans, s.HasPlan p.link p.prepared
  founded : Founded s.log
  blocked : s.blocked = held.filterMap Cursor.block?
  numbered : ∀ c ∈ held, c.number ≤ s.server.tickets
  distinct : (held.map (·.number)).Nodup
  patient : ∀ c ∈ held, c.begun.run.limits.patience = .none

variable {held : List Cursor} {s t : Session} {l : Limits}

theorem HasPlan.later {link : Nat} {p : Prepared} (h : s.HasPlan link p) {events : List Event}
    (log : t.log = s.log ++ events) (script : t.script = s.script) : t.HasPlan link p :=
  ⟨log ▸ List.mem_append_left events h.sent, script ▸ h.given⟩

def after (s : Session) (server : Server) (now : Instant) (seen : Wire) : Session :=
  { s with server := server, now := now, waits := s.waits + 1, log := s.log ++ [.wire seen] }

inductive Asked (s : Session) (l : Limits) (link : Nat) (job : Job) :
    Except Halt (Except ClientFault Content) × Session → Prop where
  | closed : s.server.gist.isClosed link = true → Asked s l link job (.ok (.error .disconnected), s)
  | stalled {h : Halt} {t : Session} : s.server.gist.isClosed link = false →
    s.isBlocked link = true → h.isCut = true → Asked s l link job (.error h, t)
  | limited {h : Halt} {t : Session} : h.isLimit = true → Asked s l link job (.error h, t)
  | answered {start now : Instant} : s.server.gist.isClosed link = false →
    s.isBlocked link = false → s.now ≤ now →
      (s.server.carry (link - 1 + 1) start job).1.answer.time ≤ now →
        Asked s l link job
          (.ok (s.server.carry (link - 1 + 1) start job).1.answer.content,
            s.after (s.server.taken (link - 1) start job) now
              (s.server.carry (link - 1 + 1) start job).2.1)

theorem awaitTicket_one {a : Server} {i : Nat} {k : Link} {job : Job} (patient : l.patience = .none)
    (sent : s.server = (a.send s.now (i + 1) job).2) (idle : a.Idle) (there : a.links[i]? = some k)
    (isOpen : k.closedAt = .none) :
    (∃ h t, s.awaitTicket l a.tickets = (.error h, t) ∧ h.isLimit = true) ∨
      ∃ start now, s.now ≤ now ∧ (a.carry (i + 1) start job).1.answer.time ≤ now ∧
        s.awaitTicket l a.tickets = (.ok (a.carry (i + 1) start job).1.answer.content,
          s.after (a.taken i start job) now (a.carry (i + 1) start job).2.1) := by
  simp only [awaitTicket]
  cases reached : l.reached? s.now s.waits with
  | some h => exact .inl ⟨h, s, rfl, Limits.isLimit_of_reached? patient reached⟩
  | none =>
    have served := Server.serve_one idle there isOpen s.now job (l.first?.map (·.1))
    simp only [sent, served]
    by_cases past : Server.isPast (l.first?.map (·.1)) (max s.now k.freeAt) = true
    · -- The limit comes before the request is taken up.
      cases first : l.first? with
      | none => simp [first, Server.isPast] at past
      | some stop =>
        rw [first] at past
        simp only [Option.map_some] at past
        simp only [Option.map_some, if_pos past, Option.map_none, Limits.await, first]
        exact .inl ⟨_, _, rfl, Limits.isLimit_of_first? patient first⟩
    · simp only [if_neg past, Option.map_some]
      have waited := Limits.await_some patient s.now
        (a.carry (i + 1) (max s.now k.freeAt) job).1.answer.time
      rcases waited with ⟨u, h, e, limit⟩ | ⟨u, e, late⟩
      · simp only [noteWires, note, e]
        exact .inl ⟨h, _, rfl, limit⟩
      · simp only [noteWires, note, e, late]
        exact .inr ⟨max s.now k.freeAt, _, Nat.le_max_left _ _, Nat.le_max_right _ _, rfl⟩

theorem stall_cut {α : Type} (s : Session) (patient : l.patience = .none) :
    ∃ h t, s.stall (α := α) l = (.error h, t) ∧ h.isCut = true := by
  simp only [stall, pass, Limits.await]
  cases first : l.first? with
  | none => exact ⟨_, _, rfl, rfl⟩
  | some stop => exact ⟨_, _, rfl, Halt.isCut_of_isLimit (Limits.isLimit_of_first? patient first)⟩

theorem Settled.asked (h : Settled held s) (patient : l.patience = .none) (link : Nat) (job : Job) :
    Asked s l link job (s.ask l link job) := by
  have shut := Server.isClosed_gist h.shut link
  cases isClosed : s.server.gist.isClosed link with
  | true =>
    simp only [ask, shut, isClosed, ↓reduceIte]
    exact .closed isClosed
  | false =>
    obtain ⟨k, there, isOpen⟩ : ∃ k, s.server.links[link - 1]? = some k ∧ k.closedAt = .none := by
      simp only [Server.Gist.isClosed, Server.gist, List.getElem?_map] at isClosed
      cases there : s.server.links[link - 1]? with
      | none => simp [there] at isClosed
      | some k =>
        refine ⟨k, rfl, ?_⟩
        simpa [there] using isClosed
    simp only [ask, shut, isClosed, Bool.false_eq_true, ↓reduceIte]
    split
    · rename_i blocked
      obtain ⟨halt, t, e, cut⟩ := stall_cut (α := Except ClientFault Content)
        { s with server := (s.server.send s.now link job).2 } patient
      rw [e]
      exact .stalled isClosed blocked cut
    · rename_i free
      -- A connection is known by its number, which is one more than its place.
      have sent : s.server.send s.now link job = s.server.send s.now (link - 1 + 1) job := rfl
      rcases awaitTicket_one (s := { s with server := (s.server.send s.now link job).2 }) patient
          (congrArg Prod.snd sent) h.idle there isOpen with
        ⟨halt, t, e, limit⟩ | ⟨start, now, later, answered, e⟩
      · exact e ▸ .limited limit
      · exact e ▸ .answered isClosed (Bool.eq_false_iff.mpr free) later answered

structure Quietly (s t : Session) : Prop where
  gist : t.gist = s.gist
  server : t.server = s.server
  uncached : s.Uncached → t.Uncached
  keeps : ∀ held, Settled held s → Settled held t

theorem Quietly.ran (h : Quietly s t) : t.ran = s.ran := congrArg Gist.ran h.gist

theorem Quietly.refl (s : Session) : Quietly s s := ⟨rfl, rfl, id, fun _ h => h⟩

theorem Quietly.trans {u : Session} (h : Quietly s t) (k : Quietly t u) : Quietly s u :=
  ⟨k.gist.trans h.gist, k.server.trans h.server, k.uncached ∘ h.uncached,
    fun held settled => k.keeps held (h.keeps held settled)⟩

theorem filterMap_silent {events : List Event} (silent : ∀ e ∈ events, e.ran? = .none) :
    events.filterMap Event.ran? = [] :=
  List.filterMap_eq_nil_iff.mpr silent

theorem Settled.of_frame (h : Settled held s) (server : t.server = s.server)
    (blocked : t.blocked = s.blocked) (later : s.now ≤ t.now)
    (cache : ∀ c, t.cache? = some c → ∀ p ∈ c.plans, s.HasPlan p.link p.prepared)
    {events : List Event} (log : t.log = s.log ++ events) (silent : ∀ e ∈ events, e.ran? = .none) :
    Settled held t where
  idle := server ▸ h.idle
  shut := fun k hk u hu => Nat.le_trans (h.shut k (server ▸ hk) u hu) later
  steady := by
    rw [script, server]
    exact h.steady
  genuine := fun c hc p hp => (cache c hc p hp).later log (by rw [script, server, script])
  founded := log ▸ founded_append h.founded silent
  blocked := blocked.trans h.blocked
  numbered := server ▸ h.numbered
  distinct := h.distinct
  patient := h.patient

theorem quietly_note (s : Session) {events : List Event} (silent : ∀ e ∈ events, e.ran? = .none) :
    Quietly s (s.note events) where
  gist := by simp [Session.gist, note, Session.ran, filterMap_silent silent]
  server := rfl
  uncached := fun h => ⟨h.cache, h.setting⟩
  keeps := fun _ h => h.of_frame rfl rfl (Nat.le_refl _) h.genuine rfl silent

theorem quietly_finish (s : Session) (callback : Option Nat) : Quietly s (s.finish callback) :=
  quietly_note s fun e he => by
    obtain ⟨n, -, rfl⟩ := List.mem_map.mp he
    rfl

theorem quietly_advance (h : s.server.Idle) (t : Instant) : Quietly s (s.advance t) := by
  have served := Server.serve_of_idle h .none (some (max s.now t))
  have there : s.advance t = { s with now := max s.now t, waits := s.waits + 1 } := by
    simp only [advance, served, noteWires, note, List.map_nil, List.append_nil]
  rw [there]
  refine ⟨rfl, rfl, fun none => ⟨none.cache, none.setting⟩, fun held k => ?_⟩
  exact k.of_frame rfl rfl (Nat.le_max_left _ _) k.genuine (List.append_nil _).symm (by simp)

theorem gist_setCache (s : Session) (c : StatementCache) : (s.setCache c).gist = s.gist := by
  simp only [Session.gist, setCache, updateOpened, Session.ran, Option.map_map]
  rfl

theorem Settled.setCache (h : Settled held s) {c : StatementCache}
    (genuine : ∀ p ∈ c.plans, s.HasPlan p.link p.prepared) : Settled held (s.setCache c) := by
  refine h.of_frame rfl rfl (Nat.le_refl _) (fun d hd => ?_) (List.append_nil _).symm (by simp)
  rw [cache?_setCache] at hd
  split at hd
  · exact Option.some.inj hd ▸ genuine
  · simp at hd

theorem quietly_setCache (s : Session) {c c' : StatementCache} (cache : s.cache? = some c)
    (fewer : c'.plans ⊆ c.plans) : Quietly s (s.setCache c') :=
  ⟨gist_setCache s c', rfl, fun none => by simp [none.cache] at cache,
    fun _ h => h.setCache fun p hp => h.genuine c cache p (fewer hp)⟩

theorem plans_invalidate (c : StatementCache) (label : String) :
    (c.invalidate label).2.plans ⊆ c.plans := by
  simp only [StatementCache.invalidate]
  split
  · exact List.filter_sublist.subset
  · exact List.Subset.refl _

theorem quietly_invalidate (s : Session) (label : String) : Quietly s (s.invalidate label).2 := by
  simp only [invalidate]
  split
  · exact .refl s
  · rename_i c hc
    refine (quietly_setCache s (cache_eq_ok.mp hc) (plans_invalidate c label)).trans
      (quietly_note _ fun e he => ?_)
    split at he
    · rw [List.mem_singleton.mp he]
      rfl
    · simp at he

theorem quietly_dropStale (s : Session) (cached : Option (Nat × String)) (e : Error) :
    Quietly s (s.dropStale cached e) := by
  simp only [dropStale]
  split
  · exact .refl s
  · split
    · exact quietly_invalidate s _
    · exact .refl s

theorem quietly_complete (s : Session) (r : Run) (outcome : Outcome) :
    Quietly s (s.complete r outcome) := by
  cases h : s.hook with
  | none =>
    simp only [complete, h]
    exact quietly_finish s r.callback
  | some hook =>
    have told : Quietly s
        { s with hook := some (hook.after r.context ⟨s.now - r.startedAt⟩ outcome).1 } := by
      refine ⟨?_, rfl, fun none => ⟨none.cache, none.setting⟩, fun held k => ?_⟩
      · simp only [Session.gist, h, Option.map_some, Hook.reset_after]
        rfl
      · exact k.of_frame rfl rfl (Nat.le_refl _) k.genuine (List.append_nil _).symm (by simp)
    have silent : ∀ e ∈ (hook.after r.context ⟨s.now - r.startedAt⟩ outcome).2.map Event.hook,
        e.ran? = .none := fun e he => by
      obtain ⟨_, -, rfl⟩ := List.mem_map.mp he
      rfl
    simp only [complete, h]
    exact (told.trans (quietly_note _ silent)).trans (quietly_finish _ r.callback)

theorem quietly_report {α : Type} (s : Session) (r : Run) (summary : α → Outcome)
    (result : Except Halt α) : Quietly s (s.report r summary result) := by
  cases result with
  | ok a => exact quietly_complete s r _
  | error h =>
    cases h with
    | error e => exact (quietly_dropStale s r.cached e).trans (quietly_complete _ r _)
    | dropped => exact quietly_finish s r.callback

theorem gist_after (s : Session) (server : Server) (now : Instant) (seen : Wire) :
    (s.after server now seen).gist =
      { s.gist with server := server.gist, ran := s.gist.ran ++ seen.ran?.toList } := by
  have one : [Event.wire seen].filterMap Event.ran? = seen.ran?.toList := by
    cases h : seen.ran? <;> simp [Event.ran?, h]
  simp only [Session.gist, after, Session.ran, List.filterMap_append, one]

/-- A request that has been answered leaves the session settled. What is run has to be prepared. -/
theorem Settled.after (h : Settled held s) {i : Nat} {start now : Instant} {job : Job}
    (later : s.now ≤ now) (answered : (s.server.carry (i + 1) start job).1.answer.time ≤ now)
    (based : ∀ p values, job = .run p values → .wire (.prepare (i + 1) p.sql) ∈ s.log) :
    Settled held (s.after (s.server.taken i start job) now
      (s.server.carry (i + 1) start job).2.1) where
  idle := Server.idle_taken h.idle i start job
  shut := Server.shutBy_taken h.steady h.shut later answered
  steady := by
    have script : (s.server.taken i start job).gist.script = s.script :=
      Server.script_taken s.server i start job
    rw [Session.script, Session.after, script]
    exact h.steady
  genuine := fun c hc p hp =>
    (h.genuine c hc p hp).later rfl (Server.script_taken s.server i start job)
  founded := by
    cases job with
    | run p values => exact founded_run h.founded rfl (based p values rfl)
    | startup | prepare sql | begin =>
      exact founded_append h.founded fun e he => List.mem_singleton.mp he ▸ rfl
  blocked := h.blocked
  numbered := fun c hc => Nat.le_succ_of_le (h.numbered c hc)
  distinct := h.distinct
  patient := h.patient

def grown (s : Session) : Session :=
  { s with server := { s.server with links := s.server.links ++ [⟨s.now, .none, []⟩] } }

theorem gist_grown (s : Session) :
    s.grown.gist = { s.gist with
      server := { s.gist.server with hungUp := s.gist.server.hungUp ++ [false] } } := by
  simp [Session.gist, grown, Server.gist, Session.ran]

theorem Settled.grown (h : Settled held s) : Settled held s.grown where
  idle := fun k hk => by
    rcases List.mem_append.mp hk with hk | hk
    · exact h.idle k hk
    · rw [List.mem_singleton.mp hk]
  shut := fun k hk t ht => by
    rcases List.mem_append.mp hk with hk | hk
    · exact h.shut k hk t ht
    · rw [List.mem_singleton.mp hk] at ht
      simp at ht
  steady := h.steady
  genuine := fun c hc p hp => (h.genuine c hc p hp).later (List.append_nil _).symm rfl
  founded := h.founded
  blocked := h.blocked
  numbered := h.numbered
  distinct := h.distinct
  patient := h.patient

end Session

end RowMapper
