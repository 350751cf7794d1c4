import RowMapper.Proofs.Session.Invocations
import RowMapper.Proofs.Session.Staging

/-!
Calls within limits. A call prepares its statement, starts or runs it, and reads its rows; the timeout that
was fixed when it began and the one signal hold for all of that.
-/
namespace RowMapper

def Call.timed (c : Call) (timeout : Option Duration) (signal : Option Signal) : Call :=
  { c with timeout := timeout, signal := signal }

universe u
variable {ρ : Type u} {halt? : ρ → Option Halt} {among : Limits → Prop}

namespace Session

variable {s t : Session} {l : Limits} {link : Nat}

theorem waits_of_awaited {ticket : Nat} {r : Except ClientFault Content}
    (h : s.awaitTicket l ticket = (.ok r, t)) : s.waits < t.waits := by
  simp only [awaitTicket] at h
  split at h
  · cases h
  · split at h
    · cases h
    · exact (Prod.mk.inj h).2 ▸ Nat.lt_succ_self s.waits

theorem waits_of_run {p : Prepared} {values : List Param} {feed : Feed}
    (h : s.run l link p values = (.ok (.ok feed), t)) : s.waits < t.waits := by
  simp only [run] at h
  split at h
  · cases h
  · rename_i raw _
    have asked : s.ask l link (.run p raw) = (.ok (.ok (.feed feed)), t) := by
      split at h <;> rename_i e <;> cases h
      exact e
    simp only [ask] at asked
    split at asked
    · cases asked
    · split at asked
      · simp only [stall] at asked
        split at asked <;> cases asked
      · exact waits_of_awaited (s := { s with server := (s.server.send s.now link (.run p raw)).2 }) asked

/-- What starting a statement does unless it is refused. -/
def start (s : Session) (l : Limits) (b : Begun) (values : List Param) : Except Halt Feed × Session :=
  match s.run l b.ready.link b.ready.statement values with
  | (.ok r, t) => (callerResult r, t)
  | (.error e, t) => (.error e, t)

theorem kept_start (past : s.server.Past s.now) (b : Begun) (values : List Param) :
    s.Kept (fun l => s.start l b values) (s.runWaits b values) :=
  ((kept_run past b values).map (k := fun _ t => t) (fun _ _ => rfl)
    (g := fun r t => (callerResult r, t)) fun _ _ => rfl).of_eq fun l => by
      simp only [start]
      obtain ⟨_ | _, t⟩ := s.run l b.ready.link b.ready.statement values <;> rfl

theorem runStage_within (s : Session) (b : Begun) (values : List Param) (l : Limits) :
    s.runStage (b.within l) values =
      if l.isRefused s.now s.waits then (.error (.error .cancelled), s) else s.start l b values := by
  have limited : (b.within l).run.limits = l := rfl
  have readied : (b.within l).ready = b.ready := rfl
  simp only [runStage, start, limited, readied]
  split
  · rfl
  · obtain ⟨_ | _, t⟩ := s.run l b.ready.link b.ready.statement values <;> rfl

theorem runStage_free (s : Session) (b : Begun) (values : List Param) :
    s.runStage (b.within .free) values = s.start .free b values :=
  (runStage_within s b values .free).trans (if_neg Bool.false_ne_true)

theorem waits_of_start {b : Begun} {values : List Param} {feed : Feed}
    (h : s.start l b values = (.ok feed, t)) : s.waits < t.waits := by
  simp only [start] at h
  split at h <;> rename_i r u ran
  · cases r with
    | error fault => cases h
    | ok f =>
      obtain ⟨same, rfl⟩ := Prod.mk.inj h
      obtain rfl := Except.ok.inj same
      exact waits_of_run ran
  · cases h

theorem staged_runStage (past : s.server.Past s.now) (b : Begun) (values : List Param)
    (current : ∀ l, among l → l.Current s.clock) (out : Halt → Session → ρ × Session)
    (halts : ∀ e t, halt? (out e t).1 = some e) (quick : ∀ e t, (out e t).2.now = t.now)
    {g : Feed → Session → Limits → ρ × Session} {m : Feed → Session → List (Option Instant)}
    {r : Feed → Session → List (List (Option Instant))}
    (next : ∀ feed t, s.waits < t.waits →
      Underway halt? (fun l => among l ∧ l.Current t.clock) t.clock (g feed t) (m feed t) (r feed t)) :
    Staged halt? among s.clock (fun l =>
      match s.runStage (b.within l) values with
      | (.ok feed, t) => g feed t l
      | (.error h, t) => out h t)
      ((s.runWaits b values ++ thereafter (s.runStage (b.within .free) values) m) ::
        thereafter (s.runStage (b.within .free) values) r) := by
  have staged := ((kept_start past b values).underway
    (fun l (hl : among l ∧ l.isRefused s.clock.1 s.clock.2 = false) => current l hl.1) out halts quick
    (g := g) (m := m) (r := r) fun feed t e =>
      (next feed t (waits_of_start e)).mono fun l hl => ⟨hl.1.1, hl.2⟩).staged
    (fun _ => out (.error .cancelled) s) fun l => halts _ _
  rw [runStage_free]
  refine staged.of_eq fun l => ?_
  rw [runStage_within]
  by_cases fired : l.isRefused s.now s.waits = true
  · rw [if_pos fired]
    exact (if_pos fired).symm
  · rw [if_neg fired]
    refine Eq.trans ?_ (if_neg fired).symm
    obtain ⟨_ | _, t⟩ := s.start l b values <;> rfl

def closeExecuted (s : Session) (b : Begun) (result : Except Halt Nat) : Except Halt Nat × Session :=
  (result, (s.report b.run .affected result).releaseReady b.ready)

theorem now_closeExecuted (s : Session) (b : Begun) (result : Except Halt Nat) :
    (s.closeExecuted b result).2.now = s.now :=
  (now_releaseReady _ _).trans (now_report s b.run .affected result)

def letPass (s : Session) (b : Begun) (feed : Feed) (l : Limits) : Except Halt Nat × Session :=
  match s.pass l (some feed.endAt) with
  | (.error h, t) => t.closeExecuted b (.error h)
  | (.ok (), t) => t.closeExecuted b (callerResult feed.result)

theorem staged_executeReady (past : s.server.Past s.now) (b : Begun) (values : List Param)
    (current : ∀ l, among l → l.Current s.clock) :
    Staged haltOf among s.clock (fun l => s.executeReady (b.within l) values) (s.useStages b values .count) := by
  have halts (e : Halt) (t : Session) : haltOf (t.closeExecuted b (.error e)).1 = some e := rfl
  have staged := staged_runStage past b values current (fun h t => t.closeExecuted b (.error h)) halts
    (fun _ t => now_closeExecuted t b _) (g := fun feed t l => t.letPass b feed l) fun feed t _ =>
      underway_pass t feed.endAt (fun l hl => And.right hl) (fun h u => u.closeExecuted b (.error h)) halts
        fun u => now_closeExecuted u b (callerResult feed.result)
  rw [thereafter_nil] at staged
  refine staged.of_eq fun l => ?_
  have limited : (b.within l).run.limits = l := rfl
  simp only [executeReady, executeStage, report_within, limited]
  obtain ⟨_ | feed, t⟩ := s.runStage (b.within l) values
  · rfl
  · simp only [letPass]
    obtain ⟨_ | _, u⟩ := t.pass l (some feed.endAt) <;> rfl

/-- A statement whose rows are to be read is started in one stage; the rows are left to what follows. -/
theorem staged_queryReady (past : s.server.Past s.now) (b : Begun) (values : List Param)
    (current : ∀ l, among l → l.Current s.clock) (out : Halt → Session → ρ × Session)
    (halts : ∀ e t, halt? (out e t).1 = some e) (quick : ∀ e t, (out e t).2.now = t.now)
    {g : Cursor → Session → ρ × Session} {r : Feed → Session → List (List (Option Instant))}
    (next : ∀ feed t, s.waits < t.waits →
      Underway halt? (fun l => among l ∧ l.Current t.clock) t.clock
        (fun l => g (Cursor.within ⟨t.server.tickets, feed, b⟩ l) (t.openCursor feed b).2) [] (r feed t)) :
    Staged halt? among s.clock (fun l =>
      match s.queryReady (b.within l) values with
      | (.error h, t) => out h t
      | (.ok cursor, t) => g cursor t)
      (s.runWaits b values :: thereafter (s.runStage (b.within .free) values) r) := by
  have staged := staged_runStage past b values current (fun h t =>
      out h ((t.report (α := Unit) b.run (fun _ => .rows 0) (.error h)).releaseReady b.ready))
    (fun _ _ => halts _ _) (fun e t => (quick e _).trans ((now_releaseReady _ _).trans (now_report _ _ _ _)))
    (g := fun feed t l => g (Cursor.within ⟨t.server.tickets, feed, b⟩ l) (t.openCursor feed b).2) next
  rw [thereafter_nil, List.append_nil] at staged
  refine staged.of_eq fun l => ?_
  simp only [queryReady, report_within]
  obtain ⟨_ | feed, t⟩ := s.runStage (b.within l) values
  · rfl
  · rfl

theorem clock_openCursor (s : Session) (feed : Feed) (b : Begun) : (s.openCursor feed b).2.clock = s.clock := by
  simp only [openCursor]
  split <;> rfl

variable {config : Config}

/-- What the first stage does unless it is refused. -/
def makeReady (s : Session) (c : Call) (l : Limits) (label : Option String) (sql : String) :
    Except Halt Ready × Session :=
  match c.transaction with
  | some link => s.prepareFresh l link false .transaction sql
  | .none => s.preparePooled l label sql

theorem kept_makeReady (past : s.server.Past s.now) (c : Call) (label : Option String) (sql : String) :
    s.Kept (fun l => s.makeReady c l label sql) (s.readyWaits c label sql) := by
  simp only [makeReady, readyWaits]
  cases c.transaction with
  | some link => exact kept_prepareFresh past link false .transaction sql
  | none => exact kept_preparePooled past label sql

theorem Regular.makeReady (h : s.Regular config) (c : Call) (l : Limits) (label : Option String)
    (sql : String) : (s.makeReady c l label sql).2.Regular config := by
  simp only [Session.makeReady]
  split
  · exact h.waited (waited_prepareFresh s l _ false .transaction sql)
  · exact h.stages (preparePooled_stages s l label sql)

theorem staged_prepareStage (regular : s.Regular config) (c : Call) (label : Option String) (sql : String)
    (current : ∀ l, among l → l.isRefused s.now s.waits = false → l.Current s.clock)
    (out : Halt → Session → ρ × Session) (halts : ∀ e t, halt? (out e t).1 = some e)
    (quick : ∀ e t, (out e t).2.now = t.now) {g : Ready → Session → Limits → ρ × Session}
    {r : Ready → Session → List (List (Option Instant))}
    (next : ∀ ready t, t.Regular config →
      Underway halt? (fun l => l.Current t.clock) t.clock (g ready t) [] (r ready t)) :
    Staged halt? among s.clock (fun l =>
      match s.prepareStage c l label sql with
      | (.ok ready, t) => g ready t l
      | (.error h, t) => out h t)
      (s.readyWaits c label sql :: thereafter (s.prepareStage c .free label sql) r) := by
  have started (l : Limits) : s.prepareStage c l label sql =
      if l.isRefused s.now s.waits then (.error (.error .cancelled), s) else s.makeReady c l label sql := rfl
  have unlimited : s.prepareStage c .free label sql = s.makeReady c .free label sql := rfl
  have staged := ((kept_makeReady regular.past c label sql).underway
    (fun l (hl : among l ∧ l.isRefused s.clock.1 s.clock.2 = false) => current l hl.1 hl.2) out halts quick
    (g := g) (m := fun _ _ => []) (r := r) fun ready t e => ?_).staged
      (fun _ => out (.error .cancelled) s) fun l => halts _ _
  · rw [thereafter_nil, List.append_nil, ← unlimited] at staged
    refine staged.of_eq fun l => ?_
    rw [started]
    by_cases fired : l.isRefused s.now s.waits = true
    · rw [if_pos fired]
      exact (if_pos fired).symm
    · rw [if_neg fired]
      refine Eq.trans ?_ (if_neg fired).symm
      obtain ⟨_ | _, t⟩ := s.makeReady c l label sql <;> rfl
  · have kept := regular.makeReady c .free label sql
    rw [e] at kept
    exact (next ready t kept).mono fun l hl => hl.2

theorem begin_within {c : Call} (connected : s.lacksConnection c = false) {usual : Option String}
    {sql : String} {m : Nat} {ctx : Context} (answer : s.answered (s.asked c usual sql m) = .ok ctx)
    (timeout : Option Duration) (signal : Option Signal) :
    s.begin (c.timed timeout signal) usual sql m =
      (s.afterAsking (s.asked c usual sql m)).beginWithin c usual ctx
        (s.limitsOf (c.timed timeout signal)) := by
  have there : ((c.timed timeout signal).transaction.isNone && !s.isOpen) = false := connected
  have heard : s.askHook (s.contextOf ((c.timed timeout signal).label <|> usual) sql m) =
      (.ok ctx, s.afterAsking (s.asked c usual sql m)) :=
    (askHook_eq s (s.asked c usual sql m)).trans (congrArg (·, _) answer)
  simp only [begin, there, heard, beginWithin]
  generalize s.afterAsking (s.asked c usual sql m) = u
  have labeled : ((c.timed timeout signal).label <|> usual) = (c.label <|> usual) := rfl
  have prepared : u.prepareStage (c.timed timeout signal) (s.limitsOf (c.timed timeout signal))
      (c.label <|> usual) ctx.execSql =
      u.prepareStage c (s.limitsOf (c.timed timeout signal)) (c.label <|> usual) ctx.execSql := rfl
  rw [if_neg Bool.false_ne_true, labeled, prepared]
  obtain ⟨h | ready, t⟩ := u.prepareStage c (s.limitsOf (c.timed timeout signal)) (c.label <|> usual)
    ctx.execSql
  · exact congrArg (Except.error h, ·) (report_limits t (u.booksOf c ctx) _ _ (.error h))
  · rfl

theorem staged_beginWithin (regular : s.Regular config) (c : Call) (usual : Option String) (ctx : Context)
    (current : ∀ l, among l → l.isRefused s.now s.waits = false → l.Current s.clock)
    (out : Halt → Session → ρ × Session) (halts : ∀ e t, halt? (out e t).1 = some e)
    (quick : ∀ e t, (out e t).2.now = t.now) {g : Begun → Session → ρ × Session}
    {r : Begun → Session → List (List (Option Instant))}
    (next : ∀ (b : Begun) t, t.server.Past t.now →
      Underway halt? (fun l => l.Current t.clock) t.clock (fun l => g (b.within l) t) []
        (r (b.within .free) t)) :
    Staged halt? among s.clock (fun l =>
      match s.beginWithin c usual ctx l with
      | (.ok b, t) => g b t
      | (.error h, t) => out h t)
      (s.readyWaits c (c.label <|> usual) ctx.execSql :: thereafter (s.beginWithin c usual ctx .free) r) := by
  have staged := staged_prepareStage regular c (c.label <|> usual) ctx.execSql current (fun h t =>
      out h (t.report (α := Unit) (s.booksOf c ctx) (fun _ => .rows 0) (.error h))) (fun _ _ => halts _ _)
    (fun e t => (quick e _).trans (now_report _ _ _ _))
    (g := fun ready t l => g (Begun.within ⟨ready, s.booksWith c ctx ready⟩ l) t)
    (r := fun ready t => r (Begun.within ⟨ready, s.booksWith c ctx ready⟩ .free) t)
    fun ready t kept => next _ t kept.past
  have onward : thereafter (s.beginWithin c usual ctx .free) r =
      thereafter (s.prepareStage c .free (c.label <|> usual) ctx.execSql)
        fun ready t => r (Begun.within ⟨ready, s.booksWith c ctx ready⟩ .free) t := by
    simp only [beginWithin]
    obtain ⟨_ | _, t⟩ := s.prepareStage c .free (c.label <|> usual) ctx.execSql <;> rfl
  rw [onward]
  refine staged.of_eq fun l => ?_
  simp only [beginWithin]
  obtain ⟨_ | _, t⟩ := s.prepareStage c l (c.label <|> usual) ctx.execSql <;> rfl

end Session

end RowMapper
