import RowMapper.Proofs.Session.Callbacks

/-!
A call with a limit of its own whose caller does not lose patience is never dropped: each wait ends with
its result, or with an error of the limit.
-/
namespace RowMapper

namespace Limits

structure Holds (l : Limits) : Prop where
  patient : l.patience = none
  limited : l.first? ≠ none

theorem mem_of_earliest {stops : List (Instant × Halt)} {stop : Instant × Halt}
    (h : earliest stops = some stop) : stop ∈ stops := by
  induction stops with
  | nil => simp [earliest] at h
  | cons s rest ih =>
    simp only [earliest] at h
    split at h
    · rename_i r hr
      split at h
      · obtain rfl := Option.some.inj h
        exact List.mem_cons_of_mem s (ih hr)
      · exact Option.some.inj h ▸ List.mem_cons_self
    · exact Option.some.inj h ▸ List.mem_cons_self

variable {l : Limits}

theorem deadlineStop_ne_dropped (l : Limits) : ∀ stop ∈ l.deadlineStop, stop.2 ≠ .dropped := by
  intro stop hs
  simp only [deadlineStop] at hs
  split at hs
  · simp [List.mem_singleton.mp hs]
  · simp at hs

theorem signalStop_ne_dropped (l : Limits) : ∀ stop ∈ l.signalStop, stop.2 ≠ .dropped := by
  intro stop hs
  simp only [signalStop] at hs
  split at hs
  · simp [List.mem_singleton.mp hs]
  · simp [List.mem_singleton.mp hs]
  · simp at hs

theorem Holds.first? (hl : l.Holds) {stop : Instant × Halt} (h : l.first? = some stop) :
    stop.2 ≠ .dropped := by
  have mem := mem_of_earliest h
  have noPatience : l.patienceStop = [] := by simp [patienceStop, hl.patient]
  rw [noPatience, List.append_nil] at mem
  rcases List.mem_append.mp mem with mem | mem
  · exact deadlineStop_ne_dropped l stop mem
  · exact signalStop_ne_dropped l stop mem

theorem Holds.reached? (hl : l.Holds) (now : Instant) (waits : Nat) :
    l.reached? now waits ≠ some .dropped := by
  simp only [Limits.reached?]
  split
  · rename_i t h found
    have := deadlineStop_ne_dropped l _ (List.mem_of_find?_eq_some found)
    simpa using this
  · split
    · simp
    · simp [patienceStop, hl.patient]

theorem Holds.await (hl : l.Holds) (now : Instant) (t : Option Instant) :
    (l.await now t).2 ≠ .error .dropped := by
  cases h : l.first? with
  | none => exact absurd h hl.limited
  | some stop =>
    have ends := hl.first? h
    obtain ⟨at_, halt⟩ := stop
    cases t with
    | none => simpa [Limits.await, h] using ends
    | some t =>
      simp only [Limits.await, h]
      split
      · simp
      · split
        · simpa using ends
        · split
          · simp
          · simpa using ends

end Limits

theorem callerResult_ne_dropped {α : Type} (r : Except ClientFault α) :
    callerResult r ≠ .error .dropped := by
  cases r <;> simp [callerResult]

theorem map_ne_dropped {α β : Type} (f : α → β) {r : Except Halt α} (h : r ≠ .error .dropped) :
    r.map f ≠ .error .dropped :=
  mt map_eq_error.mp h

namespace Session

variable {l : Limits} (hl : l.Holds) (s : Session)
include hl

theorem pass_kept (t : Option Instant) : (s.pass l t).1 ≠ .error .dropped := by
  simp only [pass]
  exact hl.await s.now t

theorem awaitTicket_kept (ticket : Nat) : (s.awaitTicket l ticket).1 ≠ .error .dropped := by
  simp only [awaitTicket]
  split
  · rename_i h reached
    have := hl.reached? s.now s.waits
    rw [reached] at this
    simpa using this
  · have kept := hl.await s.now ((s.server.serve (some ticket) (l.first?.map (·.1))).answer.map (·.time))
    split <;> rename_i e
    · have e' : (l.await s.now _).2 = _ := congrArg Prod.snd e
      simpa [e'] using kept
    · simp

theorem stall_kept {α : Type} : (s.stall (α := α) l).1 ≠ .error .dropped := by
  have kept := pass_kept hl s .none
  simp only [stall]
  split <;> rename_i e <;> rw [e] at kept
  · simpa using kept
  · -- Nothing comes of such a wait but what a limit makes of it.
    simp only [pass, Limits.await] at e
    split at e
    · simp at e
    · simp at e

theorem ask_kept (link : Nat) (job : Job) : (s.ask l link job).1 ≠ .error .dropped := by
  simp only [ask]
  split
  · simp
  · split
    · exact stall_kept hl _
    · exact awaitTicket_kept hl _ _

theorem connect_kept : (s.connect l).1 ≠ .error .dropped := by
  have kept := awaitTicket_kept hl { s with server := (s.server.connect s.now).2.2 }
    (s.server.connect s.now).2.1
  simp only [connect]
  split <;> rename_i e <;> rw [e] at kept
  · simpa using kept
  · simp
  · simp

theorem checkout_kept : (s.checkout l).1 ≠ .error .dropped := by
  simp only [checkout]
  split
  · simp
  · split
    · simp
    · exact stall_kept hl s
    · rename_i pool _
      have kept := connect_kept hl (s.setPool pool)
      split <;> rename_i e <;> rw [e] at kept
      · simpa using kept
      · simp
      · simp

theorem prepare_kept (link : Nat) (sql : String) : (s.prepare l link sql).1 ≠ .error .dropped := by
  have kept := ask_kept hl s link (.prepare sql)
  simp only [prepare]
  split <;> rename_i e <;> rw [e] at kept
  · simpa using kept
  · simp
  · simp
  · simp

theorem run_kept (link : Nat) (p : Prepared) (values : List Param) :
    (s.run l link p values).1 ≠ .error .dropped := by
  simp only [run]
  split
  · simp
  · rename_i raw _
    have kept := ask_kept hl s link (.run p raw)
    split <;> rename_i e <;> rw [e] at kept
    · simpa using kept
    · simp
    · simp
    · simp

theorem prepareFresh_kept (link : Nat) (isPooled : Bool) (source : Source) (sql : String) :
    (s.prepareFresh l link isPooled source sql).1 ≠ .error .dropped := by
  have kept := prepare_kept hl s link sql
  simp only [prepareFresh]
  split <;> rename_i e <;> rw [e] at kept
  · simpa using kept
  · exact map_ne_dropped _ (callerResult_ne_dropped _)

theorem prepareLabeled_kept (generation : Nat) (c : StatementCache) (link : Nat) (label sql : String) :
    (s.prepareLabeled l generation c link label sql).1 ≠ .error .dropped := by
  simp only [prepareLabeled]
  split
  · simp
  · rename_i sought c' _
    split
    · simp
    · have kept := prepare_kept hl (s.setCache c') link sql
      split <;> rename_i e <;> rw [e] at kept
      · simpa using kept
      · exact map_ne_dropped _ (callerResult_ne_dropped _)

theorem preparePooled_kept (label : Option String) (sql : String) :
    (s.preparePooled l label sql).1 ≠ .error .dropped := by
  have out := checkout_kept hl s
  simp only [preparePooled]
  split <;> rename_i e <;> rw [e] at out
  · simpa using out
  · rename_i link u
    have back (prepared : Except Halt Ready × Session) (kept : prepared.1 ≠ .error .dropped) :
        (unlessReady link prepared).1 ≠ .error .dropped := by
      obtain ⟨result, t⟩ := prepared
      cases result <;> exact kept
    apply back
    split
    · split
      · exact prepareLabeled_kept hl u _ _ link _ sql
      · exact prepareFresh_kept hl u link true .bypass sql
    · exact prepareFresh_kept hl u link true .bypass sql

theorem prepareStage_kept (c : Call) (label : Option String) (sql : String) :
    (s.prepareStage c l label sql).1 ≠ .error .dropped := by
  simp only [prepareStage]
  split
  · simp
  · split
    · exact prepareFresh_kept hl s _ false .transaction sql
    · exact preparePooled_kept hl s label sql

omit hl in
theorem begin_kept (c : Call) (hl : (s.limitsOf c).Holds) (usual : Option String) (sql : String)
    (n : Nat) :
    (s.begin c usual sql n).1 ≠ .error .dropped ∧
      ∀ b, (s.begin c usual sql n).1 = .ok b → b.run.limits.Holds := by
  have p := begin_begins s c usual sql n
  generalize s.begin c usual sql n = result at p
  cases p with
  | closed _ => simp
  | aborted _ _ => simp
  | @failed ctx u v h _ asked staged =>
    have kept := prepareStage_kept hl u c (c.label <|> usual) ctx.execSql
    rw [staged] at kept
    exact ⟨by simpa using kept, by simp⟩
  | @ready ctx u v ready _ asked staged =>
    have noted : u.limitsOf c = s.limitsOf c := by
      rw [askHook_eq] at asked
      exact (Prod.mk.inj asked).2 ▸ limitsOf_afterAsking s c _
    refine ⟨by simp, ?_⟩
    rintro b hb
    obtain rfl := Except.ok.inj hb
    change (u.limitsOf c).Holds
    rwa [noted]

theorem runStage_kept (b : Begun) (hb : b.run.limits = l) (values : List Param) :
    (s.runStage b values).1 ≠ .error .dropped := by
  have kept := run_kept hl s b.ready.link b.ready.statement values
  simp only [runStage, hb]
  split
  · simp
  · split <;> rename_i e <;> rw [e] at kept
    · simpa using kept
    · exact callerResult_ne_dropped _

theorem executeStage_kept (b : Begun) (hb : b.run.limits = l) (values : List Param) :
    (s.executeStage b values).1 ≠ .error .dropped := by
  have kept := runStage_kept hl s b hb values
  simp only [executeStage, hb]
  split <;> rename_i e <;> rw [e] at kept
  · simpa using kept
  · rename_i feed u
    have passed := pass_kept hl u (some feed.endAt)
    split <;> rename_i e' <;> rw [e'] at passed
    · simpa using passed
    · exact callerResult_ne_dropped _

theorem awaitParcel_kept (f : Feed) (waits number : Nat) (now t : Instant) :
    (f.awaitParcel l waits number now t).2 ≠ .error .dropped := by
  simp only [Feed.awaitParcel]
  split
  · rename_i h reached
    have := hl.reached? now waits
    rw [reached] at this
    split
    · simp
    · simpa using this
  · exact hl.await now (some t)

theorem rowsUnder_kept (f : Feed) (waits number : Nat) (now : Instant)
    (rows : List (Instant × Row)) :
    (f.rowsUnder l waits number now rows).result ≠ .error .dropped := by
  induction rows generalizing number now with
  | nil =>
    have kept := awaitParcel_kept hl f waits f.rows.length now f.endAt
    simp only [Feed.rowsUnder, Feed.endUnder]
    split <;> rename_i e <;> rw [e] at kept
    · exact map_ne_dropped _ (callerResult_ne_dropped f.result)
    · simpa using kept
  | cons row rest ih =>
    obtain ⟨t, row⟩ := row
    have kept := awaitParcel_kept hl f waits number now t
    simp only [Feed.rowsUnder]
    split <;> rename_i e <;> rw [e] at kept
    · exact ih _ _
    · simpa using kept

omit hl in
theorem readFrom_kept {σ : Type} (stream : Stream) (reader : Reader σ) (seen : Nat)
    (rows : List (Instant × Row)) (state : σ) (kept : stream.result ≠ .error .dropped) :
    (stream.readFrom reader seen rows state).result ≠ .error .dropped := by
  induction rows generalizing seen state with
  | nil => exact kept
  | cons row rest ih =>
    simp only [Stream.readFrom]
    split
    · simp
    · simp
    · exact ih _ _

theorem reading_kept {σ : Type} (c : Cursor) (hc : c.begun.run.limits = l) (reader : Reader σ)
    (state : σ) : (s.reading c reader state).result ≠ .error .dropped := by
  simp only [reading, hc]
  split
  · simp
  · exact readFrom_kept _ reader 0 _ state (rowsUnder_kept hl c.feed s.waits 0 s.now c.feed.rows)

theorem queryReady_kept (b : Begun) (hb : b.run.limits = l) (values : List Param) :
    (s.queryReady b values).1 ≠ .error .dropped := by
  have kept := runStage_kept hl s b hb values
  simp only [queryReady]
  split <;> rename_i e <;> rw [e] at kept
  · simp [openCursor]
  · simpa using kept

theorem useReady_kept (b : Begun) (hb : b.run.limits = l) (values : List Param) (use : Use) :
    (s.useReady b values use).1 ≠ .halted .dropped := by
  have started := queryReady_kept hl s b hb values
  cases use with
  | count =>
    have kept := executeStage_kept hl s b hb values
    simp only [useReady, executeReady]
    split
    · simp
    · rename_i e
      rw [(Prod.mk.inj e).1] at kept
      simpa using kept
  | drop =>
    simp only [useReady]
    split <;> rename_i e <;> rw [e] at started
    · simpa using started
    · simp
  | read reader state =>
    simp only [useReady]
    split <;> rename_i e <;> rw [e] at started
    · simpa using started
    · rename_i cursor u
      have opened : cursor.begun = b := by
        have := told_queryReady s b values
        rw [e] at this
        exact this.1
      have kept := reading_kept hl u cursor (opened ▸ hb) reader state
      rw [consume_eq]
      split <;> rename_i e'
      · simp
      · have failed := map_eq_error.mp (Prod.mk.inj (Prod.mk.inj e').1).2
        rw [failed] at kept
        simpa using kept

omit hl in
theorem carryOut_kept (c : Call) (hl : (s.limitsOf c).Holds) (usual : Option String) (sql : String)
    (values : List Param) (use : Use) :
    (s.carryOut c usual sql values use).1 ≠ .halted .dropped := by
  obtain ⟨begun, limits⟩ := begin_kept s c hl usual sql values.length
  rw [carryOut_eq]
  cases e : s.begin c usual sql values.length with
  | mk result u =>
    rw [e] at begun limits
    cases result with
    | error h => simpa using begun
    | ok b => exact useReady_kept (limits b rfl) u b rfl values use

end Session

end RowMapper
