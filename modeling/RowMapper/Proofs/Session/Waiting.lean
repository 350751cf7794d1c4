import RowMapper.Proofs.Server.Horizons
import RowMapper.Session.Opening

/-!
What a session keeps while a call waits. Only the clock, the server, the connections of the pool and the
noted doings of the server move; the hook, the settings and the statement cache stay as they are.
-/
namespace RowMapper.Session

def shared (s : Session) : Option (Nat × Option StatementCache × Option String × Option String) :=
  s.opened.map fun o => (o.generation, o.cache, o.database, o.username)

structure Waited (s s' : Session) : Prop where
  config : s'.config = s.config
  hook : s'.hook = s.hook
  shared : s'.shared = s.shared
  log : ∃ seen : List Wire, s'.log = s.log ++ seen.map .wire
  ticketed : s.server.Ticketed → s'.server.Ticketed
  past : s.server.Past s.now → s'.server.Past s'.now

theorem Waited.refl (s : Session) : Waited s s :=
  ⟨rfl, rfl, rfl, ⟨[], by simp⟩, id, id⟩

theorem Waited.trans {s t u : Session} (h : Waited s t) (k : Waited t u) : Waited s u := by
  obtain ⟨seen, hs⟩ := h.log
  obtain ⟨more, hm⟩ := k.log
  exact ⟨k.config.trans h.config, k.hook.trans h.hook, k.shared.trans h.shared,
    ⟨seen ++ more, by rw [hm, hs, List.map_append, List.append_assoc]⟩, k.ticketed ∘ h.ticketed,
    k.past ∘ h.past⟩

theorem waited_advance (s : Session) (t : Instant) : Waited s (s.advance t) :=
  ⟨rfl, rfl, rfl, ⟨_, rfl⟩, Server.ticketed_serve Option.none _, fun h =>
    (Server.past_serve Option.none _ h).mono (Nat.le_max_left _ _)⟩

theorem waited_pass (s : Session) (l : Limits) (t : Option Instant) : Waited s (s.pass l t).2 := by
  simp only [pass]
  exact waited_advance s _

theorem waited_awaitTicket (s : Session) (l : Limits) (ticket : Nat) :
    Waited s (s.awaitTicket l ticket).2 := by
  simp only [awaitTicket]
  split
  · exact .refl s
  · split <;> exact ⟨rfl, rfl, rfl, ⟨_, rfl⟩, Server.ticketed_serve (some ticket) _, fun h =>
      (Server.past_serve (some ticket) _ h).mono (Nat.le_max_left _ _)⟩

theorem waited_stall {α : Type} (s : Session) (l : Limits) : Waited s (s.stall (α := α) l).2 := by
  have h := waited_pass s l Option.none
  simp only [stall]
  split <;> rename_i e <;> rw [e] at h <;> exact h

theorem waited_send (s : Session) (link : Nat) (job : Job) :
    Waited s { s with server := (s.server.send s.now link job).2 } :=
  ⟨rfl, rfl, rfl, ⟨[], by simp⟩, Server.ticketed_send s.now link job, Server.past_send link job⟩

theorem waited_ask (s : Session) (l : Limits) (link : Nat) (job : Job) :
    Waited s (s.ask l link job).2 := by
  simp only [ask]
  split
  · exact .refl s
  · split
    · exact (waited_send s link job).trans (waited_stall _ l)
    · exact (waited_send s link job).trans (waited_awaitTicket _ l _)

theorem waited_connect (s : Session) (l : Limits) : Waited s (s.connect l).2 := by
  have start : Waited s { s with server := (s.server.connect s.now).2.2 } :=
    ⟨rfl, rfl, rfl, ⟨[], by simp⟩, Server.ticketed_connect s.now, Server.past_connect⟩
  have h := start.trans (waited_awaitTicket _ l (s.server.connect s.now).2.1)
  simp only [connect]
  split <;> rename_i e <;> rw [e] at h <;> exact h

theorem waited_updatePool (s : Session) (f : Opened → Pool) :
    Waited s (s.updateOpened fun o => { o with pool := f o }) := by
  refine ⟨rfl, rfl, ?_, ⟨[], by simp [updateOpened]⟩, id, id⟩
  simp only [Session.shared, updateOpened, Option.map_map]
  rfl

theorem waited_release (s : Session) (link : Nat) : Waited s (s.release link) :=
  waited_updatePool s _

theorem waited_checkout (s : Session) (l : Limits) : Waited s (s.checkout l).2 := by
  simp only [checkout]
  split
  · exact .refl s
  · rename_i o _
    split
    · exact waited_updatePool s _
    · exact waited_stall s l
    · rename_i pool _
      have h := (waited_updatePool s fun _ => pool).trans (waited_connect _ l)
      split <;> rename_i e <;> rw [setPool] at e <;> rw [e] at h
      · exact h
      · exact h
      · exact h.trans (waited_updatePool _ _)

theorem waited_prepare (s : Session) (l : Limits) (link : Nat) (sql : String) :
    Waited s (s.prepare l link sql).2 := by
  have h := waited_ask s l link (.prepare sql)
  simp only [prepare]
  split <;> rename_i e <;> rw [e] at h <;> exact h

theorem waited_run (s : Session) (l : Limits) (link : Nat) (p : Prepared) (values : List Param) :
    Waited s (s.run l link p values).2 := by
  simp only [run]
  split
  · exact .refl s
  · rename_i raw _
    have h := waited_ask s l link (.run p raw)
    split <;> rename_i e <;> rw [e] at h <;> exact h

theorem waited_prepareFresh (s : Session) (l : Limits) (link : Nat) (isPooled : Bool)
    (source : Source) (sql : String) : Waited s (s.prepareFresh l link isPooled source sql).2 := by
  have h := waited_prepare s l link sql
  simp only [prepareFresh]
  split <;> rename_i e <;> rw [e] at h <;> exact h

theorem waited_runStage (s : Session) (b : Begun) (values : List Param) :
    Waited s (s.runStage b values).2 := by
  have h := waited_run s b.run.limits b.ready.link b.ready.statement values
  simp only [runStage]
  split
  · exact .refl s
  · split <;> rename_i e <;> rw [e] at h <;> exact h

theorem waited_executeStage (s : Session) (b : Begun) (values : List Param) :
    Waited s (s.executeStage b values).2 := by
  have h := waited_runStage s b values
  simp only [executeStage]
  split <;> rename_i e <;> rw [e] at h
  · exact h
  · rename_i feed u
    have k := h.trans (waited_pass u b.run.limits (some feed.endAt))
    split <;> rename_i e' <;> rw [e'] at k <;> exact k

theorem waited_releaseReady (s : Session) (r : Ready) : Waited s (s.releaseReady r) := by
  simp only [releaseReady]
  split
  · exact waited_release s r.link
  · exact .refl s

theorem waited_openCursor (s : Session) (f : Feed) (b : Begun) :
    Waited s (s.openCursor f b).2 := by
  simp only [openCursor]
  split <;> exact ⟨rfl, rfl, rfl, ⟨[], by simp⟩, id, id⟩

theorem waited_unblock (s : Session) (c : Cursor) : Waited s (s.unblock c) :=
  ⟨rfl, rfl, rfl, ⟨[], by simp [unblock]⟩, id, id⟩

theorem waited_readReply (s : Session) (l : Limits) (f : Feed) : Waited s (s.readReply l f).2 := by
  have h := waited_advance s ((f.under l s.now s.waits).read theRow Option.none).time
  simp only [readReply]
  split
  · exact h
  · split <;> exact h

theorem waited_greet (s : Session) (l : Limits) (link : Nat) : Waited s (s.greet l link).2 := by
  have h := waited_prepare s l link Server.greeting
  simp only [greet]
  split <;> rename_i e <;> rw [e] at h
  · exact h
  · exact h
  · rename_i p u
    have k := h.trans (waited_run u l link p [])
    split <;> rename_i e' <;> rw [e'] at k
    · exact k
    · exact k
    · exact k.trans (waited_readReply _ l _)

theorem waited_beginTransaction (s : Session) (l : Limits) :
    Waited s (s.beginTransaction l).2 := by
  have h := waited_connect s l
  simp only [beginTransaction]
  split <;> rename_i e <;> rw [e] at h
  · exact h
  · exact h
  · rename_i link u
    have k := h.trans (waited_ask u l link .begin)
    split <;> rename_i e' <;> rw [e'] at k <;> exact k

end RowMapper.Session
