import RowMapper.Proofs.Session.Waiting

/-!
Preparing a statement under a label: what the cache is asked, what is sent to the server, and what the
cache keeps of the answer.
-/
namespace RowMapper

def Ready.underLabel (generation link : Nat) (label : String) (sought : StatementCache.Sought)
    (p : Prepared) : Ready :=
  ⟨link, true, p, if sought.isHit then .hit else .miss, some (generation, label)⟩

namespace StatementCache

variable {c : StatementCache} {link : Nat} {label : String} {sought : Sought} {p : Prepared}

theorem held_settle : (c.settle link label sought (.ok p)).held link = c.held link + 1 := by
  simp [held, settle]

theorem reportsHit_of_plan (there : sought.plan = some p) : sought.reportsHit link c c = sought.isHit := by
  simp [Sought.reportsHit, Sought.isHit, there]

/-- A new plan is one more, so a call that had to prepare reports no hit. -/
theorem reportsHit_of_settle (none : sought.plan = none) :
    sought.reportsHit link c (c.settle link label sought (.ok p)) = sought.isHit := by
  simp [Sought.reportsHit, Sought.isHit, none, held_settle]

end StatementCache

namespace Session

def cache? (s : Session) : Option StatementCache := s.opened.bind (·.cache)

def generation? (s : Session) : Option Nat := s.opened.map (·.generation)

theorem cache?_eq_shared (s : Session) : s.cache? = s.shared.bind (·.2.1) := by
  simp only [cache?, shared]
  cases s.opened <;> rfl

theorem generation?_eq_shared (s : Session) : s.generation? = s.shared.map (·.1) := by
  simp only [generation?, shared]
  cases s.opened <;> rfl

theorem Waited.cache? {s t : Session} (h : Waited s t) : t.cache? = s.cache? := by
  rw [cache?_eq_shared, cache?_eq_shared, h.shared]

theorem Waited.generation? {s t : Session} (h : Waited s t) : t.generation? = s.generation? := by
  rw [generation?_eq_shared, generation?_eq_shared, h.shared]

theorem Waited.isOpen {s t : Session} (h : Waited s t) : t.isOpen = s.isOpen := by
  have := congrArg Option.isSome h.shared
  simpa [Session.isOpen, Session.shared] using this

theorem cache?_setCache (s : Session) (c : StatementCache) :
    (s.setCache c).cache? = if s.isOpen then some c else .none := by
  cases h : s.opened <;> simp [setCache, updateOpened, Session.cache?, isOpen, h]

theorem generation?_setCache (s : Session) (c : StatementCache) :
    (s.setCache c).generation? = s.generation? := by
  simp only [setCache, updateOpened, Session.generation?]
  cases s.opened <;> rfl

theorem ask_answers {s t : Session} {l : Limits} {link : Nat} {job : Job} {content : Content}
    (ticketed : s.server.Ticketed) (h : s.ask l link job = (.ok (.ok content), t)) :
    ∃ a seen, Server.Answers (link - 1) job a seen ∧ a.content = .ok content ∧
      t.log = s.log ++ seen.map .wire := by
  simp only [ask] at h
  split at h
  · simp at h
  · have assigned := Server.assigned_send s.now link job ticketed
    split at h
    · simp only [stall] at h
      split at h <;> simp at h
    · simp only [awaitTicket] at h
      split at h
      · simp at h
      · split at h
        · simp at h
        · simp only [Prod.mk.injEq, Except.ok.injEq] at h
          obtain ⟨ha, rfl⟩ := h
          split at ha
          · rename_i a hs
            exact ⟨a, _, Server.serve_answers _ assigned hs, ha, rfl⟩
          · simp at ha

def SentBetween (s t : Session) (link : Nat) (sql : String) : Prop :=
  ∃ seen : List Wire, t.log = s.log ++ seen.map .wire ∧ .prepare (link - 1 + 1) sql ∈ seen

theorem prepare_ok {s t : Session} {l : Limits} {link : Nat} {sql : String} {p : Prepared}
    (ticketed : s.server.Ticketed) (h : s.prepare l link sql = (.ok (.ok p), t)) :
    p.sql = sql ∧ SentBetween s t link sql := by
  simp only [prepare] at h
  split at h <;> simp only [Prod.mk.injEq, Except.ok.injEq, reduceCtorEq, false_and] at h
  rename_i e
  obtain ⟨rfl, rfl⟩ := h
  obtain ⟨a, seen, answers, content, log⟩ := ask_answers ticketed e
  obtain ⟨text, hw⟩ := answers.prepared content
  exact ⟨text, seen, log, hw⟩

inductive Prepares (s : Session) (generation : Nat) (c : StatementCache) (link : Nat)
    (label sql : String) : Except Halt Ready × Session → Prop where
  | unlabeled : label = "" →
    Prepares s generation c link label sql (.error (.error .labelUnset), s.setCache c)
  | reused {sought : StatementCache.Sought} {c' : StatementCache} {p : Prepared} :
    c.seek link label sql = (.ok sought, c') → sought.plan = some p →
      Prepares s generation c link label sql
        (.ok (.underLabel generation link label sought p), s.setCache c')
  | halted {sought : StatementCache.Sought} {c' : StatementCache} {h : Halt} {t : Session} :
    c.seek link label sql = (.ok sought, c') → sought.plan = .none → Waited (s.setCache c') t →
      Prepares s generation c link label sql (.error h, t)
  | refused {sought : StatementCache.Sought} {c' : StatementCache} {fault : ClientFault}
    {t : Session} :
    c.seek link label sql = (.ok sought, c') → sought.plan = .none → Waited (s.setCache c') t →
      Prepares s generation c link label sql (.error (.error (.ofFault fault)),
        t.setCache (c'.settle link label sought (.error fault)))
  | prepared {sought : StatementCache.Sought} {c' : StatementCache} {p : Prepared} {t : Session} :
    c.seek link label sql = (.ok sought, c') → sought.plan = .none → Waited (s.setCache c') t →
      (s.server.Ticketed → p.sql = sql ∧ SentBetween s t link sql) →
      Prepares s generation c link label sql
        (.ok (.underLabel generation link label sought p),
          t.setCache (c'.settle link label sought (.ok p)))

theorem prepareLabeled_prepares (s : Session) (l : Limits) (generation : Nat) (c : StatementCache)
    (link : Nat) (label sql : String) :
    Prepares s generation c link label sql (s.prepareLabeled l generation c link label sql) := by
  cases hs : c.seek link label sql with
  | mk found c' =>
    cases found with
    | error e =>
      simp only [prepareLabeled, hs]
      simp only [StatementCache.seek] at hs
      split at hs
      · rename_i empty
        simp only [Prod.mk.injEq, Except.error.injEq] at hs
        obtain ⟨rfl, rfl⟩ := hs
        exact .unlabeled (by simpa using empty)
      · simp at hs
    | ok sought =>
      cases hp : sought.plan with
      | some p =>
        simp only [prepareLabeled, hs, hp, StatementCache.reportsHit_of_plan hp]
        exact .reused hs hp
      | none =>
        have waited := waited_prepare (s.setCache c') l link sql
        simp only [prepareLabeled, hs, hp]
        split
        · rename_i e
          rw [e] at waited
          exact .halted hs hp waited
        · rename_i r t e
          rw [e] at waited
          cases r with
          | error fault => exact .refused hs hp waited
          | ok p =>
            simp only [callerResult, Except.map, StatementCache.reportsHit_of_settle hp]
            exact .prepared hs hp waited fun ticketed => prepare_ok (s := s.setCache c') ticketed e

end Session

end RowMapper
