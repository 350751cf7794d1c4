import RowMapper.Proofs.Session.Settled

/-!
How a statement gets ready on a connection. Whether the text is sent or a plan is found for it under a
label, the outcome is the one that the script has for the text, and the connection has that plan.
-/
namespace RowMapper

theorem StatementCache.plans_bind (c : StatementCache) (label sql : String) :
    (c.bind label sql).2.plans ⊆ c.plans := by
  by_cases h : c.labels.value? label = some sql
  · rw [bind_of_bound h]
    exact List.Subset.refl _
  · rw [bind_of_unbound h]
    exact List.filter_sublist.subset

theorem StatementCache.mem_of_plan? {c : StatementCache} {link : Nat} {sql : String} {p : Prepared}
    (h : c.plan? link sql = some p) : ⟨link, p⟩ ∈ c.plans ∧ p.sql = sql := by
  simp only [plan?, Option.map_eq_some_iff] at h
  obtain ⟨⟨k, q⟩, found, rfl⟩ := h
  have right := List.find?_some found
  simp only [Bool.and_eq_true, beq_iff_eq] at right
  obtain ⟨rfl, text⟩ := right
  exact ⟨List.mem_of_find?_eq_some found, text⟩

namespace Session

def Gist.tried (g : Gist) (link : Nat) (sql : String) : Gist :=
  { g with
    server.hungUp := g.server.hungUp.set (link - 1) (Server.hangsUpOn g.server.script sql) }

/-- A settled session came out of another one, in a given situation. -/
structure Becomes (held : List Cursor) (s : Session) (g : Gist) (t : Session) : Prop where
  gist : t.gist = g
  settled : Settled held t
  uncached : s.Uncached → t.Uncached

inductive Obtains (held : List Cursor) (s : Session) (link : Nat) (sql : String) :
    Except Halt (Except ClientFault Prepared) × Session → Prop where
  | closed : s.server.gist.isClosed link = true →
    Obtains held s link sql (.ok (.error .disconnected), s)
  | stalled {h : Halt} {t : Session} : s.server.gist.isClosed link = false →
    s.isBlocked link = true → h.isCut = true → Obtains held s link sql (.error h, t)
  | limited {h : Halt} {t : Session} : h.isLimit = true → Obtains held s link sql (.error h, t)
  | answered {t : Session} : s.server.gist.isClosed link = false → s.isBlocked link = false →
    Becomes held s (s.gist.tried link sql) t → (∀ k p, s.HasPlan k p → t.HasPlan k p) →
      (∀ p, Server.prepareReply s.script sql = .ok p → t.HasPlan link p) →
        Obtains held s link sql (.ok (Server.prepareReply s.script sql), t)

inductive Readies (held : List Cursor) (s : Session) (link : Nat) (isPooled : Bool) (sql : String) :
    Except Halt Ready × Session → Prop where
  | closed {t : Session} : s.server.gist.isClosed link = true → Becomes held s s.gist t →
    Readies held s link isPooled sql (.error (.error (.ofFault .disconnected)), t)
  | stalled {h : Halt} {t : Session} : s.server.gist.isClosed link = false →
    s.isBlocked link = true → h.isCut = true → Readies held s link isPooled sql (.error h, t)
  | limited {h : Halt} {t : Session} : h.isLimit = true →
    Readies held s link isPooled sql (.error h, t)
  | refused {fault : ClientFault} {t : Session} : s.server.gist.isClosed link = false →
    (s.cache? = .none → s.isBlocked link = false) →
      Server.prepareReply s.script sql = .error fault → Becomes held s (s.gist.tried link sql) t →
        Readies held s link isPooled sql (.error (.error (.ofFault fault)), t)
  | ready {r : Ready} {t : Session} : s.server.gist.isClosed link = false →
    (s.cache? = .none → s.isBlocked link = false) →
      Server.prepareReply s.script sql = .ok r.statement → Becomes held s (s.gist.tried link sql) t →
        r.link = link → r.isPooled = isPooled → t.HasPlan link r.statement →
          Readies held s link isPooled sql (.ok r, t)

variable {held : List Cursor} {s t : Session} {l : Limits}

theorem prepareReply_ok {script : List Rule} {sql : String} {p : Prepared} :
    Server.prepareReply script sql = .ok p ↔ Server.preparing script sql = .ok p := by
  simp only [Server.prepareReply]
  cases Server.preparing script sql <;> simp [Except.mapError]

theorem tried_of_ok {link : Nat} {sql : String} {p : Prepared}
    (isOpen : s.server.gist.isClosed link = false) (h : Server.preparing s.script sql = .ok p) :
    s.gist.tried link sql = s.gist := by
  have same : s.server.gist.hungUp.set (link - 1) false = s.server.gist.hungUp := by
    simp only [Server.Gist.isClosed] at isOpen
    refine List.ext_getElem? fun i => ?_
    rw [List.getElem?_set]
    split
    · rename_i hi
      subst hi
      cases there : s.server.gist.hungUp[link - 1]? with
      | none => simp [there] at isOpen
      | some b =>
        obtain ⟨inside, -⟩ := List.getElem?_eq_some_iff.mp there
        rw [there, Option.getD_some] at isOpen
        rw [if_pos inside, isOpen]
    · rfl
  have stays : Server.hangsUpOn s.gist.server.script sql = false := by
    have h' : Server.preparing s.gist.server.script sql = .ok p := h
    simp [Server.hangsUpOn, h']
  simp only [Gist.tried, stays]
  exact congrArg (fun hungUp => { s.gist with server := { s.gist.server with hungUp := hungUp } }) same

theorem Settled.obtains (h : Settled held s) (patient : l.patience = .none) (link : Nat)
    (sql : String) : Obtains held s link sql (s.prepare l link sql) := by
  have asked := h.asked patient link (.prepare sql)
  simp only [prepare]
  generalize s.ask l link (.prepare sql) = x at asked ⊢
  cases asked with
  | closed isClosed => exact .closed isClosed
  | stalled isOpen blocked cut => exact .stalled isOpen blocked cut
  | limited limit => exact .limited limit
  | @answered start now isOpen free later answered =>
    have settled := h.after later answered (by simp)
    have reply := (Server.carry_prepare h.steady (link - 1 + 1) start sql).1
    have became : Becomes held s (s.gist.tried link sql)
        (s.after (s.server.taken (link - 1) start (.prepare sql)) now
          (s.server.carry (link - 1 + 1) start (.prepare sql)).2.1) := by
      refine ⟨?_, settled, fun none => ⟨none.cache, none.setting⟩⟩
      rw [gist_after, Server.gist_taken_prepare h.steady]
      simp only [Server.carry, Wire.ran?, Option.toList_none, List.append_nil]
      rfl
    have kept (k : Nat) (p : Prepared) (has : s.HasPlan k p) :
        HasPlan (s.after (s.server.taken (link - 1) start (.prepare sql)) now
          (s.server.carry (link - 1 + 1) start (.prepare sql)).2.1) k p :=
      has.later rfl (Server.script_taken s.server (link - 1) start (.prepare sql))
    have obtained := Obtains.answered isOpen free became kept fun p hp => ⟨?_, ?_⟩
    · rw [reply]
      cases e : Server.prepareReply s.server.gist.script sql with
      | error fault =>
        rw [script, e] at obtained
        exact obtained
      | ok p =>
        rw [script, e] at obtained
        exact obtained
    · have text := Server.preparing_sql (prepareReply_ok.mp hp)
      rw [text]
      exact List.mem_append_right _ (List.mem_singleton.mpr rfl)
    · have text := Server.preparing_sql (prepareReply_ok.mp hp)
      rw [text, script, Session.after, Server.script_taken]
      exact prepareReply_ok.mp hp

theorem Settled.readies_fresh (h : Settled held s) (patient : l.patience = .none) (link : Nat)
    (isPooled : Bool) (source : Source) (sql : String) :
    Readies held s link isPooled sql (s.prepareFresh l link isPooled source sql) := by
  have obtained := h.obtains patient link sql
  simp only [prepareFresh]
  generalize s.prepare l link sql = x at obtained ⊢
  cases obtained with
  | closed isClosed => exact .closed isClosed ⟨rfl, h, id⟩
  | stalled isOpen blocked cut => exact .stalled isOpen blocked cut
  | limited limit => exact .limited limit
  | answered isOpen free became _ plan =>
    cases e : Server.prepareReply s.script sql with
    | error fault => exact .refused isOpen (fun _ => free) e became
    | ok p => exact .ready isOpen (fun _ => free) e became rfl rfl (plan p e)

theorem Settled.genuine_bound (h : Settled held s) {c : StatementCache} (cache : s.cache? = some c)
    (label sql : String) : ∀ p ∈ (c.bind label sql).2.plans, s.HasPlan p.link p.prepared :=
  fun p hp => h.genuine c cache p (StatementCache.plans_bind c label sql hp)

/-- What came of a statement with another cache came of it with the former one as well. -/
theorem Becomes.setCache {c d e : StatementCache} {link : Nat} {sql : String} (cache : s.cache? = some c)
    (became : Becomes held (s.setCache d) ((s.setCache d).gist.tried link sql) t)
    (plans : ∀ p ∈ e.plans, t.HasPlan p.link p.prepared) :
    Becomes held s (s.gist.tried link sql) (t.setCache e) :=
  ⟨by rw [gist_setCache, became.gist, gist_setCache], became.settled.setCache plans,
    fun none => by simp [none.cache] at cache⟩

/-- A plan that the connection has under a label is the one that the script has for its text. -/
theorem Settled.readies_held (h : Settled held s) {c : StatementCache} (cache : s.cache? = some c)
    {label sql : String} {link : Nat} (isOpen : s.server.gist.isClosed link = false) {r : Ready}
    (plan : (c.bind label sql).2.plan? link sql = some r.statement) (linked : r.link = link)
    (pooled : r.isPooled = true) :
    Readies held s link true sql (.ok r, s.setCache (c.bind label sql).2) := by
  have genuine := h.genuine_bound cache label sql
  obtain ⟨there, text⟩ := StatementCache.mem_of_plan? plan
  have has := genuine ⟨link, r.statement⟩ there
  have given : Server.preparing s.script sql = .ok r.statement := text ▸ has.given
  have became : Becomes held s (s.gist.tried link sql) (s.setCache (c.bind label sql).2) :=
    ⟨by rw [gist_setCache, tried_of_ok isOpen given], h.setCache genuine, fun none => by simp [none.cache] at cache⟩
  exact .ready isOpen (by simp [cache]) (prepareReply_ok.mpr given) became linked pooled
    (has.later (List.append_nil _).symm rfl)

/-- A statement under a label is the one that the text comes to, wherever it is from. -/
theorem Settled.readies_labeled (h : Settled held s) (patient : l.patience = .none)
    {c : StatementCache} (cache : s.cache? = some c) {label : String} (named : label ≠ "")
    {link : Nat} (isOpen : s.server.gist.isClosed link = false) (generation : Nat) (sql : String) :
    Readies held s link true sql (s.prepareLabeled l generation c link label sql) := by
  have sought : c.seek link label sql = (.ok ⟨(c.bind label sql).1,
      (c.bind label sql).2.plan? link sql⟩, (c.bind label sql).2) := by
    simp [StatementCache.seek, named]
  have genuine := h.genuine_bound cache label sql
  simp only [prepareLabeled, sought]
  cases plan : (c.bind label sql).2.plan? link sql with
  | some p => exact h.readies_held cache isOpen plan rfl rfl
  | none =>
    have obtained := (h.setCache genuine).obtains patient link sql
    simp only
    generalize (s.setCache (c.bind label sql).2).prepare l link sql = x at obtained ⊢
    have free (u : Prop) : s.cache? = .none → u := by simp [cache]
    cases obtained with
    | closed isClosed => exact absurd (isOpen.symm.trans isClosed) (by simp)
    | stalled _ blocked cut => exact .stalled isOpen blocked cut
    | limited limit => exact .limited limit
    | answered _ _ became later new =>
      have reply : Server.prepareReply (s.setCache (c.bind label sql).2).script sql =
          Server.prepareReply s.script sql := rfl
      -- The plans of before are there still; a statement that was prepared adds its own.
      have before (p : Plan) (hp : p ∈ (c.bind label sql).2.plans) :=
        later p.link p.prepared ((genuine p hp).later (List.append_nil _).symm rfl)
      simp only [reply] at new ⊢
      cases e : Server.prepareReply s.script sql with
      | error fault =>
        refine .refused isOpen (free _) e (became.setCache cache fun p hp => before p ?_)
        simp only [StatementCache.settle] at hp
        split at hp <;> exact hp
      | ok p =>
        refine .ready isOpen (free _) e (became.setCache cache fun q hq => ?_) rfl rfl
          ((new p e).later (List.append_nil _).symm rfl)
        rcases List.mem_append.mp hq with hq | hq
        · exact before q hq
        · rw [List.mem_singleton.mp hq]
          exact new p e

end Session

end RowMapper
