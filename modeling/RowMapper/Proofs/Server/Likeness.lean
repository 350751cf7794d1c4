import RowMapper.Proofs.Server.Solo

/-!
What a server does next depends on its script, on how often each rule was run, and on the connections that
it has hung up. It does not depend on the clock; and with a steady script, which always says the same about
the preparing of a text, not on what was prepared either.
-/
namespace RowMapper

/-- A connection that is lost is lost with the answer, not between rows that are still to come. -/
def RunStep.IsPrompt (r : RunStep) : Prop :=
  r.setback = some .hangUp → r.isEarly = true ∨ r.rows.length * r.rowDelay.nanos = 0

instance : DecidablePred RunStep.IsPrompt := fun r =>
  inferInstanceAs (Decidable (r.setback = some .hangUp → r.isEarly = true ∨ r.rows.length * r.rowDelay.nanos = 0))

/-- Preparing always ends in the same way, and no connection is lost between rows. -/
structure Rule.IsSteady (r : Rule) : Prop where
  prepares : ∀ p ∈ r.prepares, ∀ q ∈ r.prepares, p.setback = q.setback
  runs : ∀ s ∈ r.runs, s.IsPrompt

instance : DecidablePred Rule.IsSteady := fun r =>
  decidable_of_iff ((∀ p ∈ r.prepares, ∀ q ∈ r.prepares, p.setback = q.setback) ∧ ∀ s ∈ r.runs, s.IsPrompt)
    ⟨fun h => ⟨h.1, h.2⟩, fun h => ⟨h.prepares, h.runs⟩⟩

theorem stepAt_mem {α : Type} {steps : List α} (h : steps ≠ []) (quiet : α) (earlier : Nat) :
    stepAt quiet steps earlier ∈ steps := by
  simp only [stepAt]
  split
  · rename_i e
    exact List.mem_of_getElem? e
  · rw [List.getLast?_eq_some_getLast h]
    exact List.getLast_mem h

theorem Rule.IsSteady.setback {r : Rule} (h : r.IsSteady) (earlier : Nat) :
    (stepAt .quiet r.prepares earlier).setback = (stepAt .quiet r.prepares 0).setback := by
  by_cases none : r.prepares = []
  · simp [stepAt, none]
  · exact h.prepares _ (stepAt_mem none .quiet earlier) _ (stepAt_mem none .quiet 0)

theorem Rule.IsSteady.prompt {r : Rule} (h : r.IsSteady) (earlier : Nat) : (stepAt .quiet r.runs earlier).IsPrompt := by
  by_cases none : r.runs = []
  · rw [stepAt, none]
    exact nofun
  · exact h.runs _ (stepAt_mem none .quiet earlier)

def Feed.timeless (f : Feed) : Feed :=
  { f with rows := f.rows.map fun r => (0, r.2), endAt := 0 }

theorem Feed.isBlocking_timeless (f : Feed) : f.timeless.isBlocking = f.isBlocking := by
  simp only [isBlocking, timeless, List.length_map]
  rfl

def Content.timeless : Content → Content
  | .feed f => .feed f.timeless
  | c => c

namespace Server

structure Gist where
  rules : List (Rule × Nat)
  startups : List StartupStep
  hungUp : List Bool
  deriving DecidableEq, Repr

def RuleState.gist (r : RuleState) : Rule × Nat := (r.rule, r.runs)

def gist (s : Server) : Gist :=
  ⟨s.rules.map RuleState.gist, s.startups, s.links.map (·.closedAt.isSome)⟩

def Gist.script (g : Gist) : List Rule := g.rules.map (·.1)

def Gist.isClosed (g : Gist) (link : Nat) : Bool := (g.hungUp[link - 1]?).getD true

def preparing (script : List Rule) (sql : String) : Except Setback Prepared :=
  match script.find? (·.applies sql) with
  | some r =>
    match (stepAt .quiet r.prepares 0).setback with
    | some setback => .error setback
    | none => .ok ⟨sql, r.params.of sql, r.columns⟩
  | none =>
    if sql = greeting then .ok ⟨sql, greetingRule.params.of sql, greetingRule.columns⟩
    else .error (.refuse unknownText)

def prepareReply (script : List Rule) (sql : String) : Except ClientFault Prepared :=
  (preparing script sql).mapError Setback.fault

def hangsUpOn (script : List Rule) (sql : String) : Bool :=
  match preparing script sql with
  | .error .hangUp => true
  | _ => false

theorem preparing_sql {script : List Rule} {sql : String} {p : Prepared}
    (h : preparing script sql = .ok p) : p.sql = sql := by
  simp only [preparing] at h
  split at h
  · split at h
    · simp at h
    · exact Except.ok.inj h ▸ rfl
  · split at h
    · exact Except.ok.inj h ▸ rfl
    · simp at h

theorem script_gist (s : Server) : s.gist.script = s.rules.map (·.rule) := by
  simp [gist, Gist.script, RuleState.gist]

theorem isClosed_gist {s : Server} {now : Instant} (shut : s.ShutBy now) (link : Nat) :
    s.isClosed now link = s.gist.isClosed link := by
  simp only [isClosed, Gist.isClosed, gist, List.getElem?_map]
  cases h : s.links[link - 1]? with
  | none => rfl
  | some l =>
    cases ht : l.closedAt with
    | none => simp [ht]
    | some t => simp [ht, shut l (List.mem_of_getElem? h) t ht]

theorem ruleOrGreeting?_gist {a b : Server} (same : a.gist = b.gist) (sql : String) :
    (a.ruleOrGreeting? sql).map RuleState.gist = (b.ruleOrGreeting? sql).map RuleState.gist := by
  have rules : a.rules.map RuleState.gist = b.rules.map RuleState.gist := congrArg Gist.rules same
  have found (s : Server) : (s.ruleFor? sql).map RuleState.gist =
      (s.rules.map RuleState.gist).find? (·.1.applies sql) := by
    rw [List.find?_map]
    rfl
  have first : (a.ruleFor? sql).map RuleState.gist = (b.ruleFor? sql).map RuleState.gist := by
    rw [found, found, rules]
  simp only [ruleOrGreeting?]
  cases ha : a.ruleFor? sql <;> cases hb : b.ruleFor? sql <;>
    simp only [ha, hb, Option.map_some, Option.map_none, reduceCtorEq] at first ⊢
  exact first

theorem countUse_prepares (sql : String) (rules : List RuleState) :
    (countUse sql (fun r => { r with prepares := r.prepares + 1 }) rules).map RuleState.gist =
      rules.map RuleState.gist := by
  induction rules with
  | nil => rfl
  | cons r rest ih =>
    simp only [countUse]
    split
    · rfl
    · rw [List.map_cons, ih, List.map_cons]

theorem countUse_runs (sql : String) {rules rules' : List RuleState}
    (same : rules.map RuleState.gist = rules'.map RuleState.gist) :
    (countUse sql (fun r => { r with runs := r.runs + 1 }) rules).map RuleState.gist =
      (countUse sql (fun r => { r with runs := r.runs + 1 }) rules').map RuleState.gist := by
  induction rules generalizing rules' with
  | nil =>
    obtain rfl : rules' = [] := List.map_eq_nil_iff.mp same.symm
    rfl
  | cons r rest ih =>
    cases rules' with
    | nil => simp at same
    | cons r' rest' =>
      obtain ⟨first, others⟩ := List.cons.inj same
      obtain ⟨rule, runs⟩ := Prod.mk.inj first
      simp only [countUse, rule]
      split
      · rw [List.map_cons, List.map_cons, others]
        simp only [RuleState.gist, runs]
      · rw [List.map_cons, List.map_cons, ih others, first]

theorem countUse_rules (sql : String) (use : RuleState → RuleState)
    (kept : ∀ r, (use r).rule = r.rule) (rules : List RuleState) :
    (countUse sql use rules).map (·.rule) = rules.map (·.rule) := by
  induction rules with
  | nil => rfl
  | cons r rest ih =>
    simp only [countUse]
    split
    · rw [List.map_cons, kept, List.map_cons]
    · rw [List.map_cons, ih, List.map_cons]

theorem rules_carry (s : Server) (link start : Nat) (job : Job) :
    (s.carry link start job).2.2.rules.map (·.rule) = s.rules.map (·.rule) := by
  cases job with
  | startup => rfl
  | prepare sql =>
    exact countUse_rules sql (fun r => { r with prepares := r.prepares + 1 }) (fun _ => rfl) s.rules
  | run p values =>
    exact countUse_rules p.sql (fun r => { r with runs := r.runs + 1 }) (fun _ => rfl) s.rules
  | begin => rfl

theorem carry_prepare {s : Server} (steady : ∀ r ∈ s.gist.script, r.IsSteady) (link start : Nat)
    (sql : String) :
    (s.carry link start (.prepare sql)).1.answer.content =
        (prepareReply s.gist.script sql).map .prepared ∧
      (s.carry link start (.prepare sql)).1.hangsUp = hangsUpOn s.gist.script sql := by
  have found : s.gist.script.find? (·.applies sql) = (s.ruleFor? sql).map (·.rule) := by
    rw [script_gist, List.find?_map]
    rfl
  simp only [carry, ruleOrGreeting?, prepareReply, hangsUpOn, preparing, found]
  cases h : s.ruleFor? sql with
  | some r =>
    have known : r.rule ∈ s.gist.script := by
      rw [script_gist]
      exact List.mem_map_of_mem (List.mem_of_find?_eq_some h)
    simp only [Option.map_some, carryPrepare, (steady r.rule known).setback r.prepares]
    cases (stepAt PrepareStep.quiet r.rule.prepares 0).setback with
    | none => exact ⟨rfl, rfl⟩
    | some setback => cases setback <;> exact ⟨rfl, rfl⟩
  | none =>
    by_cases greeted : sql = greeting
    · simp only [Option.map_none, if_pos greeted]
      exact ⟨rfl, rfl⟩
    · simp only [Option.map_none, if_neg greeted]
      exact ⟨rfl, rfl⟩

theorem prompt_of_ruleOrGreeting {s : Server} (steady : ∀ r ∈ s.gist.script, r.IsSteady) {sql : String} {r : RuleState}
    (found : s.ruleOrGreeting? sql = some r) : (stepAt .quiet r.rule.runs r.runs).IsPrompt := by
  simp only [ruleOrGreeting?] at found
  split at found
  · rename_i r' known
    obtain rfl := Option.some.inj found
    refine Rule.IsSteady.prompt (steady r'.rule ?_) r'.runs
    rw [script_gist]
    exact List.mem_map_of_mem (List.mem_of_find?_eq_some known)
  · split at found
    · obtain rfl := Option.some.inj found
      exact nofun
    · cases found

theorem timeless_feedFrom (t u : Instant) (columns : List (String × WireType)) (r : RunStep) :
    (feedFrom t columns r).timeless = (feedFrom u columns r).timeless := by
  simp only [Feed.timeless, feedFrom, List.map_map]
  rfl

theorem carryRun_timeless (t u : Instant) (columns : List (String × WireType)) (r : RunStep) :
    (carryRun t columns r).answer.content.map Content.timeless =
        (carryRun u columns r).answer.content.map Content.timeless ∧
      (carryRun t columns r).hangsUp = (carryRun u columns r).hangsUp := by
  have same := timeless_feedFrom (t + r.delay.nanos) (u + r.delay.nanos) columns r
  simp only [carryRun]
  cases r.setback with
  | none => exact ⟨congrArg (fun f => Except.ok (Content.feed f)) same, rfl⟩
  | some setback =>
    cases r.isEarly with
    | true => exact ⟨rfl, rfl⟩
    | false => exact ⟨congrArg (fun f => Except.ok (Content.feed f)) same, rfl⟩

variable {a b : Server}

/-- Like servers answer alike, whenever they are asked. -/
theorem carry_alike (same : a.gist = b.gist) (steady : ∀ r ∈ a.gist.script, r.IsSteady)
    (link : Nat) (t u : Instant) (job : Job) :
    (a.carry link t job).1.answer.content.map Content.timeless =
        (b.carry link u job).1.answer.content.map Content.timeless ∧
      (a.carry link t job).1.hangsUp = (b.carry link u job).1.hangsUp := by
  cases job with
  | startup =>
    have startups : a.startups = b.startups := congrArg Gist.startups same
    simp only [carry, startups]
    split <;> exact ⟨rfl, rfl⟩
  | prepare sql =>
    obtain ⟨content, hangsUp⟩ := carry_prepare steady link t sql
    obtain ⟨content', hangsUp'⟩ := carry_prepare (same ▸ steady) link u sql
    rw [content, content', hangsUp, hangsUp', same]
    exact ⟨rfl, rfl⟩
  | run p values =>
    have rules := ruleOrGreeting?_gist same p.sql
    simp only [carry]
    cases ha : a.ruleOrGreeting? p.sql <;> cases hb : b.ruleOrGreeting? p.sql <;>
      simp only [ha, hb, Option.map_some, Option.map_none, reduceCtorEq, Option.some.injEq] at rules ⊢
    · exact ⟨rfl, rfl⟩
    · obtain ⟨rule, runs⟩ := Prod.mk.inj rules
      rw [rule, runs]
      exact carryRun_timeless t u p.columns _
  | begin => exact ⟨rfl, rfl⟩

theorem wire_carry (link : Nat) (t u : Instant) (job : Job) :
    (a.carry link t job).2.1 = (b.carry link u job).2.1 := by
  cases job <;> rfl

theorem gist_taken (s : Server) (i : Nat) (start : Instant) (job : Job) :
    (s.taken i start job).gist =
      ⟨(s.carry (i + 1) start job).2.2.rules.map RuleState.gist, s.startups,
        s.gist.hungUp.set i (s.carry (i + 1) start job).1.hangsUp⟩ := by
  have startups : (s.carry (i + 1) start job).2.2.startups = s.startups := by cases job <;> rfl
  have hungUp (c : Carried) : (Link.freed c).closedAt.isSome = c.hangsUp := by
    simp only [Link.freed]
    cases c.hangsUp <;> rfl
  simp only [gist, taken, startups, List.map_set, hungUp]

theorem isClosed_taken {s : Server} {i : Nat} (there : i < s.links.length) (start : Instant) (job : Job) :
    (s.taken i start job).gist.isClosed (i + 1) = (s.carry (i + 1) start job).1.hangsUp := by
  have length : i < s.gist.hungUp.length := by simpa [gist] using there
  simp only [gist_taken, Gist.isClosed, Nat.add_sub_cancel, List.getElem?_set_self length,
    Option.getD_some]

theorem hangsUp_of_started {s : Server} {link start : Nat} {c : Content}
    (h : (s.carry link start .startup).1.answer.content = .ok c) :
    (s.carry link start .startup).1.hangsUp = false := by
  simp only [carry] at h ⊢
  split at h
  · simp at h
  · rfl

theorem gist_taken_alike (same : a.gist = b.gist) (steady : ∀ r ∈ a.gist.script, r.IsSteady) (i : Nat)
    (t u : Instant) (job : Job) : (a.taken i t job).gist = (b.taken i u job).gist := by
  have rules : a.rules.map RuleState.gist = b.rules.map RuleState.gist := congrArg Gist.rules same
  have startups : a.startups = b.startups := congrArg Gist.startups same
  have counted : (a.carry (i + 1) t job).2.2.rules.map RuleState.gist =
      (b.carry (i + 1) u job).2.2.rules.map RuleState.gist := by
    cases job with
    | startup => exact rules
    | prepare sql => exact (countUse_prepares sql _).trans (rules.trans (countUse_prepares sql _).symm)
    | run p values => exact countUse_runs p.sql rules
    | begin => exact rules
  rw [gist_taken, gist_taken, (carry_alike same steady (i + 1) t u job).2, counted, startups, same]

/-- A text that is prepared leaves no mark, unless the server hangs up. -/
theorem gist_taken_prepare {s : Server} (steady : ∀ r ∈ s.gist.script, r.IsSteady) (i : Nat)
    (start : Instant) (sql : String) :
    (s.taken i start (.prepare sql)).gist =
      { s.gist with hungUp := s.gist.hungUp.set i (hangsUpOn s.gist.script sql) } := by
  rw [gist_taken, (carry_prepare steady (i + 1) start sql).2]
  exact congrArg (fun rules => Gist.mk rules _ _) (countUse_prepares sql s.rules)

theorem freeAt_carryRun {r : RunStep} (prompt : r.IsPrompt) {start : Instant} {columns : List (String × WireType)}
    (h : (carryRun start columns r).hangsUp = true) :
    (carryRun start columns r).freeAt = (carryRun start columns r).answer.time := by
  simp only [carryRun] at h ⊢
  cases said : r.setback with
  | none => simp [said] at h
  | some setback =>
    cases early : r.isEarly with
    | true => rfl
    | false =>
      simp only [said, early, Bool.false_eq_true, ↓reduceIte] at h ⊢
      cases setback with
      | refuse e => cases h
      | hangUp =>
        have at_once : r.rows.length * r.rowDelay.nanos = 0 :=
          (prompt said).resolve_left (by simp [early])
        rw [feedFrom, at_once, Nat.add_zero]

/-- With a steady script the server hangs up with its answer, not later. -/
theorem freeAt_of_hangsUp {s : Server} (steady : ∀ r ∈ s.gist.script, r.IsSteady) {link start : Nat} {job : Job}
    (h : (s.carry link start job).1.hangsUp = true) :
    (s.carry link start job).1.freeAt = (s.carry link start job).1.answer.time := by
  cases job with
  | startup =>
    simp only [carry] at h ⊢
    split <;> rfl
  | prepare sql =>
    simp only [carry] at h ⊢
    split
    · simp only [carryPrepare]
      split <;> rfl
    · rfl
  | run p values =>
    simp only [carry] at h ⊢
    cases found : s.ruleOrGreeting? p.sql with
    | none => rfl
    | some r =>
      rw [found] at h
      exact freeAt_carryRun (prompt_of_ruleOrGreeting steady found) h
  | begin => rfl

theorem shutBy_taken {s : Server} (steady : ∀ r ∈ s.gist.script, r.IsSteady) {now now' : Instant} {i : Nat}
    {start : Instant} {job : Job} (h : s.ShutBy now) (later : now ≤ now')
    (answered : (s.carry (i + 1) start job).1.answer.time ≤ now') :
    (s.taken i start job).ShutBy now' := by
  intro l hl t ht
  rcases List.mem_or_eq_of_mem_set hl with hl | rfl
  · exact Nat.le_trans (h l hl t ht) later
  · simp only [Link.freed, Option.ite_none_right_eq_some, Option.some.injEq] at ht
    obtain ⟨hangsUp, rfl⟩ := ht
    exact freeAt_of_hangsUp steady hangsUp ▸ answered

theorem script_taken (s : Server) (i : Nat) (start : Instant) (job : Job) :
    (s.taken i start job).gist.script = s.gist.script := by
  rw [script_gist, script_gist]
  exact rules_carry s (i + 1) start job

end Server

end RowMapper
