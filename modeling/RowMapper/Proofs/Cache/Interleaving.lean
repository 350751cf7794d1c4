import RowMapper.Proofs.Cache.Recovery

/-!
A cache that any number of calls use at once. A call waits while its statement is prepared, and meanwhile other
calls may bind its label, give it up, or prepare what they need. What the sequential runs keep of labels and plans
is kept here as well. The clean-up of a failed call goes by the label alone: it gives up the call's own binding,
and just as well one that a later call has made.
-/
namespace RowMapper

structure Pending where
  number : Nat
  link : Nat
  label : String
  sql : String
  sought : StatementCache.Sought
  deriving DecidableEq, Repr

/-- A cache and the calls in flight. Of each label it is noted which call has bound it. -/
structure Shared where
  cache : StatementCache
  flight : List Pending
  calls : Nat
  binder : String → Nat

namespace Shared

def empty (capacity : Option Nat) : Shared := ⟨.empty capacity, [], 0, fun _ => 0⟩

/-- A call has begun: it has bound its label, unless the label stood for its text already. -/
def begun (s : Shared) (label : String) (sought : StatementCache.Sought) (c : StatementCache) : Shared :=
  { s with
    cache := c
    calls := s.calls + 1
    binder := fun name => if name = label ∧ sought.bound = false then s.calls else s.binder name }

def IsFree (s : Shared) (link : Nat) : Prop := ∀ p ∈ s.flight, p.link ≠ link

/-- What happens without a wait. -/
inductive Step : Shared → Shared → Prop where
  | reuse {s : Shared} {c : StatementCache} {link : Nat} {label sql : String} {sought : StatementCache.Sought}
    {found : Prepared} : s.IsFree link → s.cache.seek link label sql = (.ok sought, c) →
      sought.plan = some found → Step s (s.begun label sought c)
  | depart {s : Shared} {c : StatementCache} {link : Nat} {label sql : String} {sought : StatementCache.Sought} :
    s.IsFree link → s.cache.seek link label sql = (.ok sought, c) → sought.plan = none →
      Step s { s.begun label sought c with flight := ⟨s.calls, link, label, sql, sought⟩ :: s.flight }
  | arrive {s : Shared} {p : Pending} {i : Nat} {made : Prepared} : s.flight[i]? = some p → made.sql = p.sql →
      Step s { s with cache := s.cache.settle p.link p.label p.sought (.ok made), flight := s.flight.eraseIdx i }
  | fail {s : Shared} {p : Pending} {i : Nat} (fault : ClientFault) : s.flight[i]? = some p →
      Step s { s with
        cache := s.cache.settle p.link p.label p.sought (.error fault), flight := s.flight.eraseIdx i }
  | abandon (s : Shared) (i : Nat) : Step s { s with flight := s.flight.eraseIdx i }
  | invalidate (s : Shared) (label : String) : Step s { s with cache := (s.cache.invalidate label).2 }
  | close (s : Shared) : Step s { s with cache := s.cache.close }

inductive Reachable (capacity : Option Nat) : Shared → Prop where
  | empty : Reachable capacity (.empty capacity)
  | step {s s' : Shared} : Reachable capacity s → Step s s' → Reachable capacity s'

/-- Calls that come one after the other are an interleaving. -/
theorem reachable_of_turns {capacity : Option Nat} {c : StatementCache}
    (h : StatementCache.Reachable capacity c) : ∃ s, Reachable capacity s ∧ s.cache = c ∧ s.flight = [] := by
  induction h with
  | empty => exact ⟨.empty capacity, .empty, rfl, rfl⟩
  | turn _ turn ih =>
    obtain ⟨s, reached, rfl, alone⟩ := ih
    have free (link : Nat) : s.IsFree link := by simp [IsFree, alone]
    cases turn with
    | reuse sought found => exact ⟨_, reached.step (.reuse (free _) sought found), rfl, alone⟩
    | abandon sought none =>
      exact ⟨_, (reached.step (.depart (free _) sought none)).step (.abandon _ 0), rfl, alone⟩
    | fail fault sought none =>
      exact ⟨_, (reached.step (.depart (free _) sought none)).step (.fail (i := 0) fault rfl), rfl, alone⟩
    | keep sought none text =>
      exact ⟨_, (reached.step (.depart (free _) sought none)).step (.arrive (i := 0) rfl text), rfl, alone⟩
    | invalidate label => exact ⟨_, reached.step (.invalidate s label), rfl, alone⟩
    | close => exact ⟨_, reached.step (.close s), rfl, alone⟩

/-! ### What is kept -/

structure Fewer (c c' : StatementCache) : Prop where
  labels : ∀ name text, c'.labels.value? name = some text → c.labels.value? name = some text
  plans : ∀ p ∈ c'.plans, p ∈ c.plans

/-- Labels and plans are in order; no two calls in flight have the same connection, nor does it have the plan that
they wait for; and a label that such a call has bound stands for its text, or for one that a later call has bound
it to. -/
structure Sound (capacity : Option Nat) (s : Shared) : Prop where
  tidy : s.cache.Tidy capacity
  apart : (s.flight.map (·.link)).Nodup
  awaited : ∀ p ∈ s.flight, s.cache.plan? p.link p.sql = none
  begun : ∀ p ∈ s.flight, p.number < s.calls
  since : ∀ p ∈ s.flight, p.sought.bound = false → ∀ text, s.cache.labels.value? p.label = some text →
    p.number < s.binder p.label ∨ s.binder p.label = p.number ∧ text = p.sql

variable {capacity : Option Nat} {s s' : Shared} {c : StatementCache}

theorem Sound.fewer (h : s.Sound capacity) (tidy : c.Tidy capacity) (fewer : Fewer s.cache c)
    {flight : List Pending} (sub : flight.Sublist s.flight) :
    Sound capacity { s with cache := c, flight := flight } where
  tidy := tidy
  apart := h.apart.sublist (sub.map _)
  awaited p there := StatementCache.plan?_of_subset fewer.plans (h.awaited p (sub.subset there))
  begun p there := h.begun p (sub.subset there)
  since p there own text bound := h.since p (sub.subset there) own text (fewer.labels _ _ bound)

theorem fewer_settle (c : StatementCache) (p : Pending) (fault : ClientFault) :
    Fewer c (c.settle p.link p.label p.sought (.error fault)) := by
  simp only [StatementCache.settle]
  split
  · exact ⟨fun _ _ bound => bound, fun _ there => there⟩
  · refine ⟨fun name text bound => ?_, fun _ there => there⟩
    by_cases same : name = p.label
    · rw [same, Labels.value?_remove] at bound
      cases bound
    · rwa [Labels.value?_remove_of_ne _ same] at bound

theorem fewer_invalidate (c : StatementCache) (label : String) : Fewer c (c.invalidate label).2 := by
  refine ⟨fun name text bound => ?_, fun p there => (StatementCache.mem_plans_invalidate.mp there).1⟩
  by_cases same : name = label
  · rw [same, StatementCache.value?_invalidate] at bound
    cases bound
  · rwa [StatementCache.value?_invalidate_of_ne c same] at bound

theorem plans_bind_subset {label sql : String} {p : Plan} (there : p ∈ (c.bind label sql).2.plans) :
    p ∈ c.plans := by
  by_cases bound : c.labels.value? label = some sql
  · rwa [StatementCache.bind_of_bound bound] at there
  · rw [StatementCache.bind_of_unbound bound] at there
    exact (List.mem_filter.mp there).1

/-- For the calls in flight, a call that begins is a later one. -/
theorem Sound.enter (h : s.Sound capacity) {link : Nat} {label sql : String} {sought : StatementCache.Sought}
    (found : s.cache.seek link label sql = (.ok sought, c)) : Sound capacity (s.begun label sought c) := by
  obtain ⟨-, binds, -⟩ := StatementCache.seek_eq found
  obtain ⟨was, rfl⟩ := Prod.mk.inj binds
  refine ⟨StatementCache.tidy_bind label sql h.tidy, h.apart,
    fun p there => StatementCache.plan?_of_subset (fun _ => plans_bind_subset) (h.awaited p there),
    fun p there => Nat.lt_succ_of_lt (h.begun p there), fun p there own text bound => ?_⟩
  simp only [Shared.begun]
  by_cases rebound : p.label = label ∧ sought.bound = false
  · rw [if_pos rebound]
    exact .inl (h.begun p there)
  · rw [if_neg rebound]
    -- The label is another one, or it stood for the text before.
    rcases StatementCache.value?_of_bind h.tidy bound with stood | same
    · exact h.since p there own text stood
    · obtain ⟨named, rfl⟩ := Prod.mk.inj same
      have kept : sought.bound = true := by
        cases e : sought.bound with
        | true => rfl
        | false => exact absurd ⟨named, e⟩ rebound
      exact h.since p there own text (named ▸ StatementCache.bound_of_bind (was.trans kept))

theorem link_ne {flight : List Pending} (apart : (flight.map (·.link)).Nodup) {p q : Pending} {i : Nat}
    (there : flight[i]? = some p) (rest : q ∈ flight.eraseIdx i) : q.link ≠ p.link := by
  obtain ⟨j, other, found⟩ := List.mem_eraseIdx_iff_getElem?.mp rest
  intro same
  have inside : j < (flight.map (·.link)).length := by
    rw [List.length_map]
    exact (List.getElem?_eq_some_iff.mp found).1
  refine other ((List.getElem?_inj inside apart).mp ?_)
  rw [List.getElem?_map, List.getElem?_map, found, there, Option.map_some, Option.map_some, same]

/-- A call that waits has its connection to itself, no plan of its statement there, and its label, if any. -/
theorem Sound.depart (h : s.Sound capacity) {link : Nat} {label sql : String} {sought : StatementCache.Sought}
    (free : s.IsFree link) (found : s.cache.seek link label sql = (.ok sought, c)) (none : sought.plan = none) :
    Sound capacity { s.begun label sought c with flight := ⟨s.calls, link, label, sql, sought⟩ :: s.flight } := by
  have entered := h.enter found
  obtain ⟨-, binds, planned⟩ := StatementCache.seek_eq found
  obtain ⟨-, rfl⟩ := Prod.mk.inj binds
  refine ⟨entered.tidy, List.nodup_cons.mpr ⟨fun there => ?_, h.apart⟩, fun p there => ?_,
    fun p there => ?_, fun p there own text bound => ?_⟩
  · obtain ⟨q, inFlight, same⟩ := List.mem_map.mp there
    exact free q inFlight same
  · rcases List.mem_cons.mp there with rfl | older
    · exact planned.symm.trans none
    · exact entered.awaited p older
  · rcases List.mem_cons.mp there with rfl | older
    · exact Nat.lt_succ_self s.calls
    · exact entered.begun p older
  · rcases List.mem_cons.mp there with rfl | older
    · have stands : text = sql := by
        rcases StatementCache.value?_bind h.tidy label sql with now | full
        · exact Option.some.inj (bound.symm.trans now)
        · rw [StatementCache.value?_of_full (full ▸ entered.tidy) label] at bound
          cases bound
      exact .inr ⟨if_pos ⟨rfl, own⟩, stands⟩
    · exact entered.since p older own text bound

theorem Sound.arrive (h : s.Sound capacity) {p : Pending} {i : Nat} {made : Prepared}
    (there : s.flight[i]? = some p) (text : made.sql = p.sql) :
    Sound capacity { s with
      cache := s.cache.settle p.link p.label p.sought (.ok made), flight := s.flight.eraseIdx i } := by
  have new := h.awaited p (List.mem_of_getElem? there)
  have others := List.eraseIdx_sublist s.flight i
  refine ⟨StatementCache.tidy_keep h.tidy (text ▸ new), h.apart.sublist (others.map _), fun q rest => ?_,
    fun q rest => h.begun q (others.subset rest), fun q rest => h.since q (others.subset rest)⟩
  have waits := h.awaited q (others.subset rest)
  rw [StatementCache.plan?_eq_none_iff, StatementCache.mem_textsOn] at waits ⊢
  rintro ⟨plan, kept, at_link, same⟩
  rcases List.mem_append.mp kept with older | made
  · exact waits ⟨plan, older, at_link, same⟩
  · obtain rfl := List.mem_singleton.mp made
    exact link_ne h.apart there rest at_link.symm

theorem Sound.step (h : s.Sound capacity) (next : Step s s') : s'.Sound capacity := by
  cases next with
  | reuse _ found _ => exact h.enter found
  | depart free found none => exact h.depart free found none
  | arrive there text => exact h.arrive there text
  | @fail p i fault _ =>
    exact h.fewer (StatementCache.tidy_settle_error h.tidy) (fewer_settle s.cache p fault)
      (List.eraseIdx_sublist _ i)
  | abandon i => exact h.fewer h.tidy ⟨fun _ _ bound => bound, fun _ there => there⟩ (List.eraseIdx_sublist _ i)
  | invalidate label =>
    exact h.fewer (StatementCache.tidy_invalidate label h.tidy) (fewer_invalidate s.cache label)
      (List.Sublist.refl _)
  | close =>
    refine h.fewer (StatementCache.tidy_close h.tidy) ⟨fun name text bound => ?_, fun _ there => nomatch there⟩
      (List.Sublist.refl _)
    simp [StatementCache.close, Labels.clear, Labels.value?] at bound

theorem sound_of_reachable (reached : Reachable capacity s) : s.Sound capacity := by
  induction reached with
  | empty =>
    exact ⟨StatementCache.tidy_empty capacity, List.nodup_nil, fun _ there => (nomatch there),
      fun _ there => (nomatch there), fun _ there => (nomatch there)⟩
  | step _ next ih => exact ih.step next

/-! ### The clean-up -/

structure CleanedUp (s : Shared) (p : Pending) (c : StatementCache) : Prop where
  plans : c.plans = s.cache.plans
  others : ∀ name, name ≠ p.label → c.labels.value? name = s.cache.labels.value? name
  /-- A call that found its label bound gives nothing up. -/
  spared : p.sought.bound = true → c = s.cache
  /-- Any other call gives its label up, whoever has bound it. -/
  given : p.sought.bound = false → c.labels.value? p.label = none
  /-- It was the call's own binding, or one that a later call has made. No older one is ever given up. -/
  whose : ∀ text, s.cache.labels.value? p.label = some text → c.labels.value? p.label = none →
    s.binder p.label = p.number ∧ text = p.sql ∨ p.number < s.binder p.label

/-- In every interleaving, the clean-up of a failed call touches no plan and no label but its own, and gives that
up only if the call had to bind it. What it gives up is the binding that the call has made, exactly when no other
call has bound the label since. -/
theorem failure_cleaned_up (reached : Reachable capacity s) {p : Pending} (there : p ∈ s.flight)
    (fault : ClientFault) : CleanedUp s p (s.cache.settle p.link p.label p.sought (.error fault)) := by
  have sound := sound_of_reachable reached
  cases bound : p.sought.bound with
  | true =>
    have same : s.cache.settle p.link p.label p.sought (.error fault) = s.cache := by
      simp only [StatementCache.settle, bound, if_true]
    rw [same]
    refine ⟨rfl, fun _ _ => rfl, fun _ => rfl, fun own => ?_, fun text stands gone => ?_⟩
    · rw [bound] at own
      cases own
    · rw [stands] at gone
      cases gone
  | false =>
    have given : s.cache.settle p.link p.label p.sought (.error fault) =
        { s.cache with labels := (s.cache.labels.remove p.label).2 } := by
      simp [StatementCache.settle, bound]
    rw [given]
    refine ⟨rfl, fun name other => Labels.value?_remove_of_ne _ other, fun own => ?_,
      fun _ => Labels.value?_remove _ _, fun text stands _ => (sound.since p there bound text stands).symm⟩
    rw [bound] at own
    cases own

def firstCall : Pending := ⟨0, 1, "a", "SELECT 1", ⟨false, none⟩⟩

def waiting : Shared :=
  { (empty none).begun "a" ⟨false, none⟩ ((StatementCache.empty none).bind "a" "SELECT 1").2 with
    flight := [firstCall] }

theorem reachable_waiting : Reachable none waiting :=
  Reachable.empty.step (.depart (fun _ there => nomatch there) rfl rfl)

theorem failure_cleaned_up_alone :
    firstCall ∈ waiting.flight ∧ waiting.cache.labels.value? "a" = some "SELECT 1" ∧
      waiting.binder "a" = 0 ∧ ∀ fault,
        (waiting.cache.settle 1 "a" firstCall.sought (.error fault)).labels.value? "a" = none := by
  refine ⟨List.mem_cons_self, rfl, rfl, fun fault => ?_⟩
  exact (failure_cleaned_up reachable_waiting (List.mem_cons_self (a := firstCall)) fault).given rfl

def overtaken (sql : String) (was : Bool) : Shared :=
  { waiting.begun "a" ⟨was, none⟩
      ((waiting.cache.bind "a" sql).2.settle 2 "a" ⟨was, none⟩ (.ok ⟨sql, [], []⟩)) with
    flight := waiting.flight }

theorem reachable_overtaken :
    Reachable none (overtaken "SELECT 2" false) ∧ Reachable none (overtaken "SELECT 1" true) := by
  have free : waiting.IsFree 2 := by
    intro p there
    obtain rfl := List.mem_singleton.mp there
    decide
  have other := @Step.depart waiting _ 2 "a" "SELECT 2" ⟨false, none⟩ free rfl rfl
  have same := @Step.depart waiting _ 2 "a" "SELECT 1" ⟨true, none⟩ free rfl rfl
  have others := (reachable_waiting.step other).step (@Step.arrive _ _ 0 ⟨"SELECT 2", [], []⟩ rfl rfl)
  have sames := (reachable_waiting.step same).step (@Step.arrive _ _ 0 ⟨"SELECT 1", [], []⟩ rfl rfl)
  exact ⟨others, sames⟩

/-- A call in flight whose label has a plan on another connection. If the call fails, the plan is left without any
label: no call finds it under one, and giving up labels does not drop it. -/
structure Orphans (s : Shared) (p : Pending) (plan : Plan) : Prop where
  waits : p ∈ s.flight
  planned : plan ∈ s.cache.plans
  elsewhere : plan.link ≠ p.link
  bound : s.cache.labels.value? p.label = some plan.prepared.sql
  unlabeled : ∀ fault, (s.cache.settle p.link p.label p.sought (.error fault)).labels.entries = []
  stays : ∀ fault label,
    plan ∈ ((s.cache.settle p.link p.label p.sought (.error fault)).invalidate label).2.plans

theorem orphans_of_unlabeled {p : Pending} {plan : Plan} (waits : p ∈ s.flight) (planned : plan ∈ s.cache.plans)
    (elsewhere : plan.link ≠ p.link) (bound : s.cache.labels.value? p.label = some plan.prepared.sql)
    (unlabeled : ∀ fault, (s.cache.settle p.link p.label p.sought (.error fault)).labels.entries = [])
    (plans : ∀ fault, (s.cache.settle p.link p.label p.sought (.error fault)).plans = s.cache.plans) :
    Orphans s p plan := by
  refine ⟨waits, planned, elsewhere, bound, unlabeled, fun fault label => ?_⟩
  refine StatementCache.mem_plans_invalidate.mpr ⟨plans fault ▸ planned, ?_⟩
  simp [Labels.value?, unlabeled]

/-- The first call fails when the second one has prepared its statement. The label is given up with a binding that
the first call has not made; so it is when the second call has the same text and has found the label bound. -/
theorem later_binding_given_up :
    (∃ s p, Reachable none s ∧ Orphans s p ⟨2, ⟨"SELECT 2", [], []⟩⟩ ∧
      s.binder p.label ≠ p.number) ∧ ∃ s p, Reachable none s ∧ Orphans s p ⟨2, ⟨"SELECT 1", [], []⟩⟩ := by
  obtain ⟨other, same⟩ := reachable_overtaken
  refine ⟨⟨_, firstCall, other, ?_, by decide⟩, ⟨_, firstCall, same, ?_⟩⟩
  · exact orphans_of_unlabeled List.mem_cons_self List.mem_cons_self (by decide) rfl (fun _ => rfl) fun _ => rfl
  · exact orphans_of_unlabeled List.mem_cons_self List.mem_cons_self (by decide) rfl (fun _ => rfl) fun _ => rfl

end Shared

end RowMapper
