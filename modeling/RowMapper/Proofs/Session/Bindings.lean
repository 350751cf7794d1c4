import RowMapper.Proofs.Session.Abiding
import RowMapper.Proofs.Session.Outcomes
import RowMapper.Proofs.Session.StalePlans

/-!
Which labels are bound, and to which texts. A label is bound before its text is on the way to the server, and
given up when the server refuses it. When the wait for the server is broken off instead, by a limit or because
the call is dropped, nobody gives the label up.
-/
namespace RowMapper

namespace Limits

variable {l : Limits} {now : Instant} {waits : Nat} {h : Halt}

theorem isCut_of_patience {stop : Instant × Halt} (there : stop ∈ l.patienceStop) : stop.2.isCut = true := by
  simp only [patienceStop] at there
  split at there
  · rw [List.mem_singleton.mp there]
    rfl
  · simp at there

theorem isCut_of_first? {stop : Instant × Halt} (e : l.first? = some stop) : stop.2.isCut = true := by
  rcases List.mem_append.mp (mem_of_earliest e) with there | there
  · rcases List.mem_append.mp there with there | there
    · exact Halt.isCut_of_isLimit (isLimit_of_deadline there)
    · exact Halt.isCut_of_isLimit (isLimit_of_signal there)
  · exact isCut_of_patience there

theorem isCut_of_reached? (e : l.reached? now waits = some h) : h.isCut = true := by
  simp only [reached?] at e
  split at e
  · rename_i stop found
    exact Option.some.inj e ▸ Halt.isCut_of_isLimit (isLimit_of_deadline (List.mem_of_find?_eq_some found))
  · split at e
    · exact Option.some.inj e ▸ rfl
    · obtain ⟨stop, found, rfl⟩ := Option.map_eq_some_iff.mp e
      exact isCut_of_patience (List.mem_of_find?_eq_some found)

theorem isCut_of_await {comes : Option Instant} (e : (l.await now comes).2 = .error h) : h.isCut = true := by
  cases first : l.first? with
  | none =>
    cases comes <;> simp only [await, first] at e
    · exact (Except.error.inj e) ▸ rfl
    · split at e <;> cases e
  | some limit =>
    obtain ⟨stop, cut⟩ := limit
    have isCut := isCut_of_first? first
    cases comes with
    | none =>
      simp only [await, first] at e
      exact Except.error.inj e ▸ isCut
    | some t =>
      simp only [await, first] at e
      split at e
      · cases e
      · split at e
        · exact Except.error.inj e ▸ isCut
        · split at e
          · cases e
          · exact Except.error.inj e ▸ isCut

end Limits

namespace Session

variable {s t : Session} {l : Limits} {h : Halt}

theorem isCut_of_stall {α : Type} (e : (s.stall (α := α) l).1 = .error h) : h.isCut = true := by
  simp only [stall] at e
  split at e <;> rename_i passed
  · obtain rfl := Except.error.inj e
    have ended : (l.await s.now Option.none).2 = .error _ := congrArg Prod.fst passed
    exact Limits.isCut_of_await ended
  · exact Except.error.inj e ▸ rfl

theorem isCut_of_awaitTicket {ticket : Nat} (e : (s.awaitTicket l ticket).1 = .error h) : h.isCut = true := by
  simp only [awaitTicket] at e
  split at e
  · rename_i reached
    exact Except.error.inj e ▸ Limits.isCut_of_reached? reached
  · split at e <;> rename_i awaited
    · obtain rfl := Except.error.inj e
      exact Limits.isCut_of_await (congrArg Prod.snd awaited)
    · cases e

theorem isCut_of_ask {link : Nat} {job : Job} (e : (s.ask l link job).1 = .error h) : h.isCut = true := by
  simp only [ask] at e
  split at e
  · cases e
  · split at e
    · exact isCut_of_stall e
    · exact isCut_of_awaitTicket e

theorem isCut_of_prepare {link : Nat} {sql : String} (e : (s.prepare l link sql).1 = .error h) :
    h.isCut = true := by
  simp only [prepare] at e
  split at e <;> rename_i asked <;> cases e
  exact isCut_of_ask (congrArg Prod.fst asked)

end Session

namespace StatementCache

variable {capacity : Option Nat} {c : StatementCache} {label sql name text : String}

theorem value?_of_refused (tidy : c.Tidy capacity) {c' : StatementCache} {link : Nat} {sought : Sought}
    (found : c.seek link label sql = (.ok sought, c')) {fault : ClientFault}
    (bound : (c'.settle link label sought (.error fault)).labels.value? name = some text) :
    c.labels.value? name = some text := by
  obtain ⟨-, binds, -⟩ := seek_eq found
  have placed : (c.bind label sql).2 = c' := congrArg Prod.snd binds
  have before {x y : String} (there : c'.labels.value? x = some y) :
      c.labels.value? x = some y ∨ (x, y) = (label, sql) := value?_of_bind tidy (placed ▸ there)
  simp only [settle] at bound
  split at bound
  · rename_i own
    rcases before bound with there | same
    · exact there
    · obtain ⟨rfl, rfl⟩ := Prod.mk.inj same
      exact bound_of_bind ((congrArg Prod.fst binds).trans own)
  · by_cases same : name = label
    · subst same
      rw [Labels.value?_remove] at bound
      cases bound
    · rw [Labels.value?_remove_of_ne _ same] at bound
      exact (before bound).resolve_right fun e => same (Prod.mk.inj e).1

end StatementCache

def Ready.labeled? (r : Ready) : Option (String × String) := r.cached.map fun c => (c.2, r.statement.sql)

namespace Session

variable {s t u : Session} {l : Limits} {config : Config}

def textOf? (s : Session) (label : String) : Option String := s.cache?.bind (·.labels.value? label)

theorem textOf?_of_cache {c : StatementCache} (h : s.cache? = some c) (label : String) :
    s.textOf? label = c.labels.value? label := by
  rw [textOf?, h]
  rfl

theorem Waited.textOf? (w : Waited s t) (label : String) : t.textOf? label = s.textOf? label := by
  rw [Session.textOf?, w.cache?, Session.textOf?]

/-- The label and the text for which an answer of the server was not waited for to the end, if the label was
bound for that. -/
def severedOn? (s : Session) (l : Limits) (c : StatementCache) (link : Nat) (label sql : String) :
    Option (String × String) :=
  match c.seek link label sql with
  | (.ok sought, c') =>
    match sought.plan, ((s.setCache c').prepare l link sql).1 with
    | .none, .error _ => if sought.bound then Option.none else some (label, sql)
    | _, _ => Option.none
  | (.error _, _) => Option.none

/-- Of what a call leaves bound, its statement was bound before, or is ready under the label now, or was
severed; and a severed call fails, cut short, and leaves the label bound if there is room for any. -/
structure Relabels {α : Type} (capacity : Option Nat) (s : Session) (readied : α → Option (String × String))
    (severed : Option (String × String)) (x : Except Halt α × Session) : Prop where
  stands : ∀ name text, x.2.textOf? name = some text →
    s.textOf? name = some text ∨ (∃ a, x.1 = .ok a ∧ readied a = some (name, text)) ∨
      severed = some (name, text)
  cut : ∀ name text, severed = some (name, text) →
    ∃ h, x.1 = .error h ∧ h.isCut = true ∧ (capacity ≠ some 0 → x.2.textOf? name = some text)

variable {α β : Type} {capacity : Option Nat} {readied : α → Option (String × String)}
  {severed : Option (String × String)}

theorem relabels_same {x : Except Halt α × Session} (same : ∀ name, x.2.textOf? name = s.textOf? name) :
    Relabels capacity s readied Option.none x :=
  ⟨fun name _ there => .inl (same name ▸ there), fun _ _ e => by cases e⟩

theorem relabels_waited {x : Except Halt α × Session} (w : Waited s x.2) :
    Relabels capacity s readied Option.none x :=
  relabels_same w.textOf?

theorem textOf?_setCache (there : s.isOpen = true) (d : StatementCache) (label : String) :
    (s.setCache d).textOf? label = d.labels.value? label :=
  textOf?_of_cache (by rw [cache?_setCache, if_pos there]) label

section

variable {c c' : StatementCache} (tidy : c.Tidy capacity) (cached : s.cache? = some c)
  {link : Nat} {label sql : String} {sought : StatementCache.Sought}
  (found : c.seek link label sql = (.ok sought, c'))
include tidy cached found

theorem textOf?_of_sought {name text : String} (there : c'.labels.value? name = some text) :
    s.textOf? name = some text ∨ sought.bound = false ∧ (name, text) = (label, sql) := by
  obtain ⟨-, binds, -⟩ := StatementCache.seek_eq found
  have placed : (c.bind label sql).2 = c' := congrArg Prod.snd binds
  rw [textOf?_of_cache cached]
  rcases StatementCache.value?_of_bind tidy (placed ▸ there) with stood | same
  · exact .inl stood
  · cases own : sought.bound with
    | false => exact .inr ⟨rfl, same⟩
    | true =>
      obtain ⟨rfl, rfl⟩ := Prod.mk.inj same
      exact .inl (StatementCache.bound_of_bind ((congrArg Prod.fst binds).trans own))

theorem relabels_ready {r : Ready} (labeled : r.labeled? = some (label, sql))
    (after : ∀ name, t.textOf? name = c'.labels.value? name) :
    Relabels capacity s Ready.labeled? Option.none (.ok r, t) := by
  refine ⟨fun name text there => ?_, fun _ _ same => by cases same⟩
  refine (textOf?_of_sought tidy cached found (after name ▸ there)).imp_right fun same => .inl ⟨r, rfl, ?_⟩
  rw [labeled, same.2]

theorem relabels_refused {h : Halt} {fault : ClientFault}
    (after : ∀ name, t.textOf? name = (c'.settle link label sought (.error fault)).labels.value? name) :
    Relabels capacity s Ready.labeled? Option.none (.error h, t) := by
  refine ⟨fun name text there => .inl ?_, fun _ _ same => by cases same⟩
  exact textOf?_of_cache cached name ▸ StatementCache.value?_of_refused tidy found (after name ▸ there)

theorem relabels_halted {h : Halt} (isCut : h.isCut = true)
    (after : ∀ name, t.textOf? name = c'.labels.value? name) :
    Relabels capacity s Ready.labeled? (if sought.bound then Option.none else some (label, sql)) (.error h, t) := by
  refine ⟨fun name text there => ?_, fun name text same => ?_⟩
  · refine (textOf?_of_sought tidy cached found (after name ▸ there)).imp_right fun same => .inr ?_
    rw [same.1, same.2]
    rfl
  · obtain ⟨-, binds, -⟩ := StatementCache.seek_eq found
    cases own : sought.bound <;> simp only [own, Bool.false_eq_true, if_false, if_true, reduceCtorEq,
      Option.some.injEq] at same
    obtain ⟨rfl, rfl⟩ := Prod.mk.inj same
    -- The label was bound before the wait, and what broke the wait off does not know of it.
    refine ⟨h, rfl, isCut, fun room => ?_⟩
    have bound := (StatementCache.value?_bind tidy label sql).resolve_right room
    rw [binds] at bound
    rw [after, bound]

end

theorem relabels_prepareLabeled {c : StatementCache} (tidy : c.Tidy capacity)
    (ticketed : s.server.Ticketed) (cached : s.cache? = some c) (l : Limits) (generation link : Nat)
    (label sql : String) :
    Relabels capacity s Ready.labeled? (s.severedOn? l c link label sql)
      (s.prepareLabeled l generation c link label sql) := by
  have opened := isOpen_of_cache? cached
  cases found : c.seek link label sql with
  | mk r c' =>
  cases r with
  | error e =>
    simp only [StatementCache.seek] at found
    split at found <;> cases found
    rename_i unlabeled
    simp only [prepareLabeled, severedOn?, StatementCache.seek, unlabeled, if_true]
    refine relabels_same fun name => ?_
    rw [textOf?_setCache opened, textOf?_of_cache cached]
  | ok sought =>
    have after := textOf?_setCache opened c'
    cases looked : sought.plan with
    | some p =>
      obtain ⟨-, -, plan⟩ := StatementCache.seek_eq found
      have text : p.sql = sql := sql_of_plan? (plan.symm.trans looked)
      simp only [prepareLabeled, severedOn?, found, looked]
      exact relabels_ready tidy cached found (text ▸ rfl) after
    | none =>
      -- The server is asked. Its answer keeps or gives up the label; only a wait that was cut leaves it.
      have waited := waited_prepare (s.setCache c') l link sql
      cases e : (s.setCache c').prepare l link sql with
      | mk result v =>
      rw [e] at waited
      cases result with
      | error h =>
        simp only [prepareLabeled, severedOn?, found, looked, e]
        exact relabels_halted tidy cached found (isCut_of_prepare (congrArg Prod.fst e))
          fun name => (waited.textOf? name).trans (after name)
      | ok answer =>
        have still : v.isOpen = true := waited.isOpen.trans (by simp [setCache, updateOpened, isOpen, ← opened])
        have settled := textOf?_setCache still (c'.settle link label sought answer)
        simp only [prepareLabeled, severedOn?, found, looked, e]
        cases answer with
        | error fault => exact relabels_refused tidy cached found settled
        | ok p =>
          have text : p.sql = sql := (prepare_ok (s := s.setCache c') ticketed e).1
          exact relabels_ready tidy cached found (text ▸ rfl) settled

theorem Relabels.before {x : Except Halt α × Session} (r : Relabels capacity t readied severed x)
    (same : ∀ name, t.textOf? name = s.textOf? name) : Relabels capacity s readied severed x :=
  ⟨fun name text there => (r.stands name text there).imp_left fun stood => same name ▸ stood, r.cut⟩

theorem Relabels.map {x : Except Halt α × Session} (r : Relabels capacity s readied severed x)
    {readied' : β → Option (String × String)} {y : Except Halt β × Session}
    (same : ∀ name, y.2.textOf? name = x.2.textOf? name)
    (fine : ∀ a, x.1 = .ok a → ∃ b, y.1 = .ok b ∧ readied' b = readied a)
    (failed : ∀ h, x.1 = .error h → y.1 = .error h) : Relabels capacity s readied' severed y := by
  refine ⟨fun name text there => ?_, fun name text e => ?_⟩
  · refine (r.stands name text (same name ▸ there)).imp_right (Or.imp_left ?_)
    rintro ⟨a, ok, ready⟩
    obtain ⟨b, ok', same⟩ := fine a ok
    exact ⟨b, ok', same.trans ready⟩
  · obtain ⟨h, error, isCut, bound⟩ := r.cut name text e
    exact ⟨h, failed h error, isCut, fun room => same name ▸ bound room⟩

def severedIn? (s : Session) (l : Limits) (label : Option String) (link : Nat) (sql : String) :
    Option (String × String) :=
  match label, s.cache? with
  | some name, some c => s.severedOn? l c link name sql
  | _, _ => Option.none

theorem relabels_prepareOn (regular : s.Regular config) (l : Limits) (label : Option String) (link : Nat)
    (sql : String) :
    Relabels config.cacheCapacity s Ready.labeled? (s.severedIn? l label link sql)
      (s.prepareOn l label link sql) := by
  have fresh : Relabels config.cacheCapacity s Ready.labeled? Option.none
      (s.prepareFresh l link true .bypass sql) :=
    relabels_waited (waited_prepareFresh s l link true .bypass sql)
  cases label with
  | none => exact fresh
  | some name =>
    cases opened : s.opened with
    | none =>
      have uncached : s.cache? = Option.none := by simp [cache?, opened]
      simp only [prepareOn, severedIn?, opened, uncached]
      exact fresh
    | some o =>
      cases cache : o.cache with
      | none =>
        have uncached : s.cache? = Option.none := by simp [cache?, opened, cache]
        simp only [prepareOn, severedIn?, opened, cache, uncached]
        exact fresh
      | some c =>
        have cached : s.cache? = some c := by simp [cache?, opened, cache]
        simp only [prepareOn, severedIn?, opened, cache, cached]
        exact relabels_prepareLabeled (StatementCache.tidy_of_reachable (regular.cache c cached))
          regular.ticketed cached l o.generation link name sql

def severedAt? (s : Session) (l : Limits) (label : Option String) (sql : String) : Option (String × String) :=
  match s.checkout l with
  | (.ok link, u) => u.severedIn? l label link sql
  | (.error _, _) => Option.none

theorem relabels_preparePooled (regular : s.Regular config) (l : Limits) (label : Option String)
    (sql : String) :
    Relabels config.cacheCapacity s Ready.labeled? (s.severedAt? l label sql) (s.preparePooled l label sql) := by
  have out := waited_checkout s l
  rw [preparePooled_eq, severedAt?]
  generalize s.checkout l = x at out
  obtain ⟨h | link, u⟩ := x
  · exact relabels_waited out
  · have prepared := (relabels_prepareOn (regular.waited out) l label link sql).before out.textOf?
    simp only
    generalize u.prepareOn l label link sql = y at prepared
    obtain ⟨h | ready, v⟩ := y
    · exact prepared.map (waited_release v link).textOf? (fun _ e => by cases e) fun _ e => e
    · exact prepared

def severedStage? (s : Session) (c : Call) (l : Limits) (label : Option String) (sql : String) :
    Option (String × String) :=
  if l.isRefused s.now s.waits || c.transaction.isSome then Option.none else s.severedAt? l label sql

theorem relabels_prepareStage (regular : s.Regular config) (c : Call) (l : Limits) (label : Option String)
    (sql : String) :
    Relabels config.cacheCapacity s Ready.labeled? (s.severedStage? c l label sql)
      (s.prepareStage c l label sql) := by
  simp only [prepareStage, severedStage?]
  cases refused : l.isRefused s.now s.waits with
  | true => exact relabels_same fun _ => rfl
  | false =>
    cases c.transaction with
    | some link => exact relabels_waited (waited_prepareFresh s l link false .transaction sql)
    | none => exact relabels_preparePooled regular l label sql

def severing? (s : Session) (c : Call) (usual : Option String) (sql : String) (paramCount : Nat) :
    Option (String × String) :=
  match s.lacksConnection c, s.askHook (s.asked c usual sql paramCount) with
  | false, (.ok ctx, u) => u.severedStage? c (s.limitsOf c) (c.label <|> usual) ctx.execSql
  | _, _ => Option.none

theorem textOf?_of_opened (same : t.opened = s.opened) (label : String) : t.textOf? label = s.textOf? label := by
  rw [textOf?, cache?_of_opened same, textOf?]

theorem textOf?_report {r : Run} (unlabeled : r.cached = Option.none) (h : Halt) (label : String) :
    (s.report (α := Unit) r (fun _ => .rows 0) (.error h)).textOf? label = s.textOf? label := by
  refine textOf?_of_opened ?_ label
  cases h with
  | dropped => rfl
  | error e =>
    simp only [report, fail, dropStale, unlabeled]
    exact opened_complete s r _

theorem relabels_begin (regular : s.Regular config) (c : Call) (usual : Option String) (sql : String)
    (paramCount : Nat) :
    Relabels config.cacheCapacity s (fun b => b.ready.labeled?) (s.severing? c usual sql paramCount)
      (s.begin c usual sql paramCount) := by
  have begun := begin_begins s c usual sql paramCount
  generalize s.begin c usual sql paramCount = x at begun
  have stage {ctx : Context} {u : Session} (connected : s.lacksConnection c = false)
      (asked : s.askHook (s.asked c usual sql paramCount) = (.ok ctx, u)) :
      Relabels config.cacheCapacity s Ready.labeled? (s.severing? c usual sql paramCount)
        (u.prepareStage c (s.limitsOf c) (c.label <|> usual) ctx.execSql) := by
    have noted : u = s.afterAsking (s.asked c usual sql paramCount) := by
      rw [askHook_eq] at asked
      exact (Prod.mk.inj asked).2.symm
    have regular_u : u.Regular config := noted ▸ regular.afterAsking _
    simp only [severing?, connected, asked]
    exact (relabels_prepareStage regular_u c _ _ _).before (textOf?_of_opened (noted ▸ rfl))
  cases begun with
  | closed lacks =>
    simp only [severing?, lacks]
    exact relabels_same fun _ => rfl
  | aborted connected asked =>
    simp only [severing?, connected, asked]
    rw [askHook_eq] at asked
    exact relabels_same (textOf?_of_opened ((Prod.mk.inj asked).2 ▸ rfl))
  | failed connected asked staged =>
    have prepared := stage connected asked
    rw [staged] at prepared
    exact prepared.map (textOf?_report rfl _) (fun _ e => by cases e) fun _ e => by rw [Except.error.inj e]
  | ready connected asked staged =>
    have prepared := stage connected asked
    rw [staged] at prepared
    exact prepared.map (fun _ => rfl) (fun a e => ⟨_, rfl, by rw [Except.ok.inj e]⟩) fun _ e => by cases e

theorem labeled?_of_prepareLabeled {c : StatementCache} {generation link : Nat} {label sql : String} {ready : Ready}
    (e : (s.prepareLabeled l generation c link label sql).1 = .ok ready) :
    ready.labeled? = some (label, ready.statement.sql) := by
  have prepares := prepareLabeled_prepares s l generation c link label sql
  generalize s.prepareLabeled l generation c link label sql = x at prepares e
  cases prepares <;> cases e <;> rfl

theorem relabels_prepareOnly (regular : s.Regular config) (l : Limits) (label sql : String) :
    Relabels config.cacheCapacity s (fun p => some (label, p.2.sql)) (s.severedAt? l (some label) sql)
      (s.prepareOnly l label sql) := by
  have out := waited_checkout s l
  simp only [prepareOnly, severedAt?]
  generalize s.checkout l = x at out
  obtain ⟨h | link, u⟩ := x
  · exact relabels_waited out
  · -- The cache is the one that the session had before a connection was taken out.
    have bare (uncached : s.cache? = Option.none) :
        Relabels config.cacheCapacity s (fun p : Bool × Prepared => some (label, p.2.sql))
          (u.severedIn? l (some label) link sql) (.error (.error .cacheUnset), u.release link) := by
      simp only [severedIn?, out.cache?.trans uncached]
      exact relabels_waited (out.trans (waited_release u link))
    cases opened : s.opened with
    | none => exact bare (by simp [cache?, opened])
    | some o =>
      obtain ⟨generation, pool, cache, database, username⟩ := o
      cases cache with
      | none => exact bare (by simp [cache?, opened])
      | some c =>
        have cached : u.cache? = some c := out.cache?.trans (by simp [cache?, opened])
        have tidy := StatementCache.tidy_of_reachable ((regular.waited out).cache c cached)
        have labeled := (relabels_prepareLabeled tidy (regular.waited out).ticketed cached l generation link label
          sql).before out.textOf?
        simp only [severedIn?, cached]
        cases e : u.prepareLabeled l generation c link label sql with
        | mk result v =>
        rw [e] at labeled
        have released := (waited_release v link).textOf?
        cases result with
        | error h => exact labeled.map released (fun _ e => by cases e) fun _ e => by rw [Except.error.inj e]
        | ok ready =>
          refine labeled.map released (fun a same => ⟨_, rfl, ?_⟩) fun _ e => by cases e
          obtain rfl := Except.ok.inj same
          exact (labeled?_of_prepareLabeled (congrArg Prod.fst e)).symm

end Session

end RowMapper
