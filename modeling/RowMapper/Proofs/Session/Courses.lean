import RowMapper.Proofs.Session.Dropping

/-!
What ends the stages of a call. Each stage waits for some results, one after the other. It is not started
when the signal has fired; a wait ends with its result unless a limit comes before that, and of the limits the
earlier one ends it, the deadline if both come at one instant.
-/
namespace RowMapper

/-- An instant, and how often there was a wait before. -/
abbrev Clock := Instant × Nat

def Signal.IsTimely (clock : Clock) : Signal → Prop
  | .never | .already => True
  | .due t set => set < clock.2 ∨ set = clock.2 ∧ clock.1 ≤ t

namespace Limits

def expired? (l : Limits) (now : Instant) : Option Duration :=
  match l.deadline with
  | some (t, d) => if t ≤ now then some d else none
  | none => none

/-- When the signal fires, if it has not been fired before the call. -/
def fires? (l : Limits) : Option Instant :=
  match l.signal with
  | some (.due t _) => some t
  | _ => none

/-- The earlier of the deadline and the signal; of both at one instant, the deadline. -/
def earlier (l : Limits) : Option (Instant × Halt) :=
  match l.deadline, l.fires? with
  | some (t, d), some u =>
    if u < t then some (u, .error .cancelled) else some (t, .error (.timeout d))
  | some (t, d), none => some (t, .error (.timeout d))
  | none, some u => some (u, .error .cancelled)
  | none, none => none

/-- The end of a wait for a result that is not there yet: the instant of its coming, or what comes before. -/
def decide (l : Limits) (clock : Clock) (comes : Option Instant) : Except Halt Instant :=
  match l.expired? clock.1 with
  | some d => .error (.error (.timeout d))
  | none =>
    if l.isRefused clock.1 clock.2 then .error (.error .cancelled)
    else match comes, l.earlier with
      | some t, some (stop, h) => if t ≤ stop then .ok (max clock.1 t) else .error h
      | some t, none => .ok (max clock.1 t)
      | none, some (_, h) => .error h
      | none, none => .error .dropped

def throughWaits (l : Limits) : Clock → List (Option Instant) → Except Halt Clock
  | clock, [] => .ok clock
  | clock, comes :: rest =>
    match l.decide clock comes with
    | .error h => .error h
    | .ok t => l.throughWaits (t, clock.2 + 1) rest

def throughStages (l : Limits) : Clock → List (List (Option Instant)) → Except Halt Clock
  | clock, [] => .ok clock
  | clock, waits :: rest =>
    if l.isRefused clock.1 clock.2 then .error (.error .cancelled)
    else match l.throughWaits clock waits with
      | .error h => .error h
      | .ok clock => l.throughStages clock rest

def free : Limits := patient none

structure Current (l : Limits) (clock : Clock) : Prop where
  patient : l.patience = none
  deadline : ∀ t d, l.deadline = some (t, d) → clock.1 ≤ t
  signal : ∀ g, l.signal = some g → g = .never ∨ ∃ t set, g = .due t set ∧ clock.1 ≤ t ∧ set ≤ clock.2

variable {l l' : Limits} {clock next : Clock}

theorem throughWaits_cons (l : Limits) (clock : Clock) (comes : Option Instant)
    (rest : List (Option Instant)) :
    l.throughWaits clock (comes :: rest) =
      l.decide clock comes >>= fun t => l.throughWaits (t, clock.2 + 1) rest := by
  simp only [throughWaits]
  cases l.decide clock comes <;> rfl

theorem throughStages_cons (l : Limits) (clock : Clock) (waits : List (Option Instant))
    (rest : List (List (Option Instant))) :
    l.throughStages clock (waits :: rest) =
      if l.isRefused clock.1 clock.2 then .error (.error .cancelled)
      else l.throughWaits clock waits >>= fun clock => l.throughStages clock rest := by
  simp only [throughStages]
  cases l.throughWaits clock waits <;> rfl

theorem throughWaits_append (l : Limits) (clock : Clock) (waits more : List (Option Instant)) :
    l.throughWaits clock (waits ++ more) =
      l.throughWaits clock waits >>= fun clock => l.throughWaits clock more := by
  induction waits generalizing clock with
  | nil => rfl
  | cons comes rest ih =>
    rw [List.cons_append, throughWaits_cons, throughWaits_cons]
    cases l.decide clock comes with
    | error h => rfl
    | ok t => exact ih _

theorem fires?_due {t : Instant} {set : Nat} (h : l.signal = some (.due t set)) : l.fires? = some t := by
  simp only [fires?, h]

theorem earlier_deadline {t : Instant} {d : Duration} (timed : l.deadline = some (t, d))
    (before : ∀ u, l.fires? = some u → t ≤ u) : l.earlier = some (t, .error (.timeout d)) := by
  cases fires : l.fires? with
  | none => simp only [earlier, timed, fires]
  | some u => simp only [earlier, timed, fires, if_neg (Nat.not_lt.mpr (before u fires))]

theorem earlier_signal {u : Instant} (fires : l.fires? = some u)
    (before : ∀ t d, l.deadline = some (t, d) → u < t) : l.earlier = some (u, .error .cancelled) := by
  cases timed : l.deadline with
  | none => simp only [earlier, timed, fires]
  | some limit => simp only [earlier, timed, fires, if_pos (before limit.1 limit.2 timed)]

theorem earlier_cases {stop : Instant} {h : Halt} (e : l.earlier = some (stop, h)) :
    (∃ d, l.deadline = some (stop, d) ∧ h = .error (.timeout d) ∧ ∀ u, l.fires? = some u → stop ≤ u) ∨
      l.fires? = some stop ∧ h = .error .cancelled ∧ ∀ t d, l.deadline = some (t, d) → stop < t := by
  simp only [earlier] at e
  split at e
  · rename_i t d u timed fires
    rw [timed, fires]
    split at e <;> rename_i order <;> cases e
    · exact .inr ⟨rfl, rfl, fun t' d' same => (Prod.mk.inj (Option.some.inj same)).1 ▸ order⟩
    · exact .inl ⟨d, rfl, rfl, fun u' same => Option.some.inj same ▸ Nat.le_of_not_lt order⟩
  · rename_i t d timed fires
    cases e
    exact .inl ⟨d, timed, rfl, by simp [fires]⟩
  · rename_i u unset fires
    cases e
    exact .inr ⟨fires, rfl, by simp [unset]⟩
  · cases e

theorem earlier_le {stop : Instant} {h : Halt} (e : l.earlier = some (stop, h)) :
    (∀ t d, l.deadline = some (t, d) → stop ≤ t) ∧ ∀ t, l.fires? = some t → stop ≤ t := by
  rcases earlier_cases e with ⟨d, timed, -, before⟩ | ⟨fires, -, before⟩
  · refine ⟨fun t d' same => ?_, before⟩
    rw [timed] at same
    exact Nat.le_of_eq (Prod.mk.inj (Option.some.inj same)).1
  · refine ⟨fun t d timed => Nat.le_of_lt (before t d timed), fun t same => ?_⟩
    rw [fires] at same
    exact Nat.le_of_eq (Option.some.inj same)

theorem earlier_none (e : l.earlier = none) : l.deadline = none ∧ l.fires? = none := by
  simp only [earlier] at e
  split at e
  · split at e <;> cases e
  · cases e
  · cases e
  · rename_i deadline fires
    exact ⟨deadline, fires⟩

theorem first?_eq (patient : l.patience = none) (pending : l.signal ≠ some .already) :
    l.first? = l.earlier := by
  obtain ⟨deadline, signal, patience⟩ := l
  obtain rfl : patience = none := patient
  cases deadline with
  | none =>
    cases signal with
    | none => rfl
    | some g =>
      cases g with
      | already => exact absurd rfl pending
      | never | due u set => rfl
  | some limit =>
    cases signal with
    | none => rfl
    | some g =>
      cases g with
      | already => exact absurd rfl pending
      | never | due u set => rfl

theorem reached?_eq (patient : l.patience = none) (clock : Clock) :
    l.reached? clock.1 clock.2 =
      match l.expired? clock.1 with
      | some d => some (.error (.timeout d))
      | none => if l.isRefused clock.1 clock.2 then some (.error .cancelled) else none := by
  simp only [reached?, deadlineStop, patienceStop, patient, expired?]
  cases l.deadline with
  | none => simp
  | some limit =>
    by_cases spent : limit.1 ≤ clock.1
    · simp [spent]
    · simp [spent]

theorem decide_reached (patient : l.patience = none) {h : Halt}
    (reached : l.reached? clock.1 clock.2 = some h) (comes : Option Instant) :
    l.decide clock comes = .error h := by
  rw [reached?_eq patient] at reached
  simp only [decide]
  split at reached
  · exact congrArg _ (Option.some.inj reached)
  · split at reached
    · rename_i fired
      rw [if_pos fired]
      exact congrArg _ (Option.some.inj reached)
    · cases reached

theorem decide_open (patient : l.patience = none) (reached : l.reached? clock.1 clock.2 = none)
    (comes : Option Instant) :
    l.decide clock comes =
      match comes, l.earlier with
      | some t, some (stop, h) => if t ≤ stop then .ok (max clock.1 t) else .error h
      | some t, none => .ok (max clock.1 t)
      | none, some (_, h) => .error h
      | none, none => .error .dropped := by
  rw [reached?_eq patient] at reached
  simp only [decide]
  split at reached
  · cases reached
  · split at reached
    · cases reached
    · rename_i unfired
      rw [if_neg unfired]

theorem isRefused_due {t : Instant} {set : Nat} (h : l.signal = some (.due t set)) :
    l.isRefused clock.1 clock.2 = true ↔ t ≤ clock.1 ∧ set < clock.2 := by
  simp [isRefused, h, Signal.hasFired]

theorem decide_ok {comes : Option Instant} {t : Instant} (h : l.decide clock comes = .ok t) :
    l.expired? clock.1 = none ∧ l.isRefused clock.1 clock.2 = false ∧
      ∃ u, comes = some u ∧ t = max clock.1 u ∧ ∀ stop, l.earlier = some stop → u ≤ stop.1 := by
  simp only [decide] at h
  split at h
  · cases h
  · rename_i running
    split at h
    · cases h
    · rename_i unfired
      refine ⟨running, Bool.eq_false_iff.mpr unfired, ?_⟩
      split at h
      · rename_i u stop halt first
        split at h
        · rename_i within
          refine ⟨u, rfl, (Except.ok.inj h).symm, fun other e => ?_⟩
          obtain rfl := Option.some.inj (first.symm.trans e)
          exact within
        · cases h
      · rename_i u first
        refine ⟨u, rfl, (Except.ok.inj h).symm, fun other e => ?_⟩
        rw [first] at e
        cases e
      · cases h
      · cases h

theorem earlier_of_deadline {t : Instant} {d : Duration} (h : l.deadline = some (t, d)) :
    ∃ stop, l.earlier = some stop := by
  cases e : l.earlier with
  | none =>
    rw [(earlier_none e).1] at h
    cases h
  | some stop => exact ⟨stop, rfl⟩

theorem earlier_of_fires {t : Instant} (h : l.fires? = some t) : ∃ stop, l.earlier = some stop := by
  cases e : l.earlier with
  | none =>
    rw [(earlier_none e).2] at h
    cases h
  | some stop => exact ⟨stop, rfl⟩

/-- A wait that ends with its result leaves every limit ahead. -/
theorem Current.decide (h : l.Current clock) {comes : Option Instant} {t : Instant}
    (e : l.decide clock comes = .ok t) : l.Current (t, clock.2 + 1) := by
  obtain ⟨-, -, u, -, rfl, within⟩ := decide_ok e
  refine ⟨h.patient, fun v d hv => ?_, fun g hg => ?_⟩
  · obtain ⟨stop, first⟩ := earlier_of_deadline hv
    exact Nat.max_le.mpr ⟨h.deadline v d hv,
      Nat.le_trans (within stop first) ((earlier_le first).1 v d hv)⟩
  · rcases h.signal g hg with rfl | ⟨v, set, rfl, ahead, before⟩
    · exact .inl rfl
    · obtain ⟨stop, first⟩ := earlier_of_fires (fires?_due hg)
      exact .inr ⟨v, set, rfl, Nat.max_le.mpr ⟨ahead,
        Nat.le_trans (within stop first) ((earlier_le first).2 v (fires?_due hg))⟩,
          Nat.le_succ_of_le before⟩

theorem Current.throughWaits (h : l.Current clock) {waits : List (Option Instant)}
    (e : l.throughWaits clock waits = .ok next) : l.Current next := by
  induction waits generalizing clock with
  | nil => exact Except.ok.inj e ▸ h
  | cons comes rest ih =>
    simp only [Limits.throughWaits] at e
    split at e
    · cases e
    · rename_i t decided
      exact ih (h.decide decided) e

theorem le_throughWaits {waits : List (Option Instant)} (h : l.throughWaits clock waits = .ok next) :
    clock.1 ≤ next.1 := by
  induction waits generalizing clock with
  | nil => exact Except.ok.inj h ▸ Nat.le_refl _
  | cons comes rest ih =>
    rw [throughWaits_cons] at h
    obtain ⟨t, came, passed⟩ := bind_eq_ok.mp h
    obtain ⟨-, -, u, -, rfl, -⟩ := decide_ok came
    exact Nat.le_trans (Nat.le_max_left _ _) (ih passed)

theorem current_free (clock : Clock) : free.Current clock := ⟨rfl, nofun, nofun⟩

theorem current_ofTimeout {timeout : Option Duration} {signal : Option Signal}
    (timely : ∀ g, signal = some g → g.IsTimely clock)
    (unfired : (ofTimeout clock.1 timeout signal none).isRefused clock.1 clock.2 = false) :
    (ofTimeout clock.1 timeout signal none).Current clock := by
  refine ⟨rfl, fun t d h => ?_, fun g hg => ?_⟩
  · obtain ⟨e, -, same⟩ := Option.map_eq_some_iff.mp h
    obtain ⟨rfl, rfl⟩ := Prod.mk.inj same
    exact Nat.le_add_right _ _
  · have set_before := timely g hg
    cases g with
    | never => exact .inl rfl
    | already => simp [isRefused, show signal = some .already from hg, ofTimeout, Signal.hasFired] at unfired
    | due t set =>
      refine .inr ⟨t, set, rfl, ?_⟩
      rcases set_before with before | ⟨rfl, ahead⟩
      · refine ⟨Nat.le_of_not_le fun fired => ?_, Nat.le_of_lt before⟩
        rw [(isRefused_due hg).mpr ⟨fired, before⟩] at unfired
        cases unfired
      · exact ⟨ahead, Nat.le_refl _⟩

theorem Current.pending (h : l.Current clock) : l.signal ≠ some .already := by
  intro fired
  rcases h.signal _ fired with same | ⟨t, set, same, -⟩ <;> cases same

theorem Current.fires (h : l.Current clock) {u : Instant} (fires : l.fires? = some u) : clock.1 ≤ u := by
  simp only [fires?] at fires
  split at fires
  · rename_i t set due
    rcases h.signal _ due with same | ⟨t', set', same, ahead, -⟩
    · cases same
    · obtain ⟨rfl, -⟩ := Signal.due.inj same
      exact Option.some.inj fires ▸ ahead
  · cases fires

theorem Current.ahead (h : l.Current clock) {stop : Instant} {halt : Halt}
    (e : l.earlier = some (stop, halt)) : clock.1 ≤ stop := by
  rcases earlier_cases e with ⟨d, timed, -⟩ | ⟨fires, -⟩
  · exact h.deadline stop d timed
  · exact h.fires fires

theorem expired?_eq_some {now : Instant} {d : Duration} :
    l.expired? now = some d ↔ ∃ t, l.deadline = some (t, d) ∧ t ≤ now := by
  cases timed : l.deadline with
  | none => simp [expired?, timed]
  | some limit =>
    simp only [expired?, timed, Option.ite_none_right_eq_some, Option.some.injEq, Prod.ext_iff]
    exact ⟨fun ⟨le, same⟩ => ⟨limit.1, ⟨rfl, same⟩, le⟩, fun ⟨_, ⟨at_, same⟩, le⟩ => ⟨at_ ▸ le, same⟩⟩

theorem Current.reached (h : l.Current clock) {halt : Halt}
    (e : l.reached? clock.1 clock.2 = some halt) :
    ∃ stop, l.earlier = some (stop, halt) ∧ stop ≤ clock.1 := by
  rw [reached?_eq h.patient] at e
  split at e
  · rename_i d spent
    obtain rfl := Option.some.inj e
    obtain ⟨t, timed, passed⟩ := expired?_eq_some.mp spent
    exact ⟨t, earlier_deadline timed fun u fires => Nat.le_trans passed (h.fires fires), passed⟩
  · rename_i running
    split at e
    · rename_i fired
      obtain rfl := Option.some.inj e
      cases signal : l.signal with
      | none => simp [isRefused, signal] at fired
      | some g =>
        rcases h.signal g signal with rfl | ⟨u, set, rfl, -⟩
        · simp [isRefused, signal, Signal.hasFired] at fired
        · obtain ⟨passed, -⟩ := (isRefused_due signal).mp fired
          refine ⟨u, earlier_signal (fires?_due signal) fun t d timed => Nat.lt_of_not_le fun le => ?_, passed⟩
          rw [expired?_eq_some.mpr ⟨t, timed, Nat.le_trans le passed⟩] at running
          cases running
    · cases e

theorem await_in_time {now t : Instant} (within : ∀ stop, l.first? = some stop → t ≤ stop.1) :
    ∃ u, l.await now (some t) = (u, .ok ()) ∧ max now u = max now t := by
  simp only [await]
  split
  · rename_i there
    exact ⟨now, rfl, by rw [Nat.max_self, Nat.max_eq_left there]⟩
  · rename_i away
    cases first : l.first? with
    | none => exact ⟨t, rfl, rfl⟩
    | some stop =>
      have le := within stop first
      have open_still : ¬ stop.1 ≤ now := fun spent => away (Nat.le_trans le spent)
      exact ⟨t, by simp only [if_neg open_still, if_pos le], rfl⟩

theorem await_late {now stop : Instant} {h : Halt} {comes : Option Instant}
    (first : l.first? = some (stop, h)) (ahead : now ≤ stop) (late : ∀ t, comes = some t → stop < t) :
    (l.await now comes).2 = .error h := by
  cases comes with
  | none => simp only [await, first]
  | some t =>
    have slow := late t rfl
    have away : ¬ t ≤ now := fun there => Nat.not_lt.mpr (Nat.le_trans there ahead) slow
    simp only [await, first, if_neg away, if_neg (Nat.not_le.mpr slow)]
    split <;> rfl

theorem await_open (patient : l.patience = none) (pending : l.signal ≠ some .already)
    (reached : l.reached? clock.1 clock.2 = none)
    (ahead : ∀ stop, l.earlier = some stop → clock.1 ≤ stop.1) (comes : Option Instant) :
    match l.decide clock comes with
    | .ok t => l.await clock.1 comes = (t, .ok ()) ∧ ∃ u, comes = some u ∧ t = max clock.1 u
    | .error h => (l.await clock.1 comes).2 = .error h := by
  have first? := first?_eq patient pending
  rw [decide_open patient reached]
  cases comes with
  | none =>
    cases first : l.earlier with
    | none => simp only [await, first?, first]
    | some stop => simp only [await, first?, first]
  | some t =>
    by_cases come : t ≤ clock.1
    · cases first : l.earlier with
      | none => simp [await, come]
      | some stop => simp [await, come, Nat.le_trans come (ahead stop first)]
    · have latest : max clock.1 t = t := Nat.max_eq_right (Nat.le_of_not_le come)
      cases first : l.earlier with
      | none => simp [await, come, latest, first?, first]
      | some stop =>
        by_cases within : t ≤ stop.1
        · have open_still : ¬ stop.1 ≤ clock.1 := fun spent => come (Nat.le_trans within spent)
          simp [await, come, latest, first?, first, within, open_still]
        · simp only [await, if_neg come, first?, first, if_neg within]
          split <;> rfl

theorem Current.await (h : l.Current clock) (comes : Option Instant)
    (away : ∀ t, comes = some t → clock.1 < t) :
    match l.decide clock comes with
    | .ok t => l.await clock.1 comes = (t, .ok ()) ∧ comes = some t
    | .error halt => (l.await clock.1 comes).2 = .error halt := by
  cases reached : l.reached? clock.1 clock.2 with
  | some halt =>
    obtain ⟨stop, first, spent⟩ := h.reached reached
    rw [decide_reached h.patient reached]
    exact await_late ((first?_eq h.patient h.pending).trans first) (h.ahead first) fun t come =>
      Nat.lt_of_le_of_lt spent (away t come)
  | none =>
    have waited := await_open h.patient h.pending reached (fun stop first => h.ahead first) comes
    split at waited
    · obtain ⟨came, u, rfl, rfl⟩ := waited
      have latest : max clock.1 u = u := Nat.max_eq_right (Nat.le_of_lt (away u rfl))
      rw [latest] at came ⊢
      exact ⟨came, rfl⟩
    · exact waited

theorem decide_timeout {comes : Option Instant} {d : Duration}
    (h : l.decide clock comes = .error (.error (.timeout d))) : ∃ t, l.deadline = some (t, d) := by
  have first {stop : Instant} {halt : Halt} (e : l.earlier = some (stop, halt))
      (same : halt = .error (.timeout d)) : ∃ t, l.deadline = some (t, d) := by
    rcases earlier_cases e with ⟨d', timed, rfl, -⟩ | ⟨-, rfl, -⟩
    · cases same
      exact ⟨stop, timed⟩
    · cases same
  simp only [decide] at h
  split at h
  · rename_i spent
    cases h
    obtain ⟨t, timed, -⟩ := expired?_eq_some.mp spent
    exact ⟨t, timed⟩
  · split at h
    · cases h
    · split at h
      · rename_i e
        split at h
        · cases h
        · exact first e (Except.error.inj h)
      · cases h
      · rename_i e
        exact first e (Except.error.inj h)
      · cases h

theorem throughWaits_timeout {waits : List (Option Instant)} {d : Duration}
    (h : l.throughWaits clock waits = .error (.error (.timeout d))) : ∃ t, l.deadline = some (t, d) := by
  induction waits generalizing clock with
  | nil => cases h
  | cons comes rest ih =>
    rw [throughWaits_cons] at h
    rcases bind_eq_error.mp h with decided | ⟨t, -, later⟩
    · exact decide_timeout decided
    · exact ih later

theorem throughStages_timeout {stages : List (List (Option Instant))} {d : Duration}
    (h : l.throughStages clock stages = .error (.error (.timeout d))) : ∃ t, l.deadline = some (t, d) := by
  induction stages generalizing clock with
  | nil => cases h
  | cons waits rest ih =>
    rw [throughStages_cons] at h
    split at h
    · cases h
    · rcases bind_eq_error.mp h with halted | ⟨next, -, later⟩
      · exact throughWaits_timeout halted
      · exact ih later

/-- The signal was set before the last wait, so that it is seen as soon as it fires. -/
structure Alert (l : Limits) (waits : Nat) : Prop where
  patient : l.patience = none
  signal : ∀ g, l.signal = some g → g = .never ∨ ∃ t set, g = .due t set ∧ set < waits

theorem Current.alert (h : l.Current clock) {waits : Nat} (later : clock.2 < waits) : l.Alert waits := by
  refine ⟨h.patient, fun g hg => ?_⟩
  rcases h.signal g hg with rfl | ⟨t, set, rfl, -, before⟩
  · exact .inl rfl
  · exact .inr ⟨t, set, rfl, Nat.lt_of_le_of_lt before later⟩

theorem Alert.mono {waits more : Nat} (h : l.Alert waits) (since : waits ≤ more) : l.Alert more := by
  refine ⟨h.patient, fun g hg => ?_⟩
  rcases h.signal g hg with rfl | ⟨t, set, rfl, before⟩
  · exact .inl rfl
  · exact .inr ⟨t, set, rfl, Nat.lt_of_lt_of_le before since⟩

theorem Alert.pending {waits : Nat} (h : l.Alert waits) : l.signal ≠ some .already := by
  intro fired
  rcases h.signal _ fired with same | ⟨t, set, same, -⟩ <;> cases same

theorem Alert.isRefused {waits : Nat} (h : l.Alert waits) (now : Instant) :
    l.isRefused now waits = true ↔ ∃ t, l.fires? = some t ∧ t ≤ now := by
  cases signal : l.signal with
  | none => simp [Limits.isRefused, fires?, signal]
  | some g =>
    rcases h.signal g signal with rfl | ⟨t, set, rfl, before⟩
    · simp [Limits.isRefused, fires?, signal, Signal.hasFired]
    · simp [Limits.isRefused, fires?, signal, Signal.hasFired, before]

theorem Alert.reached? {waits more : Nat} (h : l.Alert waits) (since : waits ≤ more) (now : Instant) :
    l.reached? now more = l.reached? now waits := by
  have same : l.isRefused now more = l.isRefused now waits :=
    Bool.eq_iff_iff.mpr (((h.mono since).isRefused now).trans (h.isRefused now).symm)
  simp only [Limits.reached?, same]

theorem Alert.ahead {waits : Nat} (h : l.Alert waits) {now stop : Instant} {halt : Halt}
    (reached : l.reached? now waits = none) (e : l.earlier = some (stop, halt)) : now < stop := by
  rw [show l.reached? now waits = _ from reached?_eq h.patient (now, waits)] at reached
  refine Nat.lt_of_not_le fun spent => ?_
  split at reached
  · cases reached
  · rename_i running
    split at reached
    · cases reached
    · rename_i unfired
      rcases earlier_cases e with ⟨d, timed, -⟩ | ⟨fires, -⟩
      · rw [expired?_eq_some.mpr ⟨stop, timed, spent⟩] at running
        cases running
      · exact unfired ((h.isRefused now).mpr ⟨stop, fires, spent⟩)

def Relaxes (l l' : Limits) : Prop :=
  l'.signal = l.signal ∧ ∀ t' d', l'.deadline = some (t', d') → ∃ t d, l.deadline = some (t, d) ∧ t ≤ t'

def Eases {α : Type} (x y : Except Halt α) : Prop :=
  (∃ d, x = .error (.error (.timeout d))) ∨ x = y

theorem Eases.bind {α β : Type} {x y : Except Halt α} {f g : α → Except Halt β} (h : Eases x y)
    (k : ∀ a, Eases (f a) (g a)) : Eases (x >>= f) (y >>= g) := by
  rcases h with ⟨d, rfl⟩ | rfl
  · exact .inl ⟨d, rfl⟩
  · cases x with
    | error e => exact .inr rfl
    | ok a => exact k a

theorem isRefused_relaxed (h : Relaxes l l') (clock : Clock) :
    l'.isRefused clock.1 clock.2 = l.isRefused clock.1 clock.2 := by
  simp only [isRefused, h.1]

theorem expired?_relaxed (h : Relaxes l l') {now : Instant} (running : l.expired? now = none) :
    l'.expired? now = none := by
  cases later : l'.deadline with
  | none => simp only [expired?, later]
  | some limit =>
    obtain ⟨t, d, sooner, le⟩ := h.2 limit.1 limit.2 later
    simp only [expired?, sooner, ite_eq_right_iff, reduceCtorEq, imp_false] at running
    simp only [expired?, later, ite_eq_right_iff, reduceCtorEq, imp_false]
    exact fun spent => running (Nat.le_trans le spent)

theorem deadline_relaxed (h : Relaxes l l') (none_set : l.deadline = none) : l'.deadline = none := by
  cases later : l'.deadline with
  | none => rfl
  | some limit =>
    obtain ⟨t, d, sooner, -⟩ := h.2 limit.1 limit.2 later
    rw [none_set] at sooner
    cases sooner

theorem fires?_relaxed (h : Relaxes l l') : l'.fires? = l.fires? := by
  simp only [fires?, h.1]

/-- A signal that decides goes on to decide; a deadline that decides may come later. -/
theorem earlier_relaxed (h : Relaxes l l') {stop : Instant} {halt : Halt}
    (e : l.earlier = some (stop, halt)) :
    l'.earlier = some (stop, halt) ∨
      (∃ d, halt = .error (.timeout d)) ∧ ∀ later, l'.earlier = some later → stop ≤ later.1 := by
  rcases earlier_cases e with ⟨d, timed, rfl, before⟩ | ⟨fires, rfl, before⟩
  · refine .inr ⟨⟨d, rfl⟩, fun later first => ?_⟩
    rcases earlier_cases first with ⟨d', timed', -⟩ | ⟨fires', -⟩
    · obtain ⟨t, e, sooner, le⟩ := h.2 _ _ timed'
      rw [timed] at sooner
      cases sooner
      exact le
    · exact before _ ((fires?_relaxed h).symm.trans fires')
  · refine .inl (earlier_signal ((fires?_relaxed h).trans fires) fun t' d' timed' => ?_)
    obtain ⟨t, d, sooner, le⟩ := h.2 _ _ timed'
    exact Nat.lt_of_lt_of_le (before t d sooner) le

theorem decide_relaxed (h : Relaxes l l') (clock : Clock) (comes : Option Instant) :
    Eases (l.decide clock comes) (l'.decide clock comes) := by
  cases running : l.expired? clock.1 with
  | some d => exact .inl ⟨d, by simp only [decide, running]⟩
  | none =>
    simp only [decide, running, expired?_relaxed h running, isRefused_relaxed h]
    split
    · exact .inr rfl
    · cases first : l.earlier with
      | none =>
        obtain ⟨unset, silent⟩ := earlier_none first
        have unlimited : l'.earlier = none := by
          simp only [earlier, deadline_relaxed h unset, fires?_relaxed h, silent]
        rw [unlimited]
        exact .inr rfl
      | some limit =>
        obtain ⟨stop, halt⟩ := limit
        rcases earlier_relaxed h first with same | ⟨⟨d, rfl⟩, later⟩
        · rw [same]
          exact .inr rfl
        · cases comes with
          | none => exact .inl ⟨d, rfl⟩
          | some t =>
            simp only
            split
            · rename_i within
              refine .inr ?_
              cases first' : l'.earlier with
              | none => rfl
              | some limit' => exact (if_pos (Nat.le_trans within (later limit' first'))).symm
            · exact .inl ⟨d, rfl⟩

theorem throughWaits_relaxed (h : Relaxes l l') (clock : Clock) (waits : List (Option Instant)) :
    Eases (l.throughWaits clock waits) (l'.throughWaits clock waits) := by
  induction waits generalizing clock with
  | nil => exact .inr rfl
  | cons comes rest ih =>
    rw [throughWaits_cons, throughWaits_cons]
    exact (decide_relaxed h clock comes).bind fun t => ih _

theorem throughStages_relaxed (h : Relaxes l l') (clock : Clock) (stages : List (List (Option Instant))) :
    Eases (l.throughStages clock stages) (l'.throughStages clock stages) := by
  induction stages generalizing clock with
  | nil => exact .inr rfl
  | cons waits rest ih =>
    rw [throughStages_cons, throughStages_cons, isRefused_relaxed h]
    split
    · exact .inr rfl
    · exact (throughWaits_relaxed h clock waits).bind fun clock => ih clock

end Limits

end RowMapper
