import RowMapper.Proofs.Server.Answers

/-!
How far a server is let work. It takes up requests in the order of the instants at which they can be taken
up, and no answer comes before its request was taken up. So a limit that is not before the answer changes
nothing, and with any other limit the answer is not there.
-/
namespace RowMapper.Server

def Past (s : Server) (now : Instant) : Prop :=
  ∀ i r, s.Queued i r → r.sentAt ≤ now

/-- Whatever is still to be done on some connection has to wait for longer than up to an instant. -/
def Beyond (s : Server) (limit : Instant) : Prop :=
  ∀ (i : Nat) (l : Link), s.links[i]? = some l → l.queue ≠ [] → limit < l.freeAt

variable {s s' : Server} {now limit t : Instant}

theorem Past.mono (h : s.Past now) (later : now ≤ t) : s.Past t := by
  intro i r hr
  exact Nat.le_trans (h i r hr) later

theorem past_send (link : Nat) (job : Job) (h : s.Past now) : (s.send now link job).2.Past now := by
  intro i r hr
  rcases queued_send hr with hr | ⟨-, rfl⟩
  · exact h i r hr
  · exact Nat.le_refl now

theorem past_connect (h : s.Past now) : (s.connect now).2.2.Past now := by
  apply past_send
  rintro i r ⟨l, hl, hr⟩
  rw [List.getElem?_append] at hl
  split at hl
  · exact h i r ⟨l, hl, hr⟩
  · rw [List.getElem?_singleton] at hl
    split at hl
    · obtain rfl := Option.some.inj hl
      cases hr
    · cases hl

theorem past_serve (ticket : Option Nat) (upTo : Option Instant) (h : s.Past now) :
    (s.serve ticket upTo).server.Past now := by
  intro i r hr
  exact h i r ((serveFrom_frame ticket upTo s.pending ⟨none, [], s⟩).2 i r hr)

theorem past_ofScript (rules : List Rule) (startups : List StartupStep) (now : Instant) :
    (ofScript rules startups).Past now := by
  rintro i r ⟨l, hl, -⟩
  simp [ofScript] at hl

theorem idle_of_soonest {number : Nat} {ls : List Link} (h : soonest number ls = none) :
    ∀ l ∈ ls, Link.next? l = none := by
  induction ls generalizing number with
  | nil => simp
  | cons first rest ih =>
    intro l hl
    simp only [soonest] at h
    split at h
    · split at h <;> cases h
    · cases h
    · rename_i idle
      rcases List.mem_cons.mp hl with rfl | hl
      · exact idle
      · exact ih h l hl

theorem soonest_le {number link : Nat} {ls : List Link} (h : soonest number ls = some (t, link)) :
    ∀ l ∈ ls, ∀ u, Link.next? l = some u → t ≤ u := by
  induction ls generalizing number t link with
  | nil => simp
  | cons first rest ih =>
    intro l hl u hu
    simp only [soonest] at h
    split at h
    · rename_i v w n hv hw
      split at h
      · rename_i order
        obtain ⟨rfl, -⟩ := Prod.mk.inj (Option.some.inj h)
        rcases List.mem_cons.mp hl with rfl | hl
        · obtain rfl : u = v := Option.some.inj (hu.symm.trans hv)
          exact Nat.le_of_lt order
        · exact ih hw l hl u hu
      · rename_i order
        obtain ⟨rfl, -⟩ := Prod.mk.inj (Option.some.inj h)
        rcases List.mem_cons.mp hl with rfl | hl
        · exact Nat.le_of_eq (Option.some.inj (hv.symm.trans hu))
        · exact Nat.le_trans (Nat.le_of_not_lt order) (ih hw l hl u hu)
    · rename_i v hv idle
      obtain ⟨rfl, -⟩ := Prod.mk.inj (Option.some.inj h)
      rcases List.mem_cons.mp hl with rfl | hl
      · exact Nat.le_of_eq (Option.some.inj (hv.symm.trans hu))
      · rw [idle_of_soonest idle l hl] at hu
        cases hu
    · rename_i idle
      rcases List.mem_cons.mp hl with rfl | hl
      · rw [idle] at hu
        cases hu
      · exact ih h l hl u hu

theorem next_of_soonest {number link : Nat} {ls : List Link} (h : soonest number ls = some (t, link)) :
    ∃ l, ls[link - number]? = some l ∧ Link.next? l = some t := by
  induction ls generalizing number t link with
  | nil => cases h
  | cons first rest ih =>
    have later {u : Instant} {n : Nat} (e : soonest (number + 1) rest = some (u, n)) :
        ∃ l, (first :: rest)[n - number]? = some l ∧ Link.next? l = some u := by
      obtain ⟨l, hl, next⟩ := ih e
      have above := soonest_ge e
      have shift : n - number = n - (number + 1) + 1 := by omega
      exact ⟨l, by rw [shift, List.getElem?_cons_succ, hl], next⟩
    simp only [soonest] at h
    split at h
    · rename_i v w n hv hw
      split at h <;> obtain ⟨rfl, rfl⟩ := Prod.mk.inj (Option.some.inj h)
      · exact later hw
      · exact ⟨first, by simp, hv⟩
    · rename_i v hv idle
      obtain ⟨rfl, rfl⟩ := Prod.mk.inj (Option.some.inj h)
      exact ⟨first, by simp, hv⟩
    · exact later h

theorem beyond_of_soonest {link : Nat} (past : s.Past now) (since : now ≤ limit)
    (h : soonest 1 s.links = some (t, link)) (late : limit < t) : s.Beyond limit := by
  intro i l hl waiting
  cases hq : l.queue with
  | nil => exact absurd hq waiting
  | cons r rest =>
    have next : Link.next? l = some (max r.sentAt l.freeAt) := by simp only [Link.next?, hq]
    have busy : limit < max r.sentAt l.freeAt :=
      Nat.lt_of_lt_of_le late (soonest_le h l (List.mem_of_getElem? hl) _ next)
    have sent : r.sentAt ≤ limit := Nat.le_trans (past i r ⟨l, hl, by simp [hq]⟩) since
    exact Nat.lt_of_not_le fun free => Nat.not_lt.mpr (Nat.max_le.mpr ⟨sent, free⟩) busy

theorem late_of_soonest {i : Nat} (beyond : s.Beyond limit)
    (h : soonest 1 s.links = some (t, i + 1)) : limit < t := by
  obtain ⟨l, hl, next⟩ := next_of_soonest h
  cases hq : l.queue with
  | nil => simp [Link.next?, hq] at next
  | cons r rest =>
    simp only [Link.next?, hq, Option.some.injEq] at next
    have busy : limit < l.freeAt := beyond i l hl (by simp [hq])
    exact next ▸ Nat.lt_of_lt_of_le busy (Nat.le_max_right _ _)

theorem time_failed (time : Instant) (b : Setback) :
    (Carried.failed time b).answer.time = time ∧ (Carried.failed time b).freeAt = time := by
  cases b <;> exact ⟨rfl, rfl⟩

/-- An answer takes no less than no time. -/
theorem start_le_carry (s : Server) (link start : Nat) (job : Job) :
    start ≤ (carry s link start job).1.answer.time ∧ start ≤ (carry s link start job).1.freeAt := by
  cases job with
  | startup =>
    simp only [carry]
    split <;> exact ⟨Nat.le_add_right _ _, Nat.le_add_right _ _⟩
  | prepare sql =>
    simp only [carry]
    split
    · simp only [carryPrepare]
      split
      · rw [(time_failed _ _).1, (time_failed _ _).2]
        exact ⟨Nat.le_add_right _ _, Nat.le_add_right _ _⟩
      · exact ⟨Nat.le_add_right _ _, Nat.le_add_right _ _⟩
    · exact ⟨Nat.le_refl _, Nat.le_refl _⟩
  | run p values =>
    simp only [carry]
    split
    · have whole (r : RunStep) : start ≤ start + r.delay.nanos ∧
          start ≤ (feedFrom (start + r.delay.nanos) p.columns r).endAt :=
        ⟨Nat.le_add_right _ _, Nat.le_trans (Nat.le_add_right _ _) (Nat.le_add_right _ _)⟩
      simp only [carryRun]
      split
      · split
        · exact ⟨Nat.le_add_right _ _, Nat.le_add_right _ _⟩
        · exact whole _
      · exact whole _
    · exact ⟨Nat.le_refl _, Nat.le_refl _⟩
  | begin => exact ⟨Nat.le_refl _, Nat.le_refl _⟩

theorem takeUp_beyond {i : Nat} {taken : TakenUp} (beyond : s.Beyond limit) (late : limit < t)
    (h : s.takeUp (i + 1) t = some (taken, s')) : s'.Beyond limit ∧ limit < taken.answer.time := by
  simp only [takeUp, Nat.add_sub_cancel] at h
  split at h
  · cases h
  · rename_i l hl
    split at h
    · cases h
    · rename_i r rest hq
      have busy : limit < l.freeAt := beyond i l hl (by simp [hq])
      have popped : (s.updateLink (i + 1) fun l => { l with queue := rest }).Beyond limit := by
        intro j k hk waiting
        simp only [updateLink, List.getElem?_modify, Nat.add_sub_cancel] at hk
        by_cases hj : i = j
        · subst hj
          simp only [↓reduceIte, hl, Option.map_eq_map, Option.map_some, Option.some.injEq] at hk
          exact hk ▸ busy
        · simp only [hj, ↓reduceIte, id_map'] at hk
          exact beyond j k hk waiting
      split at h <;> obtain ⟨rfl, rfl⟩ := Prod.mk.inj (Option.some.inj h)
      · exact ⟨popped, late⟩
      · obtain ⟨answered, freed⟩ :=
          start_le_carry (s.updateLink (i + 1) fun l => { l with queue := rest }) (i + 1) t r.job
        refine ⟨fun j k hk waiting => ?_, Nat.lt_of_lt_of_le late answered⟩
        simp only [updateLink, List.getElem?_modify, Nat.add_sub_cancel] at hk
        by_cases hj : i = j
        · subst hj
          simp only [↓reduceIte, Option.map_eq_map, Option.map_eq_some_iff] at hk
          obtain ⟨_, -, rfl⟩ := hk
          exact Nat.lt_of_lt_of_le late freed
        · simp only [hj, ↓reduceIte, id_map'] at hk
          rw [(carry_frame _ _ _ _).1] at hk
          exact popped j k hk waiting

def work? (ticket : Option Nat) (d : Served) : Option (Instant × Served) :=
  match soonest 1 d.server.links with
  | none => none
  | some (t, link) => (d.server.takeUp link t).map fun (taken, server) =>
      (t, ⟨if ticket = some taken.ticket then some taken.answer else d.answer, d.seen ++ taken.seen, server⟩)

variable {ticket : Option Nat} {d d' : Served} {a : Answer}

theorem serveFrom_succ (ticket : Option Nat) (upTo : Option Instant) (fuel : Nat) (d : Served) :
    serveFrom ticket upTo (fuel + 1) d =
      match work? ticket d with
      | none => d
      | some (t, d') =>
        if isPast (horizon upTo d.answer) t then d else serveFrom ticket upTo fuel d' := by
  simp only [serveFrom, work?]
  cases soonest 1 d.server.links with
  | none => rfl
  | some first =>
    obtain ⟨t, link⟩ := first
    simp only
    cases d.server.takeUp link t with
    | none => simp
    | some taken => rfl

theorem taken_of_work (h : work? ticket d = some (t, d')) :
    ∃ i taken, soonest 1 d.server.links = some (t, i + 1) ∧
      d.server.takeUp (i + 1) t = some (taken, d'.server) ∧
      (d'.answer = some taken.answer ∨ d'.answer = d.answer) := by
  simp only [work?] at h
  split at h
  · cases h
  · rename_i u link first
    obtain ⟨i, rfl⟩ : ∃ i, link = i + 1 := ⟨link - 1, by have := soonest_ge first; omega⟩
    obtain ⟨⟨taken, server⟩, taking, done⟩ := Option.map_eq_some_iff.mp h
    obtain ⟨rfl, rfl⟩ := Prod.mk.inj done
    refine ⟨i, taken, first, taking, ?_⟩
    simp only
    split
    · exact .inl rfl
    · exact .inr rfl

theorem past_work (past : d.server.Past now) (h : work? ticket d = some (t, d')) : d'.server.Past now := by
  obtain ⟨i, taken, -, taking, -⟩ := taken_of_work h
  intro j r hr
  exact past j r ((takeUp_spec taking).2.1 j r hr)

theorem isPast_limited :
    isPast (horizon (some limit) d.answer) t = true ↔
      limit < t ∨ isPast (horizon none d.answer) t = true := by
  cases d.answer with
  | none => simp [horizon, isPast]
  | some a =>
    simp only [horizon, isPast, decide_eq_true_eq]
    constructor
    · intro late
      rcases Nat.le_total limit a.time with le | le
      · exact .inl (Nat.min_eq_left le ▸ late)
      · exact .inr (Nat.min_eq_right le ▸ late)
    · rintro (late | late)
      · exact Nat.lt_of_le_of_lt (Nat.min_le_left _ _) late
      · exact Nat.lt_of_le_of_lt (Nat.min_le_right _ _) late

/-- Where everything left takes longer, so does an answer that is not there yet. -/
theorem late_of_beyond (fuel : Nat) (beyond : d.server.Beyond limit)
    (late : ∀ a, d.answer = some a → limit < a.time) :
    ∀ a, (serveFrom ticket none fuel d).answer = some a → limit < a.time := by
  induction fuel generalizing d with
  | zero => exact late
  | succ fuel ih =>
    rw [serveFrom_succ]
    cases work : work? ticket d with
    | none => exact late
    | some next =>
      obtain ⟨t, d'⟩ := next
      simp only
      split
      · exact late
      · obtain ⟨i, taken, first, taking, told⟩ := taken_of_work work
        have later : limit < t := late_of_soonest beyond first
        obtain ⟨beyond', answered⟩ := takeUp_beyond beyond later taking
        refine ih beyond' fun a ha => ?_
        rcases told with told | told
        · obtain rfl := Option.some.inj (told.symm.trans ha)
          exact answered
        · exact late a (told ▸ ha)

theorem serveFrom_unlimited (fuel : Nat) (h : (serveFrom ticket (some limit) fuel d).answer = some a)
    (within : a.time ≤ limit) :
    serveFrom ticket none fuel d = serveFrom ticket (some limit) fuel d := by
  induction fuel generalizing d with
  | zero => rfl
  | succ fuel ih =>
    rw [serveFrom_succ] at h
    rw [serveFrom_succ, serveFrom_succ]
    cases work : work? ticket d with
    | none => rfl
    | some next =>
      obtain ⟨t, d'⟩ := next
      simp only [work] at h ⊢
      by_cases past : isPast (horizon none d.answer) t = true
      · rw [if_pos past, if_pos (isPast_limited.mpr (.inr past))]
      · rw [if_neg past]
        split at h
        · -- The limit stopped the server, so the answer was there, and it would have stopped as well.
          rename_i stopped
          rcases isPast_limited.mp stopped with late | past'
          · simp only [h, horizon, isPast, decide_eq_true_eq] at past
            exact absurd (Nat.lt_of_le_of_lt within late) past
          · exact absurd past' past
        · rename_i going
          rw [if_neg going]
          exact ih h

/-- An answer that comes without a limit comes with any limit that is not before it. -/
theorem serveFrom_limited (fuel : Nat) (past : d.server.Past now) (since : now ≤ limit)
    (h : (serveFrom ticket none fuel d).answer = some a) (within : a.time ≤ limit) :
    serveFrom ticket (some limit) fuel d = serveFrom ticket none fuel d := by
  induction fuel generalizing d with
  | zero => rfl
  | succ fuel ih =>
    rw [serveFrom_succ] at h
    rw [serveFrom_succ, serveFrom_succ]
    cases work : work? ticket d with
    | none => rfl
    | some next =>
      obtain ⟨t, d'⟩ := next
      simp only [work] at h ⊢
      by_cases stopped : isPast (horizon none d.answer) t = true
      · rw [if_pos stopped, if_pos (isPast_limited.mpr (.inr stopped))]
      · rw [if_neg stopped] at h ⊢
        by_cases late : limit < t
        · -- What is done from here on is done after the limit, and so is the answer to it.
          obtain ⟨i, taken, first, taking, told⟩ := taken_of_work work
          obtain ⟨beyond, answered⟩ :=
            takeUp_beyond (beyond_of_soonest past since first late) late taking
          have slow : ∀ b, d'.answer = some b → limit < b.time := by
            intro b hb
            rcases told with told | told
            · obtain rfl := Option.some.inj (told.symm.trans hb)
              exact answered
            · simp only [told ▸ hb, horizon, isPast, decide_eq_true_eq] at stopped
              exact Nat.lt_of_lt_of_le late (Nat.le_of_not_lt stopped)
          exact absurd (late_of_beyond fuel beyond slow a h) (Nat.not_lt.mpr within)
        · have going : ¬ isPast (horizon (some limit) d.answer) t = true := fun stop =>
            (isPast_limited.mp stop).elim late stopped
          rw [if_neg going]
          exact ih (past_work past work) h

theorem serve_in_time (past : s.Past now) (since : now ≤ limit)
    (h : (s.serve ticket none).answer = some a) (within : a.time ≤ limit) :
    s.serve ticket (some limit) = s.serve ticket none :=
  serveFrom_limited s.pending past since h within

theorem serve_late (late : ∀ a, (s.serve ticket none).answer = some a → limit < a.time) :
    ∀ a, (s.serve ticket (some limit)).answer = some a → limit < a.time := by
  intro a h
  refine Nat.lt_of_not_le fun within => ?_
  have same : s.serve ticket none = s.serve ticket (some limit) := serveFrom_unlimited s.pending h within
  exact Nat.not_le.mpr (late a (same ▸ h)) within

end RowMapper.Server
