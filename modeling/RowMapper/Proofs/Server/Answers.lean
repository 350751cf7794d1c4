import RowMapper.Server.Basic

/-!
Requests and their answers. Tickets are given out once, so the answer for a ticket is what the server
carried out for the request that was sent with it, and nothing else.
-/
namespace RowMapper.Server

def Queued (s : Server) (i : Nat) (r : Request) : Prop :=
  ∃ l, s.links[i]? = some l ∧ r ∈ l.queue

def Ticketed (s : Server) : Prop :=
  ∀ i r, s.Queued i r → r.ticket < s.tickets

def Assigned (s : Server) (ticket i : Nat) (job : Job) : Prop :=
  ∀ j r, s.Queued j r → r.ticket = ticket → j = i ∧ r.job = job

/-- What is answered to a job on a connection: the server has hung up, or it was seen to carry the job
out. -/
def Answers (i : Nat) (job : Job) (a : Answer) (seen : List Wire) : Prop :=
  a.content = .error .disconnected ∨
    ∃ s start, a = (carry s (i + 1) start job).1.answer ∧ (carry s (i + 1) start job).2.1 ∈ seen

theorem queued_updateLink {s : Server} {link i : Nat} {f : Link → Link} {r : Request}
    (h : (s.updateLink link f).Queued i r) :
    s.Queued i r ∨ i = link - 1 ∧ ∃ l, s.links[i]? = some l ∧ r ∈ (f l).queue := by
  obtain ⟨l, hl, hr⟩ := h
  simp only [updateLink, List.getElem?_modify] at hl
  by_cases hi : link - 1 = i
  · simp only [hi, ↓reduceIte, Option.map_eq_map, Option.map_eq_some_iff] at hl
    obtain ⟨k, hk, rfl⟩ := hl
    exact .inr ⟨hi.symm, k, hk, hr⟩
  · simp only [hi, ↓reduceIte, id_map'] at hl
    exact .inl ⟨l, hl, hr⟩

theorem queued_send {s : Server} {now link i : Nat} {job : Job} {r : Request}
    (h : (s.send now link job).2.Queued i r) :
    s.Queued i r ∨ i = link - 1 ∧ r = ⟨s.tickets, now, job⟩ := by
  rcases queued_updateLink h with h | ⟨hi, l, hl, hr⟩
  · exact .inl h
  · rcases List.mem_append.mp hr with hr | hr
    · exact .inl ⟨l, hl, hr⟩
    · exact .inr ⟨hi, List.mem_singleton.mp hr⟩

theorem ticketed_send {s : Server} (now link : Nat) (job : Job) (h : s.Ticketed) :
    (s.send now link job).2.Ticketed := by
  intro i r hr
  have grown : (s.send now link job).2.tickets = s.tickets + 1 := rfl
  rcases queued_send hr with hr | ⟨-, rfl⟩
  · have := h i r hr
    omega
  · simp [grown]

theorem assigned_send {s : Server} (now link : Nat) (job : Job) (h : s.Ticketed) :
    (s.send now link job).2.Assigned (s.send now link job).1 (link - 1) job := by
  intro j r hr ht
  rcases queued_send hr with hr | ⟨hj, rfl⟩
  · have : r.ticket = s.tickets := ht
    have := h j r hr
    omega
  · exact ⟨hj, rfl⟩

theorem ticketed_connect {s : Server} (now : Nat) (h : s.Ticketed) :
    (s.connect now).2.2.Ticketed := by
  apply ticketed_send
  intro i r ⟨l, hl, hr⟩
  rw [List.getElem?_append] at hl
  split at hl
  · exact h i r ⟨l, hl, hr⟩
  · rw [List.getElem?_singleton] at hl
    split at hl
    · simp only [Option.some.injEq] at hl
      subst hl
      simp at hr
    · simp at hl

theorem carry_frame (s : Server) (link start : Nat) (job : Job) :
    (carry s link start job).2.2.links = s.links ∧
      (carry s link start job).2.2.tickets = s.tickets := by
  cases job <;> exact ⟨rfl, rfl⟩

theorem soonest_ge {number t link : Nat} {ls : List Link} (h : soonest number ls = some (t, link)) :
    number ≤ link := by
  induction ls generalizing number t link with
  | nil => simp [soonest] at h
  | cons l rest ih =>
    simp only [soonest] at h
    split at h
    · rename_i u later e
      split at h <;> simp only [Option.some.injEq, Prod.mk.injEq] at h
      · have := ih e
        omega
      · omega
    · simp only [Option.some.injEq, Prod.mk.injEq] at h
      omega
    · have := ih h
      omega

theorem takeUp_spec {s s' : Server} {i t : Nat} {taken : TakenUp}
    (h : s.takeUp (i + 1) t = some (taken, s')) :
    s'.tickets = s.tickets ∧ (∀ j r, s'.Queued j r → s.Queued j r) ∧
      ∃ r, s.Queued i r ∧ r.ticket = taken.ticket ∧ Answers i r.job taken.answer taken.seen := by
  simp only [takeUp, Nat.add_sub_cancel] at h
  split at h
  · simp at h
  · rename_i l hl
    split at h
    · simp at h
    · rename_i r rest hq
      have waiting : s.Queued i r := ⟨l, hl, by simp [hq]⟩
      have popped : ∀ j q, (s.updateLink (i + 1) fun l => { l with queue := rest }).Queued j q →
          s.Queued j q := by
        intro j q hj
        rcases queued_updateLink hj with hj | ⟨rfl, k, hk, hr⟩
        · exact hj
        · exact ⟨l, hl, hq ▸ List.mem_cons_of_mem r hr⟩
      split at h <;> simp only [Option.some.injEq, Prod.mk.injEq] at h <;> obtain ⟨rfl, rfl⟩ := h
      · exact ⟨rfl, popped, r, waiting, rfl, .inl rfl⟩
      · obtain ⟨links, tickets⟩ :=
          carry_frame (s.updateLink (i + 1) fun l => { l with queue := rest }) (i + 1) t r.job
        refine ⟨tickets, fun j q hj => popped j q ?_, r, waiting, rfl, .inr ⟨_, _, rfl, ?_⟩⟩
        · rcases queued_updateLink hj with ⟨k, hk, hr⟩ | ⟨-, k, hk, hr⟩ <;>
            exact ⟨k, links ▸ hk, hr⟩
        · exact List.mem_singleton.mpr rfl

theorem Answers.mono {i : Nat} {job : Job} {a : Answer} {seen more : List Wire}
    (h : Answers i job a seen) (le : seen ⊆ more) : Answers i job a more := by
  rcases h with h | ⟨s, start, ha, hs⟩
  · exact .inl h
  · exact .inr ⟨s, start, ha, le hs⟩

theorem serveFrom_frame (ticket : Option Nat) (limit : Option Instant) (fuel : Nat) (d : Served) :
    (serveFrom ticket limit fuel d).server.tickets = d.server.tickets ∧
      ∀ j r, (serveFrom ticket limit fuel d).server.Queued j r → d.server.Queued j r := by
  induction fuel generalizing d with
  | zero => exact ⟨rfl, fun _ _ h => h⟩
  | succ fuel ih =>
    simp only [serveFrom]
    split
    · exact ⟨rfl, fun _ _ h => h⟩
    · rename_i t link hs
      split
      · exact ⟨rfl, fun _ _ h => h⟩
      · split
        · exact ⟨rfl, fun _ _ h => h⟩
        · rename_i taken server ht
          obtain ⟨j, rfl⟩ : ∃ j, link = j + 1 := ⟨link - 1, by have := soonest_ge hs; omega⟩
          obtain ⟨tickets, queued, -⟩ := takeUp_spec ht
          obtain ⟨tickets', queued'⟩ := ih
            ⟨if ticket = some taken.ticket then some taken.answer else d.answer,
              d.seen ++ taken.seen, server⟩
          exact ⟨tickets'.trans tickets, fun q p hp => queued q p (queued' q p hp)⟩

/-- An answer that was waited for is the one to the request with its ticket. -/
theorem serveFrom_answers {k i : Nat} {job : Job} {limit : Option Instant} (fuel : Nat) (d : Served)
    (assigned : d.server.Assigned k i job)
    (known : ∀ a, d.answer = some a → Answers i job a d.seen) :
    ∀ a, (serveFrom (some k) limit fuel d).answer = some a →
      Answers i job a (serveFrom (some k) limit fuel d).seen := by
  induction fuel generalizing d with
  | zero => exact known
  | succ fuel ih =>
    simp only [serveFrom]
    split
    · exact known
    · rename_i t link hs
      split
      · exact known
      · split
        · exact known
        · rename_i taken server ht
          obtain ⟨j, rfl⟩ : ∃ j, link = j + 1 := ⟨link - 1, by have := soonest_ge hs; omega⟩
          obtain ⟨-, queued, r, hr, same, answers⟩ := takeUp_spec ht
          refine ih _ (fun q p hp => assigned q p (queued q p hp)) fun a ha => ?_
          simp only at ha
          split at ha
          · rename_i hk
            obtain ⟨rfl, rfl⟩ := assigned j r hr (same.trans (Option.some.inj hk).symm)
            exact Option.some.inj ha ▸ answers.mono (List.subset_append_right d.seen taken.seen)
          · exact (known a ha).mono (List.subset_append_left d.seen taken.seen)

theorem ticketed_serve {s : Server} (ticket : Option Nat) (limit : Option Instant)
    (h : s.Ticketed) : (s.serve ticket limit).server.Ticketed := by
  obtain ⟨tickets, queued⟩ := serveFrom_frame ticket limit s.pending ⟨none, [], s⟩
  intro i r hr
  exact tickets ▸ h i r (queued i r hr)

theorem serve_answers {s : Server} {k i : Nat} {job : Job} (limit : Option Instant)
    (assigned : s.Assigned k i job) {a : Answer} (h : (s.serve (some k) limit).answer = some a) :
    Answers i job a (s.serve (some k) limit).seen :=
  serveFrom_answers s.pending ⟨none, [], s⟩ assigned (by simp) a h

theorem Answers.prepared {i : Nat} {sql : String} {a : Answer} {seen : List Wire} {p : Prepared}
    (h : Answers i (.prepare sql) a seen) (ha : a.content = .ok (.prepared p)) :
    p.sql = sql ∧ .prepare (i + 1) sql ∈ seen := by
  rcases h with h | ⟨s, start, rfl, hs⟩
  · simp [h] at ha
  · refine ⟨?_, hs⟩
    simp only [carry] at ha
    split at ha
    · simp only [carryPrepare] at ha
      split at ha
      · rename_i setback _
        cases setback <;> simp [Carried.failed] at ha
      · simp only [Except.ok.injEq, Content.prepared.injEq] at ha
        exact ha ▸ rfl
    · simp [Carried.failed] at ha

theorem ticketed_ofScript (rules : List Rule) (startups : List StartupStep) :
    (ofScript rules startups).Ticketed := by
  rintro i r ⟨l, hl, -⟩
  simp [ofScript] at hl

end RowMapper.Server
