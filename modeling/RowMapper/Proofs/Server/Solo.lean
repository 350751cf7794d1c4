import Mathlib.Data.List.Basic
import RowMapper.Server.Basic

/-!
A server that gets one request at a time, each after the answer to the one before. It takes the request
up as soon as the connection is free, and nothing else moves.
-/
namespace RowMapper

def Link.freed (c : Server.Carried) : Link :=
  ⟨c.freeAt, if c.hangsUp then some c.freeAt else none, []⟩

namespace Server

def Idle (s : Server) : Prop := ∀ l ∈ s.links, l.queue = []

def ShutBy (s : Server) (now : Instant) : Prop :=
  ∀ l ∈ s.links, ∀ t, l.closedAt = some t → t ≤ now

def taken (s : Server) (i : Nat) (start : Instant) (job : Job) : Server :=
  { (s.carry (i + 1) start job).2.2 with
    links := s.links.set i (.freed (s.carry (i + 1) start job).1)
    tickets := s.tickets + 1 }

theorem soonest_of_idle {ls : List Link} (idle : ∀ l ∈ ls, l.queue = []) (number : Nat) :
    soonest number ls = none := by
  induction ls generalizing number with
  | nil => rfl
  | cons l rest ih =>
    have quiet := ih (fun m hm => idle m (List.mem_cons_of_mem l hm)) (number + 1)
    simp only [soonest, Link.next?, idle l List.mem_cons_self, quiet]

theorem soonest_of_one {ls : List Link} {l : Link} {i : Nat} (idle : ∀ l ∈ ls, l.queue = [])
    (there : ls[i]? = some l) (r : Request) (number : Nat) :
    soonest number (ls.modify i fun l => { l with queue := l.queue ++ [r] }) =
      some (max r.sentAt l.freeAt, number + i) := by
  induction ls generalizing number i with
  | nil => simp at there
  | cons m rest ih =>
    have others : ∀ l ∈ rest, l.queue = [] := fun l hl => idle l (List.mem_cons_of_mem m hl)
    cases i with
    | zero =>
      obtain rfl : m = l := by simpa using there
      have first : m.queue = [] := idle m List.mem_cons_self
      rw [List.modify_zero_cons]
      simp only [soonest, Link.next?, first, List.nil_append, soonest_of_idle others, Nat.add_zero]
    | succ i =>
      have later := ih others (by simpa using there) (number + 1)
      rw [List.modify_succ_cons]
      simp only [soonest, Link.next?, idle m List.mem_cons_self, later]
      congr 2
      omega

theorem count_of_idle {ls : List Link} (idle : ∀ l ∈ ls, l.queue = []) (n : Nat) :
    ls.foldl (fun n l => n + l.queue.length) n = n := by
  induction ls generalizing n with
  | nil => rfl
  | cons l rest ih =>
    rw [List.foldl_cons, idle l List.mem_cons_self]
    exact ih (fun m hm => idle m (List.mem_cons_of_mem l hm)) n

theorem count_of_one {ls : List Link} {l : Link} {i : Nat} (idle : ∀ l ∈ ls, l.queue = [])
    (there : ls[i]? = some l) (r : Request) (n : Nat) :
    (ls.modify i fun l => { l with queue := l.queue ++ [r] }).foldl
      (fun n l => n + l.queue.length) n = n + 1 := by
  induction ls generalizing n i with
  | nil => simp at there
  | cons m rest ih =>
    have others : ∀ l ∈ rest, l.queue = [] := fun l hl => idle l (List.mem_cons_of_mem m hl)
    have first : m.queue = [] := idle m List.mem_cons_self
    cases i with
    | zero =>
      rw [List.modify_zero_cons, List.foldl_cons, count_of_idle others]
      simp [first]
    | succ i =>
      rw [List.modify_succ_cons, List.foldl_cons, first]
      exact ih others (by simpa using there) n

theorem serve_of_idle {s : Server} (idle : s.Idle) (ticket : Option Nat) (limit : Option Instant) :
    s.serve ticket limit = ⟨none, [], s⟩ := by
  rw [serve, pending, count_of_idle idle]
  rfl

/-- What a job comes to does not depend on the connections and the tickets. -/
theorem carry_setLinks (s : Server) (ls : List Link) (tickets link start : Nat) (job : Job) :
    carry { s with links := ls, tickets := tickets } link start job =
      ((s.carry link start job).1, (s.carry link start job).2.1,
        { (s.carry link start job).2.2 with links := ls, tickets := tickets }) := by
  cases job <;> rfl

theorem takeUp_one {s : Server} {l : Link} {i : Nat} (idle : s.Idle) (there : s.links[i]? = some l)
    (isOpen : l.closedAt = none) (now start : Instant) (job : Job) :
    (s.send now (i + 1) job).2.takeUp (i + 1) start =
      some (⟨s.tickets, (s.carry (i + 1) start job).1.answer, [(s.carry (i + 1) start job).2.1]⟩,
        s.taken i start job) := by
  have first : l.queue = [] := idle l (List.mem_of_getElem? there)
  have waits : (s.links.modify i fun l => { l with queue := l.queue ++ [⟨s.tickets, now, job⟩] })[i]? =
      some { l with queue := [⟨s.tickets, now, job⟩] } := by
    simp [there, first]
  have links (c : Carried) : ((s.links.modify i fun l =>
      { l with queue := l.queue ++ [⟨s.tickets, now, job⟩] }).modify i fun l =>
        { l with queue := [] }).modify i (fun l =>
          { l with freeAt := c.freeAt, closedAt := if c.hangsUp then some c.freeAt else none }) =
      s.links.set i (.freed c) := by
    rw [List.modify_modify_eq, List.modify_modify_eq, List.modify_eq_set_getElem?, there]
    rfl
  simp only [takeUp, send, updateLink, Nat.add_sub_cancel, waits, isOpen, Option.isSome_none,
    Bool.false_eq_true, ↓reduceIte, carry_setLinks]
  rw [links]
  rfl

/-- A request on an open connection is taken up once the connection is free, unless nobody waits so
long. -/
theorem serve_one {s : Server} {l : Link} {i : Nat} (idle : s.Idle) (there : s.links[i]? = some l)
    (isOpen : l.closedAt = none) (now : Instant) (job : Job) (limit : Option Instant) :
    (s.send now (i + 1) job).2.serve (some s.tickets) limit =
      if isPast limit (max now l.freeAt) then ⟨none, [], (s.send now (i + 1) job).2⟩
      else ⟨some (s.carry (i + 1) (max now l.freeAt) job).1.answer,
        [(s.carry (i + 1) (max now l.freeAt) job).2.1], s.taken i (max now l.freeAt) job⟩ := by
  have count : (s.send now (i + 1) job).2.pending = 1 := by
    rw [pending]
    exact (count_of_one idle there _ 0).trans (Nat.zero_add 1)
  have next : soonest 1 (s.send now (i + 1) job).2.links = some (max now l.freeAt, i + 1) :=
    (soonest_of_one idle there _ 1).trans (by rw [Nat.add_comm 1 i])
  have limited : horizon limit none = limit := by cases limit <;> rfl
  simp only [serve, count, serveFrom, next, limited, takeUp_one idle there isOpen]
  simp only [↓reduceIte, List.nil_append]

theorem idle_taken {s : Server} (idle : s.Idle) (i : Nat) (start : Instant) (job : Job) :
    (s.taken i start job).Idle := by
  intro l hl
  rcases List.mem_or_eq_of_mem_set hl with hl | rfl
  · exact idle l hl
  · rfl

end Server

end RowMapper
