/-!
Connections that are shared. An idle one is handed out before a new one is made, the one that has
been idle longest first.
-/
namespace RowMapper

structure Pool where
  max : Nat
  /-- The one idle longest comes first. -/
  idle : List Nat
  out : List Nat
  deriving DecidableEq, Repr, Inhabited

inductive Checkout where
  | reuse (link : Nat)
  | connect
  | full
  deriving DecidableEq, Repr, Inhabited

namespace Pool

def empty (max : Nat) : Pool := ⟨max, [], []⟩

/-- Hands out an idle connection; closed ones are thrown away on the way to it. -/
def checkout (p : Pool) (isClosed : Nat → Bool) : Checkout × Pool :=
  if p.max ≤ p.out.length then (.full, p)
  else match p.idle.dropWhile isClosed with
    | [] => (.connect, { p with idle := [] })
    | link :: rest => (.reuse link, { p with idle := rest, out := p.out ++ [link] })

def takeIn (p : Pool) (link : Nat) : Pool :=
  { p with out := p.out ++ [link] }

/-- A connection comes back; one that is not out here is left alone. -/
def giveBack (p : Pool) (link : Nat) : Pool :=
  if p.out.contains link then
    { p with idle := p.idle ++ [link], out := p.out.erase link }
  else p

def size (p : Pool) : Nat := p.idle.length + p.out.length

end Pool

end RowMapper
