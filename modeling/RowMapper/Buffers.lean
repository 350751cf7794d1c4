import RowMapper.KeyOrder

/-!
Text buffers that are used again. The idle ones form a stack; a buffer that comes back is emptied,
and let go when enough are idle. Whoever holds a buffer may write what he likes in it; he gives it
back whole or half-written.
-/
namespace RowMapper

structure Buffer where
  /-- Tells it apart from every other one. -/
  serial : Nat
  text : String
  deriving DecidableEq, Repr, Inhabited

namespace Buffer

def clear (b : Buffer) : Buffer := { b with text := "" }

def edit (b : Buffer) (f : String → String) : Buffer := { b with text := f b.text }

end Buffer

structure Buffers where
  maxIdle : Nat
  /-- How many there have been. -/
  made : Nat
  idle : List Buffer
  deriving DecidableEq, Repr, Inhabited

namespace Buffers

def empty (maxIdle : Nat) : Buffers := ⟨maxIdle, 0, []⟩

/-- A buffer to write in, and the buffers left. One is made only where none is idle. -/
def take (b : Buffers) : Buffer × Buffers :=
  match b.idle with
  | top :: rest => (top, { b with idle := rest })
  | [] => (⟨b.made, ""⟩, { b with made := b.made + 1 })

/-- A buffer comes back; what was written in it does not. -/
def giveBack (b : Buffers) (back : Buffer) : Buffers :=
  if b.idle.length < b.maxIdle then { b with idle := back.clear :: b.idle } else b

end Buffers

structure BufferDesk where
  buffers : Buffers
  held : List (String × Buffer)
  deriving DecidableEq, Repr, Inhabited

namespace BufferDesk

def empty (maxIdle : Nat) : BufferDesk := ⟨.empty maxIdle, []⟩

def buffer? (d : BufferDesk) (name : String) : Option Buffer := valueOf? name d.held

def text? (d : BufferDesk) (name : String) : Option String := (d.buffer? name).map (·.text)

def drop (d : BufferDesk) (name : String) : BufferDesk :=
  match d.buffer? name with
  | some back => ⟨d.buffers.giveBack back, d.held.filter (·.1 != name)⟩
  | none => d

/-- A holder takes a new buffer; the one held before comes back after that. -/
def take (d : BufferDesk) (name : String) : BufferDesk :=
  let (fresh, left) := d.buffers.take
  let d := drop ⟨left, d.held⟩ name
  { d with held := (name, fresh) :: d.held }

def edit (d : BufferDesk) (name : String) (f : String → String) : BufferDesk :=
  { d with held := d.held.map fun h => if h.1 == name then (h.1, h.2.edit f) else h }

end BufferDesk

end RowMapper
