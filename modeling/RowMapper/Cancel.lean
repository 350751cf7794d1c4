/-!
A handle that can be fired, and the signals taken from it.
-/
namespace RowMapper

structure CancelHandle where
  fired : Bool
  /-- A dropped handle can no longer fire. -/
  dropped : Bool
  deriving DecidableEq, Repr, Inhabited

namespace CancelHandle

def fresh : CancelHandle := ⟨false, false⟩

def fire (h : CancelHandle) : CancelHandle :=
  if h.dropped then h else { h with fired := true }

def drop (h : CancelHandle) : CancelHandle :=
  { h with dropped := true }

def signalFired (h : CancelHandle) : Bool := h.fired

end CancelHandle

end RowMapper
