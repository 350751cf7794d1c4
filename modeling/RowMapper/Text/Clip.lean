/-!
Cutting a text to a number of bytes, never inside a character.
-/
namespace RowMapper.Text

open String.Pos.Raw (IsValid)

/-- The bytes of a text before an offset. An offset inside a character or behind the end has none. -/
def before? (s : String) (offset : Nat) : Option String :=
  if whole : IsValid s ⟨offset⟩ then some (s.sliceTo (s.pos ⟨offset⟩ whole)).copy else none

/-- The last offset up to a limit that is not inside a character, looked for from the limit down. -/
def lastBoundary (s : String) : Nat → Nat
  | 0 => 0
  | limit + 1 => if IsValid s ⟨limit + 1⟩ then limit + 1 else lastBoundary s limit

theorem isValid_lastBoundary (s : String) (limit : Nat) : IsValid s ⟨lastBoundary s limit⟩ := by
  induction limit with
  | zero => exact String.Pos.Raw.isValid_zero
  | succ limit ih =>
    rw [lastBoundary]
    split
    · assumption
    · exact ih

def clip? (limit : Nat) (s : String) : Option String :=
  if s.utf8ByteSize ≤ limit then some s else before? s (lastBoundary s limit)

theorem isSome_clip? (limit : Nat) (s : String) : (clip? limit s).isSome := by
  rw [clip?]
  split
  · rfl
  · rw [before?, dif_pos (isValid_lastBoundary s limit)]
    rfl

/-- No text is cut inside a character, so there is always something to give. -/
def clip (limit : Nat) (s : String) : String :=
  (clip? limit s).get (isSome_clip? limit s)

def clipMarked (limit : Nat) (s : String) : String :=
  if s.utf8ByteSize ≤ limit then s else clip limit s ++ "..."

end RowMapper.Text
