import RowMapper.Hook.Trace
import Mathlib.Data.List.Infix

/-!
Texts that are cut to a number of bytes. The backward search ends at the last place that is not inside a character, so
a cut always succeeds and gives the longest beginning of whole characters that fits. Failure texts and traced
statements are such beginnings with three dots; a text with three dots just behind the limit comes out as it went in.
-/
namespace RowMapper

namespace Text

open String.Pos.Raw (IsValid)

/-- The longest beginning of a text, in whole characters, that fits in a number of bytes. -/
structure LongestWithin (limit : Nat) (s t : String) : Prop where
  begins : t.toList <+: s.toList
  fits : t.utf8ByteSize ≤ limit
  longest : ∀ u : String, u.toList <+: s.toList → u.utf8ByteSize ≤ limit → u.toList <+: t.toList

/-- What is shown of a text: all of it where it fits, else the longest beginning that fits and three dots. -/
inductive ShownAs (limit : Nat) (s : String) : String → Prop where
  | whole (fits : s.utf8ByteSize ≤ limit) : ShownAs limit s s
  | cut {t : String} (exceeds : limit < s.utf8ByteSize) (longest : LongestWithin limit s t) :
    ShownAs limit s (t ++ "...")

variable {s t u : String} {limit offset : Nat}

/-! ### Beginnings of a text -/

theorem toList_prefix_iff : t.toList <+: s.toList ↔ ∃ rest, s = t ++ rest := by
  constructor
  · rintro ⟨rest, same⟩
    refine ⟨String.ofList rest, String.toList_inj.mp ?_⟩
    rw [String.toList_append, String.toList_ofList, same]
  · rintro ⟨rest, rfl⟩
    rw [String.toList_append]
    exact List.prefix_append _ _

theorem toList_prefix_of_size_le (shorter : u.toList <+: s.toList) (longer : t.toList <+: s.toList)
    (size : u.utf8ByteSize ≤ t.utf8ByteSize) : u.toList <+: t.toList := by
  rcases List.prefix_or_prefix_of_prefix shorter longer with before | behind
  · exact before
  · obtain ⟨rest, rfl⟩ := toList_prefix_iff.mp behind
    rw [String.utf8ByteSize_append] at size
    have empty : rest = "" := String.utf8ByteSize_eq_zero_iff.mp (by omega)
    rw [empty, String.append_empty]

theorem before?_eq_some_iff : before? s offset = some t ↔ t.toList <+: s.toList ∧ t.utf8ByteSize = offset := by
  rw [toList_prefix_iff, before?, Option.dite_none_right_eq_some]
  constructor
  · rintro ⟨whole, same⟩
    have splits := (s.pos ⟨offset⟩ whole).splits
    rw [Option.some.inj same] at splits
    exact ⟨⟨_, splits.eq_append⟩, (congrArg String.Pos.Raw.byteIdx splits.offset_eq_rawEndPos).symm⟩
  · rintro ⟨⟨rest, rfl⟩, rfl⟩
    have whole : IsValid (t ++ rest) t.rawEndPos := String.Pos.Raw.isValid_iff_exists_append.mpr ⟨t, rest, rfl, rfl⟩
    exact ⟨whole, congrArg some String.Pos.splits_append_rawEndPos.copy_sliceTo_eq⟩

example : before? "aé" 2 = none := by decide

/-! ### The search for a place to cut -/

theorem lastBoundary_le (s : String) (limit : Nat) : lastBoundary s limit ≤ limit := by
  induction limit with
  | zero => exact Nat.le_refl 0
  | succ limit ih =>
    rw [lastBoundary]
    split
    · exact Nat.le_refl _
    · exact Nat.le_succ_of_le ih

theorem le_lastBoundary (whole : IsValid s ⟨offset⟩) (within : offset ≤ limit) : offset ≤ lastBoundary s limit := by
  induction limit with
  | zero => exact within
  | succ limit ih =>
    rw [lastBoundary]
    split
    · exact within
    · rename_i inside
      rcases Nat.le_succ_iff.mp within with before | rfl
      · exact ih before
      · exact absurd whole inside

theorem longestWithin_of_before? (h : before? s (lastBoundary s limit) = some t) : LongestWithin limit s t := by
  obtain ⟨begins, size⟩ := before?_eq_some_iff.mp h
  refine ⟨begins, size ▸ lastBoundary_le s limit, fun u before fits => ?_⟩
  obtain ⟨rest, rfl⟩ := toList_prefix_iff.mp before
  have whole : IsValid (u ++ rest) ⟨u.utf8ByteSize⟩ :=
    String.Pos.Raw.isValid_iff_exists_append.mpr ⟨u, rest, rfl, rfl⟩
  exact toList_prefix_of_size_le before begins (size ▸ le_lastBoundary whole fits)

theorem longestWithin_clip (limit : Nat) (s : String) : LongestWithin limit s (clip limit s) := by
  have given : clip? limit s = some (clip limit s) := Option.eq_some_of_isSome (isSome_clip? limit s)
  rw [clip?] at given
  split at given
  · rename_i fits
    rw [← Option.some.inj given]
    exact ⟨List.prefix_rfl, fits, fun _ before _ => before⟩
  · exact longestWithin_of_before? given

example : clip? 2 "aé" = some "a" := by decide

/-! ### Texts with three dots -/

theorem LongestWithin.unique (ht : LongestWithin limit s t) (hu : LongestWithin limit s u) : t = u := by
  have before : t.toList <+: u.toList := hu.longest t ht.begins ht.fits
  have behind : u.toList <+: t.toList := ht.longest u hu.begins hu.fits
  exact String.toList_inj.mp (before.eq_of_length_le behind.length_le)

theorem longestWithin_of_size_eq (begins : t.toList <+: s.toList) (size : t.utf8ByteSize = limit) :
    LongestWithin limit s t :=
  ⟨begins, size.le, fun _ before fits => toList_prefix_of_size_le before begins (size ▸ fits)⟩

/-- The dots behind the longest beginning would fit one by one if it had bytes to spare. -/
theorem LongestWithin.size_eq_of_dots (h : LongestWithin limit (t ++ "...") t) : t.utf8ByteSize = limit := by
  by_contra spare
  have fits : (t ++ ".").utf8ByteSize ≤ limit := by
    have dot : ".".utf8ByteSize = 1 := rfl
    have := h.fits
    rw [String.utf8ByteSize_append]
    omega
  have before : (t ++ ".").toList <+: (t ++ "...").toList :=
    toList_prefix_iff.mpr ⟨"..", by rw [String.append_assoc]; rfl⟩
  have shorter := (h.longest _ before fits).length_le
  rw [String.toList_append, List.length_append] at shorter
  exact absurd shorter (Nat.not_succ_le_self _)

theorem shownAs_clipMarked (limit : Nat) (s : String) : ShownAs limit s (clipMarked limit s) := by
  rw [clipMarked]
  split
  · exact .whole ‹_›
  · exact .cut (Nat.lt_of_not_le ‹_›) (longestWithin_clip limit s)

theorem ShownAs.size_le (h : ShownAs limit s u) : u.utf8ByteSize ≤ limit + 3 := by
  cases h with
  | whole fits => exact Nat.le_add_right_of_le fits
  | cut _ longest =>
    rw [String.utf8ByteSize_append]
    exact Nat.add_le_add_right longest.fits 3

theorem ShownAs.eq_self_iff (h : ShownAs limit s u) :
    u = s ↔ s.utf8ByteSize ≤ limit ∨ ∃ t : String, t.utf8ByteSize = limit ∧ s = t ++ "..." := by
  cases h with
  | whole fits => exact iff_of_true rfl (.inl fits)
  | @cut t exceeds longest =>
    constructor
    · rintro rfl
      exact .inr ⟨t, longest.size_eq_of_dots, rfl⟩
    · rintro (fits | ⟨t', size, rfl⟩)
      · exact absurd fits (Nat.not_le_of_lt exceeds)
      · rw [longest.unique (longestWithin_of_size_eq (toList_prefix_iff.mpr ⟨"...", rfl⟩) size)]

end Text

/-- Any text can be cut to any limit, between characters, and what is left is its longest beginning that fits. A failure
text is shown within 512 bytes and three dots. A traced statement stays as it is just when it fits or is itself a text
of as many bytes as the limit with three dots; without a limit every one stays. -/
theorem cut_between_characters (limit : Nat) (s : String) (level : TraceLevel) :
    (∃ t, Text.clip? limit s = some t ∧ Text.LongestWithin limit s t) ∧
    (∃ text, Outcome.ofReason s = .failed text ∧ Text.ShownAs 512 s text ∧ text.utf8ByteSize ≤ 515) ∧
    Text.ShownAs limit s (StatementTrace.clip ⟨level, some limit⟩ s) ∧
    (StatementTrace.clip ⟨level, some limit⟩ s = s ↔
      s.utf8ByteSize ≤ limit ∨ ∃ t : String, t.utf8ByteSize = limit ∧ s = t ++ "...") ∧
    StatementTrace.clip ⟨level, none⟩ s = s := by
  have reason : Text.ShownAs 512 s (Text.clipMarked 512 s) := Text.shownAs_clipMarked 512 s
  have traced : Text.ShownAs limit s (StatementTrace.clip ⟨level, some limit⟩ s) := Text.shownAs_clipMarked limit s
  exact ⟨⟨Text.clip limit s, Option.eq_some_of_isSome (Text.isSome_clip? limit s), Text.longestWithin_clip limit s⟩,
    ⟨_, rfl, reason, reason.size_le⟩, traced, traced.eq_self_iff, rfl⟩

/-- Three dots just behind the limit stand for themselves, so a text that is too long may stay as it is. -/
theorem dots_at_limit_unchanged :
    ¬ (StatementTrace.clip ⟨.debug, some 6⟩ "SELECT..." = "SELECT..." ↔ "SELECT...".utf8ByteSize ≤ 6) := by
  decide

end RowMapper
