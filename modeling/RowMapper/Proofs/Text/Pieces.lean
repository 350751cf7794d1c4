import Mathlib
import RowMapper.Proofs.Text.Searching

/-!
Texts that are cut at a separator, and trimmed. Cutting and joining undo each other; what stands between two
separators is not touched by trimming; a part without the separator lies in one piece.
-/
namespace RowMapper.Text

variable {sep : Char} {piece cs rest part : List Char} {pieces : List (List Char)}

/-! ### Cutting and joining -/

theorem splitAt_of_not_mem (plain : sep ∉ cs) : splitAt sep cs = [cs] := by
  induction cs with
  | nil => rfl
  | cons c cs ih =>
    obtain ⟨other, plain⟩ := not_or.mp (List.mem_cons.not.mp plain)
    rw [splitAt, if_neg (Ne.symm other), ih plain]

theorem splitAt_append (plain : sep ∉ piece) (rest : List Char) :
    splitAt sep (piece ++ sep :: rest) = piece :: splitAt sep rest := by
  induction piece with
  | nil => rw [List.nil_append, splitAt, if_pos rfl]
  | cons c piece ih =>
    obtain ⟨other, plain⟩ := not_or.mp (List.mem_cons.not.mp plain)
    rw [List.cons_append, splitAt, if_neg (Ne.symm other), ih plain]

theorem joinWith_cons_cons (sep piece next : List Char) (more : List (List Char)) :
    joinWith sep (piece :: next :: more) = piece ++ (sep ++ joinWith sep (next :: more)) := by
  rw [joinWith, List.append_assoc]
  exact nofun

theorem exists_pieces (sep : Char) (cs : List Char) :
    ∃ first later, cs = joinWith [sep] (first :: later) ∧ splitAt sep cs = first :: later ∧
      ∀ piece ∈ first :: later, sep ∉ piece := by
  induction cs with
  | nil => exact ⟨[], [], rfl, rfl, by simp⟩
  | cons c cs ih =>
    obtain ⟨first, later, whole, cut, plain⟩ := ih
    by_cases same : c = sep
    · refine ⟨[], first :: later, ?_, ?_, List.forall_mem_cons.mpr ⟨List.not_mem_nil, plain⟩⟩
      · rw [joinWith_cons_cons, ← whole, same]
        rfl
      · rw [splitAt, if_pos same, cut]
    · obtain ⟨plain, others⟩ := List.forall_mem_cons.mp plain
      refine ⟨c :: first, later, ?_, ?_, List.forall_mem_cons.mpr ⟨?_, others⟩⟩
      · rw [whole]
        cases later with
        | nil => rfl
        | cons next more =>
          rw [joinWith_cons_cons, joinWith_cons_cons]
          rfl
      · rw [splitAt, if_neg same, cut]
      · exact List.mem_cons.not.mpr (not_or.mpr ⟨Ne.symm same, plain⟩)

theorem joinWith_splitAt (sep : Char) (cs : List Char) : joinWith [sep] (splitAt sep cs) = cs := by
  obtain ⟨first, later, whole, cut, -⟩ := exists_pieces sep cs
  rw [cut, ← whole]

/-! ### Trimming -/

theorem isAlpha_of_blank {c : Char} (white : isBlank c = true) : c.isAlpha = false := by
  simp only [isBlank, Bool.or_eq_true, Bool.and_eq_true, decide_eq_true_eq, beq_iff_eq] at white
  have bounds : 'A'.toNat = 65 ∧ 'Z'.toNat = 90 ∧ 'a'.toNat = 97 ∧ 'z'.toNat = 122 := by decide
  simp only [Char.isAlpha, Char.isUpper, Char.isLower, Bool.or_eq_false_iff, Bool.and_eq_false_iff,
    decide_eq_false_iff_not, ge_iff_le, UInt32.le_iff_toNat_le, Char.toNat_val]
  omega

theorem trimStart_of_solid {c : Char} (solid : isBlank c = false) (cs : List Char) : trimStart (c :: cs) = c :: cs :=
  List.dropWhile_cons_of_neg (by simp [solid])

/-- What is at the front of a character that is not white does not hang on what follows. -/
theorem trimStart_append (solid : isBlank sep = false) (cs rest : List Char) :
    trimStart (cs ++ sep :: rest) = trimStart cs ++ sep :: rest := by
  induction cs with
  | nil => exact trimStart_of_solid solid rest
  | cons c cs ih =>
    rw [trimStart, List.cons_append, List.dropWhile_cons, trimStart, List.dropWhile_cons]
    split
    · exact ih
    · rfl

theorem trimEnd_append (solid : isBlank sep = false) (cs rest : List Char) :
    trimEnd (cs ++ sep :: rest) = cs ++ sep :: trimEnd rest := by
  have back := trimStart_append solid rest.reverse cs.reverse
  simp only [trimStart] at back
  rw [trimEnd, List.reverse_append, List.reverse_cons, List.append_assoc, List.singleton_append, back,
    List.reverse_append, List.reverse_cons, List.reverse_reverse, List.append_assoc]
  rfl

theorem trim_append (solid : isBlank sep = false) (piece rest : List Char) :
    trim (piece ++ sep :: rest) = trimStart piece ++ sep :: trimEnd rest := by
  rw [trim, trimStart_append solid, trimEnd_append solid]

theorem trimStart_trimStart (cs : List Char) : trimStart (trimStart cs) = trimStart cs :=
  List.dropWhile_idempotent isBlank cs

theorem trimEnd_trimEnd (cs : List Char) : trimEnd (trimEnd cs) = trimEnd cs := by
  simp only [trimEnd, List.reverse_reverse, List.dropWhile_idempotent]

theorem trim_trimStart (cs : List Char) : trim (trimStart cs) = trim cs := by
  rw [trim, trimStart_trimStart, trim]

theorem trimStart_trim (cs : List Char) : trimStart (trim cs) = trim cs := by
  rw [trim]
  cases solid : trimStart cs with
  | nil => rfl
  | cons c rest =>
    have first : isBlank c = false := by
      have stays := trimStart_trimStart cs
      rw [solid, trimStart, List.dropWhile_eq_self_iff] at stays
      simpa using stays (Nat.succ_pos _)
    have whole := trimEnd_append first [] rest
    rw [List.nil_append, List.nil_append] at whole
    rw [whole, trimStart_of_solid first]

theorem trim_trim (cs : List Char) : trim (trim cs) = trim cs := by
  rw [trim, trimStart_trim, trim, trimEnd_trimEnd]

theorem trimStart_subset (cs : List Char) : trimStart cs ⊆ cs := (List.dropWhile_sublist isBlank).subset

theorem trim_subset (cs : List Char) : trim cs ⊆ cs := by
  intro c there
  have inside := (List.dropWhile_sublist isBlank).subset (List.mem_reverse.mp there)
  exact trimStart_subset cs (List.mem_reverse.mp inside)

theorem exists_blank_end (cs : List Char) :
    ∃ blanks, cs = trimEnd cs ++ blanks ∧ ∀ c ∈ blanks, isBlank c = true := by
  refine ⟨(cs.reverse.takeWhile isBlank).reverse, ?_, fun c there => ?_⟩
  · rw [trimEnd, ← List.reverse_append, List.takeWhile_append_dropWhile, List.reverse_reverse]
  · exact List.mem_takeWhile_imp (List.mem_reverse.mp there)

/-! ### Parts within pieces -/

/-- A part without a character lies on one side of it. -/
theorem infix_append_cons_iff {c : Char} (apart : c ∉ part) (some : part ≠ []) (cs rest : List Char) :
    part <:+: cs ++ c :: rest ↔ part <:+: cs ∨ part <:+: rest := by
  have inside : ∀ {front : List Char}, front <+: c :: rest → c ∉ front → front = [] := by
    intro front before plain
    rcases List.prefix_cons_iff.mp before with empty | ⟨later, rfl, -⟩
    · exact empty
    · exact absurd List.mem_cons_self plain
  rw [List.infix_append_iff, List.infix_cons_iff]
  constructor
  · rintro (left | (front | right) | ⟨before, after, rfl, suffix, front⟩)
    · exact .inl left
    · exact absurd (inside front apart) some
    · exact .inr right
    · have empty := inside front fun there => apart (List.mem_append_right before there)
      rw [empty, List.append_nil]
      exact .inl suffix.isInfix
  · rintro (left | right)
    · exact .inl left
    · exact .inr (.inl (.inr right))

theorem infix_append_iff_of_apart (some : part ≠ []) (cs : List Char) (apart : ∀ c ∈ rest, c ∉ part) :
    part <:+: cs ++ rest ↔ part <:+: cs := by
  cases rest with
  | nil => rw [List.append_nil]
  | cons c rest =>
    obtain ⟨first, others⟩ := List.forall_mem_cons.mp apart
    rw [infix_append_cons_iff first some, or_iff_left]
    intro right
    obtain ⟨d, more, rfl⟩ := List.exists_cons_of_ne_nil some
    exact others d (right.subset List.mem_cons_self) List.mem_cons_self

end RowMapper.Text
