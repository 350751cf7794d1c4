import RowMapper.Text.Blank
import RowMapper.Text.Search

/-!
Searching a text for a part: whether it occurs, and what follows its first occurrence.
-/
namespace RowMapper.Text

variable {part cs rest : List Char}

theorem hasPart_iff : hasPart part cs = true ↔ part <:+: cs := by
  induction cs with
  | nil => rw [hasPart, List.isEmpty_iff, List.infix_nil]
  | cons c cs ih => rw [hasPart, Bool.or_eq_true, List.isPrefixOf_iff_prefix, ih, List.infix_cons_iff]

/-- A text that ends with the first occurrence of a part in it. -/
def EndsFirst (part cs : List Char) : Prop :=
  part <:+ cs ∧ ∀ shorter, shorter <+: cs → part <:+ shorter → shorter = cs

namespace EndsFirst

theorem self (part : List Char) : EndsFirst part part :=
  ⟨List.suffix_rfl, fun _ before there => before.eq_of_length_le there.length_le⟩

theorem cons {c : Char} (h : EndsFirst part cs) (later : ¬ part <+: c :: cs) : EndsFirst part (c :: cs) := by
  refine ⟨h.1.trans (List.suffix_cons c cs), fun shorter before there => ?_⟩
  rcases List.prefix_cons_iff.mp before with rfl | ⟨t, rfl, before'⟩
  · exact absurd (List.suffix_nil.mp there ▸ List.nil_prefix) later
  · rcases List.suffix_cons_iff.mp there with rfl | there
    · exact absurd before later
    · rw [h.2 t before' there]

theorem unique {a b : List Char} (ha : EndsFirst part a) (hb : EndsFirst part b) (inA : a <+: cs) (inB : b <+: cs) :
    a = b := by
  rcases List.prefix_or_prefix_of_prefix inA inB with before | before
  · exact hb.2 a before ha.1
  · exact (ha.2 b before hb.1).symm

end EndsFirst

theorem afterPart?_eq_none_iff : afterPart? part cs = none ↔ ¬ part <:+: cs := by
  induction cs with
  | nil => simp [afterPart?]
  | cons c cs ih =>
    rw [afterPart?, List.infix_cons_iff, ← List.isPrefixOf_iff_prefix]
    split
    · rename_i here
      simp [here]
    · rename_i here
      rw [ih]
      simp [here]

theorem endsFirst_of_afterPart? (h : afterPart? part cs = some rest) :
    ∃ body, EndsFirst part body ∧ cs = body ++ rest := by
  induction cs with
  | nil =>
    rw [afterPart?, Option.ite_none_right_eq_some, List.isEmpty_iff, Option.some.injEq] at h
    obtain ⟨rfl, rfl⟩ := h
    exact ⟨[], .self [], rfl⟩
  | cons c cs ih =>
    rw [afterPart?] at h
    split at h
    · rename_i here
      obtain ⟨after, same⟩ := List.isPrefixOf_iff_prefix.mp here
      rw [← same, List.drop_left, Option.some.injEq] at h
      exact ⟨part, .self part, h ▸ same.symm⟩
    · rename_i later
      obtain ⟨body, ends, rfl⟩ := ih h
      refine ⟨c :: body, ends.cons fun before => later ?_, rfl⟩
      exact List.isPrefixOf_iff_prefix.mpr (before.trans (List.prefix_append (c :: body) rest))

theorem afterPart?_eq_some_iff :
    afterPart? part cs = some rest ↔ ∃ body, EndsFirst part body ∧ cs = body ++ rest := by
  refine ⟨endsFirst_of_afterPart?, ?_⟩
  rintro ⟨body, ends, rfl⟩
  cases found : afterPart? part (body ++ rest) with
  | none => exact absurd (ends.1.isInfix.trans (List.prefix_append body rest).isInfix) (afterPart?_eq_none_iff.mp found)
  | some rest' =>
    obtain ⟨body', ends', same⟩ := endsFirst_of_afterPart? found
    have bodies : body = body' :=
      ends.unique ends' (List.prefix_append body rest) (same ▸ List.prefix_append body' rest')
    subst bodies
    rw [List.append_cancel_left same]

end RowMapper.Text
