import RowMapper.Text.LowerCase
import RowMapper.Proofs.Text.Pieces

/-!
Words of small Latin letters in lower-cased texts. The only letter whose lower case hangs on its surroundings is the
sigma, and no such word has one; so a word is found in the lower case of a text just when it is found where each
character is lower-cased on its own. Hence it does not matter in which case Latin letters are written, whether there
is white space at the end, or what else stands behind a comma.
-/
namespace RowMapper.Text

variable {part cs : List Char}

/-- The form that a sigma has inside a word. -/
def oneSigma (c : Char) : Char := if c = 'ς' then 'σ' else c

def folded (c : Char) : List Char :=
  if c.toNat == 0x3A3 then ['σ'] else (lowerChar c).map oneSigma

structure IsWord (part : List Char) : Prop where
  ne_nil : part ≠ []
  small : ∀ c ∈ part, c.isLower = true

theorem IsWord.not_mem (word : IsWord part) {c : Char} (other : c.isLower = false) : c ∉ part :=
  fun there => Bool.false_ne_true (other.symm.trans (word.small c there))

theorem map_oneSigma_lowerFrom (before cs : List Char) : (lowerFrom before cs).map oneSigma = cs.flatMap folded := by
  induction cs generalizing before with
  | nil => rfl
  | cons c cs ih =>
    rw [lowerFrom, List.map_append, ih, List.flatMap_cons, folded]
    split
    · split <;> rfl
    · rfl

theorem eq_of_oneSigma_mem (word : IsWord part) {c : Char} (there : oneSigma c ∈ part) : oneSigma c = c := by
  rw [oneSigma] at there ⊢
  split at there
  · exact absurd there (word.not_mem (by decide))
  · rename_i other
    rw [if_neg other]

/-- A word is found in the lower case of a text just when it is found with each character lower-cased on its own. -/
theorem infix_lower_iff (word : IsWord part) : part <:+: lower cs ↔ part <:+: cs.flatMap folded := by
  rw [← map_oneSigma_lowerFrom [] cs, List.infix_map_iff, lower]
  constructor
  · intro there
    refine ⟨part, there, ?_⟩
    conv_lhs => rw [← List.map_id part]
    refine List.map_congr_left fun c inside => ?_
    rw [id, oneSigma, if_neg]
    rintro rfl
    exact word.not_mem (by decide) inside
  · rintro ⟨found, there, rfl⟩
    have same : found.map oneSigma = found := by
      conv_rhs => rw [← List.map_id found]
      exact List.map_congr_left fun c inside => eq_of_oneSigma_mem word (List.mem_map_of_mem inside)
    rwa [same]

/-! ### Commas -/

theorem folded_comma : folded ',' = [','] := by decide

theorem infix_lower_joinWith_iff (word : IsWord part) (pieces : List (List Char)) :
    part <:+: lower (joinWith [','] pieces) ↔ ∃ piece ∈ pieces, part <:+: lower piece := by
  simp only [infix_lower_iff word]
  induction pieces with
  | nil => simpa [joinWith] using word.ne_nil
  | cons piece more ih =>
    cases more with
    | nil => simp [joinWith]
    | cons next more =>
      -- The comma stays a comma, and no word can lie across it.
      rw [joinWith_cons_cons, List.singleton_append, List.flatMap_append, List.flatMap_cons, folded_comma,
        List.singleton_append, infix_append_cons_iff (word.not_mem (by decide)) word.ne_nil, ih]
      exact (List.exists_mem_cons_iff (fun p => part <:+: p.flatMap folded) piece (next :: more)).symm

/-! ### White space -/

/-- No character that has another lower case is white, but for letters before 128. -/
theorem lowerRuns_solid :
    ∀ r ∈ lowerRuns.toList, ∀ b ∈ [(0x85, 0x85), (0xA0, 0xA0), (0x1680, 0x1680), (0x2000, 0x205F), (0x3000, 0x3000)],
      r.2.1 < b.1 ∨ b.2 < r.1 := by
  decide +kernel

theorem lowerDistance_of_blank {c : Char} (white : isBlank c = true) (beyond : 128 ≤ c.toNat) :
    lowerDistance c.toNat = 0 := by
  unfold lowerDistance
  split
  · rename_i r found
    have apart := lowerRuns_solid r (Array.mem_toList_iff.mpr (Array.mem_of_find?_eq_some found))
    have inside := Array.find?_some found
    simp only [List.forall_mem_cons] at apart
    simp only [Bool.and_eq_true, decide_eq_true_eq] at inside
    simp only [isBlank, Bool.or_eq_true, Bool.and_eq_true, decide_eq_true_eq, beq_iff_eq] at white
    omega
  · rfl

theorem folded_of_blank {c : Char} (white : isBlank c = true) : folded c = [c] := by
  have no_sigma : c.toNat ≠ 0x3A3 ∧ c.toNat ≠ 0x3C2 ∧ c.toNat ≠ 0x130 := by
    simp only [isBlank, Bool.or_eq_true, Bool.and_eq_true, decide_eq_true_eq, beq_iff_eq] at white
    omega
  have same : lowerChar c = [c] := by
    simp only [lowerChar]
    split
    · have small : c.isUpper = false := (Bool.or_eq_false_iff.mp (isAlpha_of_blank white)).1
      rw [Char.toLower_eq_of_not_isUpper (Bool.eq_false_iff.mp small)]
    · rename_i beyond
      rw [lowerDistance_of_blank white (Nat.not_lt.mp beyond), if_neg (by simpa using no_sigma.2.2)]
      simp
  have inner : oneSigma c = c := if_neg fun final => no_sigma.2.1 (congrArg Char.toNat final)
  rw [folded, same, if_neg (by simpa using no_sigma.1), List.map_singleton, inner]

theorem isLower_of_blank {c : Char} (white : isBlank c = true) : c.isLower = false :=
  (Bool.or_eq_false_iff.mp (isAlpha_of_blank white)).2

theorem infix_lower_trimEnd_iff (word : IsWord part) (cs : List Char) :
    part <:+: lower (trimEnd cs) ↔ part <:+: lower cs := by
  obtain ⟨blanks, whole, white⟩ := exists_blank_end cs
  have same : blanks.flatMap folded = blanks := by
    rw [List.flatMap_congr fun c there => folded_of_blank (white c there), List.flatMap_singleton']
  rw [infix_lower_iff word, infix_lower_iff word]
  conv_rhs => rw [whole, List.flatMap_append, same]
  exact (infix_append_iff_of_apart word.ne_nil _ fun c there =>
    word.not_mem (isLower_of_blank (white c there))).symm

/-! ### Latin letters -/

theorem folded_toLower (c : Char) : folded c.toLower = folded c := by
  by_cases capital : c.isUpper = true
  · have each : ∀ n < 26, folded (Char.ofNat (65 + n)).toLower = folded (Char.ofNat (65 + n)) := by decide
    have bounds : 65 ≤ c.toNat ∧ c.toNat ≤ 90 := by
      simpa [Char.isUpper, UInt32.le_iff_toNat_le] using capital
    have here := each (c.toNat - 65) (by omega)
    rwa [Nat.add_sub_cancel' bounds.1, Char.ofNat_toNat] at here
  · rw [Char.toLower_eq_of_not_isUpper capital]

theorem infix_lower_congr (word : IsWord part) {cs ds : List Char} (same : lowerAscii cs = lowerAscii ds) :
    part <:+: lower cs ↔ part <:+: lower ds := by
  have alike (cs : List Char) : cs.flatMap folded = (lowerAscii cs).flatMap folded := by
    simp only [lowerAscii, List.flatMap_map, folded_toLower]
  rw [infix_lower_iff word, infix_lower_iff word, alike cs, alike ds, same]

end RowMapper.Text
