import RowMapper.Text.Utf8

/-!
Reading UTF-8 gives back the text that was written.
-/
namespace RowMapper.Text.Utf8

theorem toNat_char (c : Char) : c.toNat < 0xD800 ∨ 0xE000 ≤ c.toNat ∧ c.toNat < 0x110000 := by
  have valid := c.valid
  simp only [UInt32.isValidChar, Nat.isValidChar] at valid
  have same : c.val.toNat = c.toNat := rfl
  omega

theorem toNat_byte {n : Nat} (h : n < 256) : (UInt8.ofNat n).toNat = n := by
  rw [UInt8.toNat_ofNat', Nat.mod_eq_of_lt h]

theorem width_byte {n : Nat} (h : n < 256) :
    width (UInt8.ofNat n) =
      if n < 0x80 then some 1
      else if 0xC2 ≤ n ∧ n ≤ 0xDF then some 2
      else if 0xE0 ≤ n ∧ n ≤ 0xEF then some 3
      else if 0xF0 ≤ n ∧ n ≤ 0xF4 then some 4
      else none := by
  simp [width, UInt8.lt_iff_toNat_lt, UInt8.le_iff_toNat_le, Nat.mod_eq_of_lt h]

theorem isTail_byte (n : Nat) : isTail (UInt8.ofNat (n % 64 + 128)) = true := by
  have small : n % 64 + 128 < 256 := by omega
  simp only [isTail, UInt8.le_iff_toNat_le, toNat_byte small, Bool.and_eq_true, decide_eq_true_eq]
  exact ⟨Nat.le_add_left 128 _, show n % 64 + 128 ≤ 191 by omega⟩

theorem tailBits_byte (n : Nat) : tailBits (UInt8.ofNat (n % 64 + 128)) = n % 64 := by
  rw [tailBits, toNat_byte (by omega)]
  omega

/-- The second byte of a long character fits its lead byte: no character is written longer than it has to
be, none is a surrogate, and none is past the last one. -/
theorem secondFits_byte {m n : Nat} (small : m < 256) (first : m = 0xE0 → 0x20 ≤ n % 64)
    (surrogate : m = 0xED → n % 64 < 0x20) (long : m = 0xF0 → 0x10 ≤ n % 64)
    (last : m = 0xF4 → n % 64 < 0x10) :
    secondFits (UInt8.ofNat m) (UInt8.ofNat (n % 64 + 128)) = true := by
  have second : (UInt8.ofNat (n % 64 + 128)).toNat = n % 64 + 128 := toNat_byte (by omega)
  have lead (k : UInt8) : UInt8.ofNat m = k ↔ m = k.toNat := by rw [← UInt8.toNat_inj, toNat_byte small]
  simp only [secondFits, isTail, lead, UInt8.le_iff_toNat_le, second, UInt8.reduceToNat]
  by_cases e0 : m = 0xE0
  · simp [e0]
    omega
  by_cases ed : m = 0xED
  · simp [ed]
    omega
  by_cases f0 : m = 0xF0
  · simp [f0]
    omega
  by_cases f4 : m = 0xF4
  · simp [f4]
    omega
  · simp [e0, ed, f0, f4]
    omega

section
variable {a b c d : UInt8} {rest : List UInt8} (index : Nat)

theorem decodeFrom_one (h : width a = some 1) :
    decodeFrom index (a :: rest) = (decodeFrom (index + 1) rest).map (Char.ofNat a.toNat :: ·) := by
  rw [decodeFrom.eq_def]
  simp only [h]

theorem decodeFrom_two (h : width a = some 2) (hb : isTail b = true) :
    decodeFrom index (a :: b :: rest) =
      (decodeFrom (index + 2) rest).map (Char.ofNat (a.toNat % 32 * 64 + tailBits b) :: ·) := by
  rw [decodeFrom.eq_def]
  simp only [h, hb, Bool.not_true, Bool.false_eq_true, if_false]

theorem decodeFrom_three (h : width a = some 3) (hb : secondFits a b = true) (hc : isTail c = true) :
    decodeFrom index (a :: b :: c :: rest) =
      (decodeFrom (index + 3) rest).map
        (Char.ofNat (a.toNat % 16 * 4096 + tailBits b * 64 + tailBits c) :: ·) := by
  rw [decodeFrom.eq_def]
  simp only [h, hb, hc, Bool.not_true, Bool.false_eq_true, if_false]

theorem decodeFrom_four (h : width a = some 4) (hb : secondFits a b = true) (hc : isTail c = true)
    (hd : isTail d = true) :
    decodeFrom index (a :: b :: c :: d :: rest) =
      (decodeFrom (index + 4) rest).map
        (Char.ofNat (a.toNat % 8 * 262144 + tailBits b * 4096 + tailBits c * 64 + tailBits d) :: ·) := by
  rw [decodeFrom.eq_def]
  simp only [h, hb, hc, hd, Bool.not_true, Bool.false_eq_true, if_false]

end

theorem decodeFrom_char (c : Char) (index : Nat) (rest : List UInt8) :
    ∃ later, decodeFrom index (String.utf8EncodeChar c ++ rest) =
      (decodeFrom later rest).map (c :: ·) := by
  have range := toNat_char c
  have whole : Char.ofNat c.toNat = c := Char.ofNat_toNat c
  have value : c.val.toNat = c.toNat := rfl
  simp only [String.utf8EncodeChar, value]
  generalize c.toNat = v at range whole
  -- By the number of bytes; in each case the bits of the bytes are those of the character.
  by_cases one : v ≤ 127
  · have wide : width (UInt8.ofNat v) = some 1 := by
      rw [width_byte (by omega), if_pos (by omega)]
    rw [if_pos one, List.singleton_append, decodeFrom_one index wide, toNat_byte (by omega), whole]
    exact ⟨_, rfl⟩
  rw [if_neg one]
  by_cases two : v ≤ 2047
  · have lead : v / 64 % 32 + 192 < 256 := by omega
    have wide : width (UInt8.ofNat (v / 64 % 32 + 192)) = some 2 := by
      rw [width_byte lead, if_neg (by omega), if_pos (by omega)]
    have same : (v / 64 % 32 + 192) % 32 * 64 + v % 64 = v := by omega
    rw [if_pos two, List.cons_append, List.singleton_append, decodeFrom_two index wide (isTail_byte v),
      toNat_byte lead, tailBits_byte, same, whole]
    exact ⟨_, rfl⟩
  rw [if_neg two]
  by_cases three : v ≤ 65535
  · have lead : v / 4096 % 16 + 224 < 256 := by omega
    have wide : width (UInt8.ofNat (v / 4096 % 16 + 224)) = some 3 := by
      rw [width_byte lead, if_neg (by omega), if_neg (by omega), if_pos (by omega)]
    have fits := secondFits_byte (n := v / 64) lead (by omega) (by omega) (by omega) (by omega)
    have same : (v / 4096 % 16 + 224) % 16 * 4096 + v / 64 % 64 * 64 + v % 64 = v := by omega
    rw [if_pos three, List.cons_append, List.cons_append, List.singleton_append,
      decodeFrom_three index wide fits (isTail_byte v), toNat_byte lead, tailBits_byte, tailBits_byte,
      same, whole]
    exact ⟨_, rfl⟩
  · have lead : v / 262144 % 8 + 240 < 256 := by omega
    have wide : width (UInt8.ofNat (v / 262144 % 8 + 240)) = some 4 := by
      rw [width_byte lead, if_neg (by omega), if_neg (by omega), if_neg (by omega), if_pos (by omega)]
    have fits := secondFits_byte (n := v / 4096) lead (by omega) (by omega) (by omega) (by omega)
    have same : (v / 262144 % 8 + 240) % 8 * 262144 + v / 4096 % 64 * 4096 + v / 64 % 64 * 64 + v % 64 =
        v := by omega
    rw [if_neg three, List.cons_append, List.cons_append, List.cons_append, List.singleton_append,
      decodeFrom_four index wide fits (isTail_byte _) (isTail_byte v), toNat_byte lead, tailBits_byte,
      tailBits_byte, tailBits_byte, same, whole]
    exact ⟨_, rfl⟩

theorem decodeFrom_encode (cs : List Char) (index : Nat) :
    decodeFrom index (cs.flatMap String.utf8EncodeChar) = .ok cs := by
  induction cs generalizing index with
  | nil => rfl
  | cons c rest ih =>
    obtain ⟨later, first⟩ := decodeFrom_char c index (rest.flatMap String.utf8EncodeChar)
    rw [List.flatMap_cons, first, ih]
    rfl

theorem decode_encode (s : String) : decode (encode s) = .ok s := by
  rw [decode, encode, decodeFrom_encode]
  exact congrArg Except.ok String.ofList_toList

theorem eq_nil_of_decodeFrom {index : Nat} {bs : List UInt8} (h : decodeFrom index bs = .ok []) :
    bs = [] := by
  have grown {x : Except Fault (List Char)} {c : Char} : x.map (c :: ·) ≠ .ok [] := by
    cases x <;> simp [Except.map]
  cases bs with
  | nil => rfl
  | cons a rest =>
    rw [decodeFrom.eq_def] at h
    dsimp only at h
    -- Every way to read a first character leaves it in front, and all others fail.
    repeat' split at h
    all_goals first | cases h | exact absurd h grown

theorem decode_eq_empty {bs : List UInt8} : decode bs = .ok "" ↔ bs = [] := by
  constructor
  · intro h
    cases e : decodeFrom 0 bs with
    | error fault => simp [decode, e, Except.map] at h
    | ok cs =>
      simp only [decode, e, Except.map, Except.ok.injEq] at h
      have nothing : cs = [] := by simpa using congrArg String.toList h
      exact eq_nil_of_decodeFrom (nothing ▸ e)
  · rintro rfl
    rfl

end RowMapper.Text.Utf8
