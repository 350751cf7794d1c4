import RowMapper.Proofs.Values.Utf8
import RowMapper.Value

/-!
A value that was sent as a column type is read back from it, and what is read as a type is a value of it.
-/
namespace RowMapper

def Scalar.has : Scalar → Value → Bool
  | .int16, .int16 _ => true
  | .int32, .int32 _ => true
  | .int64, .int64 _ => true
  | .bool, .bool _ => true
  | .double, .double _ => true
  | .text, .text _ => true
  | .bytes, .bytes _ => true
  | .document, .text _ => true
  | _, _ => false

def HostType.has (t : HostType) (v : Value) : Bool :=
  if v = .null then t.optional else t.scalar.has v

namespace Scalar

theorem readNumber_toBigEndian (count n : Nat) (make : Nat → Value) :
    readNumber count make (Number.toBigEndian count n) = .ok (make (n % Number.byteRange count)) := by
  have length := Number.length_toBigEndian count n
  rw [readNumber, if_neg (by omega), if_neg (by omega), Number.ofBigEndian_toBigEndian]

theorem readText_encode (s : String) : readText (Text.Utf8.encode s) = .ok (.text s) := by
  rw [readText, Text.Utf8.decode_encode]

theorem ofNat_toNat_bits {width : Nat} (b : BitVec width) (count : Nat)
    (fits : b.toNat < Number.byteRange count) :
    BitVec.ofNat width (b.toNat % Number.byteRange count) = b := by
  rw [Nat.mod_eq_of_lt fits, BitVec.ofNat_toNat, BitVec.setWidth_eq]

theorem decode_encode {s : Scalar} {v : Value} {wire : WireType} (has : s.has v = true)
    (accepted : s.accepts wire = true) : s.decode wire (encode wire v) = .ok v := by
  cases s with
  | int16 =>
    cases v with
    | int16 n =>
      rw [encode, decode, readNumber_toBigEndian, ofNat_toNat_bits _ 2 (BitVec.isLt _)]
      rfl
    | _ => nomatch has
  | int32 =>
    cases v with
    | int32 n =>
      rw [encode, decode, readNumber_toBigEndian, ofNat_toNat_bits _ 4 (BitVec.isLt _)]
      rfl
    | _ => nomatch has
  | int64 =>
    cases v with
    | int64 n =>
      rw [encode, decode, readNumber_toBigEndian, ofNat_toNat_bits _ 8 (BitVec.isLt _)]
      rfl
    | _ => nomatch has
  | bool =>
    cases v with
    | bool b => cases b <;> rfl
    | _ => nomatch has
  | double =>
    cases v with
    | double bits =>
      have whole : bits.toNat % Number.byteRange 8 = bits.toNat := Nat.mod_eq_of_lt bits.toNat_lt
      rw [encode, decode, readNumber_toBigEndian, whole, UInt64.ofNat_toNat]
    | _ => nomatch has
  | text =>
    cases v with
    | text s =>
      -- A text is never sent as `jsonb`, where a version would go before its bytes.
      have plain : wire ≠ .jsonb := by
        rintro rfl
        exact absurd accepted (by decide)
      rw [encode, if_neg plain, decode, readText_encode]
    | _ => nomatch has
  | bytes =>
    cases v with
    | bytes bs => rfl
    | _ => nomatch has
  | document =>
    cases v with
    | text s =>
      by_cases binary : wire = .jsonb
      · simp only [encode, decode, if_pos binary, if_true, readText_encode]
      · simp only [encode, decode, if_neg binary, readText_encode]
    | _ => nomatch has

theorem encode_inj {s : Scalar} {v w : Value} {wire : WireType} (hv : s.has v = true)
    (hw : s.has w = true) (accepted : s.accepts wire = true) (same : encode wire v = encode wire w) :
    v = w := by
  have back := decode_encode hv accepted
  rw [same, decode_encode hw accepted] at back
  exact (Except.ok.inj back).symm

theorem readText_ok {bs : List UInt8} {v : Value} (h : readText bs = .ok v) :
    ∃ s, Text.Utf8.decode bs = .ok s ∧ v = .text s := by
  simp only [readText] at h
  split at h
  · rename_i s decoded
    cases h
    exact ⟨s, decoded, rfl⟩
  · cases h

theorem readNumber_ok {count : Nat} {make : Nat → Value} {bs : List UInt8} {v : Value}
    (h : readNumber count make bs = .ok v) : ∃ n, v = make n := by
  simp only [readNumber] at h
  split at h
  · cases h
  · split at h <;> cases h
    exact ⟨_, rfl⟩

theorem decode_document_ok {wire : WireType} {bs : List UInt8} {v : Value}
    (h : Scalar.document.decode wire bs = .ok v) :
    ∃ s text, v = .text s ∧ Text.Utf8.decode text = .ok s ∧
      bs = if wire = .jsonb then documentVersion :: text else text := by
  simp only [decode] at h
  split at h
  · rename_i binary
    split at h
    · cases h
    · split at h
      · rename_i version
        obtain ⟨s, decoded, rfl⟩ := readText_ok h
        exact ⟨s, _, rfl, decoded, by rw [if_pos binary, version]⟩
      · cases h
  · rename_i plain
    obtain ⟨s, decoded, rfl⟩ := readText_ok h
    exact ⟨s, _, rfl, decoded, by rw [if_neg plain]⟩

theorem has_of_decode {s : Scalar} {wire : WireType} {bs : List UInt8} {v : Value}
    (h : s.decode wire bs = .ok v) : s.has v = true := by
  cases s with
  | int16 | int32 | int64 | double =>
    simp only [decode] at h
    obtain ⟨n, rfl⟩ := readNumber_ok h
    rfl
  | bool =>
    simp only [decode] at h
    split at h <;> cases h
    rfl
  | text =>
    simp only [decode] at h
    obtain ⟨s, -, rfl⟩ := readText_ok h
    rfl
  | bytes =>
    simp only [decode] at h
    cases h
    rfl
  | document =>
    obtain ⟨s, _, rfl, -, -⟩ := decode_document_ok h
    rfl

end Scalar

namespace HostType

theorem has_zero (t : HostType) : t.has t.zero = true := by
  obtain ⟨scalar, _ | _⟩ := t
  · cases scalar <;> rfl
  · rfl

/-- A value of a type can be sent as any column type that the type accepts, and is read back from it. -/
theorem read_bind {t : HostType} {v : Value} {wire : WireType} (has : t.has v = true)
    (accepted : t.accepts wire = true) :
    ∃ raw, t.bind wire v = .ok raw ∧ t.read wire raw = .ok v := by
  have sendable : ¬(!t.accepts wire) = true := by simp [accepted]
  by_cases null : v = .null
  · rw [HostType.has, if_pos null] at has
    refine ⟨none, by rw [bind, if_neg sendable, if_pos null], ?_⟩
    rw [read, if_pos has, null]
  · rw [HostType.has, if_neg null] at has
    refine ⟨some (Scalar.encode wire v), by rw [bind, if_neg sendable, if_neg null], ?_⟩
    rw [read, Scalar.decode_encode has accepted]

theorem has_of_read {t : HostType} {wire : WireType} {raw : Option (List UInt8)} {v : Value}
    (h : t.read wire raw = .ok v) : t.has v = true := by
  cases raw with
  | none =>
    simp only [read] at h
    split at h <;> cases h
    assumption
  | some bs =>
    simp only [read] at h
    have has := Scalar.has_of_decode h
    have filled : v ≠ .null := by
      rintro rfl
      cases scalar : t.scalar <;> simp [scalar, Scalar.has] at has
    rw [HostType.has, if_neg filled]
    exact has

theorem read_document_null {wire : WireType} {raw : Option (List UInt8)} :
    (HostType.maybe .document).read wire raw = .ok .null ↔ raw = none := by
  cases raw with
  | none => exact iff_of_true rfl rfl
  | some bs =>
    refine iff_of_false (fun h => ?_) (Option.some_ne_none bs)
    obtain ⟨_, _, same, -⟩ := Scalar.decode_document_ok h
    cases same

theorem read_document_empty {wire : WireType} {raw : Option (List UInt8)} :
    (HostType.maybe .document).read wire raw = .ok (.text "") ↔
      raw = some (Scalar.encode wire (.text "")) := by
  constructor
  · intro h
    cases raw with
    | none => cases h
    | some bs =>
      obtain ⟨s, text, same, decoded, rfl⟩ := Scalar.decode_document_ok h
      obtain rfl : "" = s := Value.text.inj same
      obtain rfl := Text.Utf8.decode_eq_empty.mp decoded
      rfl
  · rintro rfl
    by_cases binary : wire = .jsonb
    · simp only [read, maybe, Scalar.encode, Scalar.decode, if_pos binary, if_true, Scalar.readText_encode]
    · simp only [read, maybe, Scalar.encode, Scalar.decode, if_neg binary, Scalar.readText_encode]

end HostType

end RowMapper
