/-!
Reading UTF-8. The failure says where the first character that cannot be read starts, and how many
bytes are certainly wrong there: none when the text only ends too early.
-/
namespace RowMapper.Text.Utf8

/-- The first unreadable place: its index, and the length of the wrong sequence unless the bytes
merely stop in the middle of a character. -/
structure Fault where
  index : Nat
  wrong : Option Nat
  deriving DecidableEq, Repr, Inhabited

def Fault.message (f : Fault) : String :=
  match f.wrong with
  | some n => "invalid utf-8 sequence of " ++ toString n ++ " bytes from index " ++ toString f.index
  | none => "incomplete utf-8 byte sequence from index " ++ toString f.index

def isTail (b : UInt8) : Bool :=
  0x80 ≤ b && b ≤ 0xBF

def secondFits (lead second : UInt8) : Bool :=
  if lead = 0xE0 then 0xA0 ≤ second && second ≤ 0xBF
  else if lead = 0xED then 0x80 ≤ second && second ≤ 0x9F
  else if lead = 0xF0 then 0x90 ≤ second && second ≤ 0xBF
  else if lead = 0xF4 then 0x80 ≤ second && second ≤ 0x8F
  else isTail second

def width (lead : UInt8) : Option Nat :=
  if lead < 0x80 then some 1
  else if 0xC2 ≤ lead && lead ≤ 0xDF then some 2
  else if 0xE0 ≤ lead && lead ≤ 0xEF then some 3
  else if 0xF0 ≤ lead && lead ≤ 0xF4 then some 4
  else none

def tailBits (b : UInt8) : Nat :=
  b.toNat % 64

/-- The characters of a byte list that starts at position `index` of a longer one. -/
def decodeFrom (index : Nat) : List UInt8 → Except Fault (List Char)
  | [] => .ok []
  | a :: rest =>
    match width a with
    | none => .error ⟨index, some 1⟩
    | some 1 => (decodeFrom (index + 1) rest).map (Char.ofNat a.toNat :: ·)
    | some 2 =>
      match rest with
      | [] => .error ⟨index, none⟩
      | b :: rest =>
        if !isTail b then .error ⟨index, some 1⟩
        else (decodeFrom (index + 2) rest).map
          (Char.ofNat (a.toNat % 32 * 64 + tailBits b) :: ·)
    | some 3 =>
      match rest with
      | [] => .error ⟨index, none⟩
      | b :: rest =>
        if !secondFits a b then .error ⟨index, some 1⟩
        else match rest with
          | [] => .error ⟨index, none⟩
          | c :: rest =>
            if !isTail c then .error ⟨index, some 2⟩
            else (decodeFrom (index + 3) rest).map
              (Char.ofNat (a.toNat % 16 * 4096 + tailBits b * 64 + tailBits c) :: ·)
    | some _ =>
      match rest with
      | [] => .error ⟨index, none⟩
      | b :: rest =>
        if !secondFits a b then .error ⟨index, some 1⟩
        else match rest with
          | [] => .error ⟨index, none⟩
          | c :: rest =>
            if !isTail c then .error ⟨index, some 2⟩
            else match rest with
              | [] => .error ⟨index, none⟩
              | d :: rest =>
                if !isTail d then .error ⟨index, some 3⟩
                else (decodeFrom (index + 4) rest).map
                  (Char.ofNat (a.toNat % 8 * 262144 + tailBits b * 4096 + tailBits c * 64 +
                    tailBits d) :: ·)

def decode (bytes : List UInt8) : Except Fault String :=
  (decodeFrom 0 bytes).map String.ofList

def encode (s : String) : List UInt8 :=
  s.toList.flatMap String.utf8EncodeChar

end RowMapper.Text.Utf8
