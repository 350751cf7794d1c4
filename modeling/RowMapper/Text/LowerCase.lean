import RowMapper.Text.CaseTable

/-!
Lower case by the Unicode rules: one letter at a time, but a capital I with a dot gives two
characters, and a capital sigma that ends a word takes its final form.
-/
namespace RowMapper.Text

def inRuns (runs : Array (Nat × Nat)) (n : Nat) : Bool :=
  runs.any fun r => r.1 ≤ n && n ≤ r.2

def lowerDistance (n : Nat) : Int :=
  match lowerRuns.find? fun r => r.1 ≤ n && n ≤ r.2.1 && (n - r.1) % r.2.2.1 == 0 with
  | some r => r.2.2.2
  | none => 0

def lowerChar (c : Char) : List Char :=
  let n := c.toNat
  if n < 128 then [c.toLower]
  else if n == 0x130 then ['i', Char.ofNat 0x307]
  else [Char.ofNat (Int.toNat (n + lowerDistance n))]

def isCased (c : Char) : Bool :=
  inRuns casedRuns c.toNat

def isCaseIgnorable (c : Char) : Bool :=
  inRuns caseIgnorableRuns c.toNat

def startsCased (cs : List Char) : Bool :=
  match cs.dropWhile isCaseIgnorable with
  | c :: _ => isCased c
  | [] => false

/-- A sigma ends a word when a letter comes before it and none after it. -/
def isWordEnd (before after : List Char) : Bool :=
  startsCased before && !startsCased after

/-- The characters in `before` are those already passed, the nearest first. -/
def lowerFrom (before : List Char) : List Char → List Char
  | [] => []
  | c :: rest =>
    (if c.toNat == 0x3A3 then
        [Char.ofNat (if isWordEnd before rest then 0x3C2 else 0x3C3)]
      else lowerChar c) ++ lowerFrom (c :: before) rest

def lower (cs : List Char) : List Char :=
  lowerFrom [] cs

def lowered (s : String) : String :=
  String.ofList (lower s.toList)

def lowerAscii (cs : List Char) : List Char :=
  cs.map Char.toLower

end RowMapper.Text
