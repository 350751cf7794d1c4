import RowMapper.Json.Document

/-!
Reading the text of a document. The reader keeps what a later step may still refuse: duplicate keys,
numbers out of range and texts with half a surrogate pair, since a member that is skipped may hold
any of them.
-/
namespace RowMapper.Json

inductive Source where
  | null
  | bool (b : Bool)
  | int (n : Int)
  | double (bits : UInt64)
  | outOfRange
  | text (s : Option String)
  | list (items : List Source)
  | dict (members : List (Option String × Source))
  deriving Inhabited, Repr

def isSpace (c : Char) : Bool :=
  c = ' ' || c = '\n' || c = '\t' || c = '\r'

def skipSpace (cs : List Char) : List Char :=
  cs.dropWhile isSpace

def hex4? : List Char → Option (Nat × List Char)
  | a :: b :: c :: d :: rest => do
    let a ← Text.hexValue? a
    let b ← Text.hexValue? b
    let c ← Text.hexValue? c
    let d ← Text.hexValue? d
    some (a * 4096 + b * 256 + c * 16 + d, rest)
  | _ => none

def isLead (n : Nat) : Bool := 0xD800 ≤ n && n ≤ 0xDBFF

def isTrail (n : Nat) : Bool := 0xDC00 ≤ n && n ≤ 0xDFFF

def simpleEscape? (c : Char) : Option Char :=
  if c = '"' || c = '\\' || c = '/' then some c
  else if c = 'b' then some (Char.ofNat 8)
  else if c = 'f' then some (Char.ofNat 12)
  else if c = 'n' then some '\n'
  else if c = 'r' then some '\r'
  else if c = 't' then some '\t'
  else none

/-- The rest of a text after its opening quote. The characters come back reversed; `whole` turns
false at half a surrogate pair. -/
def textBody : Nat → List Char → Bool → List Char → Option (Option String × List Char)
  | 0, _, _, _ => none
  | fuel + 1, acc, whole, cs =>
    match cs with
    | [] => none
    | '"' :: rest => some (if whole then some (String.ofList acc.reverse) else none, rest)
    | '\\' :: 'u' :: rest =>
      match hex4? rest with
      | none => none
      | some (n, rest) =>
        if isTrail n then textBody fuel acc false rest
        else if isLead n then
          match rest with
          | '\\' :: 'u' :: rest' =>
            match hex4? rest' with
            | none => none
            | some (m, after) =>
              if isTrail m then
                textBody fuel (Char.ofNat ((n - 0xD800) * 1024 + (m - 0xDC00) + 0x10000) :: acc)
                  whole after
              else textBody fuel acc false after
          | _ => textBody fuel acc false rest
        else textBody fuel (Char.ofNat n :: acc) whole rest
    | '\\' :: c :: rest =>
      match simpleEscape? c with
      | some d => textBody fuel (d :: acc) whole rest
      | none => none
    | c :: rest => if c.toNat < 32 then none else textBody fuel (c :: acc) whole rest

/-- The leading digits of a number that fit in 64 bits, and the power of ten that the others and the
point leave over. -/
structure Gathered where
  value : Nat
  full : Bool
  power : Int
  deriving Inhabited

def Gathered.fits (g : Gathered) (digit : Nat) : Bool :=
  !g.full && g.value * 10 + digit < Nat.pow 2 64

/-- A digit before the point: one that does not fit still counts for the power. -/
def Gathered.pushWhole (g : Gathered) (digit : Nat) : Gathered :=
  if g.fits digit then { g with value := g.value * 10 + digit }
  else { g with full := true, power := g.power + 1 }

/-- A digit behind the point: from the first that does not fit on, they are left out. -/
def Gathered.pushFraction (g : Gathered) (digit : Nat) : Gathered :=
  if g.fits digit then { g with value := g.value * 10 + digit, power := g.power - 1 }
  else { g with full := true }

def digitValue (c : Char) : Nat := c.toNat - 48

def tenTo (n : Nat) : Float :=
  Float.ofScientific 1 false n

/-- The digits, rounded to a double, are scaled by one multiplication or division; below 1e-308 by
several divisions. None when the result is not finite. -/
def scale : Nat → Float → Int → Option Float
  | 0, f, _ => some f
  | fuel + 1, f, e =>
    if e.natAbs ≤ 308 then
      if 0 ≤ e then
        let g := f * tenTo e.natAbs
        if g.isInf then none else some g
      else some (f / tenTo e.natAbs)
    else if f == 0.0 then some f
    else if 0 ≤ e then none
    else scale fuel (f / tenTo 308) (e + 308)

def doubleOf (negative : Bool) (digits : Nat) (e : Int) : Source :=
  match scale (e.natAbs / 308 + 2) digits.toFloat e with
  | none => .outOfRange
  | some f => .double (if negative then -f else f).toBits

def fractionPart (cs : List Char) : Option (Option (List Char) × List Char) :=
  match cs with
  | '.' :: rest =>
    let digits := rest.takeWhile Char.isDigit
    if digits.isEmpty then none else some (some digits, rest.drop digits.length)
  | rest => some (none, rest)

def signPart (cs : List Char) : Bool × List Char :=
  match cs with
  | '+' :: rest => (false, rest)
  | '-' :: rest => (true, rest)
  | rest => (false, rest)

def exponentPart (cs : List Char) : Option (Option Int × List Char) :=
  match cs with
  | c :: rest =>
    if c = 'e' || c = 'E' then
      let (negative, rest) := signPart rest
      let digits := rest.takeWhile Char.isDigit
      if digits.isEmpty then none
      else
        let n : Int := digits.foldl (fun n d => n * 10 + digitValue d) 0
        some (some (if negative then -n else n), rest.drop digits.length)
    else some (none, cs)
  | [] => some (none, [])

/-- A whole number in the range of 64 bits stays one; minus zero and all others are doubles. -/
def wholeNumber (negative : Bool) (g : Gathered) : Source :=
  if g.full then doubleOf negative g.value g.power
  else if !negative then .int g.value
  else if g.value = 0 || g.value > Nat.pow 2 63 then doubleOf true g.value 0
  else .int (-(g.value : Int))

def numberBody (negative : Bool) (cs : List Char) : Option (Source × List Char) :=
  let whole := cs.takeWhile Char.isDigit
  if whole.isEmpty || (whole.length > 1 && whole.head? == some '0') then none
  else
    let g := whole.foldl (fun g d => g.pushWhole (digitValue d)) ⟨0, false, 0⟩
    match fractionPart (cs.drop whole.length) with
    | none => none
    | some (fraction, rest) =>
      match exponentPart rest with
      | none => none
      | some (e, rest) =>
        match fraction, e with
        | none, none => some (wholeNumber negative g, rest)
        | _, _ =>
          let g := (fraction.getD []).foldl (fun g d => g.pushFraction (digitValue d))
            { g with full := false }
          some (doubleOf negative g.value (g.power + e.getD 0), rest)

mutual
/-- One value; the fuel bounds the nesting and the count of members together. -/
def value : Nat → List Char → Option (Source × List Char)
  | 0, _ => none
  | fuel + 1, cs =>
    match skipSpace cs with
    | 'n' :: 'u' :: 'l' :: 'l' :: rest => some (.null, rest)
    | 't' :: 'r' :: 'u' :: 'e' :: rest => some (.bool true, rest)
    | 'f' :: 'a' :: 'l' :: 's' :: 'e' :: rest => some (.bool false, rest)
    | '"' :: rest =>
      (textBody (rest.length + 1) [] true rest).map fun (s, rest) => (.text s, rest)
    | '-' :: rest => numberBody true rest
    | '[' :: rest =>
      match skipSpace rest with
      | ']' :: rest => some (.list [], rest)
      | _ => (items fuel rest).map fun (xs, rest) => (.list xs, rest)
    | '\x7b' :: rest =>
      match skipSpace rest with
      | '\x7d' :: rest => some (.dict [], rest)
      | _ => (members fuel rest).map fun (xs, rest) => (.dict xs, rest)
    | c :: rest => if c.isDigit then numberBody false (c :: rest) else none
    | [] => none

def items : Nat → List Char → Option (List Source × List Char)
  | 0, _ => none
  | fuel + 1, cs =>
    match value fuel cs with
    | none => none
    | some (x, rest) =>
      match skipSpace rest with
      | ',' :: rest => (items fuel rest).map fun (xs, rest) => (x :: xs, rest)
      | ']' :: rest => some ([x], rest)
      | _ => none

def members : Nat → List Char → Option (List (Option String × Source) × List Char)
  | 0, _ => none
  | fuel + 1, cs =>
    match skipSpace cs with
    | '"' :: rest =>
      match textBody (rest.length + 1) [] true rest with
      | none => none
      | some (k, rest) =>
        match skipSpace rest with
        | ':' :: rest =>
          match value fuel rest with
          | none => none
          | some (x, rest) =>
            match skipSpace rest with
            | ',' :: rest => (members fuel rest).map fun (xs, rest) => ((k, x) :: xs, rest)
            | '\x7d' :: rest => some ([(k, x)], rest)
            | _ => none
        | _ => none
    | _ => none
end

def Source.read (s : String) : Option Source :=
  let cs := s.toList
  match value (cs.length + 1) cs with
  | some (x, rest) => if (skipSpace rest).isEmpty then some x else none
  | none => none

def maxDepth : Nat := 127

mutual
def Source.document? : Nat → Source → Option Document
  | _, .null => some .null
  | _, .bool b => some (.bool b)
  | _, .int n => some (.int n)
  | _, .double bits => some (.double bits)
  | _, .outOfRange => none
  | _, .text s => s.map .text
  | 0, .list _ => none
  | 0, .dict _ => none
  | depth + 1, .list xs => (Source.documents? depth xs).map .list
  | depth + 1, .dict ms => (Source.entries? depth ms).map fun ms => .dict (orderByKey ms)

def Source.documents? : Nat → List Source → Option (List Document)
  | _, [] => some []
  | depth, x :: xs => do
    let d ← Source.document? depth x
    let ds ← Source.documents? depth xs
    some (d :: ds)

def Source.entries? : Nat → List (Option String × Source) → Option (List (String × Document))
  | _, [] => some []
  | depth, (k, x) :: rest => do
    let k ← k
    let d ← Source.document? depth x
    let ds ← Source.entries? depth rest
    some ((k, d) :: ds)
end

def Document.read (s : String) : Option Document :=
  (Source.read s).bind (Source.document? maxDepth)

mutual
/-- A document as a source for another reader, which refuses a value that could not be written. -/
def Document.source : Document → Source
  | .null => .null
  | .bool b => .bool b
  | .int n => .int n
  | .double bits => .double bits
  | .text s => .text (some s)
  | .list items => .list (Document.sources items)
  | .dict members => .dict (Document.entries members)
  | .failing _ => .outOfRange

def Document.sources : List Document → List Source
  | [] => []
  | d :: rest => Document.source d :: Document.sources rest

def Document.entries : List (String × Document) → List (Option String × Source)
  | [] => []
  | (k, d) :: rest => (some k, Document.source d) :: Document.entries rest
end

end RowMapper.Json
