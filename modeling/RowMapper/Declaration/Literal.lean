import RowMapper.Declaration.Token
import RowMapper.Text.Hex
import RowMapper.Text.Search

/-!
Literals at the front of a text: texts with escapes, raw texts, characters and numbers. Each reader
gives what follows the literal.
-/
namespace RowMapper.Declaration.Literal

/-! ### Characters of a text -/

/-- Up to six hexadecimal digits and the closing brace; low lines between them do not count. -/
def codePoint? (value count : Nat) : List Char → Option (Char × List Char)
  | [] => none
  | c :: rest =>
    if c = '}' then
      if count = 0 || !Nat.isValidChar value then none else some (Char.ofNat value, rest)
    else if c = '_' then if count = 0 then none else codePoint? value count rest
    else match Text.hexValue? c with
      | some d => if count = 6 then none else codePoint? (16 * value + d) (count + 1) rest
      | none => none

inductive Content where
  /-- Characters; an escape of two digits is ASCII. -/
  | characters
  /-- Bytes; what is not escaped is ASCII. -/
  | bytes
  /-- Characters or bytes, but not zero. -/
  | terminated
  deriving DecidableEq, Repr, Inhabited

namespace Content

def allows : Content → Char → Bool
  | .characters, _ => true
  | .bytes, c => c.toNat < 128
  | .terminated, c => c.toNat ≠ 0

def allowsEscape : Content → Nat → Bool
  | .characters, value => value < 128
  | .bytes, _ => true
  | .terminated, value => value ≠ 0

end Content

def escape? (content : Content) : List Char → Option (Char × List Char)
  | 'n' :: rest => some ('\n', rest)
  | 'r' :: rest => some ('\r', rest)
  | 't' :: rest => some ('\t', rest)
  | '0' :: rest => if content.allowsEscape 0 then some (Char.ofNat 0, rest) else none
  | '\\' :: rest => some ('\\', rest)
  | '\'' :: rest => some ('\'', rest)
  | '"' :: rest => some ('"', rest)
  | 'x' :: a :: b :: rest =>
    match Text.hexValue? a, Text.hexValue? b with
    | some a, some b =>
      if content.allowsEscape (16 * a + b) then some (Char.ofNat (16 * a + b), rest) else none
    | _, _ => none
  | 'u' :: c :: rest =>
    if c = '{' && content ≠ .bytes then
      (codePoint? 0 0 rest).filter fun (c, _) => content.allows c
    else none
  | _ => none

/-- A line that ends in a backslash goes on at the first character that is not blank. -/
def afterBreak? : List Char → Option (List Char)
  | [] => none
  | '\r' :: '\n' :: rest => afterBreak? rest
  | c :: rest =>
    if c = '\r' then none
    else if c = ' ' || c = '\t' || c = '\n' then afterBreak? rest
    else some (c :: rest)

/-- The characters up to the closing quote. The bound is on their number. -/
def quoted? (content : Content) : Nat → List Char → Option (List Char × List Char)
  | 0, _ => none
  | _, [] => none
  | n + 1, '\\' :: rest =>
    match rest with
    | '\r' :: '\n' :: more => (afterBreak? more).bind (quoted? content n)
    | '\n' :: more => (afterBreak? more).bind (quoted? content n)
    | _ =>
      match escape? content rest with
      | some (c, more) => (quoted? content n more).map fun (cs, rest) => (c :: cs, rest)
      | none => none
  | n + 1, '\r' :: '\n' :: rest => (quoted? content n rest).map fun (cs, rest) => ('\n' :: cs, rest)
  | n + 1, c :: rest =>
    if c = '"' then some ([], rest)
    else if c = '\r' || !content.allows c then none
    else (quoted? content n rest).map fun (cs, rest) => (c :: cs, rest)

/-- The characters up to a quote with as many hashes behind it as stand before the text. -/
def rawEnd? (content : Content) (hashes : List Char) : List Char → Option (List Char × List Char)
  | [] => none
  | '\r' :: '\n' :: rest => (rawEnd? content hashes rest).map fun (cs, rest) => ('\r' :: '\n' :: cs, rest)
  | c :: rest =>
    if c = '"' && hashes.isPrefixOf rest then some ([], rest.drop hashes.length)
    else if c = '\r' || !content.allows c then none
    else (rawEnd? content hashes rest).map fun (cs, rest) => (c :: cs, rest)

def rawQuoted? (content : Content) (cs : List Char) : Option (List Char × List Char) :=
  let hashes := cs.takeWhile (· = '#')
  match cs.dropWhile (· = '#') with
  | '"' :: rest => if hashes.length > 255 then none else rawEnd? content hashes rest
  | _ => none

def character? (content : Content) : List Char → Option (List Char)
  | '\'' :: '\\' :: rest =>
    match escape? content rest with
    | some (_, '\'' :: rest) => some rest
    | _ => none
  | '\'' :: c :: '\'' :: rest => if content.allows c then some rest else none
  | _ => none

/-! ### Numbers -/

def afterWord : List Char → List Char
  | [] => []
  | c :: rest => if isWordStart c then rest.dropWhile isWordRest else c :: rest

/-- A number and its suffix end where no word goes on. -/
def numberEnd? (cs : List Char) : Option (List Char) :=
  match afterWord cs with
  | [] => some []
  | c :: rest => if isWordRest c then none else some (c :: rest)

/-- The digits of an exponent, with a sign in front at most once. -/
def exponent? (signed found : Bool) : List Char → Option (List Char)
  | [] => if found then some [] else none
  | c :: rest =>
    if c = '_' then exponent? signed found rest
    else if c.isDigit then exponent? signed true rest
    else if found then some (c :: rest)
    else if (c = '+' || c = '-') && !signed then exponent? true false rest
    else none

def isDigitOrLine (c : Char) : Bool := c.isDigit || c == '_'

/-- A number with a point or an exponent. Two points, and a point before a word, are none. -/
def fraction? (cs : List Char) : Option (List Char) :=
  match cs with
  | [] => none
  | d :: rest =>
    if !d.isDigit then none
    else match rest.dropWhile isDigitOrLine with
      | '.' :: rest =>
        if (rest.head?.map fun c => c == '.' || isWordStart c).getD false then none
        else match rest.dropWhile isDigitOrLine with
          | [] => some []
          | c :: rest =>
            if c = 'e' || c = 'E' then some ((exponent? false false rest).getD (c :: rest))
            else some (c :: rest)
      | c :: rest => if c = 'e' || c = 'E' then exponent? false false rest else none
      | [] => none

def whole? (base : Nat) (found : Bool) : List Char → Option (List Char)
  | [] => if found then some [] else none
  | c :: rest =>
    if c = '_' then if !found && base = 10 then none else whole? base found rest
    else match Text.hexValue? c with
      | some d =>
        if d < base then whole? base true rest
        else if c.isDigit then none
        else if found then some (c :: rest) else none
      | none => if found then some (c :: rest) else none

def number? (cs : List Char) : Option (List Char) :=
  match (fraction? cs).bind numberEnd? with
  | some rest => some rest
  | none =>
    let digits := match cs with
      | '0' :: 'x' :: rest => whole? 16 false rest
      | '0' :: 'o' :: rest => whole? 8 false rest
      | '0' :: 'b' :: rest => whole? 2 false rest
      | cs => whole? 10 false cs
    digits.bind numberEnd?

/-! ### All literals -/

def spellingBefore (cs rest : List Char) : String :=
  String.ofList (cs.take (cs.length - rest.length))

def textToken (cs : List Char) (found : List Char × List Char) : Token × List Char :=
  let rest := afterWord found.2
  (.text (String.ofList found.1) (spellingBefore cs rest), rest)

def otherToken (cs rest : List Char) : Token × List Char :=
  (.literal (spellingBefore cs rest), rest)

def read? (cs : List Char) : Option (Token × List Char) :=
  let other := fun (rest : Option (List Char)) => rest.map fun rest => otherToken cs (afterWord rest)
  let quoted := fun (content : Content) (rest : List Char) => quoted? content (rest.length + 1) rest
  match cs with
  | '"' :: rest => (quoted .characters rest).map (textToken cs)
  | 'b' :: '"' :: rest => other ((quoted .bytes rest).map (·.2))
  | 'c' :: '"' :: rest => other ((quoted .terminated rest).map (·.2))
  | 'b' :: '\'' :: rest => other (character? .bytes ('\'' :: rest))
  | 'b' :: 'r' :: rest => other ((rawQuoted? .bytes rest).map (·.2))
  | 'c' :: 'r' :: rest => other ((rawQuoted? .terminated rest).map (·.2))
  | 'r' :: rest => (rawQuoted? .characters rest).map (textToken cs)
  | '\'' :: rest => other (character? .characters ('\'' :: rest))
  | cs => (number? cs).map (otherToken cs)

/-! ### Indices -/

/-- The value of digits; low lines between them do not count. -/
def digitsValue? (base : Nat) (value : Nat) (found : Bool) : List Char → Option Nat
  | [] => if found then some value else none
  | c :: rest =>
    if c = '_' then digitsValue? base value found rest
    else match Text.hexValue? c with
      | some d => if d < base then digitsValue? base (base * value + d) true rest else none
      | none => none

def index? (spelling : String) : Option Nat :=
  let value := match spelling.toList with
    | '0' :: 'x' :: rest => digitsValue? 16 0 false rest
    | '0' :: 'o' :: rest => digitsValue? 8 0 false rest
    | '0' :: 'b' :: rest => digitsValue? 2 0 false rest
    | cs => if (cs.head?.map Char.isDigit).getD false then digitsValue? 10 0 false cs else none
  value.filter (· < 4294967296)

/-- The indices that a number with a point is, and whether nothing stands behind the point. -/
def indices? (spelling : String) : Option (List Nat × Bool) :=
  match Text.splitAt '.' spelling.toList with
  | [a, b] =>
    match index? (String.ofList a) with
    | none => none
    | some first =>
      if b.isEmpty then some ([first], true)
      else (index? (String.ofList b)).map fun second => ([first, second], false)
  | _ => none

end RowMapper.Declaration.Literal
