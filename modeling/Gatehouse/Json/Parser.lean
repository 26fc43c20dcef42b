import Gatehouse.Json.Basic
import Gatehouse.Text.Digits
import Gatehouse.Text.Reader

namespace Gatehouse

namespace Json

def maxDepth : Nat := 127

def isSpace (c : Char) : Bool := c == ' ' || c == '\n' || c == '\t' || c == '\r'

def skipSpace (cs : List Char) : List Char := cs.dropWhile isSpace

def unit? (a b c d : Char) : Option Nat :=
  if isHex a && isHex b && isHex c && isHex d then numberIn? 16 [a, b, c, d] else none

def isHighSurrogate (n : Nat) : Bool := 0xD800 ≤ n && n < 0xDC00

def isLowSurrogate (n : Nat) : Bool := 0xDC00 ≤ n && n < 0xE000

/-- The character that one-letter escapes stand for. -/
def escaped? : Char → Option Char
  | '"' => some '"'
  | '\\' => some '\\'
  | '/' => some '/'
  | 'b' => some '\x08'
  | 'f' => some '\x0c'
  | 'n' => some '\n'
  | 'r' => some '\r'
  | 't' => some '\t'
  | _ => none

/-- The characters of a string up to its closing quote. Surrogates count only in pairs. -/
def stringBody : Reader (List Char) := go []
where
  /-- Reads on, with the characters before in reverse. -/
  go (before : List Char) : Reader (List Char)
    | '\\' :: 'u' :: a :: b :: c :: d :: rest =>
      match unit? a b c d with
      | none => none
      | some high =>
        if isHighSurrogate high then
          match rest with
          | '\\' :: 'u' :: e :: f :: g :: h :: more =>
            match unit? e f g h with
            | none => none
            | some low =>
              if isLowSurrogate low then
                go (Char.ofNat (0x10000 + (high - 0xD800) * 0x400 + (low - 0xDC00)) :: before) more
              else none
          | _ => none
        else if isLowSurrogate high then none
        else go (Char.ofNat high :: before) rest
    | '\\' :: e :: rest =>
      match escaped? e with
      | none => none
      | some c => go (c :: before) rest
    | '"' :: rest => some (before.reverse, rest)
    | c :: rest => if c.toNat < 0x20 || c == '\\' then none else go (c :: before) rest
    | [] => none

/-- The parts of a number as they are written. -/
structure Numeral where
  negative : Bool
  integer : List Char
  fraction : List Char
  /-- The sign and the digits behind the exponent mark. -/
  exponent : Option (Bool × List Char)

def digits : Reader (List Char) := fun cs =>
  let run := cs.takeWhile isDecimal
  if run.isEmpty then none else some (run, cs.dropWhile isDecimal)

def fractionPart : Reader (List Char)
  | '.' :: rest => digits rest
  | cs => some ([], cs)

def exponentPart : Reader (Option (Bool × List Char)) := fun cs =>
  match cs with
  | mark :: rest =>
    if mark = 'e' ∨ mark = 'E' then do
      let (negative, rest) := match rest with
        | '+' :: more => (false, more)
        | '-' :: more => (true, more)
        | more => (false, more)
      let (run, rest) ← digits rest
      return (some (negative, run), rest)
    else some (none, cs)
  | [] => some (none, [])

/-- The parts of a number; no leading zero stands before another digit. -/
def numeral : Reader Numeral := fun cs => do
  let (negative, cs) := match cs with
    | '-' :: rest => (true, rest)
    | cs => (false, cs)
  let (integer, cs) ← digits cs
  if integer.head? = some '0' && integer.length ≠ 1 then none
  let (fraction, cs) ← fractionPart cs
  let (exponent, cs) ← exponentPart cs
  return ({ negative, integer, fraction, exponent }, cs)

/-- The significand that digits build up before it would leave a 64-bit word, and what is left. -/
def accumulate : Nat → List Char → Nat × List Char
  | n, [] => (n, [])
  | n, c :: rest =>
    let next := n * 10 + (c.toNat - '0'.toNat)
    if next < UInt64.size then accumulate next rest else (n, c :: rest)

/-- The greatest exponent that is counted; greater ones are not told apart. -/
def maxExponent : Nat := 2147483647

/--
The number that a numeral with a fraction, an exponent or too many digits is read as. Digits that
do not fit the significand count as zeros.
-/
def floatOf? (x : Numeral) : Option Binary64 := do
  let (significand, extra) := accumulate 0 x.integer
  let (significand, unread) := accumulate significand x.fraction
  let start : Int := (extra.length : Int) - ((x.fraction.length - unread.length : Nat) : Int)
  match x.exponent with
  | none => return ⟨x.negative, ← Magnitude.ofDecimal? significand start⟩
  | some (down, run) =>
    let n := (numberIn? 10 run).getD 0
    if maxExponent < n then
      if significand = 0 || down then some ⟨x.negative, .zero⟩ else none
    else
      let shift : Int := if down then -n else n
      return ⟨x.negative, ← Magnitude.ofDecimal? significand (start + shift)⟩

/-- Whole numbers from `-2 ^ 63` to `2 ^ 64 - 1` keep their value, except that minus zero is a
float. -/
def ofNumeral? (x : Numeral) : Option Json :=
  let n := (numberIn? 10 x.integer).getD 0
  if x.fraction.isEmpty && x.exponent.isNone &&
      (if x.negative then 0 < n && Int64.minValue.toInt ≤ -(n : Int) else n < UInt64.size) then
    some (.whole (if x.negative then -n else n))
  else (floatOf? x).map .float

/-- A word that stands for one value. -/
def word? (spelling : String) (value : Json) : Reader Json := fun cs =>
  let letters := spelling.toList
  if letters.isPrefixOf cs then some (value, cs.drop letters.length) else none

/-- What follows one character, with blanks before it allowed. -/
def expect? (c : Char) (cs : List Char) : Option (List Char) :=
  match skipSpace cs with
  | d :: rest => if c = d then some rest else none
  | [] => none

/--
Members separated by commas up to `close`, at least one, behind those in `before`, which stand in
reverse; `fuel` bounds how many.
-/
def sequence {α : Type} (member : Reader α) (close : Char) (before : List α) :
    Nat → Reader (List α)
  | 0, _ => none
  | fuel + 1, cs =>
    match member cs with
    | none => none
    | some (x, cs) =>
      match skipSpace cs with
      | c :: rest =>
        if c = close then some ((x :: before).reverse, rest)
        else if c = ',' then sequence member close (x :: before) fuel rest
        else none
      | [] => none

/-- The members of a container behind its opening bracket. -/
def container {α : Type} (member : Reader α) (close : Char) : Reader (List α) := fun cs =>
  match expect? close cs with
  | some rest => some ([], rest)
  | none => sequence member close [] cs.length cs

/-- A name, a colon and what `value` reads. -/
def binding (value : Reader Json) : Reader (String × Json) := fun cs => do
  let cs ← expect? '"' cs
  let (name, cs) ← stringBody cs
  let cs ← expect? ':' cs
  let (held, cs) ← value cs
  return ((String.ofList name, held), cs)

/-- A value, with blanks before it allowed, whose containers are nested at most `depth` deep. -/
def value : Nat → Reader Json
  | depth, cs =>
    match skipSpace cs with
    | '"' :: rest => (stringBody rest).map fun (text, rest) => (.string (String.ofList text), rest)
    | '[' :: rest =>
      match depth with
      | 0 => none
      | d + 1 => (container (value d) ']' rest).map fun (xs, rest) => (.array xs, rest)
    | '{' :: rest =>
      match depth with
      | 0 => none
      | d + 1 => (container (binding (value d)) '}' rest).map fun (members, rest) =>
          (.object (Members.ofList members), rest)
    | 'n' :: rest => word? "ull" .null rest
    | 't' :: rest => word? "rue" (.bool true) rest
    | 'f' :: rest => word? "alse" (.bool false) rest
    | cs => (numeral cs).bind fun (x, rest) => (ofNumeral? x).map (·, rest)

def ofChars? (cs : List Char) : Option Json :=
  (value maxDepth cs).bind fun (v, rest) => if (skipSpace rest).isEmpty then some v else none

def ofBytes? (bytes : ByteArray) : Option Json :=
  (String.fromUTF8? bytes).bind fun text => ofChars? text.toList

/-- The members, when the octets are the text of an object. -/
def objectOfBytes? (bytes : ByteArray) : Option Members :=
  match ofBytes? bytes with
  | some (.object members) => some members
  | _ => none

end Json

end Gatehouse
