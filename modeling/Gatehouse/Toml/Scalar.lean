import Gatehouse.Config.Datum
import Gatehouse.Decimal.Binary64
import Gatehouse.Text.Digits
import Gatehouse.Text.Reader

namespace Gatehouse.Toml

def isSpace (c : Char) : Bool := c == ' ' || c == '\t'

def skipSpace (cs : List Char) : List Char := cs.dropWhile isSpace

/-- What follows a line end. -/
def newline? : List Char → Option (List Char)
  | '\n' :: rest => some rest
  | '\r' :: '\n' :: rest => some rest
  | _ => none

/-- Characters of comments and literal texts: tab and everything that is no control character. -/
def isPlain (c : Char) : Bool := c == '\t' || (0x20 ≤ c.toNat && c.toNat != 0x7F)

def scalar? (digits : List Char) : Option Char := do
  if !digits.all isHex then none
  let n ← numberIn? 16 digits
  if h : n.isValidChar then some (Char.ofNatAux n h) else none

def escaped? : Char → Option Char
  | 'b' => some '\x08'
  | 't' => some '\t'
  | 'n' => some '\n'
  | 'f' => some '\x0c'
  | 'r' => some '\r'
  | '"' => some '"'
  | '\\' => some '\\'
  | _ => none

/-- What a backslash and the characters behind it stand for. -/
def escape : Reader Char
  | 'u' :: a :: b :: c :: d :: rest => (scalar? [a, b, c, d]).map (·, rest)
  | 'U' :: a :: b :: c :: d :: e :: f :: g :: h :: rest =>
    (scalar? [a, b, c, d, e, f, g, h]).map (·, rest)
  | e :: rest => (escaped? e).map (·, rest)
  | [] => none

/-- The rest of a text on one line in double quotes. -/
def basic (before : List Char) : Nat → Reader (List Char)
  | 0, _ => none
  | fuel + 1, cs =>
    match cs with
    | '"' :: rest => some (before.reverse, rest)
    | '\\' :: rest => (escape rest).bind fun (c, rest) => basic (c :: before) fuel rest
    | c :: rest => if isPlain c then basic (c :: before) fuel rest else none
    | [] => none

/-- The rest of a text on one line in single quotes, which has no escapes. -/
def literal : Reader (List Char) := fun cs =>
  let run := cs.takeWhile fun c => isPlain c && c != '\''
  match cs.drop run.length with
  | '\'' :: rest => some (run, rest)
  | _ => none

/-- Everything up to the next character that is neither blank nor line end. -/
def skipLines : List Char → List Char
  | '\r' :: '\n' :: rest => skipLines rest
  | c :: rest => if isSpace c || c == '\n' then skipLines rest else c :: rest
  | [] => []

/--
The rest of a text over several lines. Up to two quotes may stand before the three that close it;
only texts in double quotes have escapes, and a backslash at a line's end joins the lines.
-/
def lines (quote : Char) (before : List Char) : Nat → Reader (List Char)
  | 0, _ => none
  | fuel + 1, cs =>
    match cs with
    | [] => none
    | c :: rest =>
      if c = quote then
        let run := cs.takeWhile (· == quote)
        if 5 < run.length then none
        else if 3 ≤ run.length then
          some ((run.drop 3 ++ before).reverse, cs.drop run.length)
        else lines quote (run ++ before) fuel (cs.drop run.length)
      else match newline? cs with
        | some rest => lines quote ('\n' :: before) fuel rest
        | none =>
          if c = '\\' ∧ quote = '"' then
            match newline? (skipSpace rest) with
            | some rest => lines quote before fuel (skipLines rest)
            | none => (escape rest).bind fun (c, rest) => lines quote (c :: before) fuel rest
          else if isPlain c then lines quote (c :: before) fuel rest
          else none

/-- A text behind its three opening quotes; a line end right there does not count. -/
def multiline (quote : Char) : Reader (List Char) := fun cs =>
  lines quote [] (cs.length + 1) ((newline? cs).getD cs)

def text : Reader String := fun cs =>
  let contents := match cs with
    | '"' :: '"' :: '"' :: rest => multiline '"' rest
    | '\'' :: '\'' :: '\'' :: rest => multiline '\'' rest
    | '"' :: rest => basic [] (rest.length + 1) rest
    | '\'' :: rest => literal rest
    | _ => none
  contents.map fun (cs, rest) => (String.ofList cs, rest)

/-- Digits with single underscores between them; the underscores are dropped. -/
def digitRun (isDigit : Char → Bool) : Reader (List Char)
  | [] => none
  | c :: rest => if isDigit c then some (more [c] rest) else none
where
  /-- The digits read so far, in reverse, and those that follow. -/
  more (before : List Char) : List Char → List Char × List Char
    | '_' :: d :: rest =>
      if isDigit d then more (d :: before) rest else (before.reverse, '_' :: d :: rest)
    | c :: rest => if isDigit c then more (c :: before) rest else (before.reverse, c :: rest)
    | [] => (before.reverse, [])

def sign : List Char → Bool × List Char
  | '-' :: rest => (true, rest)
  | '+' :: rest => (false, rest)
  | cs => (false, cs)

/-- Digits of a decimal number: no zero stands before another digit. -/
def decimalRun : Reader (List Char)
  | '0' :: rest => some (['0'], rest)
  | cs => digitRun isDecimal cs

/-- A number that a signed 64-bit word holds. -/
def word? (n : Int) : Option Int :=
  if Int64.minValue.toInt ≤ n ∧ n ≤ Int64.maxValue.toInt then some n else none

def wholeIn (base : Nat) : Reader Int := fun cs => do
  let (run, rest) ← digitRun (isDigitIn base) cs
  let n ← numberIn? base run
  return (← word? n, rest)

def whole : Reader Int
  | '0' :: 'x' :: rest => wholeIn 16 rest
  | '0' :: 'o' :: rest => wholeIn 8 rest
  | '0' :: 'b' :: rest => wholeIn 2 rest
  | cs => do
    let (negative, cs) := sign cs
    let (run, rest) ← decimalRun cs
    let n ← numberIn? 10 run
    return (← word? (if negative then -n else n), rest)

/-- The exponent behind its mark; without a mark there is none and it counts as zero. -/
def exponent : Reader (Option Int) := fun cs =>
  match cs with
  | mark :: rest =>
    if mark = 'e' ∨ mark = 'E' then do
      let (negative, rest) := sign rest
      let (run, rest) ← digitRun isDecimal rest
      let n ← numberIn? 10 run
      return (some (if negative then -n else n), rest)
    else some (none, cs)
  | [] => some (none, [])

/-- Whether a decimal number lies beyond the greatest one that can be held. -/
def isBeyondRange (digits : List Char) (exponent : Int) : Bool :=
  let digits := digits.dropWhile (· == '0')
  let place : Int := digits.length + exponent
  if digits.isEmpty || place ≤ 308 then false
  else if 309 < place then true
  else match numberIn? 10 digits with
    | some n =>
      (Magnitude.nearest? (n * Nat.pow 10 exponent.toNat) (Nat.pow 10 (-exponent).toNat)).isNone
    | none => false

/-- A number with a fraction or an exponent. One that is too great is refused, unless negative. -/
def fraction : Reader Unit := fun cs => do
  let (negative, cs) := sign cs
  let (front, cs) ← decimalRun cs
  let (back, cs) ← match cs with
    | '.' :: rest => digitRun isDecimal rest
    | cs => some ([], cs)
  let (e, cs) ← exponent cs
  if back.isEmpty && e.isNone then none
  else if !negative && isBeyondRange (front ++ back) (e.getD 0 - back.length) then none
  else some ((), cs)

/-- The values that are no numbers or lie beyond all numbers. -/
def special : Reader Unit := fun cs =>
  match (sign cs).2 with
  | 'i' :: 'n' :: 'f' :: rest => some ((), rest)
  | 'n' :: 'a' :: 'n' :: rest => some ((), rest)
  | _ => none

/-- A number of exactly `width` digits within a range. -/
def field (width low high : Nat) : Reader Nat := fun cs => do
  let n ← numberIn? 10 (cs.take width)
  if (cs.take width).length = width && (cs.take width).all isDecimal && low ≤ n && n ≤ high then
    some (n, cs.drop width)
  else none

def mark (c : Char) : Reader Unit
  | d :: rest => if c = d then some ((), rest) else none
  | [] => none

def monthDays (year month : Nat) : Nat :=
  if month = 2 then
    if year % 4 = 0 ∧ (year % 100 ≠ 0 ∨ year % 400 = 0) then 29 else 28
  else if month = 4 ∨ month = 6 ∨ month = 9 ∨ month = 11 then 30
  else 31

def date : Reader Unit := fun cs => do
  let (year, cs) ← field 4 0 9999 cs
  let ((), cs) ← mark '-' cs
  let (month, cs) ← field 2 1 12 cs
  let ((), cs) ← mark '-' cs
  let (_, cs) ← field 2 1 (monthDays year month) cs
  return ((), cs)

def time : Reader Unit := fun cs => do
  let (_, cs) ← field 2 0 23 cs
  let ((), cs) ← mark ':' cs
  let (_, cs) ← field 2 0 59 cs
  let ((), cs) ← mark ':' cs
  let (_, cs) ← field 2 0 60 cs
  match cs with
  | '.' :: rest =>
    let run := rest.takeWhile isDecimal
    if run.isEmpty then none else some ((), rest.drop run.length)
  | cs => some ((), cs)

def offset : Reader Unit
  | 'Z' :: rest | 'z' :: rest => some ((), rest)
  | '+' :: rest | '-' :: rest => do
    let (_, cs) ← field 2 0 23 rest
    let ((), cs) ← mark ':' cs
    let (_, cs) ← field 2 0 59 cs
    return ((), cs)
  | cs => some ((), cs)

/-- A date, a time of day or both; a blank may stand between the two. -/
def moment : Reader Unit := fun cs =>
  match date cs with
  | none => time cs
  | some ((), rest) =>
    match rest with
    | c :: more =>
      if c = 'T' ∨ c = 't' ∨ c = ' ' then
        match time more with
        | some ((), rest) => offset rest
        | none => if c = ' ' then some ((), rest) else none
      else some ((), rest)
    | [] => some ((), [])

/-- Dates and times are tables of one entry that no setting is named after. -/
def momentDatum : Datum := .table [("$time", .other)]

def scalar : Reader Datum := fun cs =>
  match cs with
  | '"' :: _ | '\'' :: _ => (text cs).map fun (s, rest) => (.text s, rest)
  | 't' :: 'r' :: 'u' :: 'e' :: rest => some (.bool true, rest)
  | 'f' :: 'a' :: 'l' :: 's' :: 'e' :: rest => some (.bool false, rest)
  | _ =>
    match moment cs with
    | some ((), rest) => some (momentDatum, rest)
    | none =>
      match fraction cs <|> special cs with
      | some ((), rest) => some (.other, rest)
      | none => (whole cs).map fun (n, rest) => (.whole n, rest)

end Gatehouse.Toml
