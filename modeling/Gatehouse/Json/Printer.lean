import Gatehouse.Json.Basic
import Gatehouse.Decimal.Shortest

namespace Gatehouse

/-- How shortest decimals are written out. -/
structure FloatLayout where
  /-- The greatest number of digits before the point in positional notation. -/
  maxPlace : Int
  /-- The least place of the first digit in positional notation. -/
  minPlace : Int

/-- Numbers from `1e-5` up to but not including `1e16` are positional. -/
def Json.floatLayout : FloatLayout := ⟨16, -4⟩

namespace Scientific

/-- The exponent of scientific notation, always signed. -/
def exponentText (e : Int) : List Char :=
  'e' :: (if e < 0 then '-' else '+') :: decimal e.natAbs

def render (layout : FloatLayout) (s : Scientific) : List Char :=
  let run := decimal s.digits
  let place : Int := run.length + s.exponent
  if 0 < place ∧ place ≤ layout.maxPlace then
    if 0 ≤ s.exponent then run ++ List.replicate s.exponent.toNat '0' ++ ['.', '0']
    else run.take place.toNat ++ '.' :: run.drop place.toNat
  else if layout.minPlace ≤ place ∧ place ≤ 0 then
    ['0', '.'] ++ List.replicate (-place).toNat '0' ++ run
  else match run with
    | [d] => d :: exponentText (place - 1)
    | d :: more => d :: '.' :: more ++ exponentText (place - 1)
    | [] => []

end Scientific

/-- The shortest text that reads back as the number. -/
def Binary64.render (x : Binary64) : List Char :=
  let magnitude := if x.magnitude.isZero then ['0', '.', '0']
    else x.magnitude.shortest.render Json.floatLayout
  if x.negative then '-' :: magnitude else magnitude

namespace Json

/-- What stands for a character between the quotes of a string. -/
def escape : Char → List Char
  | '"' => ['\\', '"']
  | '\\' => ['\\', '\\']
  | '\x08' => ['\\', 'b']
  | '\x0c' => ['\\', 'f']
  | '\n' => ['\\', 'n']
  | '\r' => ['\\', 'r']
  | '\t' => ['\\', 't']
  | c => if c.toNat < 0x20 then ['\\', 'u', '0', '0'] ++ hexPair c.toNat else [c]

def renderString (text : String) : List Char := '"' :: text.toList.flatMap escape ++ ['"']

def renderWhole (n : Int) : List Char :=
  if n < 0 then '-' :: decimal n.natAbs else decimal n.natAbs

mutual

def render : Json → List Char
  | null => "null".toList
  | bool true => "true".toList
  | bool false => "false".toList
  | whole n => renderWhole n
  | float x => x.render
  | string text => renderString text
  | array [] => ['[', ']']
  | array (item :: more) => '[' :: render item ++ renderItems more
  | object [] => ['{', '}']
  | object ((name, value) :: more) =>
    '{' :: renderString name ++ ':' :: render value ++ renderMembers more

/-- Each item behind a comma, then the closing bracket. -/
def renderItems : List Json → List Char
  | [] => [']']
  | item :: more => ',' :: render item ++ renderItems more

/-- Each member behind a comma, then the closing brace. -/
def renderMembers : List (String × Json) → List Char
  | [] => ['}']
  | (name, value) :: more =>
    ',' :: renderString name ++ ':' :: render value ++ renderMembers more

end

def newline (indent : Nat) : List Char := '\n' :: List.replicate (2 * indent) ' '

mutual

/-- The text of a value with each member on a line of its own. -/
def renderPretty (indent : Nat) : Json → List Char
  | null => "null".toList
  | bool true => "true".toList
  | bool false => "false".toList
  | whole n => renderWhole n
  | float x => x.render
  | string text => renderString text
  | array [] => ['[', ']']
  | array (item :: more) =>
    '[' :: newline (indent + 1) ++ renderPretty (indent + 1) item ++
      renderPrettyItems indent more
  | object [] => ['{', '}']
  | object ((name, value) :: more) =>
    '{' :: newline (indent + 1) ++ renderString name ++ ':' :: ' ' ::
      renderPretty (indent + 1) value ++ renderPrettyMembers indent more

def renderPrettyItems (indent : Nat) : List Json → List Char
  | [] => newline indent ++ [']']
  | item :: more =>
    ',' :: newline (indent + 1) ++ renderPretty (indent + 1) item ++ renderPrettyItems indent more

def renderPrettyMembers (indent : Nat) : List (String × Json) → List Char
  | [] => newline indent ++ ['}']
  | (name, value) :: more =>
    ',' :: newline (indent + 1) ++ renderString name ++ ':' :: ' ' ::
      renderPretty (indent + 1) value ++ renderPrettyMembers indent more

end

def text (v : Json) : String := String.ofList v.render

def bytes (v : Json) : ByteArray := v.text.toUTF8

end Json

end Gatehouse
