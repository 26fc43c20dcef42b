import Gatehouse.Text.Digits

namespace Gatehouse.Punycode

/-- Letters stand for the values below 26 and decimal digits for the rest. -/
def digit (d : Nat) : Char :=
  if d < 26 then Char.ofNat ('a'.toNat + d) else Char.ofNat ('0'.toNat + (d - 26))

def digitValue? (c : Char) : Option Nat :=
  if 'a' ≤ c ∧ c ≤ 'z' then some (c.toNat - 'a'.toNat)
  else if 'A' ≤ c ∧ c ≤ 'Z' then some (c.toNat - 'A'.toNat)
  else if '0' ≤ c ∧ c ≤ '9' then some (c.toNat - '0'.toNat + 26)
  else none

/-- The bound of the digit at one place. -/
def threshold (place bias : Nat) : Nat :=
  if place ≤ bias + 1 then 1 else if bias + 26 ≤ place then 26 else place - bias

/-- The bias that suits the next difference. -/
def adapt (delta count : Nat) (isFirst : Bool) : Nat :=
  let delta := if isFirst then delta / 700 else delta / 2
  shrink delta (delta + delta / count) 0
where
  shrink : Nat → Nat → Nat → Nat
    | 0, delta, places => places + 36 * delta / (delta + 38)
    | fuel + 1, delta, places =>
      if 455 < delta then shrink fuel (delta / 35) (places + 36)
      else places + 36 * delta / (delta + 38)

/-- The digits of one difference. -/
def numberDigits (bias : Nat) : Nat → Nat → Nat → List Char
  | 0, _, q => [digit q]
  | fuel + 1, place, q =>
    let t := threshold place bias
    if q < t then [digit q]
    else digit (t + (q - t) % (36 - t)) ::
      numberDigits bias fuel (place + 36) ((q - t) / (36 - t))

/-- Where the encoder stands: what is written, the difference, and how many characters are done. -/
structure Progress where
  written : List Char
  delta : Nat
  bias : Nat
  done : Nat

/-- Passes one character of the label while `code` is the one being placed. -/
def Progress.pass (basic code : Nat) (p : Progress) (c : Nat) : Progress :=
  if c < code then { p with delta := p.delta + 1 }
  else if c = code then
    { written := p.written ++ numberDigits p.bias p.delta 36 p.delta
      delta := 0
      bias := adapt p.delta (p.done + 1) (p.done == basic)
      done := p.done + 1 }
  else p

/-- Places the characters from `code` on, in the order of their values. -/
def place (label : List Nat) (basic : Nat) : Nat → Nat → Progress → Progress
  | 0, _, p => p
  | fuel + 1, code, p =>
    match (label.filter (code ≤ ·)).min? with
    | none => p
    | some next =>
      let p := { p with delta := p.delta + (next - code) * (p.done + 1) }
      let p := label.foldl (Progress.pass basic next) p
      place label basic fuel (next + 1) { p with delta := p.delta + 1 }

def encode (label : List Char) : List Char :=
  let basic := label.filter (·.toNat < 0x80)
  let start := if basic.isEmpty then [] else basic ++ ['-']
  (place (label.map Char.toNat) basic.length label.length 0x80
    ⟨start, 0, 72, basic.length⟩).written

/-- One difference from the front of the digits, added to what the position is so far. -/
def takeNumber (bias : Nat) : Nat → Nat → Nat → List Char → Option (Nat × List Char)
  | _, _, _, [] => none
  | weight, place, sofar, c :: rest => do
    let d ← digitValue? c
    let t := threshold place bias
    let sofar := sofar + d * weight
    if UInt32.size ≤ sofar then none
    else if d < t then some (sofar, rest)
    else takeNumber bias (weight * (36 - t)) (place + 36) sofar rest

/-- Puts the characters that the digits describe into the label. -/
def restore : Nat → Nat → Nat → Nat → List Char → List Char → Option (List Char)
  | 0, _, _, _, label, rest => if rest.isEmpty then some label else none
  | fuel + 1, code, position, bias, label, rest =>
    if rest.isEmpty then some label
    else do
      let (after, rest) ← takeNumber bias 1 36 position rest
      let count := label.length + 1
      let code := code + after / count
      if h : code.isValidChar then
        let spot := after % count
        let label := label.take spot ++ Char.ofNatAux code h :: label.drop spot
        restore fuel code (spot + 1) (adapt (after - position) count (position == 0)) label rest
      else none

def decode? (cs : List Char) : Option (List Char) :=
  let basic := (cs.reverse.dropWhile (· != '-')).reverse
  let digits := cs.drop basic.length
  if cs.any (0x80 ≤ ·.toNat) then none
  else restore digits.length 0x80 0 72 basic.dropLast digits

end Gatehouse.Punycode
