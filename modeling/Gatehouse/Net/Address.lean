import Gatehouse.Text.Digits

namespace Gatehouse

/-- An address of either version, as its octets or its eight groups. -/
inductive IpAddress where
  | v4 (a b c d : Nat)
  | v6 (groups : List Nat)
deriving DecidableEq, Repr

structure SocketAddress where
  ip : IpAddress
  tcpPort : Nat
deriving DecidableEq, Repr

/-- The length of the run of zeros at the front. -/
def leadingZeros (groups : List Nat) : Nat := (groups.takeWhile (· == 0)).length

/-- Where the first of the longest runs of zeros begins, and how long it is. -/
def longestZeros : List Nat → Nat × Nat
  | [] => (0, 0)
  | g :: rest =>
    let here := leadingZeros (g :: rest)
    let (place, length) := longestZeros rest
    if length ≤ here then (0, here) else (place + 1, length)

/-- Groups in lower-case hexadecimal with colons between them. -/
def groupsText (groups : List Nat) : String :=
  ":".intercalate (groups.map fun g => String.ofList (digitsIn 16 g))

/-- Eight groups with the longest run of at least two zeros left out. -/
def compressedText (groups : List Nat) : String :=
  let (place, length) := longestZeros groups
  if length < 2 then groupsText groups
  else groupsText (groups.take place) ++ "::" ++ groupsText (groups.drop (place + length))

def dottedText (a b c d : Nat) : String := ".".intercalate ([a, b, c, d].map decimalText)

/-- An address in its usual form; an embedded older address keeps its dots. -/
def IpAddress.text : IpAddress → String
  | v4 a b c d => dottedText a b c d
  | v6 [0, 0, 0, 0, 0, 0xFFFF, x, y] =>
    "::ffff:" ++ dottedText (x / 256) (x % 256) (y / 256) (y % 256)
  | v6 groups => compressedText groups

/-- A number of at most `maxDigits` digits, below `bound`, from the front of the characters. -/
def takeNumber (base maxDigits bound : Nat) (leadingZero : Bool) (cs : List Char) :
    Option (Nat × List Char) := do
  let run := cs.takeWhile (isDigitIn base)
  if maxDigits < run.length then none
  if !leadingZero && run.head? = some '0' && 1 < run.length then none
  let n ← numberIn? base run
  if n < bound then some (n, cs.drop run.length) else none

/-- One given character from the front. -/
def takeChar (c : Char) : List Char → Option (List Char)
  | d :: rest => if c = d then some rest else none
  | [] => none

/-- The separator before any part but the first. -/
def takeSeparator (c : Char) (isFirst : Bool) (cs : List Char) : Option (List Char) :=
  if isFirst then some cs else takeChar c cs

/-- Four numbers below 256 with dots between them and no leading zeros. -/
def takeV4 (cs : List Char) : Option ((Nat × Nat × Nat × Nat) × List Char) := do
  let part := takeNumber 10 3 256 false
  let (a, cs) ← part cs
  let (b, cs) ← part (← takeChar '.' cs)
  let (c, cs) ← part (← takeChar '.' cs)
  let (d, cs) ← part (← takeChar '.' cs)
  return ((a, b, c, d), cs)

/-- Groups read so far, whether they end in a dotted address, and what is left. -/
structure GroupRun where
  groups : List Nat
  dotted : Bool
  rest : List Char

/-- As many groups as there are, at most `room`; a dotted address counts as the last two. -/
def takeGroups (isFirst : Bool) : Nat → List Char → GroupRun
  | 0, cs => ⟨[], false, cs⟩
  | room + 1, cs =>
    let dotted := if room = 0 then none else (takeSeparator ':' isFirst cs).bind takeV4
    match dotted with
    | some ((a, b, c, d), rest) => ⟨[a * 256 + b, c * 256 + d], true, rest⟩
    | none =>
      match (takeSeparator ':' isFirst cs).bind (takeNumber 16 4 65536 true) with
      | some (g, rest) =>
        let more := takeGroups false room rest
        { more with groups := g :: more.groups }
      | none => ⟨[], false, cs⟩

/-- Eight groups, or fewer around a double colon that stands for at least one zero. -/
def takeV6 (cs : List Char) : Option (List Nat × List Char) :=
  let front := takeGroups true 8 cs
  if front.groups.length = 8 then some (front.groups, front.rest)
  else if front.dotted then none
  else do
    let cs ← takeChar ':' (← takeChar ':' front.rest)
    let back := takeGroups true (7 - front.groups.length) cs
    let zeros := List.replicate (8 - front.groups.length - back.groups.length) 0
    return (front.groups ++ zeros ++ back.groups, back.rest)

def takeTcpPort (cs : List Char) : Option (Nat × List Char) := do
  let cs ← takeChar ':' cs
  takeNumber 10 cs.length 65536 true cs

/-- A numeric zone behind a percent sign, if there is one; it is not kept. -/
def skipZone (cs : List Char) : List Char :=
  match (takeChar '%' cs).bind fun cs => takeNumber 10 cs.length UInt32.size true cs with
  | some (_, rest) => rest
  | none => cs

def takeV4Socket (cs : List Char) : Option (SocketAddress × List Char) := do
  let ((a, b, c, d), cs) ← takeV4 cs
  let (tcpPort, cs) ← takeTcpPort cs
  return (⟨.v4 a b c d, tcpPort⟩, cs)

def takeV6Socket (cs : List Char) : Option (SocketAddress × List Char) := do
  let (groups, cs) ← takeV6 (← takeChar '[' cs)
  let cs ← takeChar ']' (skipZone cs)
  let (tcpPort, cs) ← takeTcpPort cs
  return (⟨.v6 groups, tcpPort⟩, cs)

/-- Reads a text that is an address with a TCP port and nothing more. -/
def SocketAddress.ofText? (text : String) : Option SocketAddress :=
  match takeV4Socket text.toList <|> takeV6Socket text.toList with
  | some (address, []) => some address
  | _ => none

end Gatehouse
