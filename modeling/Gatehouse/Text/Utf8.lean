namespace Gatehouse

/-- How many octets a first octet announces, with the range the second one must lie in. -/
def sequenceShape (first : UInt8) : Option (Nat × UInt8 × UInt8) :=
  if first < 0x80 then some (1, 0x80, 0xBF)
  else if 0xC2 ≤ first ∧ first ≤ 0xDF then some (2, 0x80, 0xBF)
  else if first = 0xE0 then some (3, 0xA0, 0xBF)
  else if first = 0xED then some (3, 0x80, 0x9F)
  else if 0xE1 ≤ first ∧ first ≤ 0xEF then some (3, 0x80, 0xBF)
  else if first = 0xF0 then some (4, 0x90, 0xBF)
  else if first = 0xF4 then some (4, 0x80, 0x8F)
  else if 0xF1 ≤ first ∧ first ≤ 0xF3 then some (4, 0x80, 0xBF)
  else none

/-- How many of the octets at the front belong together, and whether they are complete. -/
def sequenceLength : List UInt8 → Nat × Bool
  | [] => (0, true)
  | first :: rest =>
    match sequenceShape first with
    | none => (1, false)
    | some (length, low, high) =>
      let second := rest.take 1 |>.takeWhile fun o => low ≤ o && o ≤ high
      let more := if second.isEmpty then [] else
        (rest.drop 1).takeWhile fun o => 0x80 ≤ o && o ≤ 0xBF
      let found := min length (1 + second.length + more.length)
      (found, found == length)

/-- What stands for octets that encode nothing. -/
def replacement : Char := '\ufffd'

/-- The characters that octets encode, with one replacement for each run that encodes none. -/
def decodeLossy : Nat → List UInt8 → List Char
  | 0, _ => []
  | _, [] => []
  | fuel + 1, octets =>
    let (length, isComplete) := sequenceLength octets
    let run := octets.take length
    let decoded := if isComplete then
        (String.fromUTF8? (ByteArray.mk run.toArray)).map String.toList
      else none
    decoded.getD [replacement] ++ decodeLossy fuel (octets.drop length)

/-- The text of octets, whatever they are. -/
def lossyText (bytes : ByteArray) : String :=
  match String.fromUTF8? bytes with
  | some text => text
  | none => String.ofList (decodeLossy bytes.size bytes.toList)

end Gatehouse
