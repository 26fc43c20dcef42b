import Gatehouse.Text.Blank
import Gatehouse.Text.Digits

namespace Gatehouse

/-- The numbers of each entry. -/
def readCodes (text : String) : List (List Nat) :=
  ((piecesBy isBlank text.toList).filter (!·.isEmpty)).map fun entry =>
    (piecesBy (!isHex ·) entry).map fun digits => (numberIn? 16 digits).getD 0

/-- Inclusive ranges; a single number is a range of its own. -/
def readRanges (text : String) : List (Nat × Nat) :=
  (readCodes text).filterMap fun
    | [only] => some (only, only)
    | [low, high] => some (low, high)
    | _ => none

/-- Entries of three numbers. -/
def readTriples (text : String) : List (Nat × Nat × Nat) :=
  (readCodes text).filterMap fun
    | [a, b, c] => some (a, b, c)
    | _ => none

/-- Entries of one number and what follows it. -/
def readHeaded (text : String) : List (Nat × List Nat) :=
  (readCodes text).filterMap fun
    | head :: rest => some (head, rest)
    | [] => none

def inRanges (ranges : List (Nat × Nat)) (c : Char) : Bool :=
  ranges.any fun (low, high) => low ≤ c.toNat && c.toNat ≤ high

end Gatehouse
