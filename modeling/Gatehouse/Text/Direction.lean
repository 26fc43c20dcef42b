import Gatehouse.Text.Mark

namespace Gatehouse

/-- How a character takes part in the order of writing. -/
inductive Direction where
  | rightward
  | leftward
  /-- A letter of the Arabic scripts, written to the left. -/
  | arabicLetter
  | europeanNumber
  | europeanSeparator
  | europeanTerminator
  | arabicNumber
  | commonSeparator
  /-- As the character before it. -/
  | nonspacing
  | invisible
  | neutral
deriving DecidableEq, Repr

/-- Letters written to the left, other than those of the Arabic scripts. -/
def leftwardRanges : List (Nat × Nat) := readRanges
  "5BE-5F4 7C0-7F5 7FA-85E 10800-1091B 10920-10B35 10B40-10CFF 10D40-10D4F 10D6F-10D8F 10E80-10EB1
   10F00-10F27 10F70-10FF6 1E800-1E95F"

/-- Letters of the Arabic scripts. -/
def arabicLetterRanges : List (Nat × Nat) := readRanges
  "608 60B 60D 61B-64A 66D-6D5 6E5-6E6 6EE-6EF 6FA-7B1 860-8C9 FBB2-FBC2 FE73 10D00-10D23
   10EC2-10EC7 10F30-10F59 1EC71-1ED3D"

/-- Characters written as their neighbours are. -/
def neutralRanges : List (Nat × Nat) := readRanges
  "21-22 26-2A 3B-40 5B-60 7B-A1 A6-AE B6-D7 F7 2B9-2BA 2C2-2CF 2D2-2ED 2EF-2FF 375 3F6 58A-58E
   606-607 60E-60F 6DE 6E9 7F6-7F9 BF3-BF8 BFA C78-C7E F3A-F3D 1390-1399 1400 169B-169C 17F0-180A
   1940-1945 19DE-19FF 2010-2027 2035-2043 2045-205E 2104-2129 213A-214D 218A-2211 2214-2335
   237B-2394 2396-26AB 26AD-27FF 2900-2BFF 2CE5-2CEA 2CF9-2CFF 2E00-3004 3008-3020 3030 3037
   303D-303F 30A0 30FB 31C0-31E5 4DC0-4DFF A490-A4C6 A60D-A60F A673-A67F A700-A721 A788 A828-A82B
   A874-A877 AB6A-AB6B FBC3-FE46 10101 10140-1018C 10190-101A0 1091F 10B39-10B3F 10D6E 10ED0-10ED8
   11052-11065 11660-1166C 11FD5-11FDC 11FE1-11FF1 16FE2 1CC00-1CEF0 1D1E9-1D245 1D300-1D356
   1EEF0-1F12F 1F16D-1F16F 1F1AD 1F260-1FBFA"

/-- Signs that go with a number: currencies, degrees, per cent. -/
def europeanTerminatorRanges : List (Nat × Nat) := readRanges
  "23-25 A2-A5 B0-B1 58F 609-60A 66A 9F2-9F3 9FB AF1 BF9 E3F 17DB 2030-2032 20A0-20C1 212E 2213
   A838-A839 11FDD-11FE0 1E2FF"

/-- What the tables say of characters, the rarer classes first. -/
def directionTables : List (Direction × List (Nat × Nat)) :=
  [(.europeanNumber, readRanges "30-39 6F0-6F9 102E1-102FB"),
   (.europeanSeparator, readRanges "2B 2D 2212"),
   (.commonSeparator, readRanges "2C 2E-2F 3A 60C 2044"),
   (.arabicNumber, readRanges "660-669 66B-66C 10D30-10D39 10E60-10E7E"),
   (.invisible, readRanges "200C-200D"),
   (.nonspacing, readRanges "1171E"),
   (.rightward, readRanges "CBF CC6 11A07-11A08 11C3F"),
   (.europeanTerminator, europeanTerminatorRanges),
   (.nonspacing, nonspacingRanges),
   (.arabicLetter, arabicLetterRanges),
   (.leftward, leftwardRanges),
   (.neutral, neutralRanges)]

/-- The direction of a character: to the right unless a table says otherwise. -/
def direction (c : Char) : Direction :=
  match directionTables.find? fun (_, ranges) => inRanges ranges c with
  | some (d, _) => d
  | none => .rightward

/-- Whether a character brings leftward writing into a text. -/
def bringsLeftward (c : Char) : Bool :=
  0x590 ≤ c.toNat && [.leftward, .arabicLetter, .arabicNumber].contains (direction c)

end Gatehouse
