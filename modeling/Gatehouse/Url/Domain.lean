import Gatehouse.Text.Composition
import Gatehouse.Text.Direction
import Gatehouse.Text.Joining
import Gatehouse.Text.Pieces
import Gatehouse.Url.Folding
import Gatehouse.Url.Punycode

namespace Gatehouse

/-- A text as domains are compared: folded and composed. -/
def foldedDomain (domain : List Char) : List Char :=
  let folded := domain.flatMap foldDomainChar
  if folded.all isAscii then folded else composed folded

/-- What marks a label as the written form of one with other characters. -/
def codedMark : List Char := "xn--".toList

/-- The most digits of a coded label, and the most characters of one that a code is made for. -/
def codedLimit : Nat := 2000

def spelledLimit : Nat := 1000

/-- The label that a code stands for: it needs a code, is folded already, and has this code. -/
def decodedLabel? (code : List Char) : Option (List Char) := do
  if codedLimit < code.length then none
  let label ← Punycode.decode? code
  if label.all isAscii || !label.all isDomainChar then none
  if foldedDomain label != label || Punycode.encode label != code then none
  return label

/-- The characters that a label spells, in clear or coded. -/
def spelledLabel? (label : List Char) : Option (List Char) :=
  match dropStart? codedMark label with
  | some code => decodedLabel? code
  | none => some label

/-- The class of marks that make the letter before them mute. -/
def muteClass : Nat := 9

/--
Whether an invisible joiner makes a difference between what stands before it, the nearest first, and
what follows. Both kinds do behind a mute letter; the one that forbids joining also does between two
letters that would join.
-/
def fitsJoiner (c : Char) (before after : List Char) : Bool :=
  let isMute := before.head?.any fun b => markClass b.toNat == muteClass
  let wouldJoin := (before.dropWhile isTransparent).head?.any joinsForward &&
    (after.dropWhile isTransparent).head?.any joinsBackward
  if c == '\u200C' then isMute || wouldJoin
  else if c == '\u200D' then isMute
  else true

/-- Whether every joiner in a text fits; `before` is what precedes, the nearest first. -/
def joinersFit (before : List Char) : List Char → Bool
  | [] => true
  | c :: rest => fitsJoiner c before rest && joinersFit (c :: before) rest

/-- Whether a label may be a part of a domain. -/
def isFitLabel (label : List Char) : Bool :=
  label.all isDomainChar &&
    (label.all isAscii || (!label.head?.any isMark && joinersFit [] label))

/--
Whether a label keeps to the direction of its first character, which is a letter: no letter of the
other direction follows, it ends in a letter or a number but for marks, and it does not mix the two
kinds of numbers.
-/
def keepsDirection (label : List Char) : Bool :=
  let run := label.map direction
  let last := (run.reverse.dropWhile (· == .nonspacing)).head?
  let isCommon (d : Direction) : Bool :=
    [.europeanNumber, .europeanSeparator, .commonSeparator, .europeanTerminator, .neutral,
      .invisible, .nonspacing].contains d
  match run.head? with
  | some .rightward =>
    run.all (fun d => d == .rightward || isCommon d) &&
      last.any [.rightward, .europeanNumber].contains
  | some .leftward | some .arabicLetter =>
    run.all (fun d => [.leftward, .arabicLetter, .arabicNumber].contains d || isCommon d) &&
      last.any [.leftward, .arabicLetter, .europeanNumber, .arabicNumber].contains &&
      !(run.contains .europeanNumber && run.contains .arabicNumber)
  | _ => false

def asciiLabel? (label : List Char) : Option (List Char) :=
  if label.all isAscii then some label
  else if spelledLimit < label.length then none
  else some (codedMark ++ Punycode.encode label)

/-- A domain in ASCII, or nothing if it holds what no domain may. -/
def asciiDomain? (domain : List Char) : Option (List Char) := do
  let labels := pieces '.' (foldedDomain domain)
  let spelled ← labels.mapM spelledLabel?
  if !spelled.all isFitLabel then none
  let isMixed := spelled.any (·.any bringsLeftward)
  if isMixed && !spelled.all (fun label => label.isEmpty || keepsDirection label) then none
  return joinWith ['.'] (← labels.mapM asciiLabel?)

end Gatehouse
