import Gatehouse.Text.Pieces
import Gatehouse.Http.Method

namespace Gatehouse

inductive Segment where
  | literal (text : String)
  | param
deriving DecidableEq, Repr

namespace Segment

/-- A piece in braces that holds at least one octet stands for any non-empty piece. -/
def ofPiece (piece : List Char) : Segment :=
  if piece.head? = some '{' ∧ piece.getLast? = some '}' ∧ 2 < piece.length then .param
  else .literal (String.ofList piece)

def accepts : Segment → List Char → Bool
  | literal text, piece => text.toList = piece
  | param, piece => !piece.isEmpty

end Segment

/-- Whether each piece is accepted by the segment at its place, with none left over. -/
def segmentsAccept : List Segment → List (List Char) → Bool
  | [], [] => true
  | s :: more, piece :: rest => s.accepts piece && segmentsAccept more rest
  | _, _ => false

inductive PathPattern where
  | exact (path : String)
  /-- The paths of as many pieces, with any non-empty piece where the template has braces. -/
  | template (pattern : String)
  | leading (stem : String)
deriving DecidableEq, Repr

/-- Patterns of a higher rank come first, and among them those with the longer text. -/
structure Specificity where
  rank : Nat
  length : Nat
deriving DecidableEq, Repr

namespace Specificity

def le (a b : Specificity) : Bool := a.rank < b.rank || (a.rank == b.rank && a.length ≤ b.length)

end Specificity

def templateSegments (pattern : String) : List Segment :=
  (pieces '/' pattern.toList).map Segment.ofPiece

namespace PathPattern

def accepts : PathPattern → String → Bool
  | exact expected, path => path = expected
  | template pattern, path => segmentsAccept (templateSegments pattern) (pieces '/' path.toList)
  | leading stem, path => stem.toList.isPrefixOf path.toList

def text : PathPattern → String
  | exact t | template t | leading t => t

/-- A single path is more specific than a template, and a template than a stem. -/
def specificity (p : PathPattern) : Specificity where
  rank := match p with
    | exact _ => 2
    | template _ => 1
    | leading _ => 0
  length := p.text.utf8ByteSize

/-- The pattern as it is shown: a stem has a star behind it. -/
def display : PathPattern → String
  | leading stem => stem ++ "*"
  | p => p.text

end PathPattern

inductive MethodSet where
  | any
  | only (methods : List Method)
deriving DecidableEq, Repr

namespace MethodSet

def allows : MethodSet → Method → Bool
  | any, _ => true
  | only methods, m => methods.contains m

def display : MethodSet → String
  | any => "ANY"
  | only methods => ",".intercalate (methods.map Method.token)

end MethodSet

end Gatehouse
