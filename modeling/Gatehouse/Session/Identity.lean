import Gatehouse.Text.Pieces

namespace Gatehouse

structure Identity where
  text : String
deriving DecidableEq, Repr

/-- Characters that stand for themselves everywhere in a path. -/
def isUnreserved (c : Char) : Bool :=
  c.isAlphanum || c == '-' || c == '.' || c == '_' || c == '~'

/-- The word that an identity takes the place of. -/
def identityPlaceholder : List Char := "\x7bidentity\x7d".toList

namespace Identity

/-- Whether the identity can be one segment of a path: unreserved characters, not all dots. -/
def isPathSafe (id : Identity) : Bool :=
  id.text.toList.all isUnreserved && !id.text.toList.all (· == '.')

/-- The template with the identity in place of every placeholder, if it is safe in a path. -/
def scopedPath? (id : Identity) (template : String) : Option String :=
  if id.isPathSafe then
    some (String.ofList (replaceWord identityPlaceholder id.text.toList template.toList))
  else none

end Identity

end Gatehouse
