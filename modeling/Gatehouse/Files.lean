import Gatehouse.Text.Pieces

namespace Gatehouse

abbrev Files := String → Option ByteArray

namespace Files

def maxPath : Nat := 4095

/-- Whether a name on a path stays where it is. -/
def staysInPlace (name : List Char) : Bool := name.isEmpty || name = ['.']

/-- The names of a path to a file, without those that stay in place; none where no file can be. -/
def names (path : List Char) : List (List Char) :=
  let all := pieces '/' path
  if all.getLast?.any staysInPlace then [] else all.filter (!staysInPlace ·)

/-- The device that is always there and empty. -/
def nullDevice : List String := ["dev", "null"]

/-- The files of a program that is started in a directory which holds this one, or none. -/
def only (name : String) (contents : Option ByteArray) : Files := fun path =>
  let found := (names path.toList).map String.ofList
  if maxPath < path.utf8ByteSize then none
  else if path.toList.head? = some '/' then if found = nullDevice then some .empty else none
  else if found = [name] then contents
  else none

end Files

end Gatehouse
