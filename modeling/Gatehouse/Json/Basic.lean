import Gatehouse.Decimal.Binary64

namespace Gatehouse

inductive Json where
  | null
  | bool (value : Bool)
  | whole (value : Int)
  | float (value : Binary64)
  | string (text : String)
  | array (items : List Json)
  | object (members : List (String × Json))
deriving Repr

abbrev Members := List (String × Json)

namespace Members

/-- Binds a name, in its place in the order; a binding that was there is replaced. -/
def insert (name : String) (value : Json) : Members → Members
  | [] => [(name, value)]
  | (other, held) :: rest =>
    if name < other then (name, value) :: (other, held) :: rest
    else if name = other then (name, value) :: rest
    else (other, held) :: insert name value rest

def get? (name : String) (members : Members) : Option Json := members.lookup name

/-- Members in the order they are met; the last binding of a name holds. -/
def ofList (bindings : List (String × Json)) : Members :=
  bindings.foldl (fun members (name, value) => members.insert name value) []

end Members

end Gatehouse
