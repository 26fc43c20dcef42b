import Gatehouse.Json.Basic

namespace Gatehouse

inductive Datum where
  | bool (value : Bool)
  | whole (value : Int)
  | text (value : String)
  | list (items : List Datum)
  | table (entries : List (String × Datum))
  /-- Anything that no setting can be: no value, a fraction. -/
  | other
deriving Repr

def Datum.ofJson : Json → Datum
  | .null => .other
  | .bool b => .bool b
  | .whole n => .whole n
  | .float _ => .other
  | .string s => .text s
  | .array items => .list (ofItems items)
  | .object members => .table (ofMembers members)
where
  ofItems : List Json → List Datum
    | [] => []
    | item :: more => ofJson item :: ofItems more
  ofMembers : List (String × Json) → List (String × Datum)
    | [] => []
    | (name, value) :: more => (name, ofJson value) :: ofMembers more

end Gatehouse
