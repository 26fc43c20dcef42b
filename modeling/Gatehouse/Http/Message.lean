import Gatehouse.Http.Body
import Gatehouse.Http.Header
import Gatehouse.Http.Status
import Gatehouse.Http.Target

namespace Gatehouse

structure Request where
  method : Method
  target : RequestTarget
  headers : Headers
  body : Body
  /-- How long the body takes to come, as far as it is read, in milliseconds. -/
  bodyTime : Nat := 0

structure Response where
  status : Status
  headers : Headers
  body : Body

def jsonType : HeaderValue := ⟨octetsOf "application/json", by decide⟩

def Response.json (status : Status) (bytes : ByteArray) : Response :=
  ⟨status, Headers.empty.add .contentType jsonType, .whole bytes⟩

end Gatehouse
