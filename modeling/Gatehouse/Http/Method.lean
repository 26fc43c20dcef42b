namespace Gatehouse

/-- Letters, digits and the marks that an HTTP token may hold. -/
def isTokenChar (c : Char) : Bool :=
  c.isAlphanum || "!#$%&'*+-.^_`|~".toList.contains c

structure Method where
  token : String
deriving DecidableEq, Repr

namespace Method

def ofText? (text : String) : Option Method :=
  if !text.isEmpty && text.toList.all isTokenChar then some ⟨text⟩ else none

def get : Method := ⟨"GET"⟩
def post : Method := ⟨"POST"⟩
def put : Method := ⟨"PUT"⟩
def delete : Method := ⟨"DELETE"⟩
def head : Method := ⟨"HEAD"⟩
def options : Method := ⟨"OPTIONS"⟩
def connect : Method := ⟨"CONNECT"⟩
def patch : Method := ⟨"PATCH"⟩

/-- Whether requests of this method carry the body that identity is asserted in. -/
def carriesBody (m : Method) : Bool := m = post || m = put || m = patch

end Method

end Gatehouse
