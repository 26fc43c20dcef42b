import Gatehouse.Http.Header

namespace Gatehouse

/-- The fields that concern one connection whatever the connection field says. -/
def hopByHop : List HeaderName :=
  [.connection, .keepAlive, .proxyAuthenticate, .proxyAuthorization, .te, .trailer,
   .transferEncoding, .upgrade]

/-- The field names listed in one connection field; what is no field name is skipped. -/
def connectionOptions (field : List Char) : List HeaderName :=
  (pieces ',' field).filterMap fun piece => HeaderName.ofText? (String.ofList (trimBlank piece))

namespace Headers

/-- The field names listed in the connection fields that can be read. -/
def perConnection (h : Headers) : List HeaderName :=
  ((h.all .connection).filterMap HeaderValue.chars?).flatMap connectionOptions

/-- Removes the fields that concern one connection only. -/
def stripHopByHop (h : Headers) : Headers :=
  (h.perConnection ++ hopByHop).foldl Headers.remove h

/-- Whether a field tells browsers who may read the response. -/
def isAccessControl (name : HeaderName) : Bool :=
  "access-control-".toList.isPrefixOf name.text.toList

/-- Prepares a collaborator's fields for the client. -/
def scrub (h : Headers) : Headers :=
  ⟨h.stripHopByHop.fields.filter fun f => !isAccessControl f.name⟩

end Headers

end Gatehouse
