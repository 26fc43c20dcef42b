import Gatehouse.Http.Message

namespace Gatehouse

/-- A message as its sender puts it on a connection. -/
structure Transmission where
  headers : Headers
  octets : ByteArray
  /-- How the sending ends; a complete one may still leave the receiver waiting for more. -/
  ending : Ending
  /-- Whether the sender closes the connection behind the message. -/
  closes : Bool := false

/-- A length spelt by decimal digits and nothing else. -/
def digitsLength? (digits : List Char) : Option Nat :=
  if digits.all isDecimal then (numberIn? 10 digits).filter (· < UInt64.size) else none

/-- The longest body that a receiver takes in. -/
def maxLength : Nat := UInt64.size - 3

/-- The one value that all members of a non-empty list have. -/
def commonLength? (lengths : List Nat) : Option Nat :=
  lengths.head?.filter fun first => lengths.all (· == first)

namespace Headers

/-- The length that all content length fields agree on; each may give it several times. -/
def agreedLength? (h : Headers) : Option Nat := do
  let fields ← (h.all .contentLength).mapM HeaderValue.chars?
  commonLength? (← (fields.flatMap (pieces ',')).mapM fun piece => digitsLength? (trimBlank piece))

/-- The length that all content length fields agree on, where each gives it plainly. -/
def plainLength? (h : Headers) : Option Nat := do
  let fields ← (h.all .contentLength).mapM HeaderValue.chars?
  commonLength? (← fields.mapM digitsLength?)

end Headers

/-- The coding of bodies whose length is not told. -/
def chunkedCoding : HeaderValue := ⟨octetsOf "chunked", by decide⟩

/-- Whether the last coding of a list is the chunked one. -/
def HeaderValue.endsChunked (v : HeaderValue) : Bool :=
  (v.text?.bind fun text => (pieces ',' text.toList).getLast?).any fun coding =>
    (trimBlank coding).map Char.toLower == "chunked".toList

/-- The value with the chunked coding as the last one. -/
def HeaderValue.withChunked (v : HeaderValue) : HeaderValue :=
  if v.endsChunked then v else v.join chunkedCoding

/-- Whether the coding that counts, the last one, is the chunked one. -/
def Headers.isChunked (h : Headers) : Bool :=
  (h.all .transferEncoding).getLast?.any HeaderValue.endsChunked

/-- Whether one of the options that a connection field lists is this one. -/
def HeaderValue.hasOption (v : HeaderValue) (option : String) : Bool :=
  v.text?.any fun text => (pieces ',' text.toList).any fun piece =>
    (trimBlank piece).map Char.toLower == option.toList

/-- Whether the connection may be used again; of contrary fields the last one counts. -/
def Headers.keepsConnection (h : Headers) : Bool :=
  (h.all .connection).foldl (fun keeps v =>
    if keeps then !v.hasOption "close" else v.hasOption "keep-alive") true

def closeOption : HeaderValue := ⟨octetsOf "close", by decide⟩

/-- The most fields and the most octets that a receiver reads ahead of a body. -/
def maxFields : Nat := 100

def maxHead : Nat := 417792

/-- The octets of the lines that fields are sent in. -/
def Headers.size (h : Headers) : Nat :=
  h.fields.foldl (fun sum f => sum + f.name.text.utf8ByteSize + f.value.octets.length + 4) 0

/-- Whether a receiver reads these fields to their end. -/
def Headers.isReadable (h : Headers) : Bool :=
  h.fields.length ≤ maxFields && h.size ≤ maxHead

/--
What is sent of a body under a length: never more. A body of unknown length that ends before breaks
the connection; one that was there as a whole leaves the receiver waiting.
-/
def Body.sentWithin (b : Body) (length : Nat) (h : Headers) : Transmission :=
  if length ≤ b.bytes.size then ⟨h, b.bytes.extract 0 length, .complete, false⟩
  else if b.ending = .complete ∧ b.announced.isNone then ⟨h, b.bytes, .brokenOff, false⟩
  else ⟨h, b.bytes, b.ending, false⟩

/-- Whether a body of unknown length is sent with requests of this method. -/
def Method.sendsStreams (m : Method) : Bool :=
  m ≠ .get && m ≠ .head && m ≠ .connect

/-- A request as it is sent. What the fields say goes before what is known of the body. -/
def Transmission.ofRequest (m : Method) (h : Headers) (b : Body) : Transmission :=
  if b.isKnownEmpty then ⟨h.remove .transferEncoding, .empty, .complete, false⟩
  else if h.contains .transferEncoding then
    let h := if h.agreedLength?.isSome then h.remove .contentLength else h
    ⟨h.changeLast .transferEncoding .withChunked, b.bytes, b.ending, false⟩
  else match h.agreedLength?, b.announced with
    | some length, _ => b.sentWithin length h
    | none, some length => b.sentWithin length (h.set .contentLength (.ofNat length))
    | none, none =>
      if m.sendsStreams then
        ⟨h.add .transferEncoding chunkedCoding, b.bytes, b.ending, false⟩
      else ⟨h, .empty, .complete, false⟩

/-- Whether a response has no body whatever it says, by the request's method or its own status. -/
def hasNoBody (m : Method) (s : Status) : Bool :=
  m = .head || (m = .connect && s.isSuccess) || s = .noContent || s = .notModified || s.isInterim

/-- Whether nothing at all may be said of the length of a response. -/
def forbidsLength (m : Method) (s : Status) : Bool := m = .connect && s.isSuccess

namespace Response

/-- The fields of a response as they are sent, whatever they say of its length. -/
def sentFields (r : Response) : Headers := (r.headers.joined .connection).joined .trailer

/--
Whether the fields of a response say in earnest how long it is. Those of a body that is known to be
empty do not, unless the request was for the head.
-/
def hasLength (r : Response) (m : Method) : Bool :=
  r.headers.contains .contentLength && (m = .head || !r.body.isKnownEmpty)

/-- Whether the fields of a response say in earnest how it is coded. -/
def hasCoding (r : Response) (m : Method) : Bool :=
  r.headers.contains .transferEncoding && !hasNoBody m r.status

/--
Whether the fields of a response contradict themselves: both length and coding are given and the
first of them counts, or one of them is given where none may be.
-/
def isContradictory (r : Response) (m : Method) : Bool :=
  let length := r.headers.contains .contentLength
  let coding := r.headers.contains .transferEncoding
  (forbidsLength m r.status && (length || coding)) ||
    (length && coding && (if r.headers.leads .contentLength .transferEncoding
      then r.hasLength m else r.hasCoding m))

/-- A body under the length that the fields of a response give. -/
def sentWithLength? (r : Response) : Option Transmission :=
  let h := r.sentFields.remove .transferEncoding
  if r.body.isKnownEmpty then
    if (h.all .contentLength).length ≤ 1 then some ⟨h, .empty, .complete, false⟩ else none
  else match r.body.announced with
    | some length => some (r.body.sentWithin length (h.joined .contentLength))
    | none => do
      let first ← h.first? .contentLength
      let length ← h.plainLength?
      return r.body.sentWithin length (h.set .contentLength first)

/--
Whether a server leaves out how long a response is, when its fields do not say it. To a request for
the head it says how long a body would be that is known not to be empty.
-/
def leavesLengthOut (r : Response) (m : Method) : Bool :=
  hasNoBody .get r.status || forbidsLength m r.status ||
    (m = .head && (r.body.isKnownEmpty || r.body.announced.isNone))

/-- A body with a field that says how it is sent. -/
def sentFramed (r : Response) (m : Method) : Transmission :=
  let h := (r.sentFields.remove .contentLength).remove .transferEncoding
  if r.leavesLengthOut m then ⟨h, .empty, .complete, false⟩
  else match r.body.announced with
    | some length => r.body.sentWithin length (h.add .contentLength (.ofNat length))
    | none => ⟨h.add .transferEncoding chunkedCoding, r.body.bytes, r.body.ending, false⟩

/-- A body in chunks, by a coding that the fields of a response give. -/
def sentChunked (r : Response) : Transmission :=
  let h := (r.sentFields.remove .contentLength).joined .transferEncoding
  ⟨h.changeLast .transferEncoding .withChunked, r.body.bytes, r.body.ending, false⟩

/-- The date of a response, when it has none: any will do here. -/
def undated : HeaderValue := ⟨octetsOf "Thu, 01 Jan 1970 00:00:00 GMT", by decide⟩

def dated (h : Headers) : Headers := if h.contains .date then h else h.add .date undated

/-- What a server can answer: of the interim responses, only the change to another protocol. -/
def answerable (r : Response) : Response :=
  if r.status.isInterim ∧ r.status ≠ .switchingProtocols then ⟨.internalError, .empty, .empty⟩
  else r

/--
A response to a request of this method as it is sent; nothing when its fields contradict themselves,
and the connection is lost instead.
-/
def sent? (r : Response) (m : Method) : Option Transmission :=
  if r.isContradictory m then none
  else do
    let t ← if r.hasCoding m then some r.sentChunked
      else if r.hasLength m then r.sentWithLength?
      else some (r.sentFramed m)
    let t := if hasNoBody m r.status then { t with octets := .empty, ending := .complete } else t
    return { t with
      headers := dated t.headers
      closes := (r.headers.all .connection).any (·.hasOption "close") }

end Response

namespace Transmission

/-- A body of a known length as it arrives. What is missing is waited for while it can come. -/
def sized (t : Transmission) (length : Nat) : Body :=
  if length ≤ t.octets.size then .whole (t.octets.extract 0 length)
  else
    let ending := match t.ending with
      | .complete => if t.closes then .brokenOff else .stalled
      | other => other
    ⟨[t.octets], ending, some length⟩

/-- What one more content length field of a request adds to those before it. -/
def withLength (seen : Option Nat) (v : HeaderValue) : Except Status (Option Nat) :=
  match v.chars?.bind digitsLength?, seen with
  | none, _ => .error .badRequest
  | some length, some first => if length = first then .ok seen else .error .badRequest
  | some length, none => if maxLength < length then .error .fieldsTooLarge else .ok (some length)

/-- The fields that a server keeps: of the lengths the first, and none behind a coding. -/
def keptFields (h : Headers) : Headers :=
  match h.first? .contentLength with
  | none => h
  | some first =>
    if h.leads .transferEncoding .contentLength then h.remove .contentLength
    else h.set .contentLength first

/-- A request as a server reads it, or the status that it refuses the request with. -/
def readRequest (t : Transmission) : Except Status (Headers × Body) := do
  if !t.headers.isReadable then throw .fieldsTooLarge
  let h := keptFields t.headers.received
  let lengths := if t.headers.leads .transferEncoding .contentLength then []
    else t.headers.received.all .contentLength
  let length ← lengths.foldlM withLength none
  if h.contains .transferEncoding then
    if h.isChunked then return (h, .stream [t.octets] t.ending) else throw .badRequest
  else return (h, t.sized (length.getD 0))

/-- The body of a response as a client reads it; nothing if the response makes no sense to it. -/
def readResponse? (t : Transmission) (m : Method) (s : Status) : Option Response :=
  let h := t.headers.received
  let respond (b : Body) : Option Response := some ⟨s, h, b⟩
  if !t.headers.isReadable then none
  else if hasNoBody m s then respond .empty
  else if h.contains .transferEncoding then respond (.stream [t.octets] t.ending)
  else match h.agreedLength? with
    | some length => if maxLength < length then none else respond (t.sized length)
    | none => if h.contains .contentLength then none else respond (.stream [t.octets] t.ending)

end Transmission

/-- A response as it arrives, when the connection is not lost. -/
def Response.delivered? (r : Response) (m : Method) : Option Response :=
  let r := r.answerable
  (r.sent? m).bind (·.readResponse? m r.status)

end Gatehouse
