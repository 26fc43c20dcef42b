import Gatehouse.Http.Method
import Gatehouse.Text.Blank
import Gatehouse.Text.Digits

namespace Gatehouse

/-- A field name is a non-empty token without capital letters. -/
def isFieldName (text : String) : Bool :=
  !text.toList.isEmpty && text.toList.all fun c => isTokenChar c && !c.isUpper

structure HeaderName where
  text : String
  legal : isFieldName text

instance : DecidableEq HeaderName := fun a b =>
  decidable_of_iff (a.text = b.text)
    ⟨fun h => by cases a; cases b; simp_all, fun h => h ▸ rfl⟩

namespace HeaderName

theorem ext_text {a b : HeaderName} (h : a.text = b.text) : a = b := by
  cases a; cases b; simp_all

/-- The longest name that a field may have. -/
def maxLength : Nat := 65535

/-- The name that a text spells in any mixture of cases, if it spells one. -/
def ofText? (text : String) : Option HeaderName :=
  let lower := String.ofList (text.toList.map Char.toLower)
  if h : isFieldName lower then
    if lower.length ≤ maxLength then some ⟨lower, h⟩ else none
  else none

def connection : HeaderName := ⟨"connection", by decide⟩
def keepAlive : HeaderName := ⟨"keep-alive", by decide⟩
def proxyAuthenticate : HeaderName := ⟨"proxy-authenticate", by decide⟩
def proxyAuthorization : HeaderName := ⟨"proxy-authorization", by decide⟩
def te : HeaderName := ⟨"te", by decide⟩
def trailer : HeaderName := ⟨"trailer", by decide⟩
def transferEncoding : HeaderName := ⟨"transfer-encoding", by decide⟩
def upgrade : HeaderName := ⟨"upgrade", by decide⟩
def host : HeaderName := ⟨"host", by decide⟩
def date : HeaderName := ⟨"date", by decide⟩
def allow : HeaderName := ⟨"allow", by decide⟩
def location : HeaderName := ⟨"location", by decide⟩
def cookie : HeaderName := ⟨"cookie", by decide⟩
def setCookie : HeaderName := ⟨"set-cookie", by decide⟩
def origin : HeaderName := ⟨"origin", by decide⟩
def vary : HeaderName := ⟨"vary", by decide⟩
def contentType : HeaderName := ⟨"content-type", by decide⟩
def contentLength : HeaderName := ⟨"content-length", by decide⟩
def requestId : HeaderName := ⟨"x-request-id", by decide⟩
def forwardedFor : HeaderName := ⟨"x-forwarded-for", by decide⟩
def allowOrigin : HeaderName := ⟨"access-control-allow-origin", by decide⟩
def allowCredentials : HeaderName := ⟨"access-control-allow-credentials", by decide⟩
def allowMethods : HeaderName := ⟨"access-control-allow-methods", by decide⟩
def allowHeaders : HeaderName := ⟨"access-control-allow-headers", by decide⟩

end HeaderName

/-- Tab, and everything from space up except the delete character. -/
def isValueOctet (o : UInt8) : Bool := o == 0x09 || (0x20 ≤ o && o != 0x7F)

/-- Tab and the printable ASCII characters: the octets a value may be read as text with. -/
def isVisibleOctet (o : UInt8) : Bool := o == 0x09 || (0x20 ≤ o && o < 0x7F)

structure HeaderValue where
  octets : List UInt8
  legal : octets.all isValueOctet

instance : DecidableEq HeaderValue := fun a b =>
  decidable_of_iff (a.octets = b.octets)
    ⟨fun h => by cases a; cases b; simp_all, fun h => h ▸ rfl⟩

def octetsOf (text : String) : List UInt8 := text.toList.flatMap String.utf8EncodeChar

namespace HeaderValue

theorem ext_octets {a b : HeaderValue} (h : a.octets = b.octets) : a = b := by
  cases a; cases b; simp_all

def ofOctets? (octets : List UInt8) : Option HeaderValue :=
  if h : octets.all isValueOctet then some ⟨octets, h⟩ else none

/-- The value a text is encoded as, if it holds no character that a field cannot carry. -/
def ofText? (text : String) : Option HeaderValue := ofOctets? (octetsOf text)

/-- Whether the value is plain visible text. -/
def isReadable (v : HeaderValue) : Bool := v.octets.all isVisibleOctet

/-- The characters of a readable value; other values cannot be read. -/
def chars? (v : HeaderValue) : Option (List Char) :=
  if v.isReadable then some (v.octets.map fun o => Char.ofNat o.toNat) else none

def text? (v : HeaderValue) : Option String := v.chars?.map String.ofList

theorem legal_trimBy {p : UInt8 → Bool} {xs : List UInt8} (h : xs.all isValueOctet) :
    (trimBy p xs).all isValueOctet := by
  rw [List.all_eq_true] at h ⊢
  intro o ho
  refine h o ?_
  have ho := (List.dropWhile_sublist p).mem (List.mem_reverse.mp ho)
  exact (List.dropWhile_sublist p).mem (List.mem_reverse.mp ho)

/-- The value as it arrives when sent over a connection: without blanks around it. -/
def received (v : HeaderValue) : HeaderValue :=
  ⟨trimBy isFieldBlank v.octets, legal_trimBy v.legal⟩

theorem legal_decimal (n : Nat) :
    ((decimal n).flatMap String.utf8EncodeChar).all isValueOctet := by
  have h : ∀ c ∈ decimal n, (String.utf8EncodeChar c).all isValueOctet :=
    digitsIn_all (by decide) (by decide) n
  rw [List.all_eq_true] at *
  intro o ho
  obtain ⟨c, hc, ho⟩ := List.mem_flatMap.mp ho
  exact List.all_eq_true.mp (h c hc) o ho

/-- The decimal spelling of a number. -/
def ofNat (n : Nat) : HeaderValue :=
  ⟨(decimal n).flatMap String.utf8EncodeChar, legal_decimal n⟩

/-- Two values as one, with a comma between them. -/
def join (a b : HeaderValue) : HeaderValue where
  octets := a.octets ++ octetsOf ", " ++ b.octets
  legal := by
    have h : (octetsOf ", ").all isValueOctet := by decide
    rw [List.all_append, List.all_append, a.legal, h, b.legal]
    rfl

end HeaderValue

structure Field where
  name : HeaderName
  value : HeaderValue
deriving DecidableEq

/-- Fields in the order they were added; a name may occur again. -/
structure Headers where
  fields : List Field
deriving DecidableEq

namespace Headers

def empty : Headers := ⟨[]⟩

/-- Adds a field after those there are. -/
def add (h : Headers) (name : HeaderName) (value : HeaderValue) : Headers :=
  ⟨h.fields ++ [⟨name, value⟩]⟩

/-- Takes every field of this name away. -/
def remove (h : Headers) (name : HeaderName) : Headers :=
  ⟨h.fields.filter (·.name ≠ name)⟩

/-- Leaves exactly one field of this name, with this value. -/
def set (h : Headers) (name : HeaderName) (value : HeaderValue) : Headers :=
  (h.remove name).add name value

def all (h : Headers) (name : HeaderName) : List HeaderValue :=
  (h.fields.filter (·.name = name)).map Field.value

def first? (h : Headers) (name : HeaderName) : Option HeaderValue := (h.all name).head?

/-- The first value of a name, if it can be read. -/
def text? (h : Headers) (name : HeaderName) : Option String :=
  (h.first? name).bind HeaderValue.text?

/-- Puts all values of a name into one field. -/
def joined (h : Headers) (name : HeaderName) : Headers :=
  match h.all name with
  | [] => h
  | first :: rest => h.set name (rest.foldl .join first)

/-- Changes the value of the last field of a name. -/
def changeLast (h : Headers) (name : HeaderName) (change : HeaderValue → HeaderValue) : Headers :=
  let after := h.fields.reverse.takeWhile (·.name ≠ name)
  match h.fields.reverse.drop after.length with
  | [] => h
  | f :: before => ⟨(after ++ ⟨f.name, change f.value⟩ :: before).reverse⟩

/-- Whether the first field of either name is one of the first. -/
def leads (h : Headers) (a b : HeaderName) : Bool :=
  (h.fields.find? fun f => f.name = a || f.name = b).any (·.name = a)

def contains (h : Headers) (name : HeaderName) : Bool := h.fields.any (·.name = name)

/-- The fields as they arrive when sent over a connection. -/
def received (h : Headers) : Headers :=
  ⟨h.fields.map fun f => ⟨f.name, f.value.received⟩⟩

end Headers

end Gatehouse
