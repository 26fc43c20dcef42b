import Gatehouse.Http.Header

namespace Gatehouse

def sessionCookie : String := "session_token"

/-- The name and the value of one pair; nothing when it has no equals sign. -/
def cookiePair? (piece : List Char) : Option (List Char × List Char) :=
  cutAt? '=' (trimBlank piece)

/-- The first non-empty value of a name among the pairs of one field. -/
def findCookie? (name field : List Char) : Option (List Char) :=
  (pieces ';' field).findSome? fun piece =>
    (cookiePair? piece).bind fun (key, value) =>
      if key = name ∧ value ≠ [] then some value else none

/-- The value without the double quotes around it; a single quote mark stays. -/
def unquote (value : List Char) : List Char :=
  ((dropStart? ['"'] value).bind (dropFinish? ['"'])).getD value

namespace Headers

/-- The characters of the cookie fields that can be read. -/
def cookieFields (h : Headers) : List (List Char) :=
  (h.all .cookie).filterMap HeaderValue.chars?

/-- The value of a cookie without quotes around it; nothing when that leaves none. -/
def cookieValue? (h : Headers) (name : String) : Option String :=
  let first := (h.first? .cookie).bind HeaderValue.chars? |>.bind (findCookie? name.toList)
  let found := first <|> h.cookieFields.findSome? (findCookie? name.toList)
  (found.map unquote).bind fun value =>
    if value.isEmpty then none else some (String.ofList value)

def sessionToken? (h : Headers) : Option String := h.cookieValue? sessionCookie

/-- All readable cookie fields as one, the way a browser would send them. -/
def fullCookie? (h : Headers) : Option String :=
  let parts := (h.cookieFields.map trimBlank).filter (!·.isEmpty)
  if parts.isEmpty then none else some (String.ofList (joinWith [';', ' '] parts))

end Headers

end Gatehouse
