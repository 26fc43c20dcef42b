import Gatehouse.Text.Pieces

namespace Gatehouse

/-- Why a text is no request target. -/
inductive TargetFault where
  | tooLong
  | empty
  | noLeadingSlash
  | badCharacter
  | badAuthority
  | badFormat
  | schemeTooLong
deriving DecidableEq, Repr

def TargetFault.message : TargetFault → String
  | .tooLong => "uri too long"
  | .empty => "empty string"
  | .noLeadingSlash => "path does not start with slash"
  | .badCharacter => "invalid uri character"
  | .badAuthority => "invalid authority"
  | .badFormat => "invalid format"
  | .schemeTooLong => "scheme too long"

/-- A path and what follows the first question mark. A path that was left empty is `/`. -/
structure PathAndQuery where
  path : String
  query : Option String
deriving DecidableEq, Repr

/-- Characters that a path may hold as they are. -/
def isPathChar (c : Char) : Bool :=
  c == '!' || ('$' ≤ c && c ≤ ';') || c == '=' || ('@' ≤ c && c ≤ '_') || ('a' ≤ c && c ≤ 'z') ||
    c == '|' || c == '~' || 0x80 ≤ c.toNat || c == '"' || c == '{' || c == '}'

/-- Characters that a query may hold as they are. -/
def isQueryChar (c : Char) : Bool :=
  c == '!' || ('$' ≤ c && c ≤ ';') || c == '=' || ('?' ≤ c && c ≤ '~') || 0x80 ≤ c.toNat

def maxTargetLength : Nat := 65534

namespace PathAndQuery

/-- The path, then the query behind its mark. -/
def chars (t : PathAndQuery) : List Char :=
  t.path.toList ++ match t.query with
    | none => []
    | some query => '?' :: query.toList

def text (t : PathAndQuery) : String := String.ofList t.chars

/-- Reads a path and query from their characters; a fragment is dropped unread. -/
def scan (cs : List Char) : Except TargetFault PathAndQuery :=
  let path := cs.takeWhile fun c => c != '?' && c != '#'
  if !path.all isPathChar then .error .badCharacter
  else
    let path := if path.isEmpty then "/" else String.ofList path
    match cs.dropWhile fun c => c != '?' && c != '#' with
    | '?' :: rest =>
      let query := rest.takeWhile (· != '#')
      if query.all isQueryChar then .ok ⟨path, some (String.ofList query)⟩
      else .error .badCharacter
    | _ => .ok ⟨path, none⟩

/-- Reads a path and query; only a lone star may stand in place of the leading slash. -/
def ofText (text : String) : Except TargetFault PathAndQuery :=
  if maxTargetLength < text.utf8ByteSize then .error .tooLong
  else match text.toList with
    | [] => .error .empty
    | ['*'] => .ok ⟨"*", none⟩
    | c :: rest =>
      if c = '/' ∨ c = '?' ∨ c = '#' then scan (c :: rest) else .error .noLeadingSlash

end PathAndQuery

/-- Characters that an authority may hold as they are. -/
def isAuthorityChar (c : Char) : Bool :=
  c.isAlphanum || "!$&'()*+,-.:;=@[]_~".toList.contains c

/-- How much of an authority has been seen: what decides whether it may go on or end. -/
structure AuthorityScan where
  colons : Nat := 0
  opened : Bool := false
  closed : Bool := false
  percent : Bool := false
  afterAt : Bool := false

namespace AuthorityScan

/-- Takes one more character in. Colons and percent signs count only in the host. -/
def step (s : AuthorityScan) (c : Char) : Except TargetFault AuthorityScan :=
  let s := { s with afterAt := c == '@' }
  if c = ':' then
    if 8 ≤ s.colons then .error .badAuthority else .ok { s with colons := s.colons + 1 }
  else if c = '[' then
    if s.percent || s.opened then .error .badAuthority else .ok { s with opened := true }
  else if c = ']' then
    if !s.opened || s.closed then .error .badAuthority
    else .ok { s with closed := true, colons := 0, percent := false }
  else if c = '@' then .ok { s with colons := 0, percent := false }
  else if c = '%' then .ok { s with percent := true }
  else if isAuthorityChar c then .ok s
  else .error .badCharacter

/-- Whether an authority may end here. -/
def isComplete (s : AuthorityScan) : Bool :=
  s.opened == s.closed && s.colons ≤ 1 && !s.afterAt && !s.percent

end AuthorityScan

def endsAuthority (c : Char) : Bool := c == '/' || c == '?' || c == '#'

/-- Cuts a text behind its authority, which may be empty. -/
def cutAuthority (cs : List Char) : Except TargetFault (List Char × List Char) := do
  let authority := cs.takeWhile (!endsAuthority ·)
  let seen ← authority.foldlM AuthorityScan.step {}
  if seen.isComplete then .ok (authority, cs.dropWhile (!endsAuthority ·))
  else .error .badAuthority

/-- Reads a text that is an authority and nothing more. -/
def readAuthority (text : String) : Except TargetFault String :=
  if text.isEmpty then .error .empty
  else match cutAuthority text.toList with
    | .error fault => .error fault
    | .ok (_, []) => .ok text
    | .ok _ => .error .badCharacter

def isSchemeChar (c : Char) : Bool :=
  c.isAlphanum || c == '+' || c == '-' || c == '.' || c == '~'

def maxSchemeLength : Nat := 64

/-- Cuts a scheme and the `://` behind it off. The two web schemes are known in any case. -/
def cutScheme (cs : List Char) : Except TargetFault (Option (String × List Char)) :=
  let scheme := cs.takeWhile isSchemeChar
  match cs.drop scheme.length with
  | ':' :: '/' :: '/' :: rest =>
    let lower := String.ofList (scheme.map Char.toLower)
    if lower = "http" ∨ lower = "https" then .ok (some (lower, rest))
    else if cs.length ≤ 3 then .ok none
    else if maxSchemeLength < scheme.length then .error .schemeTooLong
    else .ok (some (String.ofList scheme, rest))
  | _ => .ok none

inductive RequestTarget where
  /-- A path on the server that is asked. -/
  | resource (place : PathAndQuery)
  /-- A path on a named server. -/
  | absolute (scheme authority : String) (place : PathAndQuery)
  /-- A server without a path. -/
  | server (authority : String)
deriving DecidableEq, Repr

namespace RequestTarget

def ofText (text : String) : Except TargetFault RequestTarget := do
  if maxTargetLength < text.utf8ByteSize then .error .tooLong
  else match text.toList with
    | [] => .error .empty
    | ['/'] => .ok (.resource ⟨"/", none⟩)
    | ['*'] => .ok (.resource ⟨"*", none⟩)
    | [c] => return .server (← readAuthority (String.ofList [c]))
    | '/' :: rest => return .resource (← PathAndQuery.scan ('/' :: rest))
    | cs =>
      match ← cutScheme cs with
      | none =>
        let (authority, rest) ← cutAuthority cs
        if rest.isEmpty then .ok (.server (String.ofList authority)) else .error .badFormat
      | some (scheme, afterScheme) =>
        if afterScheme.isEmpty then throw .empty
        let (authority, rest) ← cutAuthority afterScheme
        if authority.isEmpty then throw .badFormat
        else return .absolute scheme (String.ofList authority) (← PathAndQuery.scan rest)

def pathAndQuery? : RequestTarget → Option PathAndQuery
  | resource pq | absolute _ _ pq => some pq
  | server _ => none

/-- The path that is asked for; empty when the target has none. -/
def path (t : RequestTarget) : String := (t.pathAndQuery?.map PathAndQuery.path).getD ""

def query (t : RequestTarget) : Option String := t.pathAndQuery?.bind PathAndQuery.query

/-- What a collaborator is asked for on behalf of this target: `/` when it has no path. -/
def forwarded (t : RequestTarget) : PathAndQuery := t.pathAndQuery?.getD ⟨"/", none⟩

def text : RequestTarget → String
  | resource pq => pq.text
  | absolute scheme authority pq => scheme ++ "://" ++ authority ++ pq.text
  | server authority => authority

end RequestTarget

end Gatehouse
