import Gatehouse.Http.Target
import Gatehouse.Url.Host

namespace Gatehouse

structure Url where
  scheme : String
  /-- The host in its normal form; some URLs have none. -/
  host : Option String
  /-- The TCP port, unless it is the one the scheme implies. -/
  tcpPort : Option Nat
  /-- The pieces of the path once the dot pieces are resolved. -/
  path : List (List Char)
  query : Option (List Char)
  /-- What follows the scheme where that is neither a server nor a path. -/
  opaqueRest : Option (List Char) := none
deriving DecidableEq, Repr

namespace Url

/-- The well-known schemes of servers, with the ports they imply. -/
def serverSchemes : List (String × Nat) :=
  [("http", 80), ("https", 443), ("ws", 80), ("wss", 443), ("ftp", 21)]

/-- Whether the path is the root and no query follows. -/
def isBare (u : Url) : Bool := u.path == [[]] && u.query.isNone

/-- Without control characters and spaces at the ends, and without tabs and line ends at all. -/
def clean (cs : List Char) : List Char :=
  (trimBy (fun c => c ≤ ' ') cs).filter fun c => c != '\t' && c != '\n' && c != '\r'

def cutScheme? (cs : List Char) : Option (String × List Char) :=
  let scheme := cs.takeWhile fun c => c.isAlphanum || c == '+' || c == '-' || c == '.'
  match scheme.head?, cs.drop scheme.length with
  | some first, ':' :: rest =>
    if first.isAlpha then some (String.ofList (scheme.map Char.toLower), rest) else none
  | _, _ => none

/-- Whether a character parts the pieces of a path; in some schemes a backslash does, too. -/
def isSlash (backslash : Bool) (c : Char) : Bool := c == '/' || (backslash && c == '\\')

/-- What ends the part of a URL that names the server. -/
def endsServer (backslash : Bool) (c : Char) : Bool :=
  isSlash backslash c || c == '?' || c == '#'

/-- Splits behind the last `@` of the server part; `none` when there is no user. -/
def cutUser (server : List Char) : Option (List Char) × List Char :=
  if server.contains '@' then
    let host := (server.reverse.takeWhile (· != '@')).reverse
    (some (server.take (server.length - host.length - 1)), host)
  else (none, server)

/-- Splits before the first colon that stands outside brackets. -/
def cutHost (inside : Bool) : List Char → List Char × List Char
  | [] => ([], [])
  | c :: rest =>
    if c = ':' ∧ !inside then ([], c :: rest)
    else
      let inside := if c = '[' then true else if c = ']' then false else inside
      let (host, more) := cutHost inside rest
      (c :: host, more)

/-- The TCP port that a text behind a colon names; an empty text names none. -/
def readTcpPort (implied : Option Nat) (cs : List Char) : Except UrlFault (Option Nat) :=
  if cs.isEmpty then .ok none
  else match takeNumber 10 cs.length 65536 true cs with
    | some (n, []) => .ok (if implied = some n then none else some n)
    | _ => .error .badTcpPort

/-- A piece that stands for the place itself. -/
def isSingleDot (piece : List Char) : Bool :=
  piece = ['.'] || piece.map Char.toLower = ['%', '2', 'e']

/-- A piece that stands for the place above. -/
def isDoubleDot (piece : List Char) : Bool :=
  ["..", ".%2e", "%2e.", "%2e%2e"].any fun spelling => piece.map Char.toLower = spelling.toList

/-- Resolves dot pieces against those before them, which stand in reverse. -/
def resolveDots (before : List (List Char)) : List (List Char) → List (List Char)
  | [] => before.reverse
  | piece :: rest =>
    let closing := if rest.isEmpty then [[]] else []
    if isDoubleDot piece then resolveDots (closing ++ before.tail) rest
    else if isSingleDot piece then resolveDots (closing ++ before) rest
    else resolveDots (piece :: before) rest

/-- What stands behind the mark of a query, up to the one of a fragment. -/
def readQuery (cs : List Char) : Option (List Char) :=
  match cs.dropWhile fun c => c != '?' && c != '#' with
  | '?' :: rest => some (rest.takeWhile (· != '#'))
  | _ => none

/-- The pieces of the path at the front of a text, behind those that stand before it in reverse. -/
def readPathBehind (before : List (List Char)) (backslash : Bool) (cs : List Char) :
    List (List Char) :=
  resolveDots before (piecesBy (isSlash backslash) (cs.takeWhile fun c => c != '?' && c != '#'))

/-- The pieces of the path at the front of what follows the server part. -/
def readPath (backslash : Bool) (cs : List Char) : List (List Char) :=
  match cs with
  | c :: rest => readPathBehind [] backslash (if isSlash backslash c then rest else cs)
  | [] => [[]]

/-- Reads a URL of a scheme whose server part begins here. -/
def readServer (scheme : String) (wellKnown : Bool) (cs : List Char) : Except UrlFault Url := do
  let server := cs.takeWhile (!endsServer wellKnown ·)
  let rest := cs.drop server.length
  let (user, named) := cutUser server
  if user = some [] ∧ named.isEmpty ∧ !rest.isEmpty then throw .emptyHost
  let (name, behind) := cutHost false named
  if name.isEmpty ∧ (wellKnown ∨ !behind.isEmpty) then throw .emptyHost
  let host ← if wellKnown then domainHost name else opaqueHost name
  let tcpPort ← readTcpPort (serverSchemes.lookup scheme) (behind.tail.takeWhile (· != '\\'))
  if name.isEmpty ∧ user.any (fun u => u ≠ [] ∧ u ≠ [':']) then throw .emptyHost
  let host := if name.isEmpty then none else some host
  return { scheme, host, tcpPort, path := readPath wellKnown rest, query := readQuery rest }

/-- A letter of a disk and its mark. -/
def isDriveLetter : List Char → Bool
  | [letter, mark] => letter.isAlpha && (mark == ':' || mark == '|')
  | _ => false

/-- A file at the path in front of a text, on a host or on its own machine. -/
def fileAt (host : Option String) (cs : List Char) : Url :=
  ⟨"file", host, none, readPath true cs, readQuery cs, none⟩

/-- Reads what follows the scheme of a file. Its own machine and disks have no host. -/
def readFile (cs : List Char) : Except UrlFault Url := do
  match cs with
  | a :: b :: rest =>
    let name := rest.takeWhile (!endsServer true ·)
    if !(isSlash true a && isSlash true b) then return fileAt none cs
    else if isDriveLetter name then return fileAt none rest
    else
      let host ← if name.isEmpty then pure "localhost" else domainHost name
      let file := fileAt none (rest.drop name.length)
      let isLocal := host = "localhost" || file.path.head?.any isDriveLetter
      return { file with host := if isLocal then none else some host, query := readQuery rest }
  | _ => return fileAt none cs

/-- Characters that stand in a path as they are. -/
def isPathPlain (c : Char) : Bool :=
  0x20 < c.toNat && c.toNat < 0x7F && !"\"#<>?`\x7b\x7d".toList.contains c

/-- Characters that stand in a query as they are. -/
def isQueryPlain (c : Char) : Bool :=
  0x20 < c.toNat && c.toNat < 0x7F && !"\"#<>'".toList.contains c

/-- Characters that are not plain, octet by octet behind percent signs. -/
def percentEncode (plain : Char → Bool) (cs : List Char) : List Char :=
  cs.flatMap fun c => if plain c then [c]
    else (String.utf8EncodeChar c).flatMap fun o => '%' :: (hexPair o.toNat).map Char.toUpper

def place (u : Url) : PathAndQuery where
  path := String.ofList ('/' :: joinWith ['/'] (u.path.map (percentEncode isPathPlain)))
  query := u.query.map fun q => String.ofList (percentEncode isQueryPlain q)

def isServerScheme (scheme : String) : Bool := (serverSchemes.lookup scheme).isSome

def ofText (text : String) : Except UrlFault Url :=
  match cutScheme? (clean text.toList) with
  | none => .error .noScheme
  | some (scheme, rest) =>
    if scheme = "file" then readFile rest
    else if isServerScheme scheme then readServer scheme true (rest.dropWhile (isSlash true))
    else match rest with
      | '/' :: '/' :: server => readServer scheme false server
      | '/' :: _ => .ok ⟨scheme, none, none, readPath false rest, readQuery rest, none⟩
      | _ => .ok ⟨scheme, none, none, [], none, some rest⟩

/--
Reads what is left of a URL that shares its scheme with a URL of a server: from the server on, from
the path on, from the last piece of the path on, or only behind it.
-/
def readRelative (base : Url) (cs : List Char) : Except UrlFault Url :=
  match (cs.takeWhile (isSlash true)).length with
  | 0 =>
    match cs with
    | [] | '#' :: _ => .ok base
    | '?' :: _ => .ok { base with query := readQuery cs }
    | _ =>
      let path := readPathBehind base.path.dropLast.reverse true cs
      .ok { base with path, query := readQuery cs }
  | 1 => .ok { base with path := readPath true cs, query := readQuery cs }
  | _ =>
    let server := (dropStart? ['/', '/'] cs).getD (cs.dropWhile (isSlash true))
    readServer base.scheme true server

/-- Reads a URL that may be relative to one of a server. -/
def resolve (base : Url) (text : String) : Except UrlFault Url :=
  let cs := clean text.toList
  match cutScheme? cs with
  | none => base.readRelative cs
  | some (scheme, rest) =>
    if scheme = base.scheme ∧ (rest.takeWhile (isSlash true)).length < 2 then
      base.readRelative rest
    else ofText text

/-- The host and, where one is kept, the TCP port. -/
def authority? (u : Url) : Option String :=
  u.host.map fun host => match u.tcpPort with
    | some n => host ++ ":" ++ decimalText n
    | none => host

/-- What a request for the URL asks for, if there can be one. -/
def target? (u : Url) : Option RequestTarget :=
  let text := match u.authority?, u.opaqueRest with
    | some authority, _ => u.scheme ++ "://" ++ authority ++ u.place.text
    | none, some rest => u.scheme ++ ":" ++ String.ofList (percentEncodeControls rest)
    | none, none => u.scheme ++ ":" ++ u.place.text
  (RequestTarget.ofText text).toOption

def isWeb (u : Url) : Bool := u.scheme = "http" || u.scheme = "https"

end Url

end Gatehouse
