import Gatehouse.Net.Address
import Gatehouse.Url.Domain

namespace Gatehouse

inductive UrlFault where
  | noScheme
  | emptyHost
  | badTcpPort
  | badV4
  | badV6
  | badDomain
  | badOpaqueHost
deriving DecidableEq, Repr

def UrlFault.message : UrlFault → String
  | .noScheme => "relative URL without a base"
  | .emptyHost => "empty host"
  | .badTcpPort => "invalid port number"
  | .badV4 => "invalid IPv4 address"
  | .badV6 => "invalid IPv6 address"
  | .badDomain => "invalid international domain name"
  | .badOpaqueHost => "invalid domain character"

/-- The octets of a text in which a percent sign and two digits stand for one octet. -/
def percentDecode : List Char → List UInt8
  | '%' :: a :: b :: rest =>
    if isHex a && isHex b then
      ((digitValue? a).getD 0 * 16 + (digitValue? b).getD 0).toUInt8 :: percentDecode rest
    else 0x25 :: percentDecode (a :: b :: rest)
  | c :: rest => String.utf8EncodeChar c ++ percentDecode rest
  | [] => []

/-- A part of a dotted address; a greater one than 32 bits hold is kept as `none`. -/
def v4Part? (part : List Char) : Option (Option Nat) :=
  let (base, run) := match part with
    | '0' :: 'x' :: rest | '0' :: 'X' :: rest => (16, rest)
    | '0' :: c :: rest => (8, c :: rest)
    | _ => (10, part)
  if part.isEmpty then none
  else if run.isEmpty then some (some 0)
  else if run.all (isDigitIn base) then
    some ((numberIn? base run).filter (· < UInt32.size))
  else none

/-- The parts of a domain without the empty one behind a last dot. -/
def domainParts (domain : List Char) : List (List Char) :=
  let parts := pieces '.' domain
  if parts.getLast? = some [] then parts.dropLast else parts

/-- Whether a domain has to be read as a dotted address: its last part is a number. -/
def endsInNumber (domain : List Char) : Bool :=
  match (domainParts domain).getLast? with
  | some last => (!last.isEmpty && last.all isDecimal) || (v4Part? last).isSome
  | none => false

/-- The text of the address that up to four numbers spell; the last fills what is left. -/
def v4Host? (domain : List Char) : Option String := do
  let parts := domainParts domain
  if 4 < parts.length then none
  let numbers ← parts.mapM fun part => (v4Part? part).bind id
  let last ← numbers.getLast?
  let front := numbers.dropLast
  if Nat.pow 256 (4 - front.length) ≤ last || front.any (255 < ·) then none
  let whole := front.zipIdx.foldl (fun sum (n, i) => sum + n * Nat.pow 256 (3 - i)) last
  return dottedText (whole / 0x1000000) (whole / 0x10000 % 256) (whole / 0x100 % 256) (whole % 256)

/-- The text of an address in brackets. -/
def bracketedHost (cs : List Char) : Except UrlFault String :=
  match dropFinish? [']'] cs with
  | none => .error .badV6
  | some inner =>
    match takeV6 inner with
    | some (groups, []) => .ok ("[" ++ compressedText groups ++ "]")
    | _ => .error .badV6

/-- The text of a domain or of an address that is written like one. -/
def domainHost (cs : List Char) : Except UrlFault String :=
  match cs with
  | '[' :: rest => bracketedHost rest
  | _ =>
    match (String.fromUTF8? (ByteArray.mk (percentDecode cs).toArray)).bind
        (asciiDomain? ·.toList) with
    | none => .error .badDomain
    | some domain =>
      if domain.isEmpty then .error .emptyHost
      else if endsInNumber domain then
        match v4Host? domain with
        | some text => .ok text
        | none => .error .badV4
      else .ok (String.ofList domain)

def isForbiddenHostChar (c : Char) : Bool :=
  "\x00\t\n\r #/:<>?@[\\]^|".toList.contains c

/-- Control characters and those beyond ASCII, octet by octet behind percent signs. -/
def percentEncodeControls (cs : List Char) : List Char :=
  cs.flatMap fun c =>
    if 0x20 ≤ c.toNat && c.toNat < 0x7F then [c]
    else (String.utf8EncodeChar c).flatMap fun o =>
      '%' :: (hexPair o.toNat).map Char.toUpper

/-- The text of a host of a scheme that is not well known. -/
def opaqueHost (cs : List Char) : Except UrlFault String :=
  match cs with
  | '[' :: rest => bracketedHost rest
  | _ =>
    if cs.any isForbiddenHostChar then .error .badOpaqueHost
    else .ok (String.ofList (percentEncodeControls cs))

end Gatehouse
