import PageSync.Text.Case
import PageSync.Text.Quoted
import PageSync.Url.Ip

/-!
# Url/Host — the scheme and the host of an address

How a configured address is looked at: leading blanks and control characters, tabs and line ends do
not count, a scheme is what stands before the first colon if it can be one, and a host follows two
slashes, with a user in front of it and a port behind. Brackets stand around a host only.
-/

namespace PageSync.Url

/-- What makes an address unreadable. -/
inductive HostFault where
  | misplaced
  | future
  | noAddress (text : String)
  | version4 (text : String)
  | normalization (netloc : String)
  deriving DecidableEq, Repr

/-- The wording of a fault. -/
def HostFault.message : HostFault → String
  | .misplaced => "Invalid IPv6 URL"
  | .future => "IPvFuture address is invalid"
  | .noAddress text => Text.quoted text ++ " does not appear to be an IPv4 or IPv6 address"
  | .version4 _ => "An IPv4 address cannot be in brackets"
  | .normalization netloc =>
    "netloc '" ++ netloc ++ "' contains invalid characters under NFKC normalization"

/-- An address without the characters that do not count. -/
def significant (cs : List Char) : List Char :=
  (cs.dropWhile fun c => c.toNat ≤ 0x20).filter fun c => c != '\t' && c != '\r' && c != '\n'

/-- Whether a character may stand in a scheme. -/
def isSchemeChar (c : Char) : Bool :=
  c.isAlphanum || c == '+' || c == '-' || c == '.'

/-- The scheme of an address in lower case, and what follows its colon. -/
def splitScheme (cs : List Char) : String × List Char :=
  match cs.span (· != ':') with
  | (c :: scheme, ':' :: rest) =>
    if c.isAlpha && scheme.all isSchemeChar then
      (String.ofList ((c :: scheme).map Char.toLower), rest)
    else ("", cs)
  | _ => ("", cs)

/-- What stands between two slashes and the path of an address. -/
def netlocOf : List Char → List Char
  | '/' :: '/' :: cs => cs.takeWhile fun c => c != '/' && c != '?' && c != '#'
  | _ => []

/-- The text between the first opening bracket and the closing one after it. -/
def bracketed (cs : List Char) : List Char :=
  ((cs.dropWhile (· != '[')).drop 1).takeWhile (· != ']')

/-- Whether a text is an address of a version to come. -/
def isFutureAddress (cs : List Char) : Bool :=
  match (cs.drop 1).span isHexDigit with
  | (_ :: _, '.' :: _ :: _) => true
  | _ => false

/-- Characters that become delimiters of an address when they are normalized. -/
def delimiterForms : List Nat :=
  [0x2047, 0x2048, 0x2049, 0x2100, 0x2101, 0x2105, 0x2106, 0x2A74, 0xFE13, 0xFE16, 0xFE55, 0xFE56,
    0xFE5F, 0xFE6B, 0xFF03, 0xFF0F, 0xFF1A, 0xFF1F, 0xFF20]

/-- The part of an address after its user. -/
def afterUser (cs : List Char) : List Char :=
  (cs.reverse.takeWhile (· != '@')).reverse

/-- The host after the user of an address, without port and brackets. -/
def hostPart (info : List Char) : List Char :=
  if info.contains '[' then bracketed info else info.takeWhile (· != ':')

/-- Check a host that stands in brackets: an address of version 6 or of one to come. -/
def checkBracketedHost (host : List Char) : Except HostFault Unit :=
  let text := String.ofList host
  if host.head? = some 'v' then if isFutureAddress host then .ok () else .error .future
  else if isIpv4 host then .error (.version4 text)
  else if isIpv6 host then .ok ()
  else .error (.noAddress text)

/-- Check what follows the user of an address with brackets: nothing stands in front of an opening
one, and nothing but a port behind the closing one. The host is checked even if the brackets are
those of the user. -/
def checkBrackets (info : List Char) : Except HostFault Unit :=
  let port := (info.dropWhile (· != ']')).drop 1
  let closes := port.isEmpty || port.head? = some ':'
  if info.contains '[' && !(info.head? = some '[' && closes) then .error .misplaced
  else checkBracketedHost (hostPart info)

/-- Check the part of an address that names a host. -/
def checkNetloc (cs : List Char) : Except HostFault Unit := do
  let opened := cs.contains '['
  let closed := cs.contains ']'
  if opened != closed then throw .misplaced
  if opened && closed then checkBrackets (afterUser cs)
  if cs.any fun c => delimiterForms.contains c.toNat then
    throw (.normalization (String.ofList cs))

/-- A host in lower case, a zone as it is. -/
def lowerHost (cs : List Char) : String :=
  let (name, zone) := cs.span (· != '%')
  Text.lower (String.ofList name) ++ String.ofList zone

/-- The host of the part of an address that names it, without user, port and brackets. -/
def hostOf (netloc : List Char) : Option String :=
  let host := hostPart (afterUser netloc)
  if host.isEmpty then none else some (lowerHost host)

/-- **The scheme and the host of an address.** -/
def schemeAndHost (address : String) : Except HostFault (String × Option String) := do
  let (scheme, rest) := splitScheme (significant address.toList)
  let netloc := netlocOf rest
  checkNetloc netloc
  return (scheme, hostOf netloc)

end PageSync.Url
