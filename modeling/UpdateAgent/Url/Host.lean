import UpdateAgent.Text.Utf8
import UpdateAgent.Url.Ip
import UpdateAgent.Url.International

/-!
# Hosts

What stands between the slashes and the path of an address: a name, or a numeric address. Hosts of
the well-known schemes are domain names and may be numeric in every form; hosts of other schemes are
taken as they are, with characters beyond ASCII escaped.
-/

namespace UpdateAgent

/-- Why an address is refused. -/
inductive UrlError
  | noBase
  | emptyHost
  | invalidPort
  | invalidIpv6
  | invalidIpv4
  | invalidCharacter
  | invalidName
  deriving DecidableEq

/-- The error as it is shown. -/
def UrlError.message : UrlError → String
  | noBase => "relative URL without a base"
  | emptyHost => "empty host"
  | invalidPort => "invalid port number"
  | invalidIpv6 => "invalid IPv6 address"
  | invalidIpv4 => "invalid IPv4 address"
  | invalidCharacter => "invalid domain character"
  | invalidName => "invalid international domain name"

/-- A host. -/
inductive Host
  | name (chars : List Char)
  | ipv4 (n : Nat)
  | ipv6 (groups : List Nat)
  deriving DecidableEq

namespace Host

/-- The host as it is written. -/
def text : Host → String
  | name chars => String.ofList chars
  | ipv4 n => String.ofList (Ip.showV4 n)
  | ipv6 groups => String.ofList ('[' :: Ip.showV6 groups ++ [']'])

/-- A host in brackets. -/
def readBracketed (rest : List Char) : Except UrlError Host :=
  match rest.reverse with
  | ']' :: inner =>
    match Ip.readV6? inner.reverse with
    | some groups => .ok (.ipv6 groups)
    | none => .error .invalidIpv6
  | _ => .error .invalidIpv6

/-- No host holds this character. -/
def isForbidden (c : Char) : Bool :=
  "\x00\t\n\r #/:<>?@[\\]^|".toList.contains c

/-- A character as it is written in a host: controls and what is not ASCII by its bytes. -/
def escape (c : Char) : List Char :=
  if c.toNat < 0x20 || 0x7E < c.toNat then
    (Utf8.encodeChar c).flatMap fun b => '%' :: Hex.ofByteUpper b
  else [c]

/-- Reads a host that is no domain name. -/
def readOpaque : List Char → Except UrlError Host
  | '[' :: rest => readBracketed rest
  | cs =>
    if cs.any isForbidden then .error .invalidCharacter else .ok (.name (cs.flatMap escape))

/-- The bytes of a text with escaped bytes in place of their escapes. -/
def unescape : List Char → Bytes
  | [] => []
  | '%' :: high :: low :: rest =>
    match Hex.byte? high low with
    | some b => b :: unescape rest
    | none => Utf8.encodeChar '%' ++ unescape (high :: low :: rest)
  | c :: rest => Utf8.encodeChar c ++ unescape rest

/-- Reads a domain name or a numeric address. -/
def readDomain : List Char → Except UrlError Host
  | '[' :: rest => readBracketed rest
  | cs =>
    match (Utf8.decode? (unescape cs)).bind International.name? with
    | none => .error .invalidName
    | some domain =>
      if domain.isEmpty then .error .emptyHost
      else if Ip.endsInNumber domain then
        match Ip.readV4? domain with
        | some n => .ok (.ipv4 n)
        | none => .error .invalidIpv4
      else .ok (.name domain)

end Host

end UpdateAgent
