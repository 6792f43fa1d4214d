import UpdateAgent.Url.Host

/-!
# Addresses

The addresses of brokers and firmware images: a scheme, and behind two slashes a host with an
optional port. What follows the host is of no concern here. Addresses are read as browsers read
them, so white space at either end and line breaks anywhere count for nothing, and the well-known
schemes need no particular number of slashes.
-/

namespace UpdateAgent

/-- An address. -/
structure Url where
  scheme : String
  host : Option Host := none
  port : Option Nat := none
  deriving DecidableEq

namespace Url

/-- How the part after the scheme is read. -/
inductive Family
  | wellKnown
  | file
  | other
  deriving DecidableEq

/-- The family of a scheme. -/
def family (scheme : String) : Family :=
  if scheme = "file" then .file
  else if scheme ∈ ["http", "https", "ws", "wss", "ftp"] then .wellKnown
  else .other

/-- The port that is meant if none is given. -/
def defaultPort? : String → Option Nat
  | "http" => some 80
  | "ws" => some 80
  | "https" => some 443
  | "wss" => some 443
  | "ftp" => some 21
  | _ => none

/-- Space and controls, which count for nothing at either end. -/
def isPadding (c : Char) : Bool :=
  c.toNat ≤ 0x20

/-- Characters that count for nothing anywhere. -/
def isIgnored (c : Char) : Bool :=
  c == '\t' || c == '\n' || c == '\r'

/-- A text without what counts for nothing. -/
def cleaned (cs : List Char) : List Char :=
  (((cs.dropWhile isPadding).reverse.dropWhile isPadding).reverse).filter (!isIgnored ·)

/-- The scheme in lower case, and what follows its colon. -/
def scheme? (cs : List Char) : Option (String × List Char) :=
  let inScheme (c : Char) : Bool := c.isAlphanum || c == '+' || c == '-' || c == '.'
  match cs.head?.filter (·.isAlpha), cs.dropWhile inScheme with
  | some _, ':' :: rest => some (String.ofList ((cs.takeWhile inScheme).map (·.toLower)), rest)
  | _, _ => none

/-- A slash; in well-known schemes a backslash counts as one. -/
def isSlash (family : Family) (c : Char) : Bool :=
  c == '/' || (c == '\\' && family != .other)

/-- What ends the part with the host. -/
def endsAuthority (family : Family) (c : Char) : Bool :=
  isSlash family c || c == '?' || c == '#'

/-- The text after the user information, and whether there is any. User information ends at the last
at sign before the path; a lone colon is none. -/
def afterUser (family : Family) (cs : List Char) : Except UrlError (Bool × List Char) :=
  let authority := cs.takeWhile (!endsAuthority family ·)
  let after := cs.dropWhile (!endsAuthority family ·)
  let host := (authority.reverse.takeWhile (· ≠ '@')).reverse
  if host.length = authority.length then .ok (false, cs)
  else
    let user := authority.take (authority.length - host.length - 1)
    if user.isEmpty ∧ host.isEmpty ∧ !after.isEmpty then .error .emptyHost
    else .ok (!user.isEmpty && user != [':'], host ++ after)

/-- The text of the host, and what follows it. A colon within brackets belongs to the host. -/
def splitHost (family : Family) : Bool → List Char → List Char × List Char
  | _, [] => ([], [])
  | isBracketed, c :: cs =>
    if (c = ':' ∧ !isBracketed) ∨ endsAuthority family c then ([], c :: cs)
    else
      let isBracketed := if c = '[' then true else if c = ']' then false else isBracketed
      let (host, rest) := splitHost family isBracketed cs
      (c :: host, rest)

/-- What may follow a port. -/
def endsPort (c : Char) : Bool :=
  c == '/' || c == '\\' || c == '?' || c == '#'

/-- The port after a colon, if there are digits. -/
def readPort (cs : List Char) : Except UrlError (Option Nat) :=
  let digits := cs.takeWhile (·.isDigit)
  if ((cs.dropWhile (·.isDigit)).head?).any (!endsPort ·) then .error .invalidPort
  else if digits.isEmpty then .ok none
  else
    match Ip.ofDigits? 10 digits with
    | some n => if n ≤ 65535 then .ok (some n) else .error .invalidPort
    | none => .error .invalidPort

/-- Reads the host of a scheme. -/
def readHost (family : Family) (cs : List Char) : Except UrlError (Option Host) :=
  match family, cs with
  | .wellKnown, [] => .error .emptyHost
  | .other, [] => .ok none
  | .other, cs => (Host.readOpaque cs).map some
  | .file, [] => .ok none
  | _, cs => (Host.readDomain cs).map some

/-- Reads what follows the slashes: user information, host and port. -/
def readAuthority (scheme : String) (cs : List Char) : Except UrlError Url := do
  let family := family scheme
  let (hasUser, cs) ← afterUser family cs
  let (hostText, rest) := splitHost family false cs
  let host ← readHost family hostText
  match rest with
  | ':' :: digits =>
    if host.isNone then throw .emptyHost
    let port ← readPort digits
    return { scheme, host, port := port.filter fun n => defaultPort? scheme != some n }
  | _ =>
    if host.isNone ∧ hasUser then throw .emptyHost
    return { scheme, host }

/-- The text is a drive letter with its colon or bar. -/
def isDrive : List Char → Bool
  | [letter, mark] => letter.isAlpha && (mark == ':' || mark == '|')
  | _ => false

/-- Reads what follows the scheme of a file address. The local host is no host. -/
def readFile (cs : List Char) : Except UrlError Url := do
  let scheme := "file"
  match cs with
  | a :: b :: rest =>
    if isSlash .file a ∧ isSlash .file b then
      let hostText := rest.takeWhile (!endsAuthority .file ·)
      if isDrive hostText then return { scheme }
      let host ← readHost .file hostText
      return { scheme, host := host.filter (· != .name "localhost".toList) }
    else return { scheme }
  | _ => return { scheme }

/-- Reads an address. -/
def parse (s : String) : Except UrlError Url :=
  match scheme? (cleaned s.toList) with
  | none => .error .noBase
  | some (scheme, rest) =>
    match family scheme, rest with
    | .file, rest => readFile rest
    | .wellKnown, rest => readAuthority scheme (rest.dropWhile (isSlash .wellKnown))
    | .other, '/' :: '/' :: rest => readAuthority scheme rest
    | .other, _ => .ok { scheme }

end Url

end UpdateAgent
