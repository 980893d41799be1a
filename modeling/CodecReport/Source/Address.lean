import CodecReport.Source.Host
import CodecReport.Text.Quoted

/-!
# Addresses

The scheme of a source tells whether it is fetched or read from disk. Controls and blanks in front and
line ends and tabs anywhere do not count. The authority behind two slashes must be well formed, also when
the scheme is none that is fetched.
-/

namespace CodecReport

open Text

inductive AddressFault
  | brackets
  | futureHost
  | fourPartHost
  | notHost (host : String)
  | delimiters (authority : String)
  deriving DecidableEq, Repr

namespace AddressFault

def message : AddressFault → String
  | .brackets => "Invalid IPv6 URL"
  | .futureHost => "IPvFuture address is invalid"
  | .fourPartHost => "An IPv4 address cannot be in brackets"
  | .notHost host => quoted host ++ " does not appear to be an IPv4 or IPv6 address"
  | .delimiters authority =>
    "netloc '" ++ authority ++ "' contains invalid characters under NFKC normalization"

end AddressFault

namespace Address

/-- The characters that count of the text of a source. -/
def cleaned (s : String) : List Char :=
  (s.toList.dropWhile fun c => c.toNat ≤ 32).filter fun c => c != '\t' && c != '\r' && c != '\n'

def isSchemeChar (c : Char) : Bool :=
  c.isAlphanum || c == '+' || c == '-' || c == '.'

/-- The scheme of an address in small letters, and the text behind its colon. Without a scheme the whole
text is left. -/
def splitScheme (cs : List Char) : String × List Char :=
  match cutAt ':' cs with
  | (scheme, some rest) =>
    if (scheme.head?.any Char.isAlpha) && scheme.all isSchemeChar then
      (String.ofList (scheme.map Char.toLower), rest)
    else ("", cs)
  | (_, none) => ("", cs)

def authority : List Char → List Char
  | '/' :: '/' :: rest => rest.takeWhile fun c => c != '/' && c != '?' && c != '#'
  | _ => []

/-- The text behind the last occurrence of a character, the whole text if there is none. -/
def afterLast (mark : Char) (cs : List Char) : List Char :=
  (cs.reverse.takeWhile (· != mark)).reverse

def checkBracketedHost (host : List Char) : Except AddressFault Unit :=
  if host.head? == some 'v' then
    if Host.isFuture host then .ok () else .error .futureHost
  else if Host.isFourPart host then .error .fourPartHost
  else if Host.isSixPart host then .ok ()
  else .error (.notHost (String.ofList host))

/-- Whether an authority that holds both brackets is well formed: nothing stands before the brackets and
only a port behind them. -/
def checkBracketed (authority : List Char) : Except AddressFault Unit :=
  match cutAt '[' (afterLast '@' authority) with
  | (before, some bracketed) =>
    let (host, port) := cutAt ']' bracketed
    let port := port.getD []
    if !before.isEmpty then .error .brackets
    else if !port.isEmpty && port.head? != some ':' then .error .brackets
    else checkBracketedHost host
  | (plain, none) => checkBracketedHost (cutAt ':' plain).1

/-- The characters whose compatible form holds a delimiter of addresses. -/
def hiddenDelimiters : List Nat :=
  [0x2047, 0x2048, 0x2049, 0x2100, 0x2101, 0x2105, 0x2106, 0x2a74, 0xfe13, 0xfe16, 0xfe55, 0xfe56,
   0xfe5f, 0xfe6b, 0xff03, 0xff0f, 0xff1a, 0xff1f, 0xff20]

def checkAuthority (authority : List Char) : Except AddressFault Unit := do
  let opens := authority.contains '['
  let closes := authority.contains ']'
  if opens != closes then throw .brackets
  if opens then checkBracketed authority
  if authority.any fun c => hiddenDelimiters.contains c.toNat then
    throw (.delimiters (String.ofList authority))

/-- The scheme of a source, empty if it has none. -/
def scheme (s : String) : Except AddressFault String := do
  let (scheme, rest) := splitScheme (cleaned s)
  checkAuthority (authority rest)
  return scheme

def isRemote (s : String) : Except AddressFault Bool := do
  let found ← scheme s
  return found == "http" || found == "https"

end Address

end CodecReport
