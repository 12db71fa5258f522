import Calculator.Uri

/-! # Targets

The target of a request is what its address comes to: a scheme, a host, a path without escapes, and
a query. An address may leave out the scheme and the host, and may have more in it than belongs to a
target.

The address is taken apart twice, and what is then left as the path is written in ASCII before its
escapes are undone. So a path that itself looks like an address loses its scheme and its authority,
and one that has so many slashes in front that an authority is left in the end keeps it as its first
part.
-/

namespace Calculator.Service

open Text

/-- The target of a request. -/
structure Target where
  scheme : List Char
  host : List Char
  path : List Char
  query : List Char
deriving DecidableEq, Repr

namespace Target

/-- A part, or what takes its place if it is empty. -/
def orElse (part default : List Char) : List Char :=
  if part.isEmpty then default else part

/-- A path that is not empty starts with exactly one slash. -/
def rooted (path : List Char) : List Char :=
  if path.isEmpty then [] else '/' :: path.dropWhile (· == '/')

/-- The target that an address names. -/
def ofAddress (address : List Char) : Target :=
  let outer := Uri.ofText address
  let inner := Uri.ofText (outer.path ++ Uri.marked '?' outer.query)
  { scheme := orElse outer.scheme "http".toList
    host := (Authority.ofText (orElse outer.authority "localhost".toList)).encode
    path := rooted (percentUnescape (Uri.ofText inner.path).encode.text)
    query := inner.query }

/-- A host without the port that is standard for the scheme. -/
def withoutStandardPort (scheme host : List Char) : List Char :=
  let standard :=
    if ["http", "ws"].contains (String.ofList scheme) then ":80".toList
    else if ["https", "wss"].contains (String.ofList scheme) then ":443".toList
    else []
  if standard.isSuffixOf host then host.take (host.length - standard.length) else host

/-- A port behind a host: nothing, or a colon and digits. -/
def isPort : List Char → Bool
  | [] => true
  | c :: digits => c == ':' && !digits.isEmpty && digits.all isAsciiDigit

def isHexDigit (c : Char) : Bool :=
  (hexValue? c).isSome

/-- What stands in brackets: hexadecimal digits up to a colon, and behind it more of them, with
colons and points. -/
def isBracketed (cs : List Char) : Bool :=
  let (first, others) := cutAt ':' cs
  cs.contains ':' && first.all isHexDigit &&
    !others.isEmpty && others.all fun c => isHexDigit c || c == ':' || c == '.'

/-- A host made of the characters that hosts are made of, perhaps with a port: ASCII letters,
digits, points and hyphens, or an address in brackets. -/
def isProper : List Char → Bool
  | '[' :: cs =>
    let (address, rest) := cs.span (· != ']')
    isBracketed address && rest.head? == some ']' && isPort (rest.drop 1)
  | cs =>
    let (name, rest) := cs.span fun c => isAsciiLetter c || isAsciiDigit c || c == '.' || c == '-'
    !name.isEmpty && isPort rest

/-- The name of a host, with its port, in lower case. An improper host counts as an empty one. There
is no name if a label of the host is too long, or empty and not the last. -/
def serverName? (scheme host : List Char) : Option (List Char) :=
  let host := withoutStandardPort scheme host
  let (name, port) := (lower (if isProper host then host else [])).span (· != ':')
  (Host.ascii? name).map (· ++ port)

/-- The characters that a path is written with; the others are escaped. -/
def plainInPath : List Char := "!$&'()*+,/:;=@".toList

/-- The address of another path on the same server, with the same query. -/
def addressOf (target : Target) (server path : List Char) : List Char :=
  let path := '/' :: (percentEscape plainInPath path).dropWhile (· == '/')
  Uri.text ⟨target.scheme, server, path, target.query, []⟩

end Target

end Calculator.Service
