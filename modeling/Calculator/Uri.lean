import Calculator.Number.Read
import Calculator.Text.Percent
import Calculator.Text.Split
import Calculator.Uri.Host

/-! # Addresses

An address is a text with up to five parts: `scheme://authority/path?query#fragment`. Any text is
one: what looks like no other part is the path. `Uri.ofText` takes an address apart and `Uri.text`
puts it together; `Uri.encode` writes it in ASCII.

Blanks and controls in front of an address do not belong to it, and line ends and tabs are left out
wherever they stand.
-/

namespace Calculator

open Text

/-- An address in its parts. A part that is missing is empty. -/
structure Uri where
  scheme : List Char
  authority : List Char
  path : List Char
  query : List Char
  fragment : List Char
deriving DecidableEq, Repr

namespace Uri

/-- The text of an address without what does not belong to it. -/
def clean (cs : List Char) : List Char :=
  (cs.dropWhile fun c => c.toNat ≤ 0x20).filter fun c => c != '\t' && c != '\n' && c != '\r'

/-- A character of a scheme behind its first letter. -/
def isSchemeChar (c : Char) : Bool :=
  isAsciiLetter c || isAsciiDigit c || c == '+' || c == '-' || c == '.'

/-- The scheme in lower case, and the rest. -/
def splitScheme (cs : List Char) : List Char × List Char :=
  let (front, rest) := cutAt ':' cs
  if cs.contains ':' && front.head?.any isAsciiLetter && front.all isSchemeChar then
    (front.map Char.toLower, rest)
  else ([], cs)

/-- The authority, which stands behind two slashes, and the rest. -/
def splitAuthority : List Char → List Char × List Char
  | '/' :: '/' :: cs => cs.span fun c => c != '/' && c != '?' && c != '#'
  | cs => ([], cs)

/-- An address taken apart. -/
def ofText (cs : List Char) : Uri :=
  let (scheme, cs) := splitScheme (clean cs)
  let (authority, cs) := splitAuthority cs
  let (cs, fragment) := cutAt '#' cs
  let (path, query) := cutAt '?' cs
  ⟨scheme, authority, path, query, fragment⟩

/-- A part with its mark in front of it, or nothing if it is empty. -/
def marked (mark : Char) (part : List Char) : List Char :=
  if part.isEmpty then [] else mark :: part

/-- The schemes whose addresses have an authority, if only an empty one. -/
def schemesWithAuthority : List String := [
  "ftp", "http", "gopher", "nntp", "telnet", "imap", "wais", "file", "mms", "https", "shttp",
  "snews", "prospero", "rtsp",
  "rtsps", "rtspu", "rsync", "svn", "svn+ssh", "sftp", "nfs", "git", "git+ssh", "ws", "wss"]

/-- The authority and the path. A path that starts with two slashes is kept apart from the authority
by two more. -/
def hierarchy (u : Uri) : List Char :=
  if !u.authority.isEmpty || schemesWithAuthority.contains (String.ofList u.scheme) ||
      ['/', '/'].isPrefixOf u.path then
    let path := if u.path.isEmpty || u.path.head? = some '/' then u.path else '/' :: u.path
    ['/', '/'] ++ u.authority ++ path
  else u.path

/-- The text of an address. -/
def text (u : Uri) : List Char :=
  let scheme := if u.scheme.isEmpty then [] else u.scheme ++ [':']
  scheme ++ u.hierarchy ++ marked '?' u.query ++ marked '#' u.fragment

end Uri

/-! ### Authorities -/

/-- An authority in its parts: `user:password@host:port`. A part that is missing is empty. -/
structure Authority where
  user : List Char
  password : List Char
  host : List Char
  port : List Char
deriving DecidableEq, Repr

namespace Authority

/-- A host and a port. A host that has colons stands in brackets. -/
def splitPort (cs : List Char) : List Char × List Char :=
  if cs.contains '[' then
    let (host, rest) := cutAt ']' (cutAt '[' cs).2
    (host, (cutAt ':' rest).2)
  else cutAt ':' cs

/-- An authority taken apart. -/
def ofText (cs : List Char) : Authority :=
  let (account, place) := cutAtLast '@' cs
  let (user, password) := cutAt ':' account
  let (host, port) := splitPort place
  ⟨user, password, host, port⟩

/-- The characters of a name or a password that are not escaped. -/
def plain : List Char := "%!$&'()*+,;=".toList

/-- A host in lower case, but for what follows a percent sign, and in ASCII. -/
def encodeHost (host : List Char) : List Char :=
  let (name, zone) := host.span (· != '%')
  let host := lower name ++ zone
  let host := (Host.ascii? host).getD host
  if host.contains ':' then '[' :: host ++ [']'] else host

/-- A port without leading zeros. The port zero is as good as none. -/
def encodePort (port : List Char) : List Char :=
  if Number.ofDigits port = 0 then [] else Nat.toDigits 10 (Number.ofDigits port)

/-- An authority in ASCII. A password goes with a name only. -/
def encode (a : Authority) : List Char :=
  let account :=
    if a.user.isEmpty then []
    else percentEscape plain a.user ++ Uri.marked ':' (percentEscape plain a.password) ++ ['@']
  account ++ encodeHost a.host ++ Uri.marked ':' (encodePort a.port)

end Authority

namespace Uri

/-- The characters of a path that are not escaped; escapes are left as they are. -/
def plainInPath : List Char := "%!$&'()*+,/:;=@".toList

/-- An address in ASCII. -/
def encode (u : Uri) : Uri where
  scheme := u.scheme
  authority := (Authority.ofText u.authority).encode
  path := percentEscape plainInPath u.path
  query := percentEscape ('?' :: plainInPath) u.query
  fragment := percentEscape ('#' :: '?' :: plainInPath) u.fragment

end Uri

end Calculator
