/-
# Addresses

A parsed address and its written form.  An address has a scheme and a path; it may have an
authority (a user, a host and a port), a query and a fragment.  Components are kept in escaped
form.

Six schemes are special: their addresses always have an authority, and five of them a usual
port that is not written.
-/
import Stencil.Text.Numeral

namespace Stencil
namespace Url

/-- The kinds of schemes that are parsed by different rules. -/
inductive Kind
  | file
  | special
  | other
deriving DecidableEq

/-- The kind of a scheme. -/
def kindOf (scheme : Text) : Kind :=
  if scheme = "file".toList then .file
  else if scheme = "http".toList ∨ scheme = "https".toList ∨ scheme = "ws".toList
      ∨ scheme = "wss".toList ∨ scheme = "ftp".toList then
    .special
  else .other

/-- Is a file or another special scheme. -/
def Kind.isSpecial (k : Kind) : Bool := k != .other

/-- The port that need not be written. -/
def usualPort? (scheme : Text) : Option Nat :=
  if scheme = "http".toList ∨ scheme = "ws".toList then some 80
  else if scheme = "https".toList ∨ scheme = "wss".toList then some 443
  else if scheme = "ftp".toList then some 21
  else none

/-- Who asks, where, and at which port.  The host is in written form. -/
structure Authority where
  user : Text
  /-- Empty when there is none. -/
  password : Text
  host : Text
  port : Option Nat
deriving DecidableEq

/-- The written form of an authority. -/
def Authority.write (a : Authority) : Text :=
  a.user ++ (if a.password = [] then [] else ':' :: a.password)
    ++ (if a.user = [] ∧ a.password = [] then [] else ['@'])
    ++ a.host
    ++ match a.port with
      | some n => ':' :: Text.ofNat n
      | none => []

end Url

/-- A parsed address. -/
structure Url where
  scheme : Text
  authority : Option Url.Authority
  path : Text
  query : Option Text
  fragment : Option Text
deriving DecidableEq

namespace Url

/-- The path is one piece of text that no segments can be taken from. -/
def isRootless (u : Url) : Bool := u.authority.isNone && u.path.head? != some '/'

/-- The authority with its slashes.  Without an authority, a path that starts with two slashes is
marked by `/.`, so that it is not read as one. -/
def writeAuthority (u : Url) : Text :=
  match u.authority with
  | some a => ['/', '/'] ++ a.write
  | none => if ['/', '/'].isPrefixOf u.path then ['/', '.'] else []

/-- The written form of an address. -/
def write (u : Url) : Text :=
  u.scheme ++ ':' :: u.writeAuthority ++ u.path
    ++ (match u.query with
      | some q => '?' :: q
      | none => [])
    ++ match u.fragment with
      | some f => '#' :: f
      | none => []

/-! ## Escaping rules -/

/-- A control of ASCII. -/
def isControl (c : Char) : Bool := c.toNat < 0x20 || c.toNat == 0x7f

/-- Escaped in a fragment. -/
def inFragment (c : Char) : Bool := isControl c || " \"<>\x60".toList.contains c

/-- Escaped in a path. -/
def inPath (c : Char) : Bool := inFragment c || "#?\x7b\x7d".toList.contains c

/-- Escaped in a user name or a password. -/
def inUser (c : Char) : Bool := inPath c || "/:;=@[\\]^|".toList.contains c

/-- Escaped in a query. -/
def inQuery (k : Kind) (c : Char) : Bool :=
  isControl c || " \"#<>".toList.contains c || (k.isSpecial && c == '\'')

/-! ## Breaks -/

/-- A tab or a line end, which an address is read without. -/
def isTabOrNewline (c : Char) : Bool := c == '\t' || c == '\n' || c == '\r'

/-- A text without breaks. -/
def dropBreaks (s : Text) : Text := s.filter fun c => !isTabOrNewline c

/-- A text without breaks but for those after a colon, which are kept as one tab: a drive letter
ends there. -/
def keepColonBreaks : Text → Text
  | [] => []
  | c :: s =>
    if isTabOrNewline c then keepColonBreaks s
    else if c == ':' && s.head?.any isTabOrNewline then c :: '\t' :: keepColonBreaks s
    else c :: keepColonBreaks s

end Url
end Stencil
