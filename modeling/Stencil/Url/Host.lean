/-
# Hosts

The host of a special address is a domain, an IPv4 address or an IPv6 address in brackets; a
domain whose last part is a number must be an IPv4 address.  The host of another address is kept
as it is, with controls and everything outside ASCII escaped.
-/
import Stencil.Codec.Percent
import Stencil.Text.Utf8
import Stencil.Url.Basic
import Stencil.Url.Domain.Ascii
import Stencil.Url.Ip

namespace Stencil
namespace Url

/-- Reads an IPv6 address in brackets. -/
def readBracketed (s : Text) : Option Text :=
  if s.getLast? = some ']' then
    (Ip.readV6 (s.drop 1).dropLast).map fun l => '[' :: Ip.writeV6 l ++ [']']
  else none

/-- Reads the host of a special address. -/
def readDomain (s : Text) : Option Text := do
  let decoded ← Utf8.decode? (Percent.unescape s.utf8)
  let domain ← Domain.toAscii? decoded
  if domain = [] then none
  else if Ip.endsInNumber domain then (Ip.readV4 domain).map Ip.writeV4
  else some domain

/-- No host that is kept as it is may hold this character. -/
def isForbiddenInHost (c : Char) : Bool := "\x00\t\n\r #/:<>?@[\\]^|".toList.contains c

/-- Reads a host that is not numeric and belongs to no special address. -/
def readPlainHost (s : Text) : Option Text :=
  if s.any isForbiddenInHost then none else some (Percent.encodeText isControl s)

/-- Reads a host, which gives its written form. -/
def readHost (k : Kind) (s : Text) : Option Text :=
  if s.head? = some '[' then readBracketed s
  else if k.isSpecial then readDomain s
  else readPlainHost s

end Url
end Stencil
