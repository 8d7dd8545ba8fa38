/-
# Domains in ASCII

A domain is looked up in a form with ASCII characters only.  Its characters are mapped and
composed, and it is cut at its dots into labels.  A label with other characters is written in
punycode after `xn--`; a label that starts so already has to be punycode for such a label.

Labels with other characters must start with no mark, must hold joiners only where they join,
and must not mix directions of writing if any label is written from right to left.  They are not
longer than a limit, since the time to write punycode grows with the square of the length.
-/
import Stencil.Url.Domain.Classes
import Stencil.Url.Domain.Compose
import Stencil.Url.Domain.Mapping
import Stencil.Url.Domain.Punycode

namespace Stencil
namespace Domain

/-- An ASCII character that no domain may hold. -/
def isForbidden (c : Char) : Bool :=
  c.toNat ≤ 0x20 || c.toNat == 0x7f || "%#/:<>?@[\\]^|".toList.contains c

/-- All characters are of ASCII. -/
def isAscii (s : Text) : Bool := s.all fun c => c.toNat < 0x80

/-! ## 1. Joiners -/

/-- A mark that makes the consonant before it lose its vowel, after which a joiner may stand. -/
def isVirama (c : Char) : Bool := Compose.classOf c.toNat == 9

/-- A joiner with `before` before it, last character first, and `after` after it is in place. -/
def joinerInPlace (before : Text) (c : Char) (after : Text) : Bool :=
  if c.toNat = 0x200c then
    before.head?.any isVirama ||
      ((before.dropWhile isTransparent).head?.any joinsAfter
        && (after.dropWhile isTransparent).head?.any joinsBefore)
  else if c.toNat = 0x200d then before.head?.any isVirama
  else true

/-- All joiners of a label are in place. -/
def joinersInPlace (before : Text) : Text → Bool
  | [] => true
  | c :: after => joinerInPlace before c after && joinersInPlace (c :: before) after

/-! ## 2. Direction -/

/-- A label has a character that is written from right to left. -/
def hasLeftward (label : Text) : Bool :=
  label.any fun c => direction c == .leftward || direction c == .arabicDigit

/-- The direction of the last character that is no mark. -/
def lastDirection (ds : List Direction) : Option Direction :=
  (ds.reverse.dropWhile (· == .nonspacing)).head?

/-- A label does not mix directions. -/
def directionsAgree (label : Text) : Bool :=
  let ds := label.map direction
  match ds.head? with
  | none => true
  | some .leftward =>
    ds.all (· != .rightward) && !(ds.contains .digit && ds.contains .arabicDigit)
      && (lastDirection ds).any fun d => d == .leftward || d == .digit || d == .arabicDigit
  | some .rightward =>
    ds.all (fun d => d != .leftward && d != .arabicDigit)
      && (lastDirection ds).any fun d => d == .rightward || d == .digit
  | some _ => false

/-! ## 3. Labels -/

/-- The mark of a label in punycode. -/
def punycodeMark : Text := "xn--".toList

/-- The greatest length of a label with characters outside ASCII. -/
def maxMeantLength : Nat := 1000

/-- The greatest length of what follows the mark of punycode. -/
def maxPunycodeLength : Nat := 2000

/-- A label as it is meant: one in punycode is read, and must need punycode. -/
def readLabel (label : Text) : Option Text :=
  if punycodeMark.isPrefixOf label then
    let written := label.drop punycodeMark.length
    if maxPunycodeLength < written.length then none
    else
      match Punycode.decode written with
      | some s =>
        if !isAscii s && s.all isKept && Compose.normalize s = s then some s else none
      | none => none
  else some label

/-- A label with characters outside ASCII is short enough and holds them where they may stand. -/
def isWellFormed (label : Text) : Bool :=
  isAscii label
    || (label.length ≤ maxMeantLength && !label.head?.any isMark && joinersInPlace [] label)

/-- A label in ASCII. -/
def writeLabel (label : Text) : Text :=
  if isAscii label then label else punycodeMark ++ Punycode.encode label

/-- The ASCII form of a domain; `none` when it is no domain. -/
def toAscii? (s : Text) : Option Text := do
  let mapped ← mapAll s
  let domain := if isAscii mapped then mapped else Compose.normalize mapped
  if domain.any isForbidden then none
  else
    let labels := domain.splitOn '.'
    let meant ← labels.mapM readLabel
    if meant.all isWellFormed && (!meant.any hasLeftward || meant.all directionsAgree) then
      some (Text.join ['.'] (labels.map writeLabel))
    else none

end Domain
end Stencil
