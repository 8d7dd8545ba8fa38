/-
# Numeric hosts

An IPv4 address is up to four numbers between dots, the last of which fills all bytes that are
left.  A number may be decimal, octal after `0` or hexadecimal after `0x`.  It is written as
four decimal numbers.

An IPv6 address is eight pieces of 16 bits in hexadecimal between colons, where one run of zero
pieces may be left out and the last two pieces may be written as an IPv4 address.  It is
written with the first longest run of at least two zero pieces left out.
-/
import Stencil.Power
import Stencil.Text.Numeral

namespace Stencil
namespace Ip

/-! ## 1. IPv4 -/

/-- Reads digits of a base, of which there may be none. -/
def readDigits (base : Nat) (s : Text) : Option Nat :=
  s.foldl (fun n c => n.bind fun n =>
    (Text.hexValue? c).bind fun d => if d < base then some (n * base + d) else none) (some 0)

/-- Reads one number of an IPv4 address. -/
def readNumber : Text → Option Nat
  | [] => none
  | ['0'] => some 0
  | '0' :: 'x' :: s => readDigits 16 s
  | '0' :: 'X' :: s => readDigits 16 s
  | '0' :: s => readDigits 8 s
  | s => readDigits 10 s

/-- The parts of a host between dots, without an empty last one. -/
def parts (host : Text) : List Text :=
  let all := host.splitOn '.'
  if all.getLast? = some [] then all.dropLast else all

/-- The last part of a host is a number, so that it has to be an IPv4 address. -/
def endsInNumber (host : Text) : Bool :=
  match (parts host).getLast? with
  | none => false
  | some last =>
    (!last.isEmpty && last.all fun c => (Text.digitValue? c).isSome) || (readNumber last).isSome

/-- Reads an IPv4 address. -/
def readV4 (host : Text) : Option Nat := do
  let numbers ← (parts host).mapM readNumber
  if 4 < numbers.length then none
  else
    let last ← numbers.getLast?
    let bytes := numbers.dropLast
    if twoTo (32 - 8 * bytes.length) ≤ last ∨ bytes.any (255 < ·) then none
    else some (bytes.foldl (fun n b => n * 256 + b) 0 * twoTo (32 - 8 * bytes.length) + last)

/-- The written form of an IPv4 address. -/
def writeV4 (n : Nat) : Text :=
  Text.join ['.'] ([n / twoTo 24 % 256, n / twoTo 16 % 256, n / twoTo 8 % 256, n % 256].map Text.ofNat)

/-! ## 2. IPv6 -/

/-- Reads one decimal number of an embedded IPv4 address: at most 255, without leading zeros. -/
def readByte (s : Text) : Option Nat :=
  if s = [] ∨ (s.head? = some '0' ∧ 1 < s.length) ∨ 3 < s.length then none
  else (readDigits 10 s).bind fun n => if n ≤ 255 then some n else none

/-- Reads an embedded IPv4 address as two pieces. -/
def readEmbedded (s : Text) : Option (List Nat) :=
  match (s.splitOn '.').mapM readByte with
  | some [a, b, c, d] => some [a * 256 + b, c * 256 + d]
  | _ => none

/-- Reads a piece of one to four hexadecimal digits. -/
def readPiece (s : Text) : Option Nat :=
  if s = [] ∨ 4 < s.length then none else readDigits 16 s

/-- Reads pieces between colons, of which the last may be an embedded IPv4 address. -/
def readPieces : List Text → Option (List Nat)
  | [] => some []
  | [s] => if s.contains '.' then readEmbedded s else (readPiece s).map ([·])
  | s :: rest => do
    let piece ← readPiece s
    let pieces ← readPieces rest
    some (piece :: pieces)

/-- Reads a colon-separated stretch, which may be empty. -/
def readStretch (s : Text) : Option (List Nat) :=
  if s = [] then some [] else readPieces (s.splitOn ':')

/-- The text before the first `::` and the text after it. -/
def splitGap : Text → Option (Text × Text)
  | ':' :: ':' :: s => some ([], s)
  | c :: s => (splitGap s).map fun p => (c :: p.1, p.2)
  | [] => none

/-- Reads an IPv6 address as eight pieces. -/
def readV6 (s : Text) : Option (List Nat) :=
  match splitGap s with
  | none => (readStretch s).bind fun l => if l.length = 8 then some l else none
  | some (before, after) => do
    let first ← if before.contains '.' then none else readStretch before
    let last ← readStretch after
    let count := first.length + last.length
    if 8 ≤ count then none else some (first ++ List.replicate (8 - count) 0 ++ last)

/-- The length of the run of zeros that a list starts with. -/
def zeroRun (l : List Nat) : Nat := (l.takeWhile (· == 0)).length

/-- The length of the longest run of zeros. -/
def longestRun : List Nat → Nat
  | [] => 0
  | n :: l => max (zeroRun (n :: l)) (longestRun l)

/-- The pieces before the first run of `length` zeros. -/
def beforeRun (length : Nat) : List Nat → List Nat
  | [] => []
  | n :: l => if zeroRun (n :: l) = length then [] else n :: beforeRun length l

/-- Pieces between colons. -/
def writePieces (l : List Nat) : Text := Text.join [':'] (l.map Text.ofNatHex)

/-- The written form of an IPv6 address. -/
def writeV6 (l : List Nat) : Text :=
  let run := longestRun l
  if run < 2 then writePieces l
  else
    let before := beforeRun run l
    writePieces before ++ [':', ':'] ++ writePieces (l.drop (before.length + run))

end Ip
end Stencil
