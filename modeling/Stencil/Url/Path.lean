/-
# Paths of addresses

A path is read segment by segment.  Each segment is escaped and added to what has been read, a
segment of one dot is left out, and one of two dots takes the last segment away.  A dot may be
written as an escape.

Drive letters get three extra rules: a letter with `:` or `|` as the first segment of a file path
is written with `:`, two dots do not take a drive letter away, and a break in the input parts a
drive letter from what follows it in its segment.
-/
import Stencil.Codec.Percent
import Stencil.Url.Basic

namespace Stencil
namespace Url

/-! ## 1. Drive letters -/

/-- An ASCII letter. -/
def isLetter (c : Char) : Bool := ('a' ≤ c && c ≤ 'z') || ('A' ≤ c && c ≤ 'Z')

/-- Exactly a letter and `:` or `|`. -/
def isDrive : Text → Bool
  | [c, d] => isLetter c && (d == ':' || d == '|')
  | _ => false

/-- Exactly a letter and `:`. -/
def isPlainDrive : Text → Bool
  | [c, ':'] => isLetter c
  | _ => false

/-- Starts with a drive letter that ends there or before a separator. -/
def startsWithDrive : Text → Bool
  | c :: d :: rest =>
    isDrive [c, d] &&
      match rest with
      | [] => true
      | e :: _ => e == '/' || e == '\\' || e == '?' || e == '#'
  | _ => false

/-! ## 2. The end of a path -/

/-- Up to the last slash, with it. -/
def toLastSlash (path : Text) : Text := (path.reverse.dropWhile (· != '/')).reverse

/-- After the last slash. -/
def afterLastSlash (path : Text) : Text := (path.reverse.takeWhile (· != '/')).reverse

/-- The slash at the end of a path belongs to a segment that can be taken away. -/
def canDropSlash (path : Text) : Bool :=
  let before := path.dropLast
  before.contains '/' && !startsWithDrive (afterLastSlash before ++ ['/'])

/-- Takes the last segment away. -/
def dropSegment (k : Kind) (path : Text) : Text :=
  let path := if path.getLast? = some '/' ∧ canDropSlash path then path.dropLast else path
  if k = .file ∧ (isPlainDrive path ∨ isPlainDrive (afterLastSlash path)) then path
  else toLastSlash path

/-! ## 3. Reading -/

/-- A segment that stands for its own level. -/
def isDot (segment : Text) : Bool :=
  let s := segment.map Text.lowerAscii
  s = ['.'] ∨ s = "%2e".toList

/-- A segment that stands for the level above. -/
def isDotDot (segment : Text) : Bool :=
  let s := segment.map Text.lowerAscii
  s = "..".toList ∨ s = "%2e%2e".toList ∨ s = "%2e.".toList ∨ s = ".%2e".toList

/-- A path with one more segment, which is followed by a slash or ends the path.  The second part
says that the segment is the drive letter of a file path. -/
def addSegment (k : Kind) (path segment : Text) (slash : Bool) : Text × Bool :=
  let close := fun s : Text => if slash && s.getLast? != some '/' then s ++ ['/'] else s
  let after := if slash then ['/'] else []
  if isDotDot segment then (close (dropSegment k path), false)
  else if isDot segment then (if path.getLast? = some '/' then path else path ++ ['/'], false)
  else if k = .file ∧ path.length = 1 ∧ isDrive segment then
    (path ++ segment.take 1 ++ ':' :: after, true)
  else (path ++ segment ++ after, false)

/-- A segment without breaks.  As the first segment of a file path, a drive letter that a break
parts from more characters gets a slash after it, and counts as a drive letter no more. -/
def joinBreaks (k : Kind) (path : Text) (segment : Text) : Text :=
  match segment with
  | c :: ':' :: '\t' :: d :: rest =>
    if k = .file ∧ path.length = 1 ∧ isLetter c then c :: ':' :: '/' :: dropBreaks (d :: rest)
    else dropBreaks segment
  | _ => dropBreaks segment

/-- Adds segments in turn; the last one is not followed by a slash. -/
def addSegments (k : Kind) (path : Text) : List Text → Text × Bool
  | [] => (path, false)
  | [s] => addSegment k path (Percent.encodeText inPath (joinBreaks k path s)) false
  | s :: rest =>
    let (path, drive) := addSegment k path (Percent.encodeText inPath (joinBreaks k path s)) true
    let (path, drive') := addSegments k path rest
    (path, drive || drive')

/-- Reads a path after what has been read of it, and says whether it has a drive letter.  The
path of a file starts with one slash only. -/
def readPath (k : Kind) (path input : Text) : Text × Bool :=
  let segments := input.splitOnP fun c => c == '/' || (k.isSpecial && c == '\\')
  let (path, drive) := addSegments k path segments
  (if k = .file then '/' :: path.dropWhile (· == '/') else path, drive)

end Url
end Stencil
