/-
# Reading addresses

`Url.parse?` reads an address that starts with its scheme.  Blanks and controls around it are
ignored, and so are tabs and line ends inside, but for one after a drive letter.  After the
scheme:

* a special address has an authority, however many slashes come before it;
* a file address has a host only after two slashes;
* any other address has an authority after two slashes, a path after one, and is rootless
  otherwise.
-/
import Stencil.Url.Host
import Stencil.Url.Path

namespace Stencil
namespace Url

/-! ## 1. Cutting -/

/-- Starts a query or a fragment. -/
def endsPath (c : Char) : Bool := c == '?' || c == '#'

/-- Starts a path, a query or a fragment. -/
def endsAuthority (k : Kind) (c : Char) : Bool :=
  c == '/' || endsPath c || (k.isSpecial && c == '\\')

/-- Separates segments of a path. -/
def isSlash (c : Char) : Bool := c == '/' || c == '\\'

/-- The input without the blanks and controls around it. -/
def trim (s : Text) : Text :=
  let ignored := fun c : Char => c.toNat ≤ 0x20
  ((s.dropWhile ignored).reverse.dropWhile ignored).reverse

/-- The scheme in lower case, and what follows its colon. -/
def readScheme (s : Text) : Option (Text × Text) :=
  let isSchemeChar := fun c : Char =>
    isLetter c || ('0' ≤ c && c ≤ '9') || c == '+' || c == '-' || c == '.'
  let name := s.takeWhile isSchemeChar
  match name.head?, s.drop name.length with
  | some c, ':' :: rest => if isLetter c then some (name.map Text.lowerAscii, rest) else none
  | _, _ => none

/-- What stands before the last `@`, if there is one, and what stands after it. -/
def splitUser (s : Text) : Option Text × Text :=
  let host := (s.reverse.takeWhile (· != '@')).reverse
  if host.length = s.length then (none, s)
  else (some (s.take (s.length - host.length - 1)), host)

/-- The length of a host: up to the first colon outside brackets. -/
def hostLength : Bool → Text → Nat
  | _, [] => 0
  | inside, c :: s =>
    if c = ':' ∧ !inside then 0
    else hostLength (if c = '[' then true else if c = ']' then false else inside) s + 1

/-! ## 2. The authority -/

/-- Reads a port after its colon: its number, and what follows its digits. -/
def readPort (s : Text) : Option (Option Nat × Text) :=
  let digits := s.takeWhile fun c => (Text.digitValue? c).isSome
  let rest := s.drop digits.length
  match Ip.readDigits 10 digits with
  | none => none
  | some n =>
    if 65535 < n ∨ (rest ≠ [] ∧ rest.head? ≠ some '\\') then none
    else some (if digits = [] then none else some n, rest)

/-- Reads an authority and what follows it. -/
def readAuthority (scheme : Text) (s : Text) : Option (Authority × Text) := do
  let k := kindOf scheme
  let text := s.takeWhile fun c => !endsAuthority k c
  let rest := s.drop text.length
  let (userinfo, place) := splitUser text
  if userinfo = some [] ∧ place = [] ∧ rest ≠ [] then none
  else
    let userinfo := userinfo.getD []
    let user := Percent.encodeText inUser (userinfo.takeWhile (· != ':'))
    let password := Percent.encodeText inUser ((userinfo.dropWhile (· != ':')).drop 1)
    let length := hostLength false place
    let written := place.take length
    let afterHost := place.drop length
    if written = [] ∧ (k.isSpecial ∨ afterHost ≠ [] ∨ user ≠ [] ∨ password ≠ []) then none
    else
      let host ← readHost k written
      let (port, after) ← if afterHost = [] then some (none, []) else readPort (afterHost.drop 1)
      let port := if port = usualPort? scheme then none else port
      some (⟨user, password, host, port⟩, after ++ rest)

/-! ## 3. The parts after the authority -/

/-- Reads a query and a fragment. -/
def readTail (k : Kind) (s : Text) : Option Text × Option Text :=
  let fragment := fun s : Text =>
    match s with
    | '#' :: f => some (Percent.encodeText inFragment f)
    | _ => none
  match s with
  | '?' :: rest =>
    let query := rest.takeWhile (· != '#')
    (some (Percent.encodeText (inQuery k) query), fragment (rest.drop query.length))
  | s => (none, fragment s)

/-- Reads a path after an authority.  The path of a special address is never empty. -/
def readPathAfter (k : Kind) (s : Text) : Text × Bool :=
  if k.isSpecial then
    match s with
    | c :: rest => if isSlash c then readPath k ['/'] rest else readPath k ['/'] s
    | [] => readPath k ['/'] []
  else
    match s with
    | [] => ([], false)
    | '/' :: _ => readPath k [] s
    | _ => readPath k ['/'] s

/-- Puts an address together from an authority and what follows it. -/
def assemble (scheme : Text) (authority : Option Authority) (path : Text) (tail : Text) : Url :=
  let (query, fragment) := readTail (kindOf scheme) (dropBreaks tail)
  ⟨scheme, authority, path, query, fragment⟩

/-- Reads an address from its authority on. -/
def readFromAuthority (scheme s : Text) : Option Url := do
  let (authority, rest) ← readAuthority scheme s
  let path := rest.takeWhile fun c => !endsPath c
  some (assemble scheme (some authority) (readPathAfter (kindOf scheme) path).1
    (rest.drop path.length))

/-- The authority of a file: a host without user and port. -/
def fileAuthority (host : Text) : Authority := ⟨[], [], host, none⟩

/-- Reads a file address from the host on.  A drive letter is no host, the local host is not
written, and a path with a drive letter has no host. -/
def readFileHost (s : Text) : Option Url := do
  let scheme := "file".toList
  let text := s.takeWhile fun c => !endsAuthority .file c
  let written := if isDrive (dropBreaks text) then [] else text
  let host ← if written = [] then some [] else readHost .file (dropBreaks written)
  let rest := s.drop written.length
  let path := rest.takeWhile fun c => !endsPath c
  let tail := rest.drop path.length
  if host = [] ∨ host = "localhost".toList then
    some (assemble scheme (some (fileAuthority [])) (readPath .file ['/'] path).1 tail)
  else
    let (path, drive) := readPathAfter .file path
    some (assemble scheme (some (fileAuthority (if drive then [] else host))) path tail)

/-- Reads a file address after its scheme. -/
def readFile (s : Text) : Option Url :=
  let withPath := fun (start s : Text) =>
    let path := s.takeWhile fun c => !endsPath c
    some (assemble "file".toList (some (fileAuthority [])) (readPath .file start path).1
      (s.drop path.length))
  match s with
  | c :: d :: rest =>
    if isSlash c then if isSlash d then readFileHost rest else withPath [] s
    else withPath ['/'] s
  | [c] => if isSlash c then withPath [] s else withPath ['/'] s
  | [] => withPath ['/'] []

/-- Reads an address that is not special after its scheme. -/
def readOther (scheme s : Text) : Option Url :=
  match s with
  | '/' :: '/' :: rest => readFromAuthority scheme rest
  | s =>
    let path := s.takeWhile fun c => !endsPath c
    let written := match path with
      | '/' :: rest => (readPath .other ['/'] rest).1
      | path => Percent.encodeText isControl path
    some (assemble scheme none written (s.drop path.length))

/-- Reads an address. -/
def parse? (s : Text) : Option Url := do
  let (scheme, rest) ← readScheme (keepColonBreaks (trim s))
  match kindOf scheme with
  | .file => readFile (rest.dropWhile isTabOrNewline)
  | .special => readFromAuthority scheme ((dropBreaks rest).dropWhile isSlash)
  | .other => readOther scheme (dropBreaks rest)

/-! ## 4. Queries -/

/-- The address with another query.  Without a query and a fragment, blanks at the end of a
rootless path would be read differently, so they are taken off. -/
def setQuery (u : Url) (query : Option Text) : Url :=
  match query with
  | some q =>
    { u with query := some (Percent.encodeText (inQuery (kindOf u.scheme)) (dropBreaks q)) }
  | none =>
    let path :=
      if u.isRootless && u.fragment.isNone then (u.path.reverse.dropWhile (· == ' ')).reverse
      else u.path
    { u with query := none, path }

end Url
end Stencil
