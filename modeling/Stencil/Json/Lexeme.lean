/-
# JSON lexemes

A JSON text is first read as a list of lexemes.  The reader is a machine with a state for each
place inside a lexeme.  Where a text stops being JSON, one lexeme `bad` stands for the fault and
for everything after it.

A number must also lie in the range that `Json.inRange` tells.
-/
import Stencil.Json.Range

namespace Stencil
namespace Json

/-- A smallest part of a JSON text. -/
inductive Lexeme
  | openBrace | closeBrace | openBracket | closeBracket | colon | comma
  | null
  | bool (b : Bool)
  | number (written : Text)
  | text (s : Text)
  /-- From here on the text is not JSON. -/
  | bad
deriving DecidableEq

/-- A place inside a number, named for what was read last. -/
inductive Place
  | sign | zero | whole | point | fraction | exponent | exponentSign | exponentDigits
deriving DecidableEq

namespace Place

/-- A number can end here. -/
def canEnd : Place → Bool
  | .zero => true
  | .whole => true
  | .fraction => true
  | .exponentDigits => true
  | _ => false

/-- The next place, when a character continues the number. -/
def next? (p : Place) (c : Char) : Option Place :=
  let digit := '0' ≤ c ∧ c ≤ '9'
  match p with
  | .sign => if c = '0' then some .zero else if digit then some .whole else none
  | .zero => if c = '.' then some .point else if c = 'e' ∨ c = 'E' then some .exponent else none
  | .whole =>
    if digit then some .whole else if c = '.' then some .point
    else if c = 'e' ∨ c = 'E' then some .exponent else none
  | .point => if digit then some .fraction else none
  | .fraction =>
    if digit then some .fraction else if c = 'e' ∨ c = 'E' then some .exponent else none
  | .exponent =>
    if digit then some .exponentDigits else if c = '+' ∨ c = '-' then some .exponentSign else none
  | .exponentSign => if digit then some .exponentDigits else none
  | .exponentDigits => if digit then some .exponentDigits else none

end Place

/-- A place in a JSON text.  Texts and numbers are gathered last character first. -/
inductive State
  | between
  /-- Inside a word of which `rest` is still missing. -/
  | word (rest : Text) (whole : Lexeme)
  | number (place : Place) (read : Text)
  | text (read : Text)
  /-- After a backslash. -/
  | escape (read : Text)
  /-- Inside four digits, after those of a high surrogate if there was one. -/
  | point (read : Text) (high : Option Nat) (count value : Nat)
  /-- After a high surrogate; `slash` says that a backslash has followed. -/
  | surrogate (read : Text) (high : Nat) (slash : Bool)
deriving DecidableEq

/-- White space between lexemes. -/
def isSpace (c : Char) : Bool := c == ' ' || c == '\n' || c == '\t' || c == '\r'

/-- Reads a character between two lexemes. -/
def start (c : Char) : Option (List Lexeme × State) :=
  if isSpace c then some ([], .between)
  else match c with
    | '\x7b' => some ([.openBrace], .between)
    | '\x7d' => some ([.closeBrace], .between)
    | '[' => some ([.openBracket], .between)
    | ']' => some ([.closeBracket], .between)
    | ':' => some ([.colon], .between)
    | ',' => some ([.comma], .between)
    | '"' => some ([], .text [])
    | 'n' => some ([], .word ['u', 'l', 'l'] .null)
    | 't' => some ([], .word ['r', 'u', 'e'] (.bool true))
    | 'f' => some ([], .word ['a', 'l', 's', 'e'] (.bool false))
    | '-' => some ([], .number .sign ['-'])
    | '0' => some ([], .number .zero ['0'])
    | c => if '1' ≤ c ∧ c ≤ '9' then some ([], .number .whole [c]) else none

/-- The lexeme of a finished number. -/
def finishNumber (place : Place) (read : Text) : Option Lexeme :=
  if place.canEnd && inRange read.reverse then some (.number read.reverse) else none

/-- The character of a one-letter escape. -/
def escaped? : Char → Option Char
  | '"' => some '"'
  | '\\' => some '\\'
  | '/' => some '/'
  | 'b' => some '\x08'
  | 'f' => some '\x0c'
  | 'n' => some '\n'
  | 'r' => some '\r'
  | 't' => some '\t'
  | _ => none

/-- Reads the last of four digits: the code point is a character, the first half of one, or the
second half after a first. -/
def finishPoint (read : Text) (high : Option Nat) (n : Nat) : Option State :=
  match high with
  | none =>
    if 0xd800 ≤ n ∧ n < 0xdc00 then some (.surrogate read n false)
    else if 0xdc00 ≤ n ∧ n < 0xe000 then none
    else some (.text (Char.ofNat n :: read))
  | some h =>
    if 0xdc00 ≤ n ∧ n < 0xe000 then
      some (.text (Char.ofNat (0x10000 + (h - 0xd800) * 0x400 + (n - 0xdc00)) :: read))
    else none

/-- Reads one character: the lexemes it completes and the next state, or a fault. -/
def step : State → Char → Option (List Lexeme × State)
  | .between, c => start c
  | .word rest whole, c =>
    match rest with
    | [] => none
    | [d] => if c = d then some ([whole], .between) else none
    | d :: rest => if c = d then some ([], .word rest whole) else none
  | .number place read, c =>
    match place.next? c with
    | some place => some ([], .number place (c :: read))
    | none =>
      if place = .zero ∧ '0' ≤ c ∧ c ≤ '9' then none
      else
        match finishNumber place read with
        | none => none
        | some n =>
          match start c with
          | none => some ([n, .bad], .between)
          | some (out, state) => some (n :: out, state)
  | .text read, c =>
    if c = '"' then some ([.text read.reverse], .between)
    else if c = '\\' then some ([], .escape read)
    else if c.toNat < 0x20 then none
    else some ([], .text (c :: read))
  | .escape read, c =>
    if c = 'u' then some ([], .point read none 0 0)
    else (escaped? c).map fun d => ([], .text (d :: read))
  | .point read high count value, c =>
    match Text.hexValue? c with
    | none => none
    | some d =>
      if count = 3 then (finishPoint read high (value * 16 + d)).map fun state => ([], state)
      else some ([], .point read high (count + 1) (value * 16 + d))
  | .surrogate read high slash, c =>
    if slash then if c = 'u' then some ([], .point read (some high) 0 0) else none
    else if c = '\\' then some ([], .surrogate read high true) else none

/-- The lexemes of a text that ends in a state. -/
def atEnd : State → List Lexeme
  | .between => []
  | .number place read =>
    match finishNumber place read with
    | some n => [n]
    | none => [.bad]
  | _ => [.bad]

/-- Reads the rest of a text from a state on. -/
def lexemesFrom : State → Text → List Lexeme
  | state, [] => atEnd state
  | state, c :: rest =>
    match step state c with
    | none => [.bad]
    | some (out, state) => out ++ lexemesFrom state rest

/-- The lexemes of a text. -/
def lexemes (s : Text) : List Lexeme := lexemesFrom .between s

end Json
end Stencil
