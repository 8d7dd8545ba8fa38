/-
# Values

What can be bound to a macro.  Serialising a value writes its bytes behind those that are already
there (`Value.serialise`), and ends in one of four ways: all is written, there is no value, a custom
value fails after some bytes, or the value cannot be printed at all.  The last is no error that a
caller can handle.

A custom value is given the buffer it writes to, and so it can read what stands there.  No other
value does.

Bindings are a list in which the first binding of a macro counts (`lookup?`).
-/
import Stencil.Calendar.Format
import Stencil.Decimal.Layout
import Stencil.Filter
import Stencil.Template
import Stencil.Text.Utf8

namespace Stencil

/-- A replacement for a macro. -/
inductive Value
  /-- Explicitly no value. -/
  | none
  | string (text : Text)
  | bytes (b : Bytes)
  | float (x : Binary64)
  | int (n : Int64)
  | uint (n : UInt64)
  | bool (b : Bool)
  /-- Texts with a separator between each two neighbours. -/
  | concat (separator : Text) (items : List Text)
  /-- Anything that shows itself as text; `none` when showing it fails. -/
  | display (shown : Option Text)
  /-- Anything that writes its own bytes, given those that stand before them. -/
  | appendable (write : Bytes → Emission)
  /-- A moment written by a pattern. -/
  | time (m : Moment) (pattern : Text)
  /-- A moment written as seconds from the start of 1970. -/
  | unix (m : Moment)
  /-- A template, rendered with the bindings around it. -/
  | template (t : Template)

/-- What came of serialising a value. -/
inductive Serialised
  | ok (b : Bytes)
  /-- There is no value. -/
  | missing
  /-- A custom value failed after some bytes. -/
  | failed (written : Bytes) (reason : Text)
  /-- The value cannot be printed. -/
  | unprintable
deriving DecidableEq

namespace Value

/-- The bytes of a printed text. -/
def printed : Option Text → Serialised
  | some s => .ok s.utf8
  | Option.none => .unprintable

/-- The wording for a value that is not there. -/
def missingMessage : Text := "no value".toList

/-- Is explicitly no value. -/
def isNone : Value → Bool
  | .none => true
  | _ => false

/-- A custom value that writes the same bytes wherever it writes them. -/
def custom (e : Emission) : Value := .appendable fun _ => e

/-- Writes the bytes of a value behind those that stand before them.  A template gives its written
form. -/
def serialise (v : Value) (before : Bytes := []) : Serialised :=
  match v with
  | .none => .missing
  | .string s => .ok s.utf8
  | .bytes b => .ok b
  | .float x => .ok (FloatStyle.plain.write x).utf8
  | .int n => .ok (Text.ofInt n.toInt).utf8
  | .uint n => .ok (Text.ofNat n.toNat).utf8
  | .bool true => .ok (Text.utf8 "true".toList)
  | .bool false => .ok (Text.utf8 "false".toList)
  | .concat separator items => .ok (Text.join separator items).utf8
  | .display shown => printed shown
  | .appendable write =>
    match write before with
    | ⟨b, Option.none⟩ => .ok b
    | ⟨b, some reason⟩ => .failed b reason
  | .time m pattern => printed (m.format? pattern)
  | .unix m => .ok (Text.ofInt m.seconds).utf8
  | .template t => .ok t.source.utf8

/-- What comes of showing a value as text. -/
inductive Shown
  | text (s : Text)
  /-- There is no value, or it failed. -/
  | refused
  /-- The value cannot be printed. -/
  | unprintable
deriving DecidableEq

/-- Shows a value as text, which is written to a buffer of its own; bytes that are not well-formed
become U+FFFD. -/
def toText (v : Value) : Shown :=
  match v.serialise with
  | .ok b => .text (Utf8.lossy b)
  | .missing => .refused
  | .failed _ _ => .refused
  | .unprintable => .unprintable

end Value

/-- Values bound to macros, in order. -/
abbrev Bindings := List (Text × Value)

/-- The first value bound to a macro. -/
def lookup? (name : Text) : Bindings → Option Value
  | [] => none
  | (n, v) :: rest => if n = name then some v else lookup? name rest

end Stencil
