/-
# Configurations as JSON

A configuration is written as an object of six members.  It is read from an object with some of
them, each at most once and in any order, or from a list of at most six values in the order of
writing; what is left out stays unset.  Reading stops at the first fault in the text, and there
are four kinds of faults (`Config.Fault`).
-/
import Stencil.Config.Basic
import Stencil.Json.Tree
import Stencil.Json.Write

namespace Stencil
namespace Config

/-- Why a text is no configuration. -/
inductive Fault
  /-- A member that does not exist. -/
  | unknownField
  /-- A member that was there before. -/
  | duplicateField
  /-- A value of the wrong kind. -/
  | shape
  /-- The text is not JSON. -/
  | malformed
deriving DecidableEq

/-- The members of a configuration. -/
inductive Field
  | start | stop | fallback | aliases | skip | expansions
deriving DecidableEq

namespace Field

/-- All members in the order of writing. -/
def all : List Field := [.start, .stop, .fallback, .aliases, .skip, .expansions]

/-- The name of a member. -/
def key : Field → Text
  | .start => "start".toList
  | .stop => "end".toList
  | .fallback => "default_value".toList
  | .aliases => "aliases".toList
  | .skip => "skip".toList
  | .expansions => "expansions".toList

/-- The member of a name. -/
def ofKey? (key : Text) : Option Field := all.find? fun f => f.key = key

end Field

/-! ## 1. Writing -/

/-- The value of a member in written form. -/
def writeField (c : Config) : Field → Text
  | .start => Json.writeOption c.start
  | .stop => Json.writeOption c.stop
  | .fallback => Json.writeOption c.fallback
  | .aliases =>
    Json.writeObject (c.aliases.entries.map fun e => (e.1, Json.writeList (e.2.map Json.writeText)))
  | .skip => Json.writeList (c.skip.map Json.writeText)
  | .expansions => Json.writeObject (c.expansions.entries.map fun e => (e.1, Json.writeText e.2))

/-- A configuration as a JSON object with all its members. -/
def write (c : Config) : Text := Json.writeObject (Field.all.map fun f => (f.key, c.writeField f))

/-! ## 2. Reading values -/

/-- The fault of a value of the wrong kind, or of a text that ends in a fault here. -/
def wrong : Json → Fault
  | .broken => .malformed
  | _ => .shape

/-- Reads a text. -/
def readText : Json → Except Fault Text
  | .text s => .ok s
  | v => .error (wrong v)

/-- Reads a text or `null`. -/
def readOption : Json → Except Fault (Option Text)
  | .null => .ok none
  | v => (readText v).map some

/-- Reads items in turn. -/
def readItems : List Json → Except Fault (List Text)
  | [] => .ok []
  | v :: vs =>
    match readText v with
    | .error e => .error e
    | .ok s => (readItems vs).map (s :: ·)

/-- Reads a list of texts. -/
def readTexts : Json → Except Fault (List Text)
  | .list items => readItems items
  | v => .error (wrong v)

/-- Reads members in turn; a later value of a name replaces an earlier one. -/
def readMembers {α : Type} (read : Json → Except Fault α) (d : Dict α) :
    List (Text × Json) → Except Fault (Dict α)
  | [] => .ok d
  | (key, v) :: rest =>
    match read v with
    | .error e => .error e
    | .ok a => readMembers read (d.insert key a) rest

/-- Reads an object whose values are all of one kind. -/
def readDict {α : Type} (read : Json → Except Fault α) : Json → Except Fault (Dict α)
  | .object members whole =>
    match readMembers read .empty members with
    | .error e => .error e
    | .ok d => if whole then .ok d else .error .malformed
  | v => .error (wrong v)

/-! ## 3. Reading a configuration -/

/-- Reads the value of a member into a configuration. -/
def readField (c : Config) (f : Field) (v : Json) : Except Fault Config :=
  match f with
  | .start => (readOption v).map fun s => { c with start := s }
  | .stop => (readOption v).map fun s => { c with stop := s }
  | .fallback => (readOption v).map fun s => { c with fallback := s }
  | .aliases => (readDict readTexts v).map fun d => { c with aliases := d }
  | .skip => (readTexts v).map fun l => { c with skip := l }
  | .expansions => (readDict readText v).map fun d => { c with expansions := d }

/-- Reads named members in turn, after those in `seen`. -/
def readNamed (c : Config) (seen : List Field) : List (Text × Json) → Except Fault Config
  | [] => .ok c
  | (key, v) :: rest =>
    match Field.ofKey? key with
    | none => .error .unknownField
    | some f =>
      if f ∈ seen then .error .duplicateField
      else
        match readField c f v with
        | .error e => .error e
        | .ok c => readNamed c (f :: seen) rest

/-- Reads values in the order of some members. -/
def readOrdered (c : Config) : List Field → List Json → Except Fault Config
  | _, [] => .ok c
  | [], _ :: _ => .error .malformed
  | f :: fs, v :: vs =>
    match readField c f v with
    | .error e => .error e
    | .ok c => readOrdered c fs vs

/-- Reads a configuration from a tree. -/
def ofJson : Json → Except Fault Config
  | .object members whole =>
    match readNamed empty [] members with
    | .error e => .error e
    | .ok c => if whole then .ok c else .error .malformed
  | .list items => readOrdered empty Field.all items
  | v => .error (wrong v)

/-- Reads a configuration from a JSON text with nothing after it. -/
def read (s : Text) : Except Fault Config :=
  let (v, whole) := Json.parse s
  match ofJson v with
  | .error e => .error e
  | .ok c => if whole then .ok c else .error .malformed

end Config
end Stencil
