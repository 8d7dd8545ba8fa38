/-
# JSON trees

A tree holds a JSON value as far as its text is well-formed.  Where the text has a fault, a leaf
`broken` stands for the rest, and every object around it is marked as not whole.  A tree can so
be judged from left to right, and the first problem met is the first one in the text.

Trees are made by a machine with a stack of open lists and objects (`Json.parse`).
-/
import Stencil.Json.Lexeme

namespace Stencil

/-- A JSON value, as far as its text is well-formed. -/
inductive Json
  | null
  | bool (b : Bool)
  | number (written : Text)
  | text (s : Text)
  | list (items : List Json)
  /-- Members in the order of the text.  When it is not `whole`, a fault follows them. -/
  | object (members : List (Text × Json)) (whole : Bool)
  /-- A fault, and everything after it. -/
  | broken

namespace Json

/-- A list or an object that is still open, with what it holds so far, last first. -/
inductive Frame
  | list (items : List Json)
  | object (members : List (Text × Json)) (key : Text)

/-- What has to come next. -/
inductive Want
  | value
  /-- An item or the end of a list that has just been opened. -/
  | firstItem
  /-- A name or the end of an object that has just been opened. -/
  | firstKey
  /-- A name of an object with some members. -/
  | key (members : List (Text × Json))
  /-- The colon after a name. -/
  | colon (members : List (Text × Json)) (key : Text)
  /-- What follows a finished value. -/
  | more (v : Json)

/-- A finished value in the innermost open container. -/
def Frame.add (v : Json) : Frame → Json
  | .list items => .list ((v :: items).reverse)
  | .object members key => .object (((key, v) :: members).reverse) false

/-- Closes everything that is open around a fault; `v` is the innermost value. -/
def closeAll (v : Json) : List Frame → Json
  | [] => v
  | f :: fs => closeAll (f.add v) fs

/-- The tree when a fault comes instead of what is wanted. -/
def fault (want : Want) (frames : List Frame) : Json :=
  match want with
  | .value => closeAll .broken frames
  | .firstItem => closeAll (.list [.broken]) frames
  | .firstKey => closeAll (.object [] false) frames
  | .key members => closeAll (.object members.reverse false) frames
  | .colon members key => closeAll (.object (((key, .broken) :: members).reverse) false) frames
  | .more v =>
    match frames with
    | [] => v
    | .list items :: fs => closeAll (.list ((.broken :: v :: items).reverse)) fs
    | .object members key :: fs => closeAll (.object (((key, v) :: members).reverse) false) fs

/-- Reads a lexeme at the start of a value: what is wanted after it, and what is open. -/
def startValue (frames : List Frame) : Lexeme → Option (Want × List Frame)
  | .null => some (.more .null, frames)
  | .bool b => some (.more (.bool b), frames)
  | .number w => some (.more (.number w), frames)
  | .text s => some (.more (.text s), frames)
  | .openBracket => some (.firstItem, frames)
  | .openBrace => some (.firstKey, frames)
  | _ => none

/-- Reads one lexeme. -/
def advance : Want → List Frame → Lexeme → Option (Want × List Frame)
  | .value, frames, l => startValue frames l
  | .firstItem, frames, l =>
    match l with
    | .closeBracket => some (.more (.list []), frames)
    | l => startValue (.list [] :: frames) l
  | .firstKey, frames, l =>
    match l with
    | .closeBrace => some (.more (.object [] true), frames)
    | .text key => some (.colon [] key, frames)
    | _ => none
  | .key members, frames, l =>
    match l with
    | .text key => some (.colon members key, frames)
    | _ => none
  | .colon members key, frames, l =>
    match l with
    | .colon => some (.value, .object members key :: frames)
    | _ => none
  | .more v, frames, l =>
    match frames, l with
    | .list items :: fs, .comma => some (.value, .list (v :: items) :: fs)
    | .list items :: fs, .closeBracket => some (.more (.list ((v :: items).reverse)), fs)
    | .object members key :: fs, .comma => some (.key ((key, v) :: members), fs)
    | .object members key :: fs, .closeBrace =>
      some (.more (.object (((key, v) :: members).reverse) true), fs)
    | _, _ => none

/-- Reads the rest of a text: the tree, and whether nothing but the tree was there. -/
def parseFrom : Want → List Frame → List Lexeme → Json × Bool
  | .more v, [], [] => (v, true)
  | want, frames, [] => (fault want frames, false)
  | want, frames, l :: ls =>
    match advance want frames l with
    | none => (fault want frames, false)
    | some (want, frames) => parseFrom want frames ls

/-- Reads a JSON text: the tree, and whether the text is well-formed as a whole. -/
def parse (s : Text) : Json × Bool := parseFrom .value [] (lexemes s)

end Json
end Stencil
