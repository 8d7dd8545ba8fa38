/-
# Templates for addresses

`Engine.urlTemplate` turns an address into template text in which some query values are tokens.
Names are written in order, the values of one name in the order of the address.  A token stands
as it is, and every other name and value is form-encoded.  What cannot be read as an address is
left as it is.
-/
import Stencil.Codec.Form
import Stencil.Engine
import Stencil.Url.Parse

namespace Stencil

/-- The values of a name in a query. -/
inductive QueryValue
  /-- Values from the address. -/
  | given (values : List Text)
  /-- A token. -/
  | token (written : Text)
deriving DecidableEq

/-- The names and values of an address. -/
def Url.queryPairs (u : Url) : List (Text × Text) := Form.pairs (u.query.getD []).utf8

namespace UrlTemplate

/-- Adds a value to those of a name. -/
def addGiven (d : Dict QueryValue) (p : Text × Text) : Dict QueryValue :=
  match d.get? p.1 with
  | some (.given values) => d.insert p.1 (.given (values ++ [p.2]))
  | _ => d.insert p.1 (.given [p.2])

/-- The values of an address by name, with tokens in the place of some of them. -/
def collect (delimiters : Delimiters) (given params : List (Text × Text)) : Dict QueryValue :=
  params.foldl (fun d p => d.insert p.1 (.token (delimiters.placeholder (Text.trim p.2))))
    (given.foldl addGiven .empty)

/-- A name with each of its values. -/
def writeEntry (e : Text × QueryValue) : List Text :=
  let name := Form.encodeText e.1
  match e.2 with
  | .given values => values.map fun v => name ++ '=' :: Form.encodeText v
  | .token written => [name ++ '=' :: written]

/-- A query in written form; there is none without names. -/
def writeQuery (d : Dict QueryValue) : Option Text :=
  match d.entries.flatMap writeEntry with
  | [] => none
  | parts => some (Text.join ['&'] parts)

end UrlTemplate

/-- The text of an address whose query values for some names are tokens. -/
def Engine.urlTemplate (E : Engine) (raw : Text) (params : List (Text × Text)) : Text :=
  match Url.parse? raw with
  | none => raw
  | some u =>
    (u.setQuery (UrlTemplate.writeQuery
      (UrlTemplate.collect E.delimiters u.queryPairs params))).write

end Stencil
