/-
# Values as shown to a programmer

`Value.inspect` writes the kind of a value and what it holds, with texts quoted.  It needs to
print a display value, and is `none` when that cannot be printed; a time is shown with its
pattern as it stands, whether or not the pattern can be read.
-/
import Stencil.Value

namespace Stencil
namespace Value

/-- A kind and its contents in parentheses. -/
def wrap (kind : String) (inner : Text) : Text := kind.toList ++ '(' :: inner ++ [')']

/-- Items in brackets. -/
def bracket (items : List Text) : Text := '[' :: Text.join ", ".toList items ++ [']']

/-- A kind and its named contents in braces. -/
def record (kind : String) (fields : List (String × Text)) : Text :=
  kind.toList ++ " \x7b ".toList
    ++ Text.join ", ".toList (fields.map fun f => f.1.toList ++ ": ".toList ++ f.2)
    ++ " \x7d".toList

/-- The kind of a value and what it holds. -/
def inspect : Value → Option Text
  | .none => some "None".toList
  | .string s => some (wrap "String" s.quote)
  | .bytes b => some (wrap "Bytes" (bracket (b.map fun n => Text.ofNat n.toNat)))
  | .float x => some (wrap "Float" (FloatStyle.inspected.write x))
  | .int n => some (wrap "Int" (Text.ofInt n.toInt))
  | .uint n => some (wrap "Uint" (Text.ofNat n.toNat))
  | .bool b => some (wrap "Bool" (if b then "true".toList else "false".toList))
  | .concat separator items =>
    some (record "Concat"
      [("separator", separator.quote), ("items", bracket (items.map Text.quote))])
  | .display shown => shown.map fun s => wrap "Display" s.quote
  | .appendable _ => some (wrap "Custom" "..".toList)
  | .time m pattern =>
    some (record "Time" [("time", m.inspect), ("format", pattern.quote)])
  | .unix m => some (wrap "Unix" m.inspectUtc)
  | .template t => some (wrap "Template" t.source.quote)

end Value
end Stencil
