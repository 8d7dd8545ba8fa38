/-
# Linking expansions

Compiled expansion texts refer to each other by name.  Linking visits them depth first and
puts the bodies in the place of the names.  It remembers two things: the path of expansions
that are open, where meeting a name again is a cycle, and the bodies that are done.

* `Linking.visit`: the body of one name, when it names an expansion;
* `Linking.linkAll`: the bodies of all expansions, or the first cycle, as the chain of names
  from an expansion back to itself.
-/
import Stencil.Body
import Stencil.Dict

namespace Stencil
namespace Linking

/-- The open part of a path from the first visit of `name` on, and `name` again.  The path has
its last name first. -/
def chain (path : List Text) (name : Text) : List Text :=
  name :: (path.takeWhile (· != name)).reverse ++ [name]

/-- Links the chunks of a template by visiting the macro of each token. -/
def linkChunks (visit : Text → Dict Body → Except (List Text) (Option Body × Dict Body))
    (tail : Text) : List Chunk → Dict Body → Except (List Text) (Body × Dict Body)
  | [], done => .ok (.done tail, done)
  | c :: cs, done =>
    match visit c.token.name done with
    | .error chain => .error chain
    | .ok (found, done) =>
      match linkChunks visit tail cs done with
      | .error chain => .error chain
      | .ok (rest, done) =>
        match found with
        | none => .ok (.token c.lead c.token rest, done)
        | some body => .ok (.expand c.lead c.token body rest, done)

/-- Visits a name with a path of open expansions.  `room` bounds how many more can be opened;
there is room as long as the path does not hold every expansion. -/
def visit (defs : Dict Template) : Nat → List Text → Text → Dict Body →
    Except (List Text) (Option Body × Dict Body)
  | room, path, name, done =>
    match done.get? name with
    | some body => .ok (some body, done)
    | none =>
      if name ∈ path then .error (chain path name)
      else
        match defs.get? name, room with
        | none, _ => .ok (none, done)
        | some _, 0 => .ok (none, done)
        | some t, room + 1 =>
          match linkChunks (visit defs room (name :: path)) t.tail t.chunks done with
          | .error chain => .error chain
          | .ok (body, done) => .ok (some body, done.insert name body)

/-- Visits names in turn, each with an empty path. -/
def visitAll (defs : Dict Template) : List Text → Dict Body → Except (List Text) (Dict Body)
  | [], done => .ok done
  | name :: names, done =>
    match visit defs defs.size [] name done with
    | .error chain => .error chain
    | .ok (_, done) => visitAll defs names done

/-- Links all expansions, in the order of their names. -/
def linkAll (defs : Dict Template) : Except (List Text) (Dict Body) :=
  visitAll defs defs.keys .empty

end Linking
end Stencil
