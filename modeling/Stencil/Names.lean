/-
# Declared names

Names given to a configuration are reduced to their macro part: trimmed, and cut before the
first colon.  Three collections hold such names:

* `AliasMap`: from an alias to the macro it stands for; resolving follows one step only;
* `SkipList`: macros that are echoed instead of replaced;
* `Expansions`: macros with the text that each one expands to.

In each of them a later declaration of a name replaces an earlier one.  The collections hold
reduced names only (`Reduced`), which is what lets a resolved macro stand before a colon.
-/
import Stencil.Dict
import Stencil.Token

namespace Stencil

/-- The macro part of a declared name. -/
def reduceName (s : Text) : Text := (Token.split s.trim).1

/-- A name in reduced form: without a colon, and without a blank in front. -/
def Reduced (s : Text) : Prop := ':' ∉ s ∧ ∀ c r, s = c :: r → isBlank c = false

/-- Reducing gives a reduced name. -/
theorem reduced_reduceName (s : Text) : Reduced (reduceName s) := by
  refine ⟨Token.not_mem_split s.trim, fun c r h => ?_⟩
  have hs : c :: r ++ (Token.split s.trim).2 = s.trim := by
    rw [← show (Token.split s.trim).1 = c :: r from h, Token.split_append]
  exact Text.head_trim hs.symm

/-- From aliases to macros. -/
structure AliasMap where
  targets : Dict Text
  reduced : ∀ {a t}, targets.get? a = some t → Reduced a ∧ Reduced t

namespace AliasMap

/-- No aliases. -/
def empty : AliasMap := ⟨.empty, by simp⟩

/-- Declares names that stand for the macro `canonical`. -/
def declare (m : AliasMap) (canonical : Text) (aliases : List Text) : AliasMap where
  targets := m.targets.insertAll (aliases.map fun a => (reduceName a, reduceName canonical))
  reduced h := by
    rcases Dict.mem_or_of_get?_insertAll h with hnew | hold
    · obtain ⟨a, -, ha⟩ := List.mem_map.mp hnew
      obtain ⟨rfl, rfl⟩ := Prod.mk.inj ha
      exact ⟨reduced_reduceName a, reduced_reduceName canonical⟩
    · exact m.reduced hold

/-- Declares the aliases of several macros in turn. -/
def ofList (decls : List (Text × List Text)) : AliasMap :=
  decls.foldl (fun m d => m.declare d.1 d.2) empty

/-- The macro that a name stands for: its target, or itself. -/
def resolve (m : AliasMap) (name : Text) : Text := (m.targets.get? name).getD name

/-- Resolving brings no colon into a name. -/
theorem colon_not_mem_resolve (m : AliasMap) {name : Text} (h : ':' ∉ name) :
    ':' ∉ m.resolve name := by
  unfold resolve
  cases ht : m.targets.get? name with
  | none => exact h
  | some t => exact (m.reduced ht).2.1

/-- The number of declared aliases. -/
def size (m : AliasMap) : Nat := m.targets.size

end AliasMap

/-- Macros to echo. -/
structure SkipList where
  names : Dict Unit
  reduced : ∀ {n u}, names.get? n = some u → Reduced n

namespace SkipList

/-- The skip list of some declared names. -/
def ofList (names : List Text) : SkipList where
  names := .ofList (names.map fun n => (reduceName n, ()))
  reduced h := by
    obtain ⟨n, -, hn⟩ := List.mem_map.mp (Dict.mem_of_get?_ofList h)
    obtain ⟨rfl, -⟩ := Prod.mk.inj hn
    exact reduced_reduceName n

/-- Puts one more macro on the list. -/
def declare (l : SkipList) (name : Text) : SkipList where
  names := l.names.insert (reduceName name) ()
  reduced h := by
    rw [Dict.get?_insert] at h
    split at h
    · next hname => exact hname ▸ reduced_reduceName name
    · exact l.reduced h

/-- A macro is on the list. -/
def contains (l : SkipList) (name : Text) : Bool := l.names.contains name

/-- The number of macros on the list. -/
def size (l : SkipList) : Nat := l.names.size

end SkipList

/-- Expansion macros and their texts. -/
structure Expansions where
  texts : Dict Text
  reduced : ∀ {n s}, texts.get? n = some s → Reduced n

namespace Expansions

/-- The expansions of some declarations. -/
def ofList (decls : List (Text × Text)) : Expansions where
  texts := .ofList (decls.map fun d => (reduceName d.1, d.2))
  reduced h := by
    obtain ⟨d, -, hd⟩ := List.mem_map.mp (Dict.mem_of_get?_ofList h)
    obtain ⟨rfl, -⟩ := Prod.mk.inj hd
    exact reduced_reduceName d.1

/-- Declares one more expansion. -/
def declare (e : Expansions) (name text : Text) : Expansions where
  texts := e.texts.insert (reduceName name) text
  reduced h := by
    rw [Dict.get?_insert] at h
    split at h
    · next hname => exact hname ▸ reduced_reduceName name
    · exact e.reduced h

/-- Macros and texts in the order of the macros. -/
def toList (e : Expansions) : List (Text × Text) := e.texts.entries

/-- The number of expansion macros. -/
def size (e : Expansions) : Nat := e.texts.size

end Expansions
end Stencil
