/-
# The routes from text to a token

Token text is read in three ways: alone (`Token.parse`), by an engine (`Engine.resolveToken`), and
between the markers of a text that is compiled.  All of them trim the text, split it at its first
colon and leave empty filters out.  `Token.parse` takes blanks off the end of the name as well, and
the others do not.

* `Token.parse_eq`: reading a token alone is splitting the trimmed text and trimming the name.
* `Direct.compile_placeholder`: the text between markers is compiled to the token that the engine
  reads from it.
* `Engine.routes_agree_iff`: the routes agree exactly when no blank stands at the end of the name.
-/
import Stencil.Proofs.ReadBack

namespace Stencil

namespace Token

variable {s name : Text}

/-- Taking from the end brings no colon in. -/
theorem colon_not_mem_trimEnd (h : ':' ∉ name) : ':' ∉ name.trimEnd :=
  fun hmem => h (name.trimEnd_isPrefix.subset hmem)

/-- Tokens of the same filters are equal when their names are. -/
theorem make_inj {name' : Text} {fs : List Text} : make name fs = make name' fs ↔ name = name' := by
  rw [make, make, Token.mk.injEq, List.append_cancel_right_eq]

/-- **Reading a token alone** differs from splitting and joining in the end of the name. -/
theorem parse_eq (s : Text) :
    parse s = make (split s.trim).1.trimEnd (filterNames (split s.trim).2) := rfl

end Token

namespace Engine

variable {E : Engine} {s : Text}

/-- A text that is one token between the markers is compiled to that token. -/
theorem Direct.compile_placeholder (hE : E.Direct)
    (h : E.delimiters.next (E.delimiters.placeholder s) = .token [] s []) :
    E.compile (E.delimiters.placeholder s) = .ok ⟨[⟨[], E.resolveToken s⟩], [], E.delimiters⟩ := by
  have hopens := Delimiters.next_eq_token_iff.mp h
  have hgram : E.delimiters.Grammatical (E.delimiters.placeholder s) [([], s)] [] := by
    refine ⟨.cons hopens .nil, fun hinfix => ?_⟩
    exact E.delimiters.start_ne_nil (List.infix_nil.mp hinfix)
  rw [hE.compile hgram, hE.resolveToken]
  rfl

/-- **When the routes agree.**  In an engine that declares neither aliases nor expansions, a text that
is scanned as one token between the markers is compiled to the token that the engine reads from the
text alone.  `Token.parse` reads the same filters, and the same name without the blanks at its end.
So the three tokens are equal exactly when the name does not end in a blank. -/
theorem routes_agree_iff (hE : E.Direct)
    (h : E.delimiters.next (E.delimiters.placeholder s) = .token [] s []) :
    E.compile (E.delimiters.placeholder s) = .ok ⟨[⟨[], E.resolveToken s⟩], [], E.delimiters⟩ ∧
      (Token.parse s).filters = (E.resolveToken s).filters ∧
      (Token.parse s).name = (E.resolveToken s).name.trimEnd ∧
      (Token.parse s = E.resolveToken s ↔
        (E.resolveToken s).name.trimEnd = (E.resolveToken s).name) := by
  have hcolon : ':' ∉ (Token.split s.trim).1 := Token.not_mem_split s.trim
  have htrimmed := Token.colon_not_mem_trimEnd hcolon
  refine ⟨hE.compile_placeholder h, ?_⟩
  rw [hE.resolveToken, Token.rejoin, Token.parse_eq, Token.filters_make htrimmed,
    Token.filters_make hcolon, Token.name_make htrimmed, Token.name_make hcolon]
  exact ⟨rfl, rfl, Token.make_inj⟩

end Engine

namespace Sample

/-- A name with blanks inside it, an empty filter and blanks around the last one. -/
def spaced : Text := " a b:: hex ".toList

/-- All routes lead to one token. -/
theorem routes_agree_iff_spaced :
    Engine.plain.Direct ∧
      Engine.plain.delimiters.next (Engine.plain.delimiters.placeholder spaced)
        = .token [] spaced [] ∧
      Token.parse spaced = ⟨"a b: hex".toList⟩ ∧
      Engine.plain.resolveToken spaced = ⟨"a b: hex".toList⟩ ∧
      Engine.plain.compile (Engine.plain.delimiters.placeholder spaced)
        = .ok ⟨[⟨[], ⟨"a b: hex".toList⟩⟩], [], .standard⟩ := by
  have hscan : Engine.plain.delimiters.next (Engine.plain.delimiters.placeholder spaced)
      = .token [] spaced [] := by decide +kernel
  have hread : Engine.plain.resolveToken spaced = ⟨"a b: hex".toList⟩ := by decide +kernel
  obtain ⟨hcompile, -, -, hiff⟩ := Engine.routes_agree_iff direct_plain hscan
  have hparse := hiff.mpr (by rw [hread]; decide +kernel)
  rw [hread] at hcompile hparse
  exact ⟨direct_plain, hscan, hparse, hread, hcompile⟩

/-- A blank in front of the first colon. -/
def blankBeforeColon : Text := "a :hex".toList

/-- `Token.parse` drops the blank, and the other two routes keep it. -/
theorem routes_disagree_blankBeforeColon :
    Engine.build .standard = .ok Engine.plain ∧ Engine.plain.Direct ∧
      Engine.plain.delimiters.next (Engine.plain.delimiters.placeholder blankBeforeColon)
        = .token [] blankBeforeColon [] ∧
      Token.parse blankBeforeColon = ⟨"a:hex".toList⟩ ∧
      Engine.plain.resolveToken blankBeforeColon = ⟨"a :hex".toList⟩ ∧
      Engine.plain.compile (Engine.plain.delimiters.placeholder blankBeforeColon)
        = .ok ⟨[⟨[], ⟨"a :hex".toList⟩⟩], [], .standard⟩ ∧
      Token.parse blankBeforeColon ≠ Engine.plain.resolveToken blankBeforeColon :=
  ⟨rfl, direct_plain, by decide +kernel, by decide +kernel, by decide +kernel, by decide +kernel,
    by decide +kernel⟩

end Sample
end Stencil
