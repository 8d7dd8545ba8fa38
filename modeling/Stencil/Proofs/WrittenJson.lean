/-
# Reading JSON undoes writing it

What is written by the functions of `Stencil.Json.Write` is read as the tree that was meant.  A text
is first shown to be one lexeme: each character is written so that it is read back, whatever follows.
Then values are put together, and each of them is read as its tree wherever it may stand.

* `lexemesFrom_writeChar`, `lexemesFrom_writeText`: escapes are read as what they stand for.
* `Json.Awaits`: a place where a value may come next.  `Json.ReadAs`: a text that is read as a tree at
  every such place and before everything that may follow.
* `readAs_writeText`, `readAs_writeOption`, `readAs_writeList`, `readAs_writeObject`: what is written
  is read as it is meant, when its parts are.
* `Json.ReadAs.parse`: such a text is well-formed as a whole, and is parsed as its tree.
-/
import Mathlib.Data.List.Forall2
import Stencil.Json.Tree
import Stencil.Json.Write

namespace Stencil
namespace Json

/-! ## 1. Texts -/

/-- The two digits of a control are those of its number. -/
theorem hexValue?_control : ∀ n < 0x20,
    (Text.padLeft '0' 2 (Text.ofNatHex n)).map Text.hexValue? = [some (n / 16), some (n % 16)] := by
  decide +kernel

/-- A control is read from its escape. -/
theorem lexemesFrom_control {c : Char} (h : c.toNat < 0x20) (read rest : Text) :
    lexemesFrom (.text read)
        (['\\', 'u', '0', '0'] ++ Text.padLeft '0' 2 (Text.ofNatHex c.toNat) ++ rest) =
      lexemesFrom (.text (c :: read)) rest := by
  have hdigits := hexValue?_control c.toNat h
  generalize Text.padLeft '0' 2 (Text.ofNatHex c.toNat) = digits at hdigits ⊢
  obtain ⟨x, digits, rfl, hx, hdigits⟩ := List.map_eq_cons_iff.mp hdigits
  obtain ⟨y, digits, rfl, hy, hdigits⟩ := List.map_eq_cons_iff.mp hdigits
  obtain rfl := List.map_eq_nil_iff.mp hdigits
  -- after the two zeros four digits have been read whose number is that of the control
  have hpoint : finishPoint read none (c.toNat / 16 * 16 + c.toNat % 16)
      = some (.text (c :: read)) := by
    rw [Nat.div_add_mod', finishPoint, if_neg (by omega), if_neg (by omega), Char.ofNat_toNat]
  have hzero : Text.hexValue? '0' = some 0 := by decide
  simp [lexemesFrom, step, hzero, hx, hy, hpoint]

/-- **A character that is written in a text is read back**, whatever was read and whatever follows. -/
theorem lexemesFrom_writeChar (c : Char) (read rest : Text) :
    lexemesFrom (.text read) (writeChar c ++ rest) = lexemesFrom (.text (c :: read)) rest := by
  unfold writeChar
  split
  · rfl
  · rfl
  · rfl
  · rfl
  · rfl
  · rfl
  · rfl
  · next hquote hslash _ _ _ _ _ =>
    split
    · next hcontrol => exact lexemesFrom_control hcontrol read rest
    · next hplain =>
      have hstep : step (.text read) c = some ([], .text (c :: read)) := by
        rw [step, if_neg hquote, if_neg hslash, if_neg hplain]
      rw [List.singleton_append, lexemesFrom, hstep]
      rfl

theorem lexemesFrom_writeChars (s read rest : Text) :
    lexemesFrom (.text read) (s.flatMap writeChar ++ rest) =
      lexemesFrom (.text (s.reverse ++ read)) rest := by
  induction s generalizing read with
  | nil => rfl
  | cons c s ih =>
    rw [List.flatMap_cons, List.append_assoc, lexemesFrom_writeChar, ih, List.reverse_cons,
      List.append_assoc, List.singleton_append]

/-- **A written text is one lexeme.** -/
theorem lexemesFrom_writeText (s rest : Text) :
    lexemesFrom .between (writeText s ++ rest) = .text s :: lexemesFrom .between rest := by
  have hopen (t : Text) : lexemesFrom .between ('"' :: t) = lexemesFrom (.text []) t := rfl
  have hclose (read : Text) : lexemesFrom (.text read) ('"' :: rest)
      = .text read.reverse :: lexemesFrom .between rest := rfl
  rw [writeText, List.cons_append, hopen, List.append_assoc, lexemesFrom_writeChars,
    List.singleton_append, hclose, List.append_nil, List.reverse_reverse]

/-! ## 2. Values -/

/-- **A place where a value may come next**: what is wanted and what is open there, and what is open
around the value. -/
inductive Awaits : Want → List Frame → List Frame → Prop
  | value (frames : List Frame) : Awaits .value frames frames
  | firstItem (frames : List Frame) : Awaits .firstItem frames (.list [] :: frames)

/-- **A text that is read as a tree**, wherever a value may come next and whatever follows it. -/
def ReadAs (s : Text) (v : Json) : Prop :=
  ∀ ⦃want : Want⦄ ⦃frames around : List Frame⦄, Awaits want frames around → ∀ rest : Text,
    parseFrom want frames (lexemesFrom .between (s ++ rest)) =
      parseFrom (.more v) around (lexemesFrom .between rest)

variable {s : Text} {v : Json} {texts : List Text} {trees : List Json}

/-- **Such a text is well-formed, and is parsed as its tree.** -/
theorem ReadAs.parse (h : ReadAs s v) : parse s = (v, true) := by
  have hparse := h (.value []) []
  rw [List.append_nil] at hparse
  exact hparse

theorem readAs_writeText (s : Text) : ReadAs (writeText s) (.text s) := by
  intro want frames around hwant rest
  rw [lexemesFrom_writeText]
  cases hwant <;> rfl

theorem readAs_null : ReadAs ['n', 'u', 'l', 'l'] .null := by
  intro want frames around hwant rest
  cases hwant <;> rfl

/-- The tree of a text or of nothing. -/
def ofOption : Option Text → Json
  | none => .null
  | some s => .text s

theorem readAs_writeOption : ∀ o : Option Text, ReadAs (writeOption o) (ofOption o)
  | none => readAs_null
  | some s => readAs_writeText s

/-! ## 3. Lists -/

/-- The items of a list that is open, up to its end. -/
theorem parseFrom_items (rest : Text) (h : List.Forall₂ ReadAs (s :: texts) (v :: trees)) :
    ∀ {want : Want} {items : List Json} {frames around : List Frame},
      Awaits want frames (.list items :: around) →
      parseFrom want frames
          (lexemesFrom .between (Text.join [','] (s :: texts) ++ ']' :: rest)) =
        parseFrom (.more (.list (items.reverse ++ v :: trees))) around
          (lexemesFrom .between rest) := by
  induction texts generalizing s v trees with
  | nil =>
    intro want items frames around hwant
    obtain ⟨hs, hnil⟩ := List.forall₂_cons.mp h
    obtain rfl := List.forall₂_nil_left_iff.mp hnil
    rw [Text.join, hs hwant]
    have hclose : parseFrom (.more v) (.list items :: around)
        (lexemesFrom .between (']' :: rest)) =
        parseFrom (.more (.list (v :: items).reverse)) around (lexemesFrom .between rest) := rfl
    rw [hclose, List.reverse_cons]
  | cons t texts ih =>
    intro want items frames around hwant
    obtain ⟨hs, htexts⟩ := List.forall₂_cons.mp h
    obtain ⟨w, trees, ht, htrees, rfl⟩ := List.forall₂_cons_left_iff.mp htexts
    have hcomma (after : Text) : parseFrom (.more v) (.list items :: around)
        (lexemesFrom .between (',' :: after)) =
        parseFrom .value (.list (v :: items) :: around) (lexemesFrom .between after) := rfl
    rw [Text.join, List.append_assoc, List.append_assoc, hs hwant, List.singleton_append, hcomma,
      ih (.cons ht htrees) (.value _), List.reverse_cons, List.append_assoc]
    rfl

/-- **A written list is read as the list of its items.** -/
theorem readAs_writeList (h : List.Forall₂ ReadAs texts trees) :
    ReadAs (writeList texts) (.list trees) := by
  intro want frames around hwant rest
  have hopen (after : Text) : parseFrom want frames (lexemesFrom .between ('[' :: after)) =
      parseFrom .firstItem around (lexemesFrom .between after) := by
    cases hwant <;> rfl
  rw [writeList, List.cons_append, hopen, List.append_assoc]
  cases h with
  | nil => rfl
  | cons hs htexts => exact parseFrom_items rest (.cons hs htexts) (.firstItem around)

/-! ## 4. Objects -/

/-- A place where a name may come next, in an object with some members, last first. -/
inductive AwaitsKey : Want → List (Text × Json) → Prop
  | firstKey : AwaitsKey .firstKey []
  | key (members : List (Text × Json)) : AwaitsKey (.key members) members

/-- A member of an object, written and meant. -/
def MemberReadAs (m : Text × Text) (e : Text × Json) : Prop := m.1 = e.1 ∧ ReadAs m.2 e.2

variable {m : Text × Text} {e : Text × Json} {members : List (Text × Text)}
  {entries : List (Text × Json)}

/-- One member, up to what follows its value. -/
theorem parseFrom_member (h : MemberReadAs m e) {want : Want} {read : List (Text × Json)}
    (hwant : AwaitsKey want read) (frames : List Frame) (rest : Text) :
    parseFrom want frames (lexemesFrom .between (writeMember m ++ rest)) =
      parseFrom (.more e.2) (.object read e.1 :: frames) (lexemesFrom .between rest) := by
  obtain ⟨key, written⟩ := m
  obtain ⟨key', v⟩ := e
  obtain ⟨hname, hvalue⟩ := h
  obtain rfl : key = key' := hname
  have hkey (ls : List Lexeme) : parseFrom want frames (.text key :: .colon :: ls) =
      parseFrom .value (.object read key :: frames) ls := by
    cases hwant <;> rfl
  have hcolon (after : Text) : lexemesFrom .between (':' :: after)
      = .colon :: lexemesFrom .between after := rfl
  rw [writeMember, List.append_assoc, lexemesFrom_writeText, List.cons_append, hcolon, hkey]
  exact hvalue (.value _) rest

/-- The members of an object that is open, up to its end. -/
theorem parseFrom_members (frames : List Frame) (rest : Text)
    (h : List.Forall₂ MemberReadAs (m :: members) (e :: entries)) :
    ∀ {want : Want} {read : List (Text × Json)}, AwaitsKey want read →
      parseFrom want frames (lexemesFrom .between
          (Text.join [','] ((m :: members).map writeMember) ++ '\x7d' :: rest)) =
        parseFrom (.more (.object (read.reverse ++ e :: entries) true)) frames
          (lexemesFrom .between rest) := by
  induction members generalizing m e entries with
  | nil =>
    intro want read hwant
    obtain ⟨hm, hnil⟩ := List.forall₂_cons.mp h
    obtain rfl := List.forall₂_nil_left_iff.mp hnil
    have hclose : parseFrom (.more e.2) (.object read e.1 :: frames)
        (lexemesFrom .between ('\x7d' :: rest)) =
        parseFrom (.more (.object (e :: read).reverse true)) frames
          (lexemesFrom .between rest) := rfl
    rw [List.map_singleton, Text.join, parseFrom_member hm hwant, hclose, List.reverse_cons]
  | cons m' members ih =>
    intro want read hwant
    obtain ⟨hm, hmembers⟩ := List.forall₂_cons.mp h
    obtain ⟨e', entries, hm', hentries, rfl⟩ := List.forall₂_cons_left_iff.mp hmembers
    have hcomma (after : Text) : parseFrom (.more e.2) (.object read e.1 :: frames)
        (lexemesFrom .between (',' :: after)) =
        parseFrom (.key (e :: read)) frames (lexemesFrom .between after) := rfl
    rw [List.map_cons, List.map_cons, Text.join, List.append_assoc, List.append_assoc,
      parseFrom_member hm hwant, List.singleton_append, hcomma, ← List.map_cons,
      ih (.cons hm' hentries) (.key _), List.reverse_cons, List.append_assoc]
    rfl

/-- **A written object is read as the object of its members**, in their order. -/
theorem readAs_writeObject (h : List.Forall₂ MemberReadAs members entries) :
    ReadAs (writeObject members) (.object entries true) := by
  intro want frames around hwant rest
  have hopen (after : Text) : parseFrom want frames (lexemesFrom .between ('\x7b' :: after)) =
      parseFrom .firstKey around (lexemesFrom .between after) := by
    cases hwant <;> rfl
  rw [writeObject, List.cons_append, hopen, List.append_assoc]
  cases h with
  | nil => rfl
  | cons hm hmembers => exact parseFrom_members around rest (.cons hm hmembers) .firstKey

end Json
end Stencil
