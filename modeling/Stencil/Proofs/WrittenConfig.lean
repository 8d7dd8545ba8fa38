/-
# Reading a configuration undoes writing it

A configuration is written as an object of its six members.  The text that is written is JSON for one
tree, and from this tree each member is read as it was, so that the configuration comes back, and with
it the engine or the reason why there is none.

* `Config.tree`: the tree of a configuration.  `Config.readAs_write`: it is what is read from the
  written text.
* `Config.take`: a configuration with one member of another.  `Config.readField_tree`: reading a member
  takes it.  `Config.readNamed_tree`: reading different members takes each of them, in any order.
* `Config.read_write`: a configuration is read from what is written for it.
-/
import Stencil.Config.Document
import Stencil.Proofs.WrittenJson

namespace Stencil
namespace Config

/-! ## 1. The tree of a configuration -/

/-- The tree of a list of texts. -/
def textsTree (l : List Text) : Json := .list (l.map .text)

/-- The tree of a dictionary whose values have trees. -/
def dictTree {α : Type} (f : α → Json) (d : Dict α) : Json :=
  .object (d.entries.map fun e => (e.1, f e.2)) true

/-- The tree of a member. -/
def fieldTree (c : Config) : Field → Json
  | .start => .ofOption c.start
  | .stop => .ofOption c.stop
  | .fallback => .ofOption c.fallback
  | .aliases => dictTree textsTree c.aliases
  | .skip => textsTree c.skip
  | .expansions => dictTree .text c.expansions

/-- The tree of a configuration: all its members in the order of writing. -/
def tree (c : Config) : Json := .object (Field.all.map fun f => (f.key, c.fieldTree f)) true

theorem readAs_texts (l : List Text) :
    Json.ReadAs (Json.writeList (l.map Json.writeText)) (textsTree l) := by
  refine Json.readAs_writeList ?_
  rw [List.forall₂_map_left_iff, List.forall₂_map_right_iff, List.forall₂_same]
  exact fun s _ => Json.readAs_writeText s

theorem readAs_dict {α : Type} {write : α → Text} {f : α → Json}
    (h : ∀ a, Json.ReadAs (write a) (f a)) (d : Dict α) :
    Json.ReadAs (Json.writeObject (d.entries.map fun e => (e.1, write e.2))) (dictTree f d) := by
  refine Json.readAs_writeObject ?_
  rw [List.forall₂_map_left_iff, List.forall₂_map_right_iff, List.forall₂_same]
  exact fun e _ => ⟨rfl, h e.2⟩

theorem readAs_writeField (c : Config) (f : Field) :
    Json.ReadAs (c.writeField f) (c.fieldTree f) := by
  cases f with
  | start => exact Json.readAs_writeOption c.start
  | stop => exact Json.readAs_writeOption c.stop
  | fallback => exact Json.readAs_writeOption c.fallback
  | aliases => exact readAs_dict readAs_texts c.aliases
  | skip => exact readAs_texts c.skip
  | expansions => exact readAs_dict Json.readAs_writeText c.expansions

/-- **What is written for a configuration is read as its tree.** -/
theorem readAs_write (c : Config) : Json.ReadAs c.write c.tree := by
  refine Json.readAs_writeObject ?_
  rw [List.forall₂_map_left_iff, List.forall₂_map_right_iff, List.forall₂_same]
  exact fun f _ => ⟨rfl, c.readAs_writeField f⟩

/-! ## 2. Reading the tree -/

theorem readOption_ofOption : ∀ o : Option Text, readOption (.ofOption o) = .ok o
  | none => rfl
  | some _ => rfl

theorem readTexts_tree (l : List Text) : readTexts (textsTree l) = .ok l := by
  rw [textsTree, readTexts]
  induction l with
  | nil => rfl
  | cons s l ih =>
    rw [List.map_cons, readItems, ih]
    rfl

/-- Members that are read one by one are put into the dictionary one by one. -/
theorem readMembers_map {α : Type} {read : Json → Except Fault α} {f : α → Json}
    (h : ∀ a, read (f a) = .ok a) (es : List (Text × α)) (d : Dict α) :
    readMembers read d (es.map fun e => (e.1, f e.2)) = .ok (d.insertAll es) := by
  induction es generalizing d with
  | nil => rfl
  | cons e es ih =>
    rw [List.map_cons, readMembers, h]
    exact ih (d.insert e.1 e.2)

/-- **A dictionary is read from its tree.** -/
theorem readDict_tree {α : Type} {read : Json → Except Fault α} {f : α → Json}
    (h : ∀ a, read (f a) = .ok a) (d : Dict α) : readDict read (dictTree f d) = .ok d := by
  have hmembers := readMembers_map h d.entries .empty
  rw [show Dict.empty.insertAll d.entries = d from d.ofList_entries] at hmembers
  rw [dictTree, readDict, hmembers]
  rfl

/-- A configuration with one member of another. -/
def take (c' c : Config) : Field → Config
  | .start => { c' with start := c.start }
  | .stop => { c' with stop := c.stop }
  | .fallback => { c' with fallback := c.fallback }
  | .aliases => { c' with aliases := c.aliases }
  | .skip => { c' with skip := c.skip }
  | .expansions => { c' with expansions := c.expansions }

/-- **Reading a member takes it.** -/
theorem readField_tree (c' c : Config) (f : Field) :
    readField c' f (c.fieldTree f) = .ok (c'.take c f) := by
  cases f with
  | start => simp only [readField, fieldTree, readOption_ofOption]; rfl
  | stop => simp only [readField, fieldTree, readOption_ofOption]; rfl
  | fallback => simp only [readField, fieldTree, readOption_ofOption]; rfl
  | aliases => simp only [readField, fieldTree, readDict_tree readTexts_tree]; rfl
  | skip => simp only [readField, fieldTree, readTexts_tree]; rfl
  | expansions =>
    have htext (s : Text) : readText (.text s) = .ok s := rfl
    simp only [readField, fieldTree, readDict_tree htext]
    rfl

/-- A member is found by its name. -/
theorem Field.ofKey?_key (f : Field) : ofKey? f.key = some f := by
  cases f <;> decide

/-- **Reading different members takes each of them**, in any order. -/
theorem readNamed_tree (c : Config) {fs : List Field} (hfs : fs.Nodup) :
    ∀ {seen : List Field} (c' : Config), (∀ f ∈ fs, f ∉ seen) →
      readNamed c' seen (fs.map fun f => (f.key, c.fieldTree f)) = .ok (fs.foldl (take · c) c') := by
  induction fs with
  | nil => exact fun _ _ => rfl
  | cons f fs ih =>
    intro seen c' hseen
    obtain ⟨hf, hfs⟩ := List.nodup_cons.mp hfs
    obtain ⟨hfirst, hrest⟩ := List.forall_mem_cons.mp hseen
    have hseen' : ∀ g ∈ fs, g ∉ f :: seen := by
      intro g hg hmem
      rcases List.mem_cons.mp hmem with rfl | hmem
      · exact hf hg
      · exact hrest g hg hmem
    simp only [List.map_cons, readNamed, Field.ofKey?_key, if_neg hfirst, readField_tree]
    exact ih hfs (c'.take c f) hseen'

/-- **A configuration is read from its tree.** -/
theorem ofJson_tree (c : Config) : ofJson c.tree = .ok c := by
  have hnodup : Field.all.Nodup := by decide
  have hfresh : ∀ f ∈ Field.all, f ∉ ([] : List Field) := fun _ _ => List.not_mem_nil
  have hnamed := readNamed_tree c hnodup empty hfresh
  have hall : Field.all.foldl (take · c) empty = c := rfl
  rw [tree, ofJson, hnamed, hall]
  rfl

/-! ## 3. Writing and reading -/

/-- **Reading a configuration undoes writing it**, whatever characters its texts are made of, with
members that are set or left out, and with any dictionaries and lists.  What is written is JSON for the
tree of the configuration, with nothing after it, and it is read as the configuration itself.  So an
engine is built from what was read, or is refused, as it is from what was written. -/
theorem read_write (c : Config) :
    Json.parse c.write = (c.tree, true) ∧ read c.write = .ok c ∧
      ∀ filters : Registry, (read c.write).map (·.build filters) = .ok (c.build filters) := by
  have hparse : Json.parse c.write = (c.tree, true) := c.readAs_write.parse
  have hread : read c.write = .ok c := by
    rw [read, hparse]
    simp only [ofJson_tree]
    rfl
  exact ⟨hparse, hread, fun filters => by rw [hread]; rfl⟩

/-- Members that are left out are written, too. -/
example : write empty =
    ("\x7b\"start\":null,\"end\":null,\"default_value\":null,\"aliases\":\x7b\x7d,\"skip\":[],"
      ++ "\"expansions\":\x7b\x7d\x7d").toList := by decide +kernel

end Config
end Stencil
