/-
# Declarations in a row

The names in a collection come from declarations: a list of them at once or one after the other, by
hand or out of a configuration.  Whichever way they come, a collection is what its declarations say in
their order.  Each of them binds some reduced names to one value, and where several bind the same name
the last one counts.

* `Dict.get?_foldl_bindAll`: what is bound after bindings in a row.
* `Gathered`: a collection with all declarations that went into it.  `Gathered.eq_ofList`: in which
  way they went into it does not matter.
* `AliasMap.get?_of_declared`, `SkipList.contains_of_declared`, `Expansions.get?_of_declared`: what
  each of the collections holds after its declarations.
* `AliasMap.resolve_of_filter_eq`: what a name stands for depends on the declarations that list this
  very name, so that an alias of an alias is not followed.
* `last_declaration_counts`: the whole account.
-/
import Mathlib.Data.List.Basic
import Mathlib.Data.List.Induction
import Stencil.Config.Basic
import Stencil.Proofs.ByteOrder

namespace Stencil

/-! ## 1. Bindings in a row -/

/-- The last of the elements with one more at the end: this one, or else the one before. -/
theorem findRev?_concat {δ : Type} (p : δ → Bool) (ds : List δ) (d : δ) :
    (ds ++ [d]).findRev? p = if p d then some d else ds.findRev? p := by
  rw [List.findRev?_eq_find?_reverse, List.findRev?_eq_find?_reverse, List.reverse_concat,
    List.find?_cons]
  cases p d <;> rfl

namespace Dict

variable {α δ : Type}

/-- Binds several keys to one value. -/
def bindAll (d : Dict α) (ks : List Text) (v : α) : Dict α := d.insertAll (ks.map (·, v))

theorem get?_bindAll (d : Dict α) (ks : List Text) (v : α) (k : Text) :
    (d.bindAll ks v).get? k = if k ∈ ks then some v else d.get? k := by
  induction ks generalizing d with
  | nil => rfl
  | cons k' ks ih =>
    have hrest : (d.bindAll (k' :: ks) v).get? k = ((d.insert k' v).bindAll ks v).get? k := rfl
    rw [hrest, ih, get?_insert]
    by_cases hk : k = k'
    · simp [hk]
    · simp [hk, Ne.symm hk]

/-- **The last binding counts**, when each element of a list binds its keys to its value. -/
theorem get?_foldl_bindAll (keys : δ → List Text) (value : δ → α) (ds : List δ) (k : Text) :
    (ds.foldl (fun d x => d.bindAll (keys x) (value x)) empty).get? k =
      (ds.findRev? fun x => k ∈ keys x).map value := by
  induction ds using List.reverseRecOn with
  | nil => rfl
  | append_singleton ds x ih =>
    rw [List.foldl_concat, get?_bindAll, findRev?_concat, ih]
    by_cases hk : k ∈ keys x <;> simp [hk]

end Dict

/-! ## 2. Ways to declare -/

/-- A collection with the declarations that went into it: it is made of a list of them at once, and
then takes more, one after the other. -/
inductive Gathered {δ κ : Type} (ofList : List δ → κ) (declare : κ → δ → κ) : List δ → κ → Prop
  | made (ds : List δ) : Gathered ofList declare ds (ofList ds)
  | more {ds : List δ} {c : κ} (h : Gathered ofList declare ds c) (d : δ) :
      Gathered ofList declare (ds ++ [d]) (declare c d)

/-- **The way does not matter**, where one more declaration does what it does at the end of a
list. -/
theorem Gathered.eq_ofList {δ κ : Type} {ofList : List δ → κ} {declare : κ → δ → κ}
    (hconcat : ∀ ds d, ofList (ds ++ [d]) = declare (ofList ds) d) {ds : List δ} {c : κ}
    (h : Gathered ofList declare ds c) : c = ofList ds := by
  induction h with
  | made => rfl
  | more _ d ih => rw [ih, hconcat]

/-- An alias map after declarations of macros with their aliases. -/
abbrev AliasMap.DeclaredBy (m : AliasMap) (decls : List (Text × List Text)) : Prop :=
  Gathered AliasMap.ofList (fun m d => m.declare d.1 d.2) decls m

/-- A skip list after declarations of macros. -/
abbrev SkipList.DeclaredBy (l : SkipList) (names : List Text) : Prop :=
  Gathered SkipList.ofList SkipList.declare names l

/-- Expansions after declarations of macros with their texts. -/
abbrev Expansions.DeclaredBy (e : Expansions) (decls : List (Text × Text)) : Prop :=
  Gathered Expansions.ofList (fun e d => e.declare d.1 d.2) decls e

/-! ## 3. Aliases -/

namespace AliasMap

variable {m m' : AliasMap} {decls decls' : List (Text × List Text)}

theorem ofList_concat (decls : List (Text × List Text)) (d : Text × List Text) :
    ofList (decls ++ [d]) = (ofList decls).declare d.1 d.2 := List.foldl_concat ..

/-- Declaring aliases binds them together. -/
theorem targets_declare (m : AliasMap) (canonical : Text) (aliases : List Text) :
    (m.declare canonical aliases).targets =
      m.targets.bindAll (aliases.map reduceName) (reduceName canonical) := by
  rw [declare, Dict.bindAll, List.map_map]
  rfl

theorem targets_ofList (decls : List (Text × List Text)) : (ofList decls).targets =
    decls.foldl (fun d x => d.bindAll (x.2.map reduceName) (reduceName x.1)) .empty := by
  induction decls using List.reverseRecOn with
  | nil => rfl
  | append_singleton decls d ih => rw [ofList_concat, targets_declare, ih, List.foldl_concat]

/-- **The last declaration that lists an alias counts.** -/
theorem get?_of_declared (h : m.DeclaredBy decls) (x : Text) : m.targets.get? x =
    (decls.findRev? fun d => x ∈ d.2.map reduceName).map fun d => reduceName d.1 := by
  rw [h.eq_ofList ofList_concat, targets_ofList, Dict.get?_foldl_bindAll]

/-- What is stored comes from a declaration, and was reduced there. -/
theorem reduced_of_declared (h : m.DeclaredBy decls) {a t : Text} (ht : m.targets.get? a = some t) :
    Reduced a ∧ Reduced t := by
  rw [get?_of_declared h, List.findRev?_eq_find?_reverse, Option.map_eq_some_iff] at ht
  obtain ⟨d, hd, rfl⟩ := ht
  obtain ⟨n, -, rfl⟩ : ∃ n ∈ d.2, reduceName n = a := by simpa using List.find?_some hd
  exact ⟨reduced_reduceName n, reduced_reduceName d.1⟩

/-- **Nothing but the declarations that list a name has a say in what it stands for.** -/
theorem resolve_of_filter_eq (h : m.DeclaredBy decls) (h' : m'.DeclaredBy decls') {x : Text}
    (hfilter : (decls'.filter fun d => x ∈ d.2.map reduceName) =
      decls.filter fun d => x ∈ d.2.map reduceName) : m'.resolve x = m.resolve x := by
  rw [resolve, resolve, get?_of_declared h, get?_of_declared h', List.findRev?_eq_find?_reverse,
    ← List.getLast?_filter, hfilter, List.getLast?_filter, ← List.findRev?_eq_find?_reverse]

end AliasMap

/-! ## 4. Macros to echo, and expansions

Each declaration binds one name here. -/

namespace SkipList

variable {l : SkipList} {names : List Text}

theorem names_ofList (names : List Text) : (ofList names).names =
    names.foldl (fun d n => d.bindAll [reduceName n] ()) .empty := List.foldl_map

theorem ofList_concat (names : List Text) (n : Text) :
    ofList (names ++ [n]) = (ofList names).declare n := by
  have hnames : (ofList (names ++ [n])).names = ((ofList names).declare n).names := by
    rw [names_ofList, List.foldl_concat, ← names_ofList]
    rfl
  rwa [← SkipList.mk.injEq] at hnames

/-- **A macro is echoed when some declared name reduces to it.** -/
theorem contains_of_declared (h : l.DeclaredBy names) (x : Text) :
    l.contains x = true ↔ ∃ n ∈ names, reduceName n = x := by
  rw [h.eq_ofList ofList_concat, contains, Dict.contains, names_ofList, Dict.get?_foldl_bindAll,
    Option.isSome_map, List.findRev?_eq_find?_reverse, List.find?_isSome]
  simp only [List.mem_reverse, decide_eq_true_eq, List.mem_singleton, @eq_comm _ x]

end SkipList

namespace Expansions

variable {e : Expansions} {decls : List (Text × Text)}

theorem texts_ofList (decls : List (Text × Text)) : (ofList decls).texts =
    decls.foldl (fun d x => d.bindAll [reduceName x.1] x.2) .empty := List.foldl_map

theorem ofList_concat (decls : List (Text × Text)) (d : Text × Text) :
    ofList (decls ++ [d]) = (ofList decls).declare d.1 d.2 := by
  have htexts : (ofList (decls ++ [d])).texts = ((ofList decls).declare d.1 d.2).texts := by
    rw [texts_ofList, List.foldl_concat, ← texts_ofList]
    rfl
  rwa [← Expansions.mk.injEq] at htexts

/-- **The last text that is declared for a macro counts.** -/
theorem get?_of_declared (h : e.DeclaredBy decls) (x : Text) : e.texts.get? x =
    (decls.findRev? fun d => reduceName d.1 = x).map Prod.snd := by
  rw [h.eq_ofList ofList_concat, texts_ofList, Dict.get?_foldl_bindAll]
  simp only [List.mem_singleton, eq_comm]

/-- **A macro is listed with the last text that is declared for it.** -/
theorem mem_toList_of_declared (h : e.DeclaredBy decls) (x s : Text) : (x, s) ∈ e.toList ↔
    (decls.findRev? fun d => reduceName d.1 = x).map Prod.snd = some s := by
  rw [toList, ← Dict.get?_eq_some_iff, get?_of_declared h]

end Expansions

/-! ## 5. The three collections -/

/-- What an alias map makes of its declarations. -/
structure AliasMap.Follows (m : AliasMap) (decls : List (Text × List Text)) : Prop where
  /-- An alias stands for the macro of the last declaration that lists it, and any other name for
  itself. -/
  resolve (x : Text) : m.resolve x =
    ((decls.findRev? fun d => x ∈ d.2.map reduceName).map fun d => reduceName d.1).getD x
  reduced (a t : Text) : m.targets.get? a = some t → Reduced a ∧ Reduced t
  colonless (x : Text) : ':' ∉ x → ':' ∉ m.resolve x
  /-- Declarations that do not list a name have no say in what it stands for.  So the macro that an
  alias stands for is not looked up again. -/
  direct (x : Text) (m' : AliasMap) (decls' : List (Text × List Text)) : m'.DeclaredBy decls' →
    (decls'.filter fun d => x ∈ d.2.map reduceName) =
      (decls.filter fun d => x ∈ d.2.map reduceName) → m'.resolve x = m.resolve x

/-- What a skip list makes of its declarations. -/
structure SkipList.Follows (l : SkipList) (names : List Text) : Prop where
  contains (x : Text) : l.contains x = true ↔ ∃ n ∈ names, reduceName n = x
  reduced (x : Text) : l.contains x = true → Reduced x

/-- What expansions make of their declarations. -/
structure Expansions.Follows (e : Expansions) (decls : List (Text × Text)) : Prop where
  /-- A macro is listed with the text of its last declaration. -/
  listed (x s : Text) : (x, s) ∈ e.toList ↔
    (decls.findRev? fun d => reduceName d.1 = x).map Prod.snd = some s
  reduced (x s : Text) : (x, s) ∈ e.toList → Reduced x
  /-- No macro is listed twice. -/
  ascending : (e.toList.map Prod.fst).Pairwise fun a b => a.utf8 < b.utf8

theorem AliasMap.follows_of_declared {m : AliasMap} {decls : List (Text × List Text)}
    (h : m.DeclaredBy decls) : m.Follows decls where
  resolve x := by rw [AliasMap.resolve, get?_of_declared h]
  reduced _ _ ht := reduced_of_declared h ht
  colonless _ := m.colon_not_mem_resolve
  direct _ _ _ h' := resolve_of_filter_eq h h'

theorem SkipList.follows_of_declared {l : SkipList} {names : List Text} (h : l.DeclaredBy names) :
    l.Follows names where
  contains := contains_of_declared h
  reduced x hx := by
    obtain ⟨n, -, rfl⟩ := (contains_of_declared h x).mp hx
    exact reduced_reduceName n

theorem Expansions.follows_of_declared {e : Expansions} {decls : List (Text × Text)}
    (h : e.DeclaredBy decls) : e.Follows decls where
  listed := mem_toList_of_declared h
  reduced x s hx := by
    rw [mem_toList_of_declared h, List.findRev?_eq_find?_reverse, Option.map_eq_some_iff] at hx
    obtain ⟨d, hd, -⟩ := hx
    obtain rfl : reduceName d.1 = x := by simpa using List.find?_some hd
    exact reduced_reduceName d.1
  ascending := e.texts.pairwise_keys

/-- **The last declaration of a name counts**, in whichever way the declarations reached a collection:
made of a list, one after the other, or out of a configuration, which declares its aliases and its
expansions in the order of the bytes of their macros.  All stored names are reduced. -/
theorem last_declaration_counts {m : AliasMap} {l : SkipList} {e : Expansions}
    {decls : List (Text × List Text)} {names : List Text} {texts : List (Text × Text)}
    (hm : m.DeclaredBy decls) (hl : l.DeclaredBy names) (he : e.DeclaredBy texts) :
    m.Follows decls ∧ l.Follows names ∧ e.Follows texts ∧
      ∀ c : Config,
        (c.aliasMap.DeclaredBy c.aliases.entries ∧
          c.aliases.keys.Pairwise fun a b => a.utf8 < b.utf8) ∧
        (c.expansionMap.DeclaredBy c.expansions.entries ∧
          c.expansions.keys.Pairwise fun a b => a.utf8 < b.utf8) :=
  ⟨AliasMap.follows_of_declared hm, SkipList.follows_of_declared hl,
    Expansions.follows_of_declared he, fun c =>
      ⟨⟨.made _, c.aliases.pairwise_keys⟩, ⟨.made _, c.expansions.pairwise_keys⟩⟩⟩

namespace Sample

/-- An alias of two macros, one of which keeps the blank before its colon. -/
def nicknames : List (Text × List Text) :=
  [("one".toList, ["x:hex".toList, " y".toList]), (" two :k".toList, ["x".toList])]

/-- A macro whose aliases are another macro and an alias of another one. -/
def lateNickname : Text × List Text := ("three".toList, ["two :z".toList, "y\t".toList])

def nicknamed : AliasMap := (AliasMap.ofList nicknames).declare lateNickname.1 lateNickname.2

def silenced : SkipList := (SkipList.ofList ["secret:hex".toList]).declare " token ".toList

def renamed : Expansions :=
  (Expansions.ofList [("name:upper".toList, "$\x7bfirst\x7d".toList)]).declare "name".toList
    "$\x7blast\x7d".toList

/-- `x` stands for the later macro, which stands for another one itself. -/
theorem last_declaration_counts_nicknames :
    nicknamed.DeclaredBy (nicknames ++ [lateNickname]) ∧
      silenced.DeclaredBy ["secret:hex".toList, " token ".toList] ∧
      renamed.DeclaredBy [("name:upper".toList, "$\x7bfirst\x7d".toList),
        ("name".toList, "$\x7blast\x7d".toList)] ∧
      nicknamed.resolve "x".toList = "two ".toList ∧
      nicknamed.resolve "two ".toList = "three".toList ∧
      nicknamed.resolve "y".toList = "three".toList ∧
      nicknamed.resolve "x:hex".toList = "x:hex".toList ∧
      silenced.contains "token".toList = true ∧ silenced.contains "secret:hex".toList ≠ true ∧
      ("name".toList, "$\x7blast\x7d".toList) ∈ renamed.toList ∧
      ("name".toList, "$\x7bfirst\x7d".toList) ∉ renamed.toList := by
  have hm : nicknamed.DeclaredBy (nicknames ++ [lateNickname]) := .more (.made nicknames) lateNickname
  have hl : silenced.DeclaredBy ["secret:hex".toList, " token ".toList] :=
    .more (.made ["secret:hex".toList]) " token ".toList
  have he : renamed.DeclaredBy [("name:upper".toList, "$\x7bfirst\x7d".toList),
      ("name".toList, "$\x7blast\x7d".toList)] :=
    .more (.made [("name:upper".toList, "$\x7bfirst\x7d".toList)])
      ("name".toList, "$\x7blast\x7d".toList)
  obtain ⟨haliases, hnames, htexts, -⟩ := last_declaration_counts hm hl he
  refine ⟨hm, hl, he, ?_, ?_, ?_, ?_, ?_, ?_, ?_, ?_⟩
  · exact (haliases.resolve _).trans (by decide +kernel)
  · exact (haliases.resolve _).trans (by decide +kernel)
  · exact (haliases.resolve _).trans (by decide +kernel)
  · exact (haliases.resolve _).trans (by decide +kernel)
  · exact (hnames.contains _).mpr (by decide +kernel)
  · exact (hnames.contains _).not.mpr (by decide +kernel)
  · exact (htexts.listed _ _).mpr (by decide +kernel)
  · exact (htexts.listed _ _).not.mpr (by decide +kernel)

end Sample

end Stencil
