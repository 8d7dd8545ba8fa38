/-
# The tokens of an address template

An address template is compiled like any other text, and its query may have come from anywhere.  Still
its tokens are exactly those that were asked for: names and values of an address are form-encoded,
which leaves no brace of them, so that each opening brace in the query belongs to a token.

* `UrlTemplate.Woven`: a text in which each opening brace belongs to a token.
  `UrlTemplate.Woven.exists_grammatical`: its tokens are found between texts without start markers.
* `UrlTemplate.woven_writeQuery`: the query that is written is such a text.
* `Engine.compile_urlTemplate`: an address template compiles to the tokens of its parameters.
-/
import Stencil.Proofs.QueryTemplate
import Stencil.Proofs.ReadBack

namespace Stencil

/-! ## 1. Texts without start markers -/

namespace Delimiters

variable {a b lead m : Text}

/-- A start marker across two texts would have its brace at the front of the second. -/
theorem not_start_infix_append (ha : ¬ standard.start <:+: a) (hb : ¬ standard.start <:+: b)
    (hhead : b.head? ≠ some '\x7b') : ¬ standard.start <:+: a ++ b := by
  rintro ⟨x, y, heq⟩
  have hsplit : x ++ '$' :: '\x7b' :: y = a ++ b := by
    rw [← heq]
    simp [standard]
  rcases List.append_eq_append_iff.mp hsplit with ⟨c, rfl, hc⟩ | ⟨c, rfl, rfl⟩
  · match c, hc with
    | [], hc => exact hb ⟨[], y, by simpa [standard] using hc⟩
    | ['$'], hc =>
      obtain rfl : '\x7b' :: y = b := by simpa using hc
      exact hhead rfl
    | _ :: _ :: c, hc =>
      obtain ⟨rfl, rfl, rfl⟩ : '$' = _ ∧ '\x7b' = _ ∧ y = c ++ b := by simpa using hc
      exact ha ⟨x, c, by simp [standard]⟩
  · exact hb ⟨c, y, by simp [standard]⟩

/-- Behind a text without start markers the next start marker is the first. -/
theorem first_start (h : ¬ standard.start <:+: lead) :
    Text.First standard.start (lead ++ standard.start) lead [] := by
  refine ⟨by simp, fun {x y} heq => ?_⟩
  by_contra hlt
  have hopen : ¬ standard.start <:+: lead ++ ['$'] :=
    not_start_infix_append h (by decide) (by decide)
  have heq : (lead ++ ['$']) ++ ['\x7b'] = x ++ standard.start ++ y := by
    rw [← heq]
    simp [standard]
  have hpre : x ++ standard.start <+: lead ++ ['$'] :=
    Text.prefix_of_occurrence heq (by simp [standard]; omega)
  exact hopen ((List.suffix_append x _).isInfix.trans hpre.isInfix)

/-- A token without braces opens the text that it stands in. -/
theorem opens_placeholder (hlead : ¬ standard.start <:+: lead)
    (hm : ∀ c ∈ m, c ≠ '\x7b' ∧ c ≠ '\x7d') (after : Text) :
    standard.Opens (lead ++ standard.placeholder m ++ after) lead m after := by
  have hstart := (first_start hlead).append (m ++ standard.stop ++ after)
  refine ⟨?_, (Text.first_singleton fun hin => (hm _ hin).2 rfl).append after, fun hin => ?_⟩
  · have heq : lead ++ standard.placeholder m ++ after =
        lead ++ standard.start ++ (m ++ standard.stop ++ after) := by
      simp [placeholder]
    rw [heq]
    exact hstart
  · exact (hm _ (hin.subset (List.mem_cons_of_mem _ List.mem_cons_self))).1 rfl

end Delimiters

/-! ## 2. Texts in which each brace is a token's -/

namespace UrlTemplate

/-- A text and the tokens in it.  Apart from these tokens it has no opening brace. -/
inductive Woven : Text → List Text → Prop
  | nil : Woven [] []
  | char {c : Char} {s : Text} {ms : List Text} (hc : c ≠ '\x7b') (h : Woven s ms) : Woven (c :: s) ms
  | token {m s : Text} {ms : List Text} (hm : ∀ c ∈ m, c ≠ '\x7b' ∧ c ≠ '\x7d') (h : Woven s ms) :
    Woven (Delimiters.standard.placeholder m ++ s) (m :: ms)

variable {s t lead tail : Text} {ms ns : List Text}

theorem Woven.append (hs : Woven s ms) (ht : Woven t ns) : Woven (s ++ t) (ms ++ ns) := by
  induction hs with
  | nil => exact ht
  | char hc _ ih => exact .char hc ih
  | token hm _ ih =>
    rw [List.append_assoc]
    exact .token hm ih

theorem woven_of_forall (h : ∀ c ∈ s, c ≠ '\x7b') : Woven s [] := by
  induction s with
  | nil => exact .nil
  | cons c s ih =>
    obtain ⟨hc, hs⟩ := List.forall_mem_cons.mp h
    exact .char hc (ih hs)

/-- **The tokens are found**, each of them where it stands, between texts without start markers. -/
theorem Woven.exists_grammatical (h : Woven s ms) (hlead : ¬ Delimiters.standard.start <:+: lead)
    (htail : ¬ Delimiters.standard.start <:+: tail) (hhead : tail.head? ≠ some '\x7b') :
    ∃ parts rest, Delimiters.standard.Grammatical (lead ++ s ++ tail) parts rest ∧
      parts.map Prod.snd = ms := by
  -- what is passed over before a token comes in front of it
  induction h generalizing lead with
  | nil =>
    refine ⟨[], lead ++ tail, ⟨?_, Delimiters.not_start_infix_append hlead htail hhead⟩, rfl⟩
    rw [List.append_nil]
    exact .nil
  | @char c s ms hc _ ih =>
    have hshort : ¬ Delimiters.standard.start <:+: [c] := fun h =>
      absurd h.length_le (by simp [Delimiters.standard])
    have hpassed : ¬ Delimiters.standard.start <:+: lead ++ [c] :=
      Delimiters.not_start_infix_append hlead hshort (by simpa using hc)
    have hparts := ih hpassed
    rwa [List.append_assoc lead [c] s] at hparts
  | @token m s ms hm _ ih =>
    obtain ⟨parts, rest, ⟨hcuts, hrest⟩, hms⟩ := @ih [] (by decide)
    have hopens := Delimiters.opens_placeholder hlead hm (s ++ tail)
    refine ⟨(lead, m) :: parts, rest, ⟨.cons ?_ hcuts, hrest⟩, ?_⟩
    · simpa using hopens
    · rw [List.map_cons, hms]

/-! ## 3. The tokens in a query -/

/-- A character of a macro with filters that needs no escape anywhere. -/
def isMacroChar (c : Char) : Bool := c.isAlphanum || "_-.:".toList.contains c

/-- There are few enough such characters to look at each. -/
theorem of_isMacroChar {p : Char → Bool}
    (hp : ∀ n < 128, isMacroChar (Char.ofNat n) → p (Char.ofNat n)) {c : Char}
    (h : isMacroChar c) : p c := by
  have hascii : c.toNat < 128 := by
    have hsigns : "_-.:".toList.all (fun d => d.toNat < 128) = true := by decide
    delta isMacroChar Char.isAlphanum Char.isAlpha Char.isUpper Char.isLower Char.isDigit at h
    simp only [Bool.or_eq_true, Bool.and_eq_true, decide_eq_true_eq, UInt32.le_iff_toNat_le] at h
    rcases h with ((h | h) | h) | h
    · exact Nat.lt_of_le_of_lt h.2 (by decide)
    · exact Nat.lt_of_le_of_lt h.2 (by decide)
    · exact Nat.lt_of_le_of_lt h.2 (by decide)
    · exact of_decide_eq_true (List.all_eq_true.mp hsigns c (List.contains_iff_mem.mp h))
  have hc := hp c.toNat hascii
  rw [Char.ofNat_toNat] at hc
  exact hc h

variable {params given : List (Text × Text)} {key m : Text} {e : Text × QueryValue}

/-- Every macro that is given is made of such characters. -/
def Simple (params : List (Text × Text)) : Prop := ∀ p ∈ params, ∀ c ∈ p.2, isMacroChar c

theorem Simple.inert (h : Simple params) : ∀ p ∈ params,
    ∀ c ∈ Delimiters.standard.placeholder p.2.trim, isInert c := by
  intro p hp c hc
  have hmarkers : ∀ c ∈ Delimiters.standard.start ++ Delimiters.standard.stop, isInert c :=
    List.all_eq_true.mp (by decide)
  simp only [Delimiters.placeholder, List.mem_append] at hc
  rcases hc with (hc | hc) | hc
  · exact hmarkers c (List.mem_append_left _ hc)
  · exact of_isMacroChar (by decide +kernel) (h p hp c ((Text.trim_isInfix p.2).subset hc))
  · exact hmarkers c (List.mem_append_right _ hc)

/-- The tokens that are asked for under a name. -/
def asked (params : List (Text × Text)) (key : Text) : List Text :=
  ((lastMacro? params key).map Text.trim).toList

theorem woven_encodeText (s : Text) : Woven (Form.encodeText s) [] := by
  refine woven_of_forall fun c hc => ?_
  obtain ⟨x, hx, rfl⟩ := List.mem_map.mp hc
  have hne := (Form.written_of_mem_encode hx).char (p := (· != '\x7b')) (by decide +kernel)
  exact bne_iff_ne.mp hne

theorem woven_writePair {p : Text × Text} (h : Woven p.2 ms) : Woven (Form.writePair p) ms :=
  (woven_encodeText p.1).append (.char (by decide) h)

theorem woven_join {ps : List (Text × Text)} {tokens : Text × Text → List Text}
    (h : ∀ p ∈ ps, Woven p.2 (tokens p)) :
    Woven (Text.join ['&'] (ps.map Form.writePair)) (ps.flatMap tokens) := by
  induction ps with
  | nil => exact .nil
  | cons p ps ih =>
    obtain ⟨hp, hps⟩ := List.forall_mem_cons.mp h
    cases ps with
    | nil => simpa [Text.join] using woven_writePair hp
    | cons q ps =>
      have hlead := (woven_writePair hp).append (.char (c := '&') (by decide) .nil)
      rw [List.append_nil] at hlead
      exact hlead.append (ih hps)

/-- What is written for an entry is woven of the tokens that are asked for under its name. -/
theorem woven_pairsOf (hsimple : Simple params)
    (he : e ∈ (collect .standard given params).entries) :
    (∀ p ∈ pairsOf e, Woven p.2 (asked params p.1)) ∧
      (pairsOf e).flatMap (fun p => asked params p.1) = asked params e.1 := by
  obtain ⟨key, value⟩ := e
  have hvalue := get?_collect_eq .standard given params key
  rw [Dict.get?_eq_some_iff.mpr he] at hvalue
  cases hlast : lastMacro? params key with
  | some m =>
    simp only [hlast, Option.some.injEq] at hvalue
    subst hvalue
    have hasked : asked params key = [m.trim] := by rw [asked, hlast]; rfl
    have hm : ∀ c ∈ m.trim, c ≠ '\x7b' ∧ c ≠ '\x7d' := by
      intro c hc
      have hchar := hsimple _ (mem_of_lastMacro? hlast) c ((Text.trim_isInfix m).subset hc)
      simpa using of_isMacroChar (p := fun c => c != '\x7b' && c != '\x7d') (by decide +kernel) hchar
    refine ⟨List.forall_mem_singleton.mpr ?_, List.flatMap_singleton ..⟩
    rw [hasked, ← List.append_nil (Delimiters.placeholder _ _)]
    exact .token hm .nil
  | none =>
    simp only [hlast] at hvalue
    split at hvalue
    · contradiction
    · obtain rfl := Option.some.inj hvalue
      have hasked : asked params key = [] := by rw [asked, hlast]; rfl
      refine ⟨?_, ?_⟩
      · intro p hp
        obtain ⟨v, -, rfl⟩ := List.mem_map.mp hp
        rw [hasked]
        exact woven_encodeText v
      · rw [pairsOf, List.flatMap_map, hasked]
        exact List.flatMap_eq_nil_iff.mpr fun _ _ => hasked

/-- **The query that is written is woven of the tokens that are asked for**, name by name. -/
theorem woven_writeQuery (hsimple : Simple params) (given : List (Text × Text)) :
    Woven ((writeQuery (collect .standard given params)).elim [] ('?' :: ·))
      ((collect .standard given params).keys.flatMap (asked params)) := by
  have htokens : (collect .standard given params).keys.flatMap (asked params) =
      ((collect .standard given params).entries.flatMap pairsOf).flatMap
        fun p => asked params p.1 := by
    rw [Dict.keys, List.flatMap_map, List.flatMap_assoc]
    exact List.flatMap_congr fun e he => (woven_pairsOf hsimple he).2.symm
  have hwoven : ∀ p ∈ (collect .standard given params).entries.flatMap pairsOf,
      Woven p.2 (asked params p.1) := by
    intro p hp
    obtain ⟨e, he, hp⟩ := List.mem_flatMap.mp hp
    exact (woven_pairsOf hsimple he).1 p hp
  rw [htokens, writeQuery_eq]
  cases hpairs : (collect .standard given params).entries.flatMap pairsOf with
  | nil => exact .nil
  | cons p ps =>
    rw [hpairs] at hwoven
    exact .char (by decide) (woven_join hwoven)

end UrlTemplate

/-! ## 4. Compiling an address template -/

namespace Url

variable {u : Url}

/-- An address without an authority and without slashes needs no mark for them. -/
theorem writeAuthority_of_isRootless (h : u.isRootless) : u.writeAuthority = [] := by
  obtain ⟨scheme, authority, path, query, fragment⟩ := u
  simp only [isRootless, Bool.and_eq_true, Option.isNone_iff_eq_none, bne_iff_ne] at h
  obtain ⟨rfl, hhead⟩ := h
  have hslashes : ['/', '/'].isPrefixOf path = false := by
    match path, hhead with
    | [], _ => rfl
    | c :: path, hhead =>
      have hc : ('/' == c) = false := beq_false_of_ne fun heq => hhead (heq ▸ rfl)
      rw [List.isPrefixOf_cons_cons, hc, Bool.false_and]
  simp [writeAuthority, hslashes]

/-- Setting a query only takes blanks off the end of a path. -/
theorem front_setQuery (u : Url) (query : Option Text) : (u.setQuery query).front <+: u.front := by
  cases query with
  | some q => exact List.prefix_refl _
  | none =>
    simp only [setQuery]
    split
    · next hrootless =>
      have hu : u.isRootless := (Bool.and_eq_true_iff.mp hrootless).1
      have hpath : (u.path.reverse.dropWhile (· == ' ')).reverse <+: u.path :=
        List.rdropWhile_prefix _ _
      -- the path that is left starts like the path, or there is none
      have hleft : { u with query := none, path := (u.path.reverse.dropWhile (· == ' ')).reverse
          }.isRootless := by
        simp only [isRootless, Bool.and_eq_true, bne_iff_ne] at hu ⊢
        refine ⟨hu.1, fun hslash => hu.2 ?_⟩
        obtain ⟨rest, hrest⟩ := hpath
        rw [← hrest, List.head?_append, hslash]
        rfl
      rw [front, front, writeAuthority_of_isRootless hu, writeAuthority_of_isRootless hleft]
      exact (List.prefix_append_right_inj _).mpr hpath
    · exact List.prefix_refl _

end Url

/-- A text without blanks is trimmed. -/
theorem Text.trim_of_forall {s : Text} (h : ∀ c ∈ s, isBlank c = false) : s.trim = s := by
  have hstart (s : Text) (h : ∀ c ∈ s, isBlank c = false) : s.dropWhile isBlank = s := by
    cases s with
    | nil => rfl
    | cons c s =>
      have hc := h c List.mem_cons_self
      exact List.dropWhile_cons_of_neg (by simp [hc])
  have hend : s.reverse.dropWhile isBlank = s.reverse :=
    hstart s.reverse fun c hc => h c (List.mem_reverse.mp hc)
  rw [trim, trimStart, hstart s h, trimEnd, hend, List.reverse_reverse]

namespace Engine

variable {E : Engine} {raw : Text} {u : Url} {params : List (Text × Text)}

open UrlTemplate in
/-- Reading the tokens that are asked for resolves the macros that count. -/
theorem Direct.map_asked (hE : E.Direct) (hsimple : Simple params) (names : List Text) :
    (names.flatMap (asked params)).map (fun m => some (Token.rejoin m.trim)) =
      (names.filter fun key => (lastMacro? params key).isSome).map
        fun key => (lastMacro? params key).map E.resolveToken := by
  induction names with
  | nil => rfl
  | cons key names ih =>
    rw [List.flatMap_cons, List.map_append, ih]
    cases hlast : lastMacro? params key with
    | none => simp [asked, hlast]
    | some m =>
      have hblank : ∀ c ∈ m.trim, isBlank c = false := by
        intro c hc
        have hchar := hsimple _ (mem_of_lastMacro? hlast) c ((Text.trim_isInfix m).subset hc)
        simpa using of_isMacroChar (p := fun c => !isBlank c) (by decide +kernel) hchar
      simp [asked, hlast, hE.resolveToken, Text.trim_of_forall hblank]

open UrlTemplate in
/-- An address template is in the grammar, with the tokens that are asked for. -/
theorem exists_grammatical_urlTemplate (hd : E.delimiters = .standard)
    (hraw : Url.parse? raw = some u)
    (hplain : ¬ "$\x7b".toList <:+: { u with query := none }.write) (hsimple : Simple params) :
    ∃ parts rest, E.delimiters.Grammatical (E.urlTemplate raw params) parts rest ∧
      parts.map Prod.snd = (collect .standard u.queryPairs params).keys.flatMap (asked params) := by
  have hresult : E.urlTemplate raw params =
      (u.setQuery (writeQuery (collect .standard u.queryPairs params))).write := by
    rw [urlTemplate, hraw, hd]
  have hstands : ∀ q, writeQuery (collect .standard u.queryPairs params) = some q →
      ∀ c ∈ q, Url.standsInQuery (Url.kindOf u.scheme) c :=
    fun q hq c hc => stands_of_mem_writeQuery hsimple.inert hq c hc _
  have hwoven := woven_writeQuery hsimple u.queryPairs
  generalize writeQuery (collect .standard u.queryPairs params) = query
    at hresult hstands hwoven
  -- in front of the query and behind it stands what the address has without its query
  have hwritten : E.urlTemplate raw params = (u.setQuery query).front ++
      query.elim [] ('?' :: ·) ++ u.fragment.elim [] ('#' :: ·) := by
    rw [hresult, Url.write_eq, Url.rear, Url.query_setQuery hstands, Url.fragment_setQuery,
      List.append_assoc]
  rw [Url.write_eq] at hplain
  have hlead : ¬ Delimiters.standard.start <:+: (u.setQuery query).front := fun hin =>
    hplain ((hin.trans (Url.front_setQuery u query).isInfix).trans (List.prefix_append _ _).isInfix)
  have htail : ¬ Delimiters.standard.start <:+: u.fragment.elim [] ('#' :: ·) := fun hin =>
    hplain (hin.trans (List.suffix_append _ _).isInfix)
  have hhead : (u.fragment.elim [] ('#' :: ·)).head? ≠ some '\x7b' := by
    cases u.fragment <;> simp
  rw [hwritten, hd]
  exact hwoven.exists_grammatical hlead htail hhead

open UrlTemplate in
/-- **An address template compiles to the tokens of its parameters**, in the order of the bytes of
their names, whatever the query of the address holds. -/
theorem compile_urlTemplate (hE : E.Direct) (hd : E.delimiters = .standard)
    (hraw : Url.parse? raw = some u)
    (hplain : ¬ "$\x7b".toList <:+: { u with query := none }.write)
    (hparams : ∀ p ∈ params, ∀ c ∈ p.2, isMacroChar c) :
    ∃ (t : Template) (names : List Text), E.compile (E.urlTemplate raw params) = .ok t ∧
      names.Pairwise (fun a b => a.utf8 < b.utf8) ∧
      (∀ key, key ∈ names ↔ key ∈ params.map Prod.fst) ∧
      t.tokens.map some = names.map fun key => (lastMacro? params key).map E.resolveToken := by
  obtain ⟨parts, rest, hgram, hparts⟩ := exists_grammatical_urlTemplate hd hraw hplain hparams
  refine ⟨_, (collect .standard u.queryPairs params).keys.filter fun key =>
    (lastMacro? params key).isSome, hE.compile hgram, (Dict.pairwise_keys _).filter _, ?_, ?_⟩
  · intro key
    rw [List.mem_filter, mem_keys_collect_iff, mem_names_iff params key, Option.isSome_iff_exists]
    exact ⟨And.right, fun h => ⟨.inr h, h⟩⟩
  · rw [← hE.map_asked hparams, ← hparts, Template.tokens, List.map_map, List.map_map, List.map_map]
    rfl

end Engine
namespace Sample

/-- An address whose query looks like tokens, as it is and escaped. -/
def baited : Text := "http://[::1]/p?a=$\x7bx\x7d&%7D=%24%7By%7D#top".toList

def baitedPlace : Url :=
  ⟨"http".toList, some ⟨[], [], "[::1]".toList, none⟩, "/p".toList,
    some "a=$\x7bx\x7d&%7D=%24%7By%7D".toList, some "top".toList⟩

/-- Two macros for one name, with a name in front of it in the order of names. -/
def simpleParams : List (Text × Text) :=
  [("z".toList, "q".toList), ("id".toList, "user:hex".toList), ("z".toList, "device.os".toList)]

theorem compile_urlTemplate_baited :
    Engine.plain.Direct ∧ Engine.plain.delimiters = .standard ∧
      Url.parse? baited = some baitedPlace ∧
      ¬ "$\x7b".toList <:+: { baitedPlace with query := none }.write ∧
      (∀ p ∈ simpleParams, ∀ c ∈ p.2, UrlTemplate.isMacroChar c) ∧
      ∃ (t : Template) (names : List Text),
        Engine.plain.compile (Engine.plain.urlTemplate baited simpleParams) = .ok t ∧
        names.Pairwise (fun a b => a.utf8 < b.utf8) ∧
        (∀ key, key ∈ names ↔ key ∈ simpleParams.map Prod.fst) ∧
        t.tokens.map some = names.map (fun key =>
          (UrlTemplate.lastMacro? simpleParams key).map Engine.plain.resolveToken) ∧
        t.tokens = [⟨"user:hex".toList⟩, ⟨"device.os".toList⟩] := by
  have hparse : Url.parse? baited = some baitedPlace := by decide +kernel
  have hplain : ¬ "$\x7b".toList <:+: { baitedPlace with query := none }.write := by decide +kernel
  have hall : simpleParams.all (fun p => p.2.all UrlTemplate.isMacroChar) = true := by decide +kernel
  have hsimple : ∀ p ∈ simpleParams, ∀ c ∈ p.2, UrlTemplate.isMacroChar c :=
    fun p hp => List.all_eq_true.mp (List.all_eq_true.mp hall p hp)
  obtain ⟨t, names, hcompile, hsorted, hnames, htokens⟩ :=
    Engine.compile_urlTemplate direct_plain rfl hparse hplain hsimple
  refine ⟨direct_plain, rfl, hparse, hplain, hsimple, t, names, hcompile, hsorted, hnames,
    htokens, ?_⟩
  have hfound : (Engine.plain.compile (Engine.plain.urlTemplate baited simpleParams)).map
      Template.tokens = .ok [⟨"user:hex".toList⟩, ⟨"device.os".toList⟩] := by decide +kernel
  rw [hcompile] at hfound
  exact Except.ok.inj hfound

end Sample
end Stencil
