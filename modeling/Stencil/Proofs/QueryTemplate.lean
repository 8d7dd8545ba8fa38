/-
# The query of an address template

`Engine.urlTemplate` takes the query of an address apart, puts tokens in the place of some values, and
writes a new query in the order of the names.  This file says what is read from that query again.

* `UrlTemplate.lastMacro?`: the macro that counts for a name.  `UrlTemplate.get?_collect_eq`: what is
  collected for a name is its token, or else the values that the address has for it, in their order.
* `UrlTemplate.meant`: the names and values that a template has for a name.
  `UrlTemplate.read_pairsOf`: they are what is read from what is written for the name.
* `UrlTemplate.isInert`: a character that no query escapes and that means nothing in a form.
* `Engine.urlTemplate_query`: the names and values in the query of an address template.
-/
import Mathlib.Data.List.Induction
import Mathlib.Data.List.Sort
import Stencil.Proofs.AddressTail
import Stencil.Proofs.ByteOrder
import Stencil.Proofs.FormReading

namespace Stencil

/-- A dictionary is what looking up in it finds. -/
theorem Dict.ext_get? {α : Type} {d d' : Dict α} (h : ∀ k, d.get? k = d'.get? k) : d = d' := by
  obtain ⟨entries, hd⟩ := d
  obtain ⟨entries', hd'⟩ := d'
  have hirrefl : Std.Irrefl fun a b : Text × α => a.1 < b.1 := ⟨fun a => List.lt_irrefl a.1⟩
  have hantisymm : Std.Antisymm fun a b : Text × α => a.1 < b.1 :=
    ⟨fun a b hab hba => absurd hba (List.lt_asymm hab)⟩
  have hentries : entries = entries' := hd.eq_of_mem_iff hd' fun ⟨k, v⟩ => by
    have hfind : find? k entries = find? k entries' := h k
    rw [← find?_eq_some_iff hd, ← find?_eq_some_iff hd', hfind]
  subst hentries
  rfl

namespace UrlTemplate

variable {params given : List (Text × Text)} {key m : Text}

/-! ## 1. What is collected for a name -/

/-- The last macro that is given for a name. -/
def lastMacro? (params : List (Text × Text)) (key : Text) : Option Text :=
  ((params.filter fun p => p.1 = key).getLast?).map Prod.snd

/-- The values that an address has for a name. -/
def valuesOf (given : List (Text × Text)) (key : Text) : List Text :=
  (given.filter fun p => p.1 = key).map Prod.snd

theorem lastMacro?_concat (params : List (Text × Text)) (p : Text × Text) (key : Text) :
    lastMacro? (params ++ [p]) key = if p.1 = key then some p.2 else lastMacro? params key := by
  unfold lastMacro?
  split
  · next h => simp [h]
  · next h => simp [h]

theorem valuesOf_concat (given : List (Text × Text)) (p : Text × Text) (key : Text) :
    valuesOf (given ++ [p]) key = valuesOf given key ++ if p.1 = key then [p.2] else [] := by
  unfold valuesOf
  split
  · next h => simp [h]
  · next h => simp [h]

/-- A macro counts for each name that is given one. -/
theorem mem_names_iff (params : List (Text × Text)) (key : Text) :
    key ∈ params.map Prod.fst ↔ ∃ m, lastMacro? params key = some m := by
  induction params using List.reverseRecOn with
  | nil => simp [lastMacro?]
  | append_singleton params p ih =>
    rw [lastMacro?_concat, List.map_append, List.mem_append, ih]
    split
    · next h => simp [h]
    · next h => simp [Ne.symm h]

/-- An address has values for each name that it has. -/
theorem valuesOf_eq_nil_iff : valuesOf given key = [] ↔ key ∉ given.map Prod.fst := by
  simp only [valuesOf, List.map_eq_nil_iff, List.filter_eq_nil_iff, List.mem_map, decide_eq_true_eq,
    not_exists, not_and]

/-- The values of a name are kept in their order. -/
theorem get?_addGivens (given : List (Text × Text)) (key : Text) :
    (given.foldl addGiven .empty).get? key =
      if valuesOf given key = [] then none else some (.given (valuesOf given key)) := by
  induction given using List.reverseRecOn generalizing key with
  | nil => rfl
  | append_singleton given p ih =>
    have hadd : ((given ++ [p]).foldl addGiven .empty) =
        (given.foldl addGiven .empty).insert p.1 (.given (valuesOf given p.1 ++ [p.2])) := by
      rw [List.foldl_append, List.foldl_cons, List.foldl_nil, addGiven, ih]
      split_ifs with hnil
      · simp [hnil]
      · rfl
    rw [hadd, Dict.get?_insert, valuesOf_concat, ih]
    split_ifs with hkey <;> simp_all

/-- **What is collected for a name**: the token of the last macro that is given for it, or else the
values that the address has for it. -/
theorem get?_collect_eq (d : Delimiters) (given params : List (Text × Text)) (key : Text) :
    (collect d given params).get? key =
      match lastMacro? params key with
      | some m => some (.token (d.placeholder m.trim))
      | none => if valuesOf given key = [] then none else some (.given (valuesOf given key)) := by
  induction params using List.reverseRecOn with
  | nil => exact get?_addGivens given key
  | append_singleton params p ih =>
    have hput : collect d given (params ++ [p]) =
        (collect d given params).insert p.1 (.token (d.placeholder p.2.trim)) := by
      rw [collect, List.foldl_append]
      rfl
    rw [hput, Dict.get?_insert, lastMacro?_concat, ih]
    split_ifs <;> rfl

/-- What is collected depends on the last macros only. -/
theorem collect_congr {params' : List (Text × Text)} (d : Delimiters)
    (h : ∀ key, lastMacro? params' key = lastMacro? params key) :
    collect d given params' = collect d given params :=
  Dict.ext_get? fun key => by rw [get?_collect_eq, get?_collect_eq, h]

/-- The names are those of the address and those that macros are given for. -/
theorem mem_keys_collect_iff {d : Delimiters} :
    key ∈ (collect d given params).keys ↔
      key ∈ given.map Prod.fst ∨ key ∈ params.map Prod.fst := by
  rw [Dict.mem_keys_iff, get?_collect_eq, mem_names_iff params key]
  cases lastMacro? params key with
  | some m => simp
  | none => simp only [valuesOf_eq_nil_iff]; simp

/-! ## 2. What is written for a name -/

/-- The names and values that a template has for a name: the last macro's token, or the values of the
address. -/
def meant (d : Delimiters) (given params : List (Text × Text)) (key : Text) : List (Text × Text) :=
  match lastMacro? params key with
  | some m => [(key, d.placeholder m.trim)]
  | none => given.filter fun p => p.1 = key

/-- The pairs that are written for an entry, where only the name is still to be encoded. -/
def pairsOf (e : Text × QueryValue) : List (Text × Text) :=
  match e.2 with
  | .given values => values.map fun v => (e.1, Form.encodeText v)
  | .token written => [(e.1, written)]

theorem writeEntry_eq (e : Text × QueryValue) : writeEntry e = (pairsOf e).map Form.writePair := by
  obtain ⟨name, values | written⟩ := e
  · rw [pairsOf, List.map_map]
    rfl
  · rfl

/-- A query is written from the pairs of its entries. -/
theorem writeQuery_eq (d : Dict QueryValue) : writeQuery d =
    match d.entries.flatMap pairsOf with
    | [] => none
    | ps => some (Text.join ['&'] (ps.map Form.writePair)) := by
  have hparts : d.entries.flatMap writeEntry = (d.entries.flatMap pairsOf).map Form.writePair := by
    rw [List.map_flatMap]
    exact congrArg (d.entries.flatMap ·) (funext writeEntry_eq)
  rw [writeQuery, hparts]
  cases d.entries.flatMap pairsOf <;> rfl

/-- A character that no query escapes and that stands for itself in a form. -/
def isInert (c : Char) : Bool :=
  c.toNat < 0x80 && !Url.isControl c && !" \"#%&'+<>".toList.contains c

/-- The macro that counts for a name is given for it. -/
theorem mem_of_lastMacro? (h : lastMacro? params key = some m) : (key, m) ∈ params := by
  obtain ⟨⟨name, m⟩, hlast, rfl⟩ := Option.map_eq_some_iff.mp h
  have hmem := List.mem_of_getLast? hlast
  obtain ⟨hin, hname⟩ := List.mem_filter.mp hmem
  have hname : name = key := of_decide_eq_true hname
  exact hname ▸ hin

variable {d : Delimiters} {e : Text × QueryValue}

/-- A token that is collected is the token of a macro. -/
theorem inert_of_get?_collect (hinert : ∀ p ∈ params, ∀ c ∈ d.placeholder p.2.trim, isInert c)
    {written : Text} (h : (collect d given params).get? key = some (.token written)) :
    ∀ c ∈ written, isInert c := by
  rw [get?_collect_eq] at h
  split at h
  · next m hm =>
    obtain rfl := QueryValue.token.inj (Option.some.inj h)
    exact hinert _ (mem_of_lastMacro? hm)
  · split at h
    · contradiction
    · exact nomatch Option.some.inj h

theorem ascii_of_isInert {c : Char} (h : isInert c) : c.toNat < 0x80 := by
  simp only [isInert, Bool.and_eq_true, decide_eq_true_eq] at h
  exact h.1.1

theorem inert_ne {c : Char} (h : isInert c) : c ≠ '&' ∧ c ≠ '%' ∧ c ≠ '+' := by
  refine ⟨?_, ?_, ?_⟩
  all_goals
    rintro rfl
    exact absurd h (by decide)

/-- A query keeps what is inert. -/
theorem stands_of_isInert {c : Char} (h : isInert c) (k : Url.Kind) : Url.standsInQuery k c := by
  simp only [isInert, Bool.and_eq_true, Bool.not_eq_true', decide_eq_true_eq] at h
  obtain ⟨⟨hascii, hcontrol⟩, hsign⟩ := h
  simp [Url.standsInQuery, Url.inQuery, hascii, hcontrol] at hsign ⊢
  grind

/-- A form is read as it is where all of it is inert. -/
theorem decodeText_of_inert {s : Text} (h : ∀ c ∈ s, isInert c) : Form.decodeText s.utf8 = s :=
  Form.decodeText_of_literal (fun c hc => ascii_of_isInert (h c hc))
    (fun hc => (inert_ne (h _ hc)).2.1 rfl) (fun hc => (inert_ne (h _ hc)).2.2 rfl)

/-! ## 3. Reading what was written -/

/-- What an entry stands for is read from what is written for it. -/
theorem read_pairsOf (hinert : ∀ p ∈ params, ∀ c ∈ d.placeholder p.2.trim, isInert c)
    (he : e ∈ (collect d given params).entries) :
    (pairsOf e).map (fun p => (p.1, Form.decodeText p.2.utf8)) = meant d given params e.1 := by
  obtain ⟨key, value⟩ := e
  have hget := Dict.get?_eq_some_iff.mpr he
  have hvalue := get?_collect_eq d given params key
  rw [hget] at hvalue
  rw [meant]
  cases hlast : lastMacro? params key with
  | some m =>
    simp only [hlast, Option.some.injEq] at hvalue
    subst hvalue
    rw [pairsOf, List.map_singleton, decodeText_of_inert (inert_of_get?_collect hinert hget)]
  | none =>
    simp only [hlast] at hvalue
    split at hvalue
    · contradiction
    · obtain rfl := Option.some.inj hvalue
      rw [pairsOf, valuesOf, List.map_map, List.map_map]
      refine (List.map_congr_left fun p hp => ?_).trans (List.map_id _)
      have hname : p.1 = key := of_decide_eq_true (List.mem_filter.mp hp).2
      simp only [Function.comp_apply, Form.decodeText_encodeText, ← hname]
      rfl

/-- What is written for a value stands in every query and ends no pair. -/
theorem stands_of_mem_pairsOf (hinert : ∀ p ∈ params, ∀ c ∈ d.placeholder p.2.trim, isInert c)
    (he : e ∈ (collect d given params).entries) {p : Text × Text} (hp : p ∈ pairsOf e) :
    ∀ c ∈ p.2, c ≠ '&' ∧ ∀ k, Url.standsInQuery k c := by
  obtain ⟨key, values | written⟩ := e
  · obtain ⟨v, -, rfl⟩ := List.mem_map.mp hp
    intro c hc
    obtain ⟨x, hx, rfl⟩ := List.mem_map.mp hc
    have hx := Form.written_of_mem_encode hx
    have hne : (Char.ofNat x.toNat != '&') = true := hx.char (p := (· != '&')) (by decide +kernel)
    exact ⟨bne_iff_ne.mp hne, fun k => Url.stands_of_written hx⟩
  · obtain rfl := List.mem_singleton.mp hp
    have htoken := inert_of_get?_collect hinert (Dict.get?_eq_some_iff.mpr he)
    exact fun c hc => ⟨(inert_ne (htoken c hc)).1, stands_of_isInert (htoken c hc)⟩

/-- **The names and values that a template means are read from the query that is written.** -/
theorem read_writeQuery (given : List (Text × Text))
    (hinert : ∀ p ∈ params, ∀ c ∈ d.placeholder p.2.trim, isInert c) :
    Form.pairs ((writeQuery (collect d given params)).getD []).utf8 =
        (collect d given params).keys.flatMap (meant d given params) ∧
      (writeQuery (collect d given params) = none ↔
        (collect d given params).keys.flatMap (meant d given params) = []) := by
  have hmeant : (collect d given params).keys.flatMap (meant d given params) =
      ((collect d given params).entries.flatMap pairsOf).map
        fun p => (p.1, Form.decodeText p.2.utf8) := by
    rw [Dict.keys, List.flatMap_map, List.map_flatMap]
    exact List.flatMap_congr fun e he => (read_pairsOf hinert he).symm
  have hwhole : ∀ p ∈ (collect d given params).entries.flatMap pairsOf, 38 ∉ p.2.utf8 := by
    intro p hp hbyte
    obtain ⟨e, he, hp⟩ := List.mem_flatMap.mp hp
    have hstands := stands_of_mem_pairsOf hinert he hp
    have hascii : ∀ c ∈ p.2, c.toNat < 0x80 := by
      intro c hc
      have hc := (hstands c hc).2 .other
      simp only [Url.standsInQuery, Bool.and_eq_true, decide_eq_true_eq] at hc
      exact hc.1
    exact (hstands '&' (Text.mem_of_mem_utf8 (c := '&') hascii (by decide) hbyte)).1 rfl
  rw [hmeant, writeQuery_eq]
  cases hpairs : (collect d given params).entries.flatMap pairsOf with
  | nil => exact ⟨rfl, by simp⟩
  | cons p ps =>
    rw [hpairs] at hwhole
    exact ⟨Form.pairs_join hwhole, by simp⟩

/-- What is written stands in every query. -/
theorem stands_of_mem_writeQuery (hinert : ∀ p ∈ params, ∀ c ∈ d.placeholder p.2.trim, isInert c)
    {w : Text} (hw : writeQuery (collect d given params) = some w) :
    ∀ c ∈ w, ∀ k, Url.standsInQuery k c := by
  have hsign (c : Char) (hc : c = '&' ∨ c = '=') (k : Url.Kind) : Url.standsInQuery k c := by
    rcases hc with rfl | rfl
    all_goals cases k <;> decide
  rw [writeQuery_eq] at hw
  split at hw
  · contradiction
  · next hpairs =>
    obtain rfl := Option.some.inj hw
    intro c hc k
    rcases Text.mem_join hc with hc | ⟨part, hpart, hc⟩
    · exact hsign c (.inl (List.mem_singleton.mp hc)) k
    · obtain ⟨p, hp, rfl⟩ := List.mem_map.mp hpart
      obtain ⟨e, he, hp⟩ := List.mem_flatMap.mp hp
      rcases List.mem_append.mp hc with hc | hc
      · obtain ⟨x, hx, rfl⟩ := List.mem_map.mp hc
        exact Url.stands_of_written (Form.written_of_mem_encode hx)
      · rcases List.mem_cons.mp hc with rfl | hc
        · exact hsign _ (.inr rfl) k
        · exact (stands_of_mem_pairsOf hinert he hp c hc).2 k

end UrlTemplate

/-! ## 4. The query of the address -/

namespace Url

variable {u : Url} {query : Option Text}

/-- A query that stands is set as it is. -/
theorem query_setQuery (h : ∀ q, query = some q → ∀ c ∈ q, standsInQuery (kindOf u.scheme) c) :
    (u.setQuery query).query = query := by
  cases query with
  | none => rfl
  | some q => exact congrArg some (queryForm_eq_self_iff.mpr (h q rfl))

theorem fragment_setQuery (u : Url) (query : Option Text) :
    (u.setQuery query).fragment = u.fragment := by
  cases query <;> rfl

theorem Sealed.setQuery (h : u.Sealed) (query : Option Text) : (u.setQuery query).Sealed := by
  cases query with
  | some q => exact ⟨h.scheme, h.authority, h.path⟩
  | none =>
    refine ⟨h.scheme, h.authority, ?_⟩
    unfold Url.setQuery
    dsimp only
    split
    · exact h.path.subset fun c hc => List.mem_reverse.mp
        (List.dropWhile_subset _ (List.mem_reverse.mp hc))
    · exact h.path

end Url

open UrlTemplate in
/-- **The query of an address template.**  What is no address stays as it is.  Only the last macro of
a name counts.  When no character of a token is escaped in a query or means anything in a form, the
query of the template gives the names in the order of their bytes, each with its token or with the
values that the address has for it, and there is no query when there are no names.  Reading the
template as an address finds the same query. -/
theorem Engine.urlTemplate_query (E : Engine) (raw : Text) (params : List (Text × Text)) :
    (Url.parse? raw = none → E.urlTemplate raw params = raw) ∧
    (∀ params', (∀ key, lastMacro? params' key = lastMacro? params key) →
      E.urlTemplate raw params' = E.urlTemplate raw params) ∧
    ∀ u, Url.parse? raw = some u →
      (∀ p ∈ params, ∀ c ∈ E.delimiters.placeholder p.2.trim, isInert c) →
      ∃ names : List Text, names.Pairwise (fun a b => a.utf8 < b.utf8) ∧
        (∀ key, key ∈ names ↔
          key ∈ u.queryPairs.map Prod.fst ∨ key ∈ params.map Prod.fst) ∧
        Form.pairs ((Url.queryOf (E.urlTemplate raw params)).getD []).utf8 =
          names.flatMap (meant E.delimiters u.queryPairs params) ∧
        (Url.queryOf (E.urlTemplate raw params) = none ↔
          names.flatMap (meant E.delimiters u.queryPairs params) = []) ∧
        ∀ u', Url.parse? (E.urlTemplate raw params) = some u' →
          u'.query = Url.queryOf (E.urlTemplate raw params) := by
  refine ⟨fun hraw => ?_, fun params' hlast => ?_, fun u hraw hinert => ?_⟩
  · rw [urlTemplate, hraw]
  · simp only [urlTemplate, collect_congr E.delimiters hlast]
  · have hresult : E.urlTemplate raw params =
        (u.setQuery (writeQuery (collect E.delimiters u.queryPairs params))).write := by
      rw [urlTemplate, hraw]
    have hstands : ∀ q, writeQuery (collect E.delimiters u.queryPairs params) = some q →
        ∀ c ∈ q, ∀ k, Url.standsInQuery k c := fun _ => stands_of_mem_writeQuery hinert
    obtain ⟨hpairs, hnone⟩ := read_writeQuery u.queryPairs hinert
    generalize writeQuery (collect E.delimiters u.queryPairs params) = query
      at hresult hstands hpairs hnone
    -- nothing is escaped when the query is set, so it is found again
    have hquery : (u.setQuery query).query = query :=
      Url.query_setQuery fun q hq c hc => hstands q hq c hc _
    have hsealed : (u.setQuery query).Sealed := (Url.sealed_of_parse? hraw).setQuery query
    have hcut : Url.queryOf (E.urlTemplate raw params) = query := by
      rw [hresult, Url.queryOf_write hsealed.front, hquery]
      exact fun q hq hhash =>
        absurd (hstands q (hquery.symm.trans hq) _ hhash .other) (by decide)
    refine ⟨(collect E.delimiters u.queryPairs params).keys, Dict.pairwise_keys _,
      fun key => mem_keys_collect_iff, hcut ▸ hpairs, hcut ▸ hnone, fun u' hread => ?_⟩
    rw [hresult] at hread
    refine (Url.query_reread hsealed ?_ ?_ hread).trans (hquery.trans hcut.symm)
    · exact fun q hq => hstands q (hquery.symm.trans hq)
    · exact fun f hf => Url.firm_of_fragment hraw ((Url.fragment_setQuery u query).symm.trans hf)

namespace Sample

/-- The macros that count among `params`, the other way round. -/
def lastParams : List (Text × Text) :=
  [("z".toList, "q".toList), ("id".toList, " user:hex ".toList)]

theorem urlTemplate_query_address :
    Engine.plain.urlTemplate "p?id=7".toList params = "p?id=7".toList ∧
      Engine.plain.urlTemplate address lastParams = Engine.plain.urlTemplate address params ∧
      Url.parse? address = some place ∧
      (∀ p ∈ params, ∀ c ∈ Engine.plain.delimiters.placeholder p.2.trim, UrlTemplate.isInert c) ∧
      ∃ names : List Text, names.Pairwise (fun a b => a.utf8 < b.utf8) ∧
        (∀ key, key ∈ names ↔
          key ∈ place.queryPairs.map Prod.fst ∨ key ∈ params.map Prod.fst) ∧
        names.flatMap (UrlTemplate.meant Engine.plain.delimiters place.queryPairs params) =
          [("a".toList, "'".toList), ("id".toList, "$\x7buser:hex\x7d".toList),
            ("z".toList, "$\x7bq\x7d".toList)] := by
  have hparse : Url.parse? address = some place := by decide +kernel
  have hall : params.all (fun p => (Engine.plain.delimiters.placeholder p.2.trim).all
      UrlTemplate.isInert) = true := by decide +kernel
  have hinert : ∀ p ∈ params, ∀ c ∈ Engine.plain.delimiters.placeholder p.2.trim,
      UrlTemplate.isInert c := fun p hp => List.all_eq_true.mp (List.all_eq_true.mp hall p hp)
  have hlast (key : Text) :
      UrlTemplate.lastMacro? lastParams key = UrlTemplate.lastMacro? params key := by
    by_cases hid : "id".toList = key
    · subst hid
      decide +kernel
    · by_cases hz : "z".toList = key
      · subst hz
        decide +kernel
      · have hnone (ps : List (Text × Text))
            (hps : ∀ p ∈ ps, p.1 = "id".toList ∨ p.1 = "z".toList) :
            UrlTemplate.lastMacro? ps key = none := by
          have hnil : ps.filter (fun p => p.1 = key) = [] := by
            refine List.filter_eq_nil_iff.mpr fun p hp hkey => ?_
            have hkey : p.1 = key := of_decide_eq_true hkey
            rcases hps p hp with h | h
            · exact hid (h.symm.trans hkey)
            · exact hz (h.symm.trans hkey)
          rw [UrlTemplate.lastMacro?, hnil]
          rfl
        rw [hnone lastParams (by decide), hnone params (by decide)]
  obtain ⟨-, hsame, hquery⟩ := Engine.urlTemplate_query Engine.plain address params
  obtain ⟨hkept, -, -⟩ := Engine.urlTemplate_query Engine.plain "p?id=7".toList params
  obtain ⟨names, hsorted, hnames, hpairs, -, -⟩ := hquery place hparse hinert
  refine ⟨hkept (by decide +kernel), hsame lastParams hlast, hparse, hinert, names, hsorted,
    hnames, ?_⟩
  rw [← hpairs]
  decide +kernel

end Sample
end Stencil
