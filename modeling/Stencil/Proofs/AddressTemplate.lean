/-
# Tokens in the query of an address

`Engine.urlTemplate` writes a token as it is, next to names and values that are form-encoded.  But
then the address is given the whole query, and escapes in it what it escapes in every query.  So a
token gets into the address in the form that a query has, and this is the token itself only where an
address need not escape any of its characters.

* `Url.queryForm`: the form of a text in a query.  `Url.queryForm_eq_self_iff`: a text keeps its form
  exactly when all its characters stand in a query (`Url.standsInQuery`).
* `UrlTemplate.get?_collect`: the last macro that is given for a name is the one that counts.
* `UrlTemplate.exists_writeQuery`: each token is in the query, behind its name.
* `Engine.urlTemplate_token_iff`: the token is in the address in its query form, and as it is exactly
  when it stands there.
-/
import Mathlib.Data.List.Infix
import Stencil.Proofs.Encodings
import Stencil.UrlTemplate

namespace Stencil

/-! ## 1. The form of a text in a query -/

namespace Url

variable {k : Kind} {c : Char} {s t : Text}

/-- A character that an address leaves in a query as it is. -/
def standsInQuery (k : Kind) (c : Char) : Bool := c.toNat < 0x80 && !inQuery k c

/-- The form that a text takes in a query. -/
def queryForm (k : Kind) (s : Text) : Text := Percent.encodeText (inQuery k) (dropBreaks s)

theorem queryForm_append (k : Kind) (s t : Text) :
    queryForm k (s ++ t) = queryForm k s ++ queryForm k t := by
  rw [queryForm, dropBreaks, List.filter_append, Percent.encodeText, List.flatMap_append]
  rfl

/-- Breaks are controls, so none of them stands. -/
theorem isTabOrNewline_of_stands (h : standsInQuery k c) : isTabOrNewline c = false := by
  by_contra hbreak
  simp only [isTabOrNewline, Bool.not_eq_false, Bool.or_eq_true, beq_iff_eq] at hbreak
  rcases hbreak with (rfl | rfl) | rfl
  all_goals cases k <;> exact absurd h (by decide)

theorem encodeChar_of_stands (h : standsInQuery k c) : Percent.encodeChar (inQuery k) c = [c] :=
  if_pos h

/-- What form encoding writes stands in a query. -/
theorem stands_of_written {x : UInt8} (h : Form.Written x) :
    standsInQuery k (Char.ofNat x.toNat) :=
  h.char (by cases k <;> decide +kernel)

/-- What a query holds stands there. -/
theorem stands_of_mem_queryForm (h : c ∈ queryForm k s) : standsInQuery k c := by
  rcases Percent.mem_encodeText h with ⟨-, hascii, hkept⟩ | ⟨x, hx, rfl⟩
  · simp [standsInQuery, hascii, hkept]
  · exact stands_of_written hx

/-- **A text keeps its form in a query** exactly when all its characters stand there. -/
theorem queryForm_eq_self_iff : queryForm k s = s ↔ ∀ c ∈ s, standsInQuery k c := by
  constructor
  · intro h c hc
    exact stands_of_mem_queryForm (h.symm ▸ hc)
  · intro h
    induction s with
    | nil => rfl
    | cons c s ih =>
      obtain ⟨hc, hs⟩ := List.forall_mem_cons.mp h
      have hone : queryForm k [c] = [c] := by
        rw [queryForm, dropBreaks, List.filter_singleton, isTabOrNewline_of_stands hc, Bool.not_false,
          cond_true, Percent.encodeText, List.flatMap_singleton, encodeChar_of_stands hc]
      rw [← List.singleton_append, queryForm_append, hone, ih hs]

/-- Part of a text takes its form as part of the text's. -/
theorem queryForm_infix (k : Kind) (h : s <:+: t) : queryForm k s <:+: queryForm k t := by
  obtain ⟨a, b, rfl⟩ := h
  exact ⟨queryForm k a, queryForm k b, by simp only [queryForm_append]⟩

/-- A form-encoded name keeps its form. -/
theorem queryForm_encodeText (k : Kind) (name : Text) :
    queryForm k (Form.encodeText name) = Form.encodeText name := by
  refine queryForm_eq_self_iff.mpr fun c hc => ?_
  obtain ⟨x, hx, rfl⟩ := List.mem_map.mp hc
  exact stands_of_written (Form.written_of_mem_encode hx)

/-- Behind a form-encoded name a value takes its form. -/
theorem queryForm_entry (k : Kind) (name s : Text) :
    queryForm k (Form.encodeText name ++ '=' :: s) =
      Form.encodeText name ++ '=' :: queryForm k s := by
  have hequals : queryForm k ['='] = ['='] :=
    queryForm_eq_self_iff.mpr (List.forall_mem_singleton.mpr (by cases k <;> decide))
  calc queryForm k (Form.encodeText name ++ (['='] ++ s))
      = queryForm k (Form.encodeText name) ++ (queryForm k ['='] ++ queryForm k s) := by
        rw [queryForm_append, queryForm_append]
    _ = Form.encodeText name ++ (['='] ++ queryForm k s) := by
        rw [queryForm_encodeText, hequals]

/-- An address holds its query as it is. -/
theorem infix_write {u : Url} {q : Text} (h : u.query = some q) : q <:+: u.write := by
  rw [write, h]
  have hmarked : q <:+ '?' :: q := List.suffix_cons _ _
  exact (hmarked.trans (List.suffix_append _ _)).isInfix.trans (List.prefix_append _ _).isInfix

end Url

/-! ## 2. Names and their tokens -/

namespace UrlTemplate

variable {ys : List (Text × Text)} {key : Text}

/-- **The last macro of a name counts**, whatever the address says of this name. -/
theorem get?_collect (delimiters : Delimiters) (given xs : List (Text × Text)) (m : Text)
    (h : ∀ p ∈ ys, p.1 ≠ key) :
    (collect delimiters given (xs ++ (key, m) :: ys)).get? key =
      some (.token (delimiters.placeholder (Text.trim m))) := by
  let entry (p : Text × Text) : Text × QueryValue :=
    (p.1, .token (delimiters.placeholder (Text.trim p.2)))
  have hentries : collect delimiters given (xs ++ (key, m) :: ys) =
      (given.foldl addGiven .empty).insertAll (xs.map entry ++ entry (key, m) :: ys.map entry) := by
    rw [← List.map_cons, ← List.map_append, Dict.insertAll, List.foldl_map]
    rfl
  rw [hentries]
  refine Dict.get?_insertAll_of_last fun e he => ?_
  obtain ⟨p, hp, rfl⟩ := List.mem_map.mp he
  exact h p hp

/-- **A token is in the query**, as it is and behind its name. -/
theorem exists_writeQuery {d : Dict QueryValue} {written : Text}
    (h : d.get? key = some (.token written)) :
    ∃ q, writeQuery d = some q ∧ Form.encodeText key ++ '=' :: written <:+: q := by
  have hpart : Form.encodeText key ++ '=' :: written ∈ d.entries.flatMap writeEntry :=
    List.mem_flatMap.mpr ⟨_, Dict.get?_eq_some_iff.mp h, List.mem_singleton.mpr rfl⟩
  refine ⟨Text.join ['&'] (d.entries.flatMap writeEntry), ?_, Text.infix_join _ hpart⟩
  rw [writeQuery]
  split
  · next hnil =>
    rw [hnil] at hpart
    nomatch hpart
  · rfl

end UrlTemplate

/-! ## 3. Tokens in addresses -/

variable {E : Engine} {raw : Text} {u : Url} {xs ys : List (Text × Text)} {key m : Text}

/-- **What becomes of a token in an address.**  Of the macros that are given for a name the last one
counts.  The address has a query, and in it the name, `=` and the token, trimmed and between its
markers, in the form that a query has.  The token itself stands behind the name exactly when no
character of it must be escaped in a query. -/
theorem Engine.urlTemplate_token_iff (hraw : Url.parse? raw = some u) (hlast : ∀ p ∈ ys, p.1 ≠ key) :
    ∃ q, E.urlTemplate raw (xs ++ (key, m) :: ys) = { u with query := some q }.write ∧
      q <:+: E.urlTemplate raw (xs ++ (key, m) :: ys) ∧
      Form.encodeText key ++ '=' :: Url.queryForm (Url.kindOf u.scheme)
        (E.delimiters.placeholder (Text.trim m)) <:+: q ∧
      (Form.encodeText key ++ '=' :: E.delimiters.placeholder (Text.trim m) <:+: q ↔
        ∀ c ∈ E.delimiters.placeholder (Text.trim m),
          Url.standsInQuery (Url.kindOf u.scheme) c) := by
  obtain ⟨w, hw, hpart⟩ := UrlTemplate.exists_writeQuery
    (UrlTemplate.get?_collect E.delimiters u.queryPairs xs m hlast)
  have hresult : E.urlTemplate raw (xs ++ (key, m) :: ys) =
      { u with query := some (Url.queryForm (Url.kindOf u.scheme) w) }.write := by
    simp only [urlTemplate, hraw, hw, Url.setQuery, Url.queryForm]
  have hquery := Url.queryForm_infix (Url.kindOf u.scheme) hpart
  rw [Url.queryForm_entry] at hquery
  refine ⟨Url.queryForm (Url.kindOf u.scheme) w, hresult, ?_, hquery, ?_, ?_⟩
  · rw [hresult]
    exact Url.infix_write rfl
  · -- all that a query holds stands there, and so does the token when it is part of it
    intro h c hc
    exact Url.stands_of_mem_queryForm
      (h.subset (List.mem_append_right _ (List.mem_cons_of_mem _ hc)))
  · intro h
    rwa [Url.queryForm_eq_self_iff.mpr h] at hquery

namespace Sample

/-- An address with two values for a name, a quotation mark in its query and a fragment. -/
def address : Text := "http://[::1]/p?id=7&a='&id=8#top".toList

def place : Url :=
  ⟨"http".toList, some ⟨[], [], "[::1]".toList, none⟩, "/p".toList,
    some "id=7&a=%27&id=8".toList, some "top".toList⟩

/-- Two macros for one name, with a name behind them. -/
def params : List (Text × Text) :=
  [("id".toList, "other".toList)] ++ ("id".toList, " user:hex ".toList) ::
    [("z".toList, "q".toList)]

theorem urlTemplate_token_iff_address : Url.parse? address = some place ∧
    (∀ p ∈ [("z".toList, "q".toList)], p.1 ≠ "id".toList) ∧
      Engine.plain.urlTemplate address params
        = "http://[::1]/p?a=%27&id=$\x7buser:hex\x7d&z=$\x7bq\x7d#top".toList ∧
      Form.encodeText "id".toList ++ '=' ::
          Engine.plain.delimiters.placeholder (Text.trim " user:hex ".toList) <:+:
        Engine.plain.urlTemplate address params := by
  have hparse : Url.parse? address = some place := by decide +kernel
  have hlast : ∀ p ∈ [("z".toList, "q".toList)], p.1 ≠ "id".toList := by decide
  have hstands : (Engine.plain.delimiters.placeholder (Text.trim " user:hex ".toList)).all
      (Url.standsInQuery (Url.kindOf place.scheme)) := by decide +kernel
  obtain ⟨q, -, hquery, -, htoken⟩ := Engine.urlTemplate_token_iff (E := Engine.plain)
    (m := " user:hex ".toList) hparse hlast
  exact ⟨hparse, hlast, by decide +kernel, (htoken.mpr (List.all_eq_true.mp hstands)).trans hquery⟩

/-- Markers that a query escapes. -/
def angled : Delimiters := ⟨"<<".toList, ">>".toList, by decide, by decide⟩

def angledEngine : Engine := { Engine.plain with delimiters := angled }

/-- A token between such markers does not stand in the address. -/
theorem urlTemplate_escapes_angled :
    Delimiters.make? "<<".toList ">>".toList = .ok angled ∧
      Engine.build { Settings.standard with delimiters := angled } = .ok angledEngine ∧
      (Url.parse? "http://[::1]/p".toList).isSome ∧
      angledEngine.urlTemplate "http://[::1]/p".toList [("id".toList, "ID".toList)]
        = "http://[::1]/p?id=%3C%3CID%3E%3E".toList ∧
      ¬ Form.encodeText "id".toList ++ '=' :: angled.placeholder (Text.trim "ID".toList) <:+:
        angledEngine.urlTemplate "http://[::1]/p".toList [("id".toList, "ID".toList)] := by
  have hresult : angledEngine.urlTemplate "http://[::1]/p".toList [("id".toList, "ID".toList)]
      = "http://[::1]/p?id=%3C%3CID%3E%3E".toList := by decide +kernel
  refine ⟨by decide +kernel, rfl, by decide +kernel, hresult, ?_⟩
  rw [hresult]
  decide +kernel

end Sample
end Stencil
