/-
# An expansion is a binding of its body

An engine loses one of its expansions, and its body is bound to the macro instead.  Before, the body
was put in place when the engine was built and when a text was compiled; now it is a bound template,
which is looked up and rendered on a level of its own.  Both come to the same, as long as the macro
has no filters, which an expansion ignores and a binding does not, and as long as the levels last.

* `Settings.without`: settings without one expansion.  They build, too
  (`Engine.exists_build_without`), and `Engine.Withdraws` says what the two engines have in common.
* `Piece.inPlace`: pieces with the body in the place of the macro.  What a token leaves in the first
  engine is what it leaves in the second, with the body in place (`Engine.Withdraws.spliced_inPlace`).
* `Meaning.OrDeep`: two outcomes are the same, or the levels did not last for the second.
  `Meaning.AllOrDeep`: this behind all bytes.
* `Meaning.pieces_orDeep`, `Meaning.bound_orDeep`: putting the body in place against binding it, for
  one level and for all.
* `Engine.expansion_is_binding`: calls with the two engines.
-/
import Stencil.Proofs.Cycles
import Stencil.Proofs.Outcomes

namespace Stencil

open Relation (TransGen)

/-! ## 1. Settings without an expansion -/

namespace Dict

variable {α : Type}

/-- The dictionary without the entry of a key. -/
def erase (d : Dict α) (k : Text) : Dict α :=
  ⟨d.entries.filter fun e => e.1 ≠ k, d.ascending.filter _⟩

/-- Erasing changes what one key has. -/
theorem get?_erase (d : Dict α) (k k' : Text) :
    (d.erase k).get? k' = if k' = k then none else d.get? k' := by
  refine Option.ext fun v => ?_
  rw [get?_eq_some_iff, erase, List.mem_filter, ← get?_eq_some_iff]
  by_cases hk : k' = k <;> simp [hk]

end Dict

/-- The expansions without one of them. -/
def Expansions.without (x : Expansions) (e : Text) : Expansions where
  texts := x.texts.erase e
  reduced {n t} h := by
    rw [Dict.get?_erase] at h
    split at h
    · contradiction
    · exact x.reduced h

/-- **The same settings without one expansion.** -/
def Settings.without (s : Settings) (e : Text) : Settings :=
  { s with expansions := s.expansions.without e }

namespace Settings

variable {s : Settings} {e : Text}

theorem get?_of_without {n text : Text}
    (h : (s.without e).expansions.texts.get? n = some text) :
    n ≠ e ∧ s.expansions.texts.get? n = some text := by
  have hif : (if n = e then none else s.expansions.texts.get? n) = some text :=
    (Dict.get?_erase _ e n).symm.trans h
  split at hif
  · contradiction
  · next hne => exact ⟨hne, hif⟩

/-- Without an expansion there are no references that were not there before. -/
theorem refers_of_without {a b : Text} (h : (s.without e).Refers a b) : s.Refers a b := by
  obtain ⟨text, parts, rest, lead, body, htext, hread, hpart, hname, hb⟩ := h
  obtain ⟨text', htext'⟩ := Dict.mem_keys_iff.mp hb
  exact ⟨text, parts, rest, lead, body, (get?_of_without htext).2, hread, hpart, hname,
    Dict.mem_keys_iff.mpr ⟨text', (get?_of_without htext').2⟩⟩

end Settings

namespace Engine

/-- **`E'` is `E` without its expansion `e`**, whose template is `d`. -/
structure Withdraws (E E' : Engine) (e : Text) (d : Template) : Prop where
  linked : E.Linked
  linked' : E'.Linked
  same : E' = { E with bodies := E'.bodies }
  before : E.expansion? e = some d
  after : E'.expansion? e = none
  others : ∀ n, n ≠ e → E'.expansion? n = E.expansion? n

variable {s : Settings} {E E' : Engine} {e body : Text} {d : Template}

/-- **Without one of its expansions an engine is built, too**: the texts that are left compile, and
they do not refer to each other in a circle. -/
theorem exists_build_without (h : build s = .ok E) (e : Text) :
    ∃ E', build (s.without e) = .ok E' := by
  have hcompiles : ∀ n text, (s.without e).expansions.texts.get? n = some text →
      ∃ t, (bare (s.without e)).compile text = .ok t := by
    intro n text htext
    obtain ⟨t, ht, -⟩ := (expansion?_of_build h n).2 text (Settings.get?_of_without htext).2
    exact ⟨t, ht⟩
  have hacyclic : ∀ a, ¬ TransGen s.Refers a a := by
    obtain ⟨defs, hdefs, -, -⟩ := exists_of_build h
    obtain ⟨-, hacyclic⟩ | ⟨⟨chain, hcycle⟩, -⟩ := build_of_compileAll hdefs
    · exact hacyclic
    · exact absurd (h.symm.trans hcycle) (by simp)
  obtain ⟨defs, hdefs⟩ := exists_compileAll hcompiles
  obtain ⟨hbuild, -⟩ | ⟨-, a, hloop⟩ := build_of_compileAll hdefs
  · exact hbuild
  · exact absurd (TransGen.mono (fun _ _ => Settings.refers_of_without) a a hloop) (hacyclic a)

/-- What is stored for a text does not depend on the other texts. -/
theorem expansion?_congr {s' : Settings} (h : build s = .ok E) (h' : build s' = .ok E')
    (hbare : bare s' = bare s) {n : Text}
    (htexts : s'.expansions.texts.get? n = s.expansions.texts.get? n) :
    E'.expansion? n = E.expansion? n := by
  cases htext : s.expansions.texts.get? n with
  | none =>
    rw [(expansion?_of_build h n).1 htext, (expansion?_of_build h' n).1 (htexts.trans htext)]
  | some text =>
    obtain ⟨t, ht, hget⟩ := (expansion?_of_build h n).2 text htext
    obtain ⟨t', ht', hget'⟩ := (expansion?_of_build h' n).2 text (htexts.trans htext)
    rw [hbare] at ht'
    obtain rfl : t = t' := Except.ok.inj (ht.symm.trans ht')
    rw [hget, hget']

/-- Nothing else about the engine changes, and it reads the body as before. -/
theorem exists_withdraws (h : build s = .ok E) (h' : build (s.without e) = .ok E')
    (hbody : s.expansions.texts.get? e = some body) :
    ∃ d, E'.ReadsAs body d ∧ E.Withdraws E' e d := by
  obtain ⟨d, hd, hbefore⟩ := (expansion?_of_build h e).2 body hbody
  obtain ⟨-, -, -, hE⟩ := exists_of_build h
  obtain ⟨-, -, -, hE'⟩ := exists_of_build h'
  have hreads : E'.ReadsAs body d := by
    rw [hE']
    exact readsAs_of_bare_compile hd
  have hsame : E' = { E with bodies := E'.bodies } := by
    rw [hE]
    exact hE'
  have hafter : E'.expansion? e = none :=
    (expansion?_of_build h' e).1 ((Dict.get?_erase _ e e).trans (if_pos rfl))
  have hothers : ∀ n, n ≠ e → E'.expansion? n = E.expansion? n := fun n hn =>
    expansion?_congr h h' rfl ((Dict.get?_erase _ e n).trans (if_neg hn))
  exact ⟨d, hreads, linked_of_build h, linked_of_build h', hsame, hbefore, hafter, hothers⟩

end Engine

/-! ## 2. The body in the place of the macro -/

namespace Piece

/-- A piece with other pieces in the place of a token. -/
def put (f : Token → List Piece) : Piece → List Piece
  | .literal s => [.literal s]
  | .token k => f k

/-- Pieces with `qs` in the place of the tokens that name `e`. -/
def inPlace (e : Text) (qs ps : List Piece) : List Piece :=
  ps.flatMap (put fun k => if k.name = e then qs else [.token k])

variable {e : Text} {qs ps : List Piece}

@[simp] theorem inPlace_nil : inPlace e qs [] = [] := rfl

@[simp] theorem inPlace_literal (s : Text) :
    inPlace e qs (.literal s :: ps) = .literal s :: inPlace e qs ps := rfl

theorem inPlace_token_self {k : Token} (hk : k.name = e) :
    inPlace e qs (.token k :: ps) = qs ++ inPlace e qs ps := by
  simp [inPlace, put, hk]

theorem inPlace_token_of_ne {k : Token} (hk : k.name ≠ e) :
    inPlace e qs (.token k :: ps) = .token k :: inPlace e qs ps := by
  simp [inPlace, put, hk]

theorem inPlace_append (ps ps' : List Piece) :
    inPlace e qs (ps ++ ps') = inPlace e qs ps ++ inPlace e qs ps' :=
  List.flatMap_append

end Piece

open Piece (inPlace)

namespace Engine

variable {E E' : Engine} {e : Text} {d : Template}

theorem pieces_eq_put (t : Template) : E.pieces t = t.pieces.flatMap (Piece.put E.spliced) := by
  simp [pieces, Template.pieces, Chunk.pieces, Piece.put, List.flatMap_assoc]

theorem pieces_cons (c : Chunk) (cs : List Chunk) (tail : Text) (δ : Delimiters) :
    E.pieces ⟨c :: cs, tail, δ⟩ =
      .literal c.lead :: (E.spliced c.token ++ E.pieces ⟨cs, tail, δ⟩) := by
  simp [pieces]

/-- A template that reads as a text has the pieces of the text. -/
theorem ReadsAs.pieces_eq {text : Text} {t : Template} (h : E.ReadsAs text t) :
    ∃ parts rest, E.delimiters.segments 0 text = .after parts (.tail rest) ∧
      E.pieces t = E.partPieces parts ++ [.literal rest] := by
  obtain ⟨parts, rest, hscan, hpieces⟩ := h
  refine ⟨parts, rest, hscan, ?_⟩
  rw [pieces_eq_put, hpieces]
  simp [partPieces, Piece.put, List.flatMap_assoc]

namespace Withdraws

variable (h : E.Withdraws E' e d)

include h

theorem delimiters : E'.delimiters = E.delimiters := by rw [h.same]

theorem filters : E'.filters = E.filters := by rw [h.same]

theorem skip : E'.skip = E.skip := by rw [h.same]

theorem fallback : E'.fallback = E.fallback := by rw [h.same]

theorem resolveToken (inner : Text) : E'.resolveToken inner = E.resolveToken inner := by
  rw [h.same]
  rfl

/-- A token that is no expansion is left as it is. -/
theorem spliced_of_plain {k : Token} (hk : E.bodies.get? k.name = none) :
    k.name ≠ e ∧ E'.spliced k = [.token k] := by
  have hnone : E.expansion? k.name = none := Option.map_eq_none_iff.mpr hk
  have hne : k.name ≠ e := by
    intro he
    rw [he, h.before] at hnone
    contradiction
  exact ⟨hne, by rw [spliced_eq h.linked', h.others _ hne, hnone]⟩

/-- The token of an expansion leaves its body in place, when the tokens of the body do. -/
theorem inPlace_of_body {k : Token} {b : Body} (hb : E.bodies.get? k.name = some b)
    (hpieces : b.pieces = inPlace e (E.pieces d) (E'.pieces (b.template E.delimiters))) :
    b.pieces = inPlace e (E.pieces d) (E'.spliced k) := by
  have hsome : E.expansion? k.name = some (b.template E.delimiters) :=
    Option.map_eq_some_iff.mpr ⟨b, hb, rfl⟩
  -- the second engine keeps the token when it is the macro that was an expansion
  by_cases hk : k.name = e
  · have hd : d = b.template E.delimiters := by
      rw [hk, h.before] at hsome
      exact Option.some.inj hsome
    have hspliced : E'.spliced k = [.token k] := by rw [spliced_eq h.linked', hk, h.after]
    rw [hspliced, Piece.inPlace_token_self hk, Piece.inPlace_nil, List.append_nil, hd]
    exact pieces_of_linked (h.linked hb)
  · have hspliced : E'.spliced k = E'.pieces (b.template E.delimiters) := by
      rw [spliced_eq h.linked', h.others _ hk, hsome]
      rfl
    rw [hspliced]
    exact hpieces

/-- The pieces of a stored body, by recursion on the body. -/
theorem body_inPlace : ∀ {b : Body}, b.Linked E.bodies →
    b.pieces = inPlace e (E.pieces d) (E'.pieces (b.template E.delimiters))
  | .done _, _ => rfl
  | .token lead t rest, ⟨ht, hrest⟩ => by
    obtain ⟨hne, hspliced⟩ := h.spliced_of_plain ht
    have hrest' := body_inPlace hrest
    rw [Body.template] at hrest' ⊢
    rw [Body.pieces, Body.chunks, Body.tail, pieces_cons, hspliced, Piece.inPlace_literal,
      List.singleton_append, Piece.inPlace_token_of_ne hne, ← hrest']
  | .expand lead t b rest, ⟨ht, hrest⟩ => by
    have hbody := h.inPlace_of_body ht (body_inPlace (h.linked ht))
    have hrest' := body_inPlace hrest
    rw [Body.template] at hrest' ⊢
    rw [Body.pieces, Body.chunks, Body.tail, pieces_cons, Piece.inPlace_literal,
      Piece.inPlace_append, ← hbody, ← hrest']

/-- **What a token leaves in the first engine is what it leaves in the second**, with the body of the
expansion in its place. -/
theorem spliced_inPlace (k : Token) :
    E.spliced k = inPlace e (E.pieces d) (E'.spliced k) := by
  cases hb : E.bodies.get? k.name with
  | none =>
    obtain ⟨hne, hspliced⟩ := h.spliced_of_plain hb
    rw [hspliced, Piece.inPlace_token_of_ne hne, Piece.inPlace_nil, Engine.spliced, hb]
  | some b =>
    rw [Engine.spliced, hb]
    exact h.inPlace_of_body hb (h.body_inPlace (h.linked hb))

theorem pieces_inPlace (t : Template) :
    E.pieces t = inPlace e (E.pieces d) (E'.pieces t) := by
  obtain ⟨cs, tail, δ⟩ := t
  induction cs with
  | nil => rfl
  | cons c cs ih =>
    rw [pieces_cons, pieces_cons, ih, h.spliced_inPlace, Piece.inPlace_literal,
      Piece.inPlace_append]

theorem partPieces_inPlace (parts : List (Text × Text)) :
    E.partPieces parts = inPlace e (E.pieces d) (E'.partPieces parts) := by
  induction parts with
  | nil => rfl
  | cons p parts ih =>
    rw [partPieces_cons, partPieces_cons, ih, h.resolveToken, h.spliced_inPlace,
      Piece.inPlace_literal, Piece.inPlace_append]

end Withdraws
end Engine

/-! ## 3. As long as the levels last -/

namespace Meaning

/-- **The second outcome is the first**, or the levels did not last for it. -/
inductive OrDeep (r : Outcome) : Outcome → Prop
  | same : OrDeep r r
  | deep (name : Text) (limit : Nat) : OrDeep r (.error (.error (.depth name limit)))

namespace OrDeep

variable {r r' : Outcome}

theorem bind (h : OrDeep r r') (f : Bytes → Outcome) : OrDeep (r >>= f) (r' >>= f) := by
  cases h with
  | same => exact .same
  | deep name limit => exact .deep name limit

theorem map (h : OrDeep r r') (f : Bytes → Bytes) : OrDeep (r.map f) (r'.map f) := by
  cases h with
  | same => exact .same
  | deep name limit => exact .deep name limit

theorem eq_of_ne (h : OrDeep r r') (hne : ∀ name limit, r' ≠ .error (.error (.depth name limit))) :
    r = r' := by
  cases h with
  | same => rfl
  | deep name limit => exact absurd rfl (hne name limit)

end OrDeep

/-- The same of two meanings, behind all bytes. -/
def AllOrDeep (x x' : Writing) : Prop := ∀ before, OrDeep (x before) (x' before)

namespace AllOrDeep

variable {x x' y y' : Writing}

theorem refl (x : Writing) : AllOrDeep x x := fun _ => .same

theorem seq (hx : AllOrDeep x x') (hy : AllOrDeep y y') :
    AllOrDeep (Meaning.seq x y) (Meaning.seq x' y') := by
  intro before
  have hfirst := hx before
  generalize hr' : x' before = r' at hfirst
  cases hfirst with
  | deep name limit =>
    rw [seq_of_error hr']
    exact .deep name limit
  | same =>
    cases hr : x before with
    | error e =>
      rw [seq_of_error hr, seq_of_error (hr'.trans hr)]
      exact .same
    | ok a =>
      rw [seq_of_ok hr, seq_of_ok (hr'.trans hr)]
      exact (hy _).map _

end AllOrDeep

end Meaning

/-- **A token that names the macro `e` names no filters.** -/
def Token.BareAt (e : Text) (k : Token) : Prop := k.name = e → k.filters = []

instance (e : Text) (k : Token) : Decidable (k.BareAt e) :=
  inferInstanceAs (Decidable (_ → _))

namespace Meaning

variable {E E' : Engine} {e : Text} {d u : Template} {vs : Bindings}
variable {nested nested' : Text → Template → Writing}

/-- A text means the same with its expansions spliced in, as it is compiled, and as it reads. -/
theorem chunks_of_readsAs (hE : E.Linked) {s : Text} {t : Template} (h : E.compile s = .ok t)
    (hd : E.ReadsAs s d) :
    chunks E vs nested t.tail t.chunks = pieces E vs nested (E.pieces d) := by
  obtain ⟨parts, rest, hscan, hpieces⟩ := hd.pieces_eq
  rw [chunks_of_parts hE hscan h, hpieces]

/-- Without filters a macro means the template that is bound to it. -/
theorem leaf_of_template {name suffix : Text} (hskip : E.skip.contains name = false)
    (hu : lookup? name vs = some (.template u)) (hbare : Token.filterNames suffix = []) :
    leaf E vs nested name suffix = nested name u := by
  have hbinding : binding E vs nested name = nested name u := by rw [binding, hu]
  funext before
  rw [leaf_of_not_skipped hskip, hbinding, hbare]
  cases nested name u before <;> rfl

section Withdraws

variable (h : E.Withdraws E' e d)

include h

/-- Other macros mean the same as long as the templates bound to them do. -/
theorem leaf_orDeep {name : Text} (hne : name ≠ e) (suffix : Text)
    (hnested : ∀ t, lookup? name vs = some (.template t) →
      AllOrDeep (nested name t) (nested' name t)) :
    AllOrDeep (leaf E vs nested name suffix)
      (leaf E' ((e, .template u) :: vs) nested' name suffix) := by
  have hlookup : lookup? name ((e, .template u) :: vs) = lookup? name vs := if_neg (Ne.symm hne)
  have hbinding : AllOrDeep (binding E vs nested name)
      (binding E' ((e, .template u) :: vs) nested' name) := by
    rw [binding, binding, hlookup, h.fallback]
    cases hv : lookup? name vs with
    | none => cases E.fallback <;> exact .refl _
    | some v =>
      cases v with
      | template t => exact hnested t hv
      | _ => exact .refl _
  rw [leaf, leaf, h.skip, h.filters, h.delimiters]
  split
  · exact .refl _
  · exact fun before => (hbinding before).bind _

/-- **Putting the body in place comes to binding it**, one level at a time: pieces do when bound
templates do and the body does. -/
theorem pieces_orDeep (hskip : E.skip.contains e = false)
    (hnested : ∀ m t, lookup? m vs = some (.template t) → AllOrDeep (nested m t) (nested' m t))
    (hbody : AllOrDeep (pieces E vs nested (E.pieces d)) (nested' e u)) :
    ∀ {ps : List Piece}, (∀ k, .token k ∈ ps → k.BareAt e) →
      AllOrDeep (pieces E vs nested (inPlace e (E.pieces d) ps))
        (pieces E' ((e, .template u) :: vs) nested' ps)
  | [], _ => .refl _
  | .literal s :: ps, hbare => by
    have hps := pieces_orDeep hskip hnested hbody fun k hk => hbare k (List.mem_cons_of_mem _ hk)
    rw [Piece.inPlace_literal, pieces, pieces]
    exact (AllOrDeep.refl _).seq hps
  | .token k :: ps, hbare => by
    have hps := pieces_orDeep hskip hnested hbody fun k hk => hbare k (List.mem_cons_of_mem _ hk)
    by_cases hk : k.name = e
    · have hleaf : leaf E' ((e, .template u) :: vs) nested' k.name k.suffix = nested' e u := by
        rw [hk]
        exact leaf_of_template (h.skip ▸ hskip) (if_pos rfl) (hbare k List.mem_cons_self hk)
      rw [Piece.inPlace_token_self hk, pieces_append, pieces, hleaf]
      exact hbody.seq hps
    · rw [Piece.inPlace_token_of_ne hk, pieces, pieces]
      exact (leaf_orDeep h hk k.suffix (hnested k.name)).seq hps

/-- **Bound templates come to the same on both sides, and the body on any level to its binding.**
The induction is on the levels that are left for the second engine, which can be fewer: there the
body takes one of its own. -/
theorem bound_orDeep (hskip : E.skip.contains e = false)
    (hu : ∀ nested, chunks E' ((e, .template u) :: vs) nested u.tail u.chunks =
      pieces E' ((e, .template u) :: vs) nested (E'.pieces d))
    (hbare : ∀ m t, lookup? m vs = some (.template t) →
      ∀ k, .token k ∈ E'.pieces t → k.BareAt e)
    (hbody : ∀ k, .token k ∈ E'.pieces d → k.BareAt e) :
    ∀ {left' left : Nat}, left' ≤ left →
      (∀ m t, lookup? m vs = some (.template t) →
        AllOrDeep (bound E vs left m t) (bound E' ((e, .template u) :: vs) left' m t)) ∧
      AllOrDeep (pieces E vs (bound E vs left) (E.pieces d))
        (bound E' ((e, .template u) :: vs) left' e u)
  | 0, _, _ => ⟨fun m _ _ _ => .deep m maxDepth, fun _ => .deep e maxDepth⟩
  | left' + 1, left, hle => by
    obtain ⟨n, rfl⟩ : ∃ n, left = n + 1 := ⟨left - 1, by omega⟩
    constructor
    · -- a bound template takes a level on both sides
      intro m t ht
      obtain ⟨hnested, hbelow⟩ := bound_orDeep hskip hu hbare hbody (Nat.le_of_succ_le_succ hle)
      rw [bound, bound, chunks_eq_pieces, chunks_eq_pieces, h.pieces_inPlace]
      exact pieces_orDeep h hskip hnested hbelow (hbare m t ht)
    · -- the body takes a level only where it is bound
      obtain ⟨hnested, hbelow⟩ :=
        bound_orDeep hskip hu hbare hbody (Nat.le_of_succ_le hle : left' ≤ n + 1)
      rw [bound, hu, h.pieces_inPlace d]
      exact pieces_orDeep h hskip hnested hbelow hbody

end Withdraws

end Meaning

/-! ## 4. Calls -/

/-- **Every token that names `e` names no filters**: those of the text, after one step through the
aliases, those of the stored expansions, and those of the bound templates. -/
structure Engine.NamesBare (E : Engine) (e s : Text) (vs : Bindings) : Prop where
  text : ∀ p ∈ (E.delimiters.segments 0 s).parts, (E.resolveToken p.2).BareAt e
  stored : ∀ n t, E.expansion? n = some t → ∀ k ∈ t.tokens, k.BareAt e
  bound : ∀ m t, (m, .template t) ∈ vs → ∀ k ∈ t.tokens, k.BareAt e

namespace Engine

variable {E E' : Engine} {e s : Text} {d u : Template} {vs : Bindings}

/-- The tokens that are stored without the expansion were stored with it. -/
theorem Withdraws.bareAt_stored (h : E.Withdraws E' e d) (hbare : E.NamesBare e s vs)
    ⦃name : Text⦄ ⦃b : Body⦄ (hb : E'.bodies.get? name = some b) :
    ∀ c ∈ b.chunks, c.token.BareAt e := by
  intro c hc
  have hsome : E'.expansion? name = some (b.template E'.delimiters) :=
    Option.map_eq_some_iff.mpr ⟨b, hb, rfl⟩
  have hne : name ≠ e := by
    rintro rfl
    rw [h.after] at hsome
    contradiction
  rw [h.others _ hne] at hsome
  exact hbare.stored name _ hsome _ (List.mem_map_of_mem hc)

/-- **A text means the same with the body in place and with the body bound**, or the levels do not
last. -/
theorem Withdraws.inline_orDeep (h : E.Withdraws E' e d) {body : Text}
    (hskip : E.skip.contains e = false) (hreads : E'.ReadsAs body d)
    (hu : E'.compile body = .ok u) (hbare : E.NamesBare e s vs) :
    Meaning.AllOrDeep (Meaning.inline E vs s) (Meaning.inline E' ((e, .template u) :: vs) s) := by
  have hstored := h.bareAt_stored hbare
  obtain ⟨hnested, hbody⟩ := Meaning.bound_orDeep h hskip
    (fun nested => Meaning.chunks_of_readsAs h.linked' hu hreads)
    (fun m t (ht : lookup? m vs = some (.template t)) k =>
      of_mem_pieces h.linked' hstored (hbare.bound m t (mem_of_lookup? ht)))
    (fun k => of_mem_pieces h.linked' hstored (hbare.stored e d h.before))
    (Nat.le_refl maxDepth)
  have hpieces : Meaning.AllOrDeep
      (Meaning.pieces E vs (Meaning.bound E vs maxDepth) (E.textPieces s))
      (Meaning.pieces E' ((e, .template u) :: vs)
        (Meaning.bound E' ((e, .template u) :: vs) maxDepth) (E'.textPieces s)) := by
    rw [textPieces, textPieces, h.delimiters, h.partPieces_inPlace]
    refine Meaning.pieces_orDeep h hskip hnested hbody fun k => ?_
    exact of_mem_partPieces h.linked' hstored fun p hp => h.resolveToken p.2 ▸ hbare.text p hp
  obtain ⟨last, -, hlast⟩ := Meaning.exists_inline_eq E.delimiters s
  rw [hlast E vs rfl, hlast E' _ h.delimiters]
  exact hpieces.seq (.refl last)

/-- **An expansion means the same as binding its body.**  An engine with an expansion that is not
echoed is built without it, too, and then compiles the body.  A call of the first engine gives the
result and leaves the bytes of a call of the second in which the compiled body is bound to the macro
in front of the other bindings, if no token of the macro names filters and if the second call does
not fail at the limit of nesting.  An engine of a configuration is built from settings, too
(`Config.exists_settings`). -/
theorem expansion_is_binding {settings : Settings} (h : build settings = .ok E) {body : Text}
    (hbody : settings.expansions.texts.get? e = some body)
    (hskip : settings.skip.contains e = false) :
    ∃ E' u, build (settings.without e) = .ok E' ∧ E'.compile body = .ok u ∧
      ∀ s vs out, E.NamesBare e s vs →
        (∀ name limit, (E'.replace out s ((e, .template u) :: vs)).1 ≠
          .error (.error (.depth name limit))) →
        E.replace out s vs = E'.replace out s ((e, .template u) :: vs) := by
  obtain ⟨E', h'⟩ := exists_build_without h e
  obtain ⟨d, hreads, hwithout⟩ := exists_withdraws h h' hbody
  obtain ⟨parts, rest, hscan, -⟩ := hreads.pieces_eq
  obtain ⟨u, hu, -⟩ := compile_of_parts hwithout.linked' hscan
  have hplain : E.skip.contains e = false := by
    obtain ⟨-, -, -, hE⟩ := exists_of_build h
    rw [hE]
    exact hskip
  refine ⟨E', u, h', hu, fun s vs out hbare hlast => ?_⟩
  have hinline := hwithout.inline_orDeep hplain hreads hu hbare
  rw [replace_eq, replace_eq]
  rw [replace_eq] at hlast
  refine congrArg (Meaning.onto out) ((hinline out).eq_of_ne fun name limit hdeep => ?_)
  rw [hdeep] at hlast
  exact hlast name limit rfl

end Engine

namespace Sample

/-- The sample settings with a letter that names the greeting without filters. -/
def quoting : Settings :=
  { settings with
    expansions := .ofList [("greeting".toList, "Hello, $\x7bNAME:upper\x7d".toList),
      ("letter".toList, "$\x7bgreeting\x7d! $\x7bsecret\x7d".toList)] }

/-- The letter, after the token that it opens with. -/
def quotation (opening : Body → Body) : Body :=
  opening (.token "! ".toList ⟨"secret".toList⟩ (.done []))

def quotingEngine : Engine :=
  { engine with
    bodies := .ofList [("greeting".toList, greeting),
      ("letter".toList, quotation (.expand [] ⟨"greeting".toList⟩ greeting))] }

/-- The engine without the greeting. -/
def quotingLess : Engine :=
  { engine with
    bodies := .ofList [("letter".toList, quotation (.token [] ⟨"greeting".toList⟩))] }

theorem build_quoting : Engine.build quoting = .ok quotingEngine ∧
    Engine.build (quoting.without "greeting".toList) = .ok quotingLess := by
  have hgreeting : (Engine.bare quoting).compile "Hello, $\x7bNAME:upper\x7d".toList
      = .ok (greeting.template .standard) := by decide +kernel
  have hletter : (Engine.bare quoting).compile "$\x7bgreeting\x7d! $\x7bsecret\x7d".toList
      = .ok ((quotation (.token [] ⟨"greeting".toList⟩)).template .standard) := by decide +kernel
  have hlist : quoting.expansions.toList
      = [("greeting".toList, "Hello, $\x7bNAME:upper\x7d".toList),
        ("letter".toList, "$\x7bgreeting\x7d! $\x7bsecret\x7d".toList)] := rfl
  have hless : (quoting.without "greeting".toList).expansions.toList
      = [("letter".toList, "$\x7bgreeting\x7d! $\x7bsecret\x7d".toList)] := rfl
  have hbare : Engine.bare (quoting.without "greeting".toList) = Engine.bare quoting := rfl
  constructor
  · simp only [Engine.build, hlist, Engine.compileAll, hgreeting, hletter]
    rfl
  · simp only [Engine.build, hless, hbare, Engine.compileAll, hletter]
    rfl

/-- A text that names the greeting, and with it an expansion and a bound template that do. -/
def quoted : Text := "Re: $\x7bletter:upper\x7d / $\x7b greeting: \x7d$\x7bcopy\x7d.".toList

def copies : Bindings :=
  [("greeting".toList, .string "unread".toList), ("name".toList, .string "Ann".toList),
    ("copy".toList, .template ⟨[⟨"<".toList, ⟨"greeting".toList⟩⟩], ">".toList, .standard⟩)]

theorem namesBare_quoted : quotingEngine.NamesBare "greeting".toList quoted copies where
  text := by decide +kernel
  stored n t h := by
    obtain ⟨b, hb, rfl⟩ := Option.map_eq_some_iff.mp h
    have hall : ∀ x ∈ quotingEngine.bodies.entries,
        ∀ k ∈ (x.2.template .standard).tokens, k.BareAt "greeting".toList := by decide +kernel
    exact hall _ (Dict.get?_eq_some_iff.mp hb)
  bound m t h := by
    obtain ⟨-, rfl⟩ : m = "copy".toList ∧
        t = ⟨[⟨"<".toList, ⟨"greeting".toList⟩⟩], ">".toList, .standard⟩ := by
      simpa [copies] using h
    decide +kernel

theorem expansion_is_binding_quoted : ∃ E' u,
    Engine.build (quoting.without "greeting".toList) = .ok E' ∧
      E'.compile "Hello, $\x7bNAME:upper\x7d".toList = .ok u ∧
      quotingEngine.replace [0x2D] quoted copies =
        E'.replace [0x2D] quoted (("greeting".toList, .template u) :: copies) ∧
      quotingEngine.replace [0x2D] quoted copies =
        (.ok (), Text.utf8 "-Re: Hello, ANN! $\x7bsecret\x7d / Hello, ANN<Hello, ANN>.".toList) := by
  have hbody : quoting.expansions.texts.get? "greeting".toList
      = some "Hello, $\x7bNAME:upper\x7d".toList := by decide +kernel
  have hskip : quoting.skip.contains "greeting".toList = false := by decide +kernel
  obtain ⟨E', u, h', hu, hcalls⟩ := Engine.expansion_is_binding build_quoting.1 hbody hskip
  obtain rfl : quotingLess = E' := Except.ok.inj (build_quoting.2.symm.trans h')
  have hcompile : quotingLess.compile "Hello, $\x7bNAME:upper\x7d".toList
      = .ok (greeting.template .standard) := by decide +kernel
  obtain rfl : greeting.template .standard = u := Except.ok.inj (hcompile.symm.trans hu)
  have hless : quotingLess.replace [0x2D] quoted
      (("greeting".toList, .template (greeting.template .standard)) :: copies) =
        (.ok (), Text.utf8 "-Re: Hello, ANN! $\x7bsecret\x7d / Hello, ANN<Hello, ANN>.".toList) := by
    rw [Engine.replace_eq]
    decide +kernel
  have hsame := hcalls quoted copies [0x2D] namesBare_quoted fun name limit hdeep => by
    rw [hless] at hdeep
    contradiction
  exact ⟨_, _, h', hu, hsame, hsame.trans hless⟩

end Sample
end Stencil
