/-
# The query that is read from an address

However an address is read, its query and its fragment are what stands from the first `?` or `#` on:
none of the steps in front of them passes such a sign.  So the query of an address is cut out of its
text like the query of a written address, and reading a written address gives its query back.

* `Url.tailOf`: the text from the first of these signs on.
* `Url.Reads`, `Url.exists_reads_of_parse?`: an address is put together from clear parts and this text.
  So it is sealed (`Url.sealed_of_parse?`).
* `Url.query_of_parse?`: the query of an address in terms of its text.
* `Url.query_reread`: reading a written address gives a query back that stands in every address.
-/
import Mathlib.Data.List.DropRight
import Stencil.Proofs.AddressParts
import Stencil.Proofs.AddressTemplate

namespace Stencil
namespace Url

variable {s t lead rest : Text} {c : Char} {k : Kind} {u : Url}

/-! ## 1. The text from the query on -/

/-- The text of an address from its query, or else its fragment, on. -/
def tailOf (s : Text) : Text := s.dropWhile fun c => !endsPath c

theorem tailOf_append (h : Clear lead) (s : Text) : tailOf (lead ++ s) = tailOf s :=
  List.dropWhile_append_of_pos fun c hc => by rw [h c hc]; rfl

theorem drop_takeWhile (p : Char → Bool) (s : Text) :
    s.drop (s.takeWhile p).length = s.dropWhile p := by
  have hcut := congrArg (List.drop (s.takeWhile p).length)
    (List.takeWhile_append_dropWhile (p := p) (l := s))
  rwa [List.drop_left, eq_comm] at hcut

/-- Taking off what is clear leaves the tail as it is. -/
theorem tailOf_dropWhile {p : Char → Bool} (h : ∀ c, p c = true → endsPath c = false) (s : Text) :
    tailOf (s.dropWhile p) = tailOf s := by
  have hclear : Clear (s.takeWhile p) := fun c hc => h c (List.all_eq_true.mp List.all_takeWhile c hc)
  rw [← tailOf_append hclear, List.takeWhile_append_dropWhile]

theorem endsPath_of_break (h : isTabOrNewline c) : endsPath c = false := by
  simp only [isTabOrNewline, Bool.or_eq_true, beq_iff_eq] at h
  rcases h with (rfl | rfl) | rfl
  all_goals rfl

theorem endsPath_of_slash (h : isSlash c) : endsPath c = false := by
  simp only [isSlash, Bool.or_eq_true, beq_iff_eq] at h
  rcases h with rfl | rfl
  all_goals rfl

/-- Breaks may be dropped before or after. -/
theorem dropBreaks_tailOf (s : Text) : dropBreaks (tailOf s) = tailOf (dropBreaks s) := by
  have hpassed : (fun c => !(!isTabOrNewline c) || !endsPath c) = fun c => !endsPath c := by
    funext c
    cases hbreak : isTabOrNewline c with
    | false => rfl
    | true => simp [endsPath_of_break hbreak]
  rw [tailOf, tailOf, dropBreaks, dropBreaks, List.dropWhile_filter, hpassed]

/-- The marks that are set for breaks are breaks. -/
theorem dropBreaks_keepColonBreaks (s : Text) : dropBreaks (keepColonBreaks s) = dropBreaks s := by
  induction s with
  | nil => rfl
  | cons c s ih =>
    rw [keepColonBreaks]
    split
    · next hbreak =>
      rw [ih]
      exact (List.filter_cons_of_neg (by simpa using hbreak)).symm
    · next hbreak =>
      have hkept (r : Text) : dropBreaks (c :: r) = c :: dropBreaks r :=
        List.filter_cons_of_pos (by simpa using hbreak)
      split
      · rw [hkept, hkept]
        exact congrArg (c :: ·) ih
      · rw [hkept, hkept, ih]

/-! ## 2. Authorities -/

theorem endsPath_of_not_endsAuthority (h : (!endsAuthority k c) = true) : endsPath c = false := by
  simp only [endsAuthority, Bool.not_or, Bool.and_eq_true, Bool.not_eq_true'] at h
  exact h.1.2

/-- An authority ends before the tail. -/
theorem tailOf_drop_authority (k : Kind) (s : Text) :
    tailOf (s.drop (s.takeWhile fun c => !endsAuthority k c).length) = tailOf s := by
  rw [drop_takeWhile]
  exact tailOf_dropWhile (fun _ => endsPath_of_not_endsAuthority) s

/-- What is left after a port is part of the text that it was read from. -/
theorem subset_of_readPort {port : Option Nat} {after : Text} (h : readPort s = some (port, after)) :
    after ⊆ s := by
  simp only [readPort] at h
  split at h
  · contradiction
  · split at h
    · contradiction
    · obtain ⟨-, rfl⟩ := Prod.mk.inj (Option.some.inj h)
      exact List.drop_subset _ _

/-- The place is part of the text that it was cut from. -/
theorem subset_splitUser (s : Text) : (splitUser s).2 ⊆ s := by
  have hend : (s.reverse.takeWhile (· != '@')).reverse ⊆ s := fun _ hc =>
    List.mem_reverse.mp (List.takeWhile_subset _ (List.mem_reverse.mp hc))
  simp only [splitUser]
  split
  · exact List.Subset.refl s
  · exact hend

/-- **Reading an authority does not pass the tail.** -/
theorem tailOf_of_readAuthority {scheme : Text} {a : Authority}
    (h : readAuthority scheme s = some (a, rest)) : tailOf rest = tailOf s := by
  have hplace : Clear (splitUser (s.takeWhile fun c => !endsAuthority (kindOf scheme) c)).2 :=
    fun c hc => endsPath_of_not_endsAuthority
      (List.all_eq_true.mp List.all_takeWhile c (subset_splitUser _ hc))
  simp only [readAuthority] at h
  split at h
  · contradiction
  · split at h
    · contradiction
    · simp only [Option.bind_eq_bind, Option.bind_eq_some_iff] at h
      obtain ⟨host, -, h⟩ := h
      -- without a port nothing is left of the place, and a port leaves part of it
      split at h
      · obtain ⟨-, rfl⟩ := Prod.mk.inj (Option.some.inj h)
        exact tailOf_drop_authority _ s
      · obtain ⟨⟨port, after⟩, hport, h⟩ := Option.bind_eq_some_iff.mp h
        obtain ⟨-, rfl⟩ := Prod.mk.inj (Option.some.inj h)
        have hafter : Clear after := hplace.subset fun c hc =>
          List.drop_subset _ _ (List.drop_subset _ _ (subset_of_readPort hport hc))
        rw [tailOf_append hafter, tailOf_drop_authority]

/-! ## 3. Addresses -/

/-- `u` is put together from clear parts and the tail of `s`. -/
inductive Reads (scheme s : Text) : Url → Prop
  | assemble {authority : Option Authority} {path : Text}
    (hauthority : ∀ a, authority = some a → a.Sealed) (hpath : Clear path) :
    Reads scheme s (Url.assemble scheme authority path (tailOf s))

variable {scheme : Text}

theorem Reads.congr (h : Reads scheme s u) (htail : tailOf s = tailOf t) : Reads scheme t u := by
  cases h with
  | assemble hauthority hpath =>
    rw [htail]
    exact .assemble hauthority hpath

/-- Taking the path off leaves the tail. -/
theorem drop_path (s : Text) : s.drop (s.takeWhile fun c => !endsPath c).length = tailOf s :=
  drop_takeWhile _ s

theorem reads_of_readFromAuthority (h : readFromAuthority scheme s = some u) :
    Reads scheme s u := by
  simp only [readFromAuthority, Option.bind_eq_bind, Option.bind_eq_some_iff] at h
  obtain ⟨⟨a, rest⟩, ha, h⟩ := h
  obtain rfl := Option.some.inj h
  rw [drop_path, tailOf_of_readAuthority ha]
  refine .assemble ?_ (clear_readPathAfter _)
  rintro _ ⟨⟩
  exact sealed_of_readAuthority ha

/-- A file address with a clear host and a clear path. -/
theorem reads_file {host path : Text} (hhost : Clear host) (hpath : Clear path) (s : Text) :
    Reads "file".toList s (assemble "file".toList (some (fileAuthority host)) path (tailOf s)) := by
  refine .assemble ?_ hpath
  rintro _ ⟨⟩
  exact ⟨clear_nil, clear_nil, hhost⟩

theorem reads_of_readFileHost (h : readFileHost s = some u) : Reads "file".toList s u := by
  -- whatever becomes of the host, it ends before the tail
  have hhosted {host rest : Text} (hhost : Clear host) (htail : tailOf rest = tailOf s)
      (h : (if host = [] ∨ host = "localhost".toList then
          some (assemble "file".toList (some (fileAuthority []))
            (readPath .file ['/'] (rest.takeWhile fun c => !endsPath c)).1 (tailOf rest))
        else
          some (assemble "file".toList
            (some (fileAuthority (if (readPathAfter .file
              (rest.takeWhile fun c => !endsPath c)).2 then [] else host)))
            (readPathAfter .file (rest.takeWhile fun c => !endsPath c)).1 (tailOf rest)))
        = some u) : Reads "file".toList s u := by
    rw [htail] at h
    split at h
    · obtain rfl := Option.some.inj h
      exact reads_file clear_nil (clear_of_readPath clear_slash _) s
    · obtain rfl := Option.some.inj h
      refine reads_file ?_ (clear_readPathAfter _) s
      split
      · exact clear_nil
      · exact hhost
  -- a drive letter is left for the path
  have hwritten : tailOf (s.drop (if isDrive (dropBreaks (s.takeWhile fun c =>
      !endsAuthority .file c)) then [] else s.takeWhile fun c => !endsAuthority .file c).length) =
        tailOf s := by
    split
    · rfl
    · exact tailOf_drop_authority _ s
  simp only [readFileHost, Option.bind_eq_bind, drop_path] at h
  generalize (if isDrive (dropBreaks (s.takeWhile fun c => !endsAuthority .file c)) then []
    else s.takeWhile fun c => !endsAuthority .file c) = written at h hwritten
  split at h
  · exact hhosted clear_nil hwritten h
  · obtain ⟨host, hhost, h⟩ := Option.bind_eq_some_iff.mp h
    exact hhosted (clear_of_readHost hhost) hwritten h

theorem reads_of_readFile (h : readFile s = some u) : Reads "file".toList s u := by
  have hpath {start input : Text} (hstart : Clear start)
      (h : some (assemble "file".toList (some (fileAuthority []))
        (readPath .file start (input.takeWhile fun c => !endsPath c)).1 (tailOf input)) = some u) :
      Reads "file".toList input u := by
    obtain rfl := Option.some.inj h
    exact reads_file clear_nil (clear_of_readPath hstart _) input
  simp only [readFile, drop_path] at h
  split at h
  · next c d rest =>
    split at h
    · next hc =>
      split at h
      · next hd =>
        have hslashes : Clear [c, d] :=
          Clear.cons (endsPath_of_slash hc) (Clear.cons (endsPath_of_slash hd) clear_nil)
        exact (reads_of_readFileHost h).congr (tailOf_append hslashes rest).symm
      · exact hpath clear_nil h
    · exact hpath clear_slash h
  · split at h
    · exact hpath clear_nil h
    · exact hpath clear_slash h
  · exact hpath clear_slash h

theorem reads_of_readOther (h : readOther scheme s = some u) : Reads scheme s u := by
  simp only [readOther, drop_path] at h
  split at h
  · next rest =>
    exact (reads_of_readFromAuthority h).congr
      (tailOf_append (clear_slash.append clear_slash) rest).symm
  · obtain rfl := Option.some.inj h
    refine .assemble (by simp) ?_
    split
    · exact clear_of_readPath clear_slash _
    · exact clear_encodeText fun c hc _ => clear_takeWhile s c hc

/-- A scheme ends before the tail. -/
theorem tailOf_of_readScheme (h : readScheme s = some (scheme, rest)) : tailOf rest = tailOf s := by
  simp only [readScheme] at h
  split at h
  · next hrest =>
    split at h
    · obtain ⟨-, rfl⟩ := Prod.mk.inj (Option.some.inj h)
      rw [drop_takeWhile] at hrest
      rw [← tailOf_dropWhile (fun _ => endsPath_of_schemeChar) s, hrest]
      exact (tailOf_append (Clear.cons (by decide) clear_nil) _).symm
    · contradiction
  · contradiction

/-- Only file addresses are of this kind. -/
theorem scheme_of_kindOf_file (h : kindOf scheme = .file) : scheme = "file".toList := by
  unfold kindOf at h
  split at h
  · assumption
  · split at h <;> contradiction

/-- **An address is put together from clear parts and its tail**, however it is read. -/
theorem exists_reads_of_parse? (h : parse? s = some u) :
    ∃ scheme rest, Clear scheme ∧ Reads scheme rest u ∧
      dropBreaks (tailOf rest) = tailOf (dropBreaks (trim s)) := by
  simp only [parse?, Option.bind_eq_bind, Option.bind_eq_some_iff] at h
  obtain ⟨⟨scheme, rest⟩, hscheme, h⟩ := h
  have hrest : tailOf (dropBreaks rest) = tailOf (dropBreaks (trim s)) := by
    rw [← dropBreaks_tailOf, tailOf_of_readScheme hscheme, dropBreaks_tailOf,
      dropBreaks_keepColonBreaks]
  have hbreaks (r : Text) : dropBreaks (dropBreaks r) = dropBreaks r := by
    simp [dropBreaks]
  have hclear := clear_readScheme hscheme
  split at h
  · next hkind =>
    refine ⟨scheme, _, hclear, scheme_of_kindOf_file hkind ▸ reads_of_readFile h, ?_⟩
    rw [tailOf_dropWhile fun _ => endsPath_of_break, dropBreaks_tailOf, hrest]
  · refine ⟨scheme, _, hclear, reads_of_readFromAuthority h, ?_⟩
    rw [tailOf_dropWhile fun _ => endsPath_of_slash, dropBreaks_tailOf, hbreaks, hrest]
  · refine ⟨scheme, _, hclear, reads_of_readOther h, ?_⟩
    rw [dropBreaks_tailOf, hbreaks, hrest]

/-- **The parts of an address in front of its query are clear.** -/
theorem sealed_of_parse? (h : parse? s = some u) : u.Sealed := by
  obtain ⟨scheme, rest, hscheme, ⟨hauthority, hpath⟩, -⟩ := exists_reads_of_parse? h
  exact ⟨hscheme, hauthority, hpath⟩

/-- **Query and fragment are read from the tail of an address.** -/
theorem readTail_of_parse? (h : parse? s = some u) :
    (u.query, u.fragment) = readTail (kindOf u.scheme) (tailOf (dropBreaks (trim s))) := by
  obtain ⟨scheme, rest, -, ⟨hauthority, hpath⟩, htail⟩ := exists_reads_of_parse? h
  rw [← htail]
  rfl

/-! ## 4. Queries -/

theorem endsPath_of_tailOf (h : tailOf s = c :: rest) : endsPath c = true := by
  have hhead := List.head?_dropWhile_not (fun c => !endsPath c) s
  rw [show s.dropWhile (fun c => !endsPath c) = c :: rest from h] at hhead
  simpa using hhead

/-- The query that is read is the one that is cut out. -/
theorem readTail_fst (k : Kind) (s : Text) :
    (readTail k (tailOf s)).1 = (queryOf s).map (Percent.encodeText (inQuery k)) := by
  have hcut : queryOf s = queryOf (tailOf s) := by
    have hwhole := queryOf_append (clear_takeWhile s) (tailOf s)
    rwa [tailOf, List.takeWhile_append_dropWhile] at hwhole
  rw [hcut]
  cases htail : tailOf s with
  | nil => rfl
  | cons c rest =>
    have hend := endsPath_of_tailOf htail
    simp only [endsPath, Bool.or_eq_true, beq_iff_eq] at hend
    rcases hend with rfl | rfl
    · rfl
    · rfl

/-- **The query of an address** is cut out of its text, and what must be escaped in it is escaped. -/
theorem query_of_parse? (h : parse? s = some u) : u.query =
    (queryOf (dropBreaks (trim s))).map (Percent.encodeText (inQuery (kindOf u.scheme))) := by
  rw [← readTail_fst, ← readTail_of_parse? h]

/-! ## 5. Reading a written address -/

/-- A rule that picks blanks and controls leaves what is not taken off the ends of an address. -/
theorem firm_of_unpicked {picked : Char → Bool} (hpicked : ∀ n < 33, picked (Char.ofNat n) = true)
    (h : picked c = false) : 0x20 < c.toNat := by
  by_contra hnot
  have hp := hpicked c.toNat (by omega)
  rw [Char.ofNat_toNat, h] at hp
  contradiction

theorem firm_of_stands (h : standsInQuery k c) : 0x20 < c.toNat := by
  simp only [standsInQuery, Bool.and_eq_true, Bool.not_eq_true'] at h
  exact firm_of_unpicked (by cases k <;> decide) h.2

/-- Nothing in a fragment is taken off the end of an address. -/
theorem firm_of_fragment {f : Text} (h : parse? s = some u) (hf : u.fragment = some f) :
    ∀ c ∈ f, 0x20 < c.toNat := by
  obtain ⟨written, rfl⟩ : ∃ written, f = Percent.encodeText inFragment written := by
    have hread := congrArg Prod.snd (readTail_of_parse? h)
    rw [hf] at hread
    unfold readTail at hread
    split at hread
    all_goals
      dsimp only at hread
      split at hread
      · exact ⟨_, Option.some.inj hread⟩
      · contradiction
  intro c hc
  rcases Percent.mem_encodeText hc with ⟨-, -, hkept⟩ | ⟨x, hx, rfl⟩
  · exact firm_of_unpicked (by decide) hkept
  · exact of_decide_eq_true (hx.char (p := fun c => 0x20 < c.toNat) (by decide +kernel))

theorem trim_subset (s : Text) : trim s ⊆ s := fun _ hc => (List.dropWhile_subset _)
  (List.mem_reverse.mp (List.dropWhile_subset _ (List.mem_reverse.mp hc)))

/-- A text is cut at its front before anything behind it is looked at. -/
theorem dropWhile_append_firm (lead : Text) (h : ∀ c ∈ t, 0x20 < c.toNat) :
    (lead ++ t).dropWhile (fun c => c.toNat ≤ 0x20) =
      lead.dropWhile (fun c => c.toNat ≤ 0x20) ++ t := by
  have hkept : t.dropWhile (fun c => c.toNat ≤ 0x20) = t := by
    cases t with
    | nil => rfl
    | cons c t =>
      have hc := h c List.mem_cons_self
      exact List.dropWhile_cons_of_neg (by simpa using hc)
  rw [List.dropWhile_append]
  split
  · next hnil => rw [hkept, List.isEmpty_iff.mp hnil, List.nil_append]
  · rfl

/-- Only what stands in front is taken off. -/
theorem exists_trim_append (lead : Text) (h : ∀ c ∈ t, 0x20 < c.toNat) :
    ∃ l, l ⊆ lead ∧ trim (lead ++ t) = l ++ t := by
  rcases List.eq_nil_or_concat' t with rfl | ⟨t, d, rfl⟩
  · exact ⟨trim lead, trim_subset lead, by rw [List.append_nil, List.append_nil]⟩
  · refine ⟨lead.dropWhile fun c => c.toNat ≤ 0x20, List.dropWhile_subset _, ?_⟩
    have hd := h d (List.mem_append_right t List.mem_cons_self)
    calc trim (lead ++ (t ++ [d]))
        = ((lead ++ (t ++ [d])).dropWhile fun c => c.toNat ≤ 0x20).rdropWhile
            fun c => c.toNat ≤ 0x20 := rfl
      _ = ((lead.dropWhile fun c => c.toNat ≤ 0x20) ++ t ++ [d]).rdropWhile
            fun c => c.toNat ≤ 0x20 := by rw [dropWhile_append_firm lead h, List.append_assoc]
      _ = (lead.dropWhile fun c => c.toNat ≤ 0x20) ++ t ++ [d] :=
          List.rdropWhile_concat_neg _ _ _ (by simpa using hd)
      _ = _ := List.append_assoc ..

theorem dropBreaks_of_firm (h : ∀ c ∈ t, 0x20 < c.toNat) : dropBreaks t = t := by
  refine List.filter_eq_self.mpr fun c hc => ?_
  have hfirm := h c hc
  by_contra hbreak
  simp only [isTabOrNewline, Bool.not_eq_true', Bool.not_eq_false, Bool.or_eq_true,
    beq_iff_eq] at hbreak
  rcases hbreak with (rfl | rfl) | rfl
  all_goals exact absurd hfirm (by decide)

/-- Neither a query nor a fragment loses anything at the end of an address. -/
theorem firm_rear (hquery : ∀ q, u.query = some q → ∀ c ∈ q, 0x20 < c.toNat)
    (hfragment : ∀ f, u.fragment = some f → ∀ c ∈ f, 0x20 < c.toNat) :
    ∀ c ∈ u.rear, 0x20 < c.toNat := by
  have hsigned (sign : Char) (part : Option Text) (hsign : 0x20 < sign.toNat)
      (hpart : ∀ s, part = some s → ∀ c ∈ s, 0x20 < c.toNat) :
      ∀ c ∈ part.elim [] (sign :: ·), 0x20 < c.toNat := by
    cases part with
    | none => intro c hc; contradiction
    | some s => exact List.forall_mem_cons.mpr ⟨hsign, hpart s rfl⟩
  intro c hc
  rcases List.mem_append.mp hc with hc | hc
  · exact hsigned '?' _ (by decide) hquery c hc
  · exact hsigned '#' _ (by decide) hfragment c hc

/-- **Reading a written address gives its query back** when all of it stands in queries. -/
theorem query_reread {u' : Url} (hsealed : u.Sealed)
    (hquery : ∀ q, u.query = some q → ∀ c ∈ q, ∀ k, standsInQuery k c)
    (hfragment : ∀ f, u.fragment = some f → ∀ c ∈ f, 0x20 < c.toNat) (h : parse? u.write = some u') :
    u'.query = u.query := by
  have hhash : ∀ q, u.query = some q → '#' ∉ q := by
    intro q hq hin
    exact absurd (hquery q hq '#' hin .other) (by decide)
  have hfirm : ∀ c ∈ u.rear, 0x20 < c.toNat :=
    firm_rear (fun q hq c hc => firm_of_stands (hquery q hq c hc .other)) hfragment
  obtain ⟨l, hl, htrim⟩ := exists_trim_append u.front hfirm
  have hbreaks : dropBreaks (l ++ u.rear) = dropBreaks l ++ u.rear := by
    rw [dropBreaks, List.filter_append, ← dropBreaks, ← dropBreaks, dropBreaks_of_firm hfirm]
  have hclear : Clear (dropBreaks l) :=
    hsealed.front.subset (List.Subset.trans List.filter_sublist.subset hl)
  rw [query_of_parse? h, write_eq, htrim, hbreaks, queryOf_append hclear, queryOf_rear hhash]
  cases hq : u.query with
  | none => rfl
  | some q =>
    have hform := queryForm_eq_self_iff.mpr fun c hc => hquery q hq c hc (kindOf u'.scheme)
    rw [queryForm, dropBreaks_of_firm fun c hc => firm_of_stands (hquery q hq c hc .other)] at hform
    rw [Option.map_some, hform]

end Url
end Stencil
