/-
# Where the query of an address stands

The written form of an address holds its query between the first `?` and the first `#` after it.  This
is so because the parts in front of the query hold neither sign: what is read of them is escaped,
forbidden or made of digits.

* `Url.queryOf`: the query of a written address, cut out at these signs.  `Url.queryOf_write`: it is
  the query of the address when the parts in front of it are clear.
* `Url.Clear`: a text without these signs.  Every part that reading an address puts in front of the
  query is clear (`Url.clear_of_readHost`, `Url.clear_of_readPath`, `Url.clear_readScheme`).
* `Url.Sealed`: an address with clear parts.
-/
import Stencil.Proofs.Encodings
import Stencil.Url.Parse

namespace Stencil

namespace Text

/-- Whatever is in joined texts is in one of them or in the text between them. -/
theorem mem_join {sep : Text} {c : Char} : ∀ {parts : List Text}, c ∈ join sep parts →
    c ∈ sep ∨ ∃ p ∈ parts, c ∈ p
  | [p], h => .inr ⟨p, List.mem_singleton.mpr rfl, h⟩
  | p :: q :: parts, h => by
    rw [join, List.append_assoc] at h
    rcases List.mem_append.mp h with h | h
    · exact .inr ⟨p, List.mem_cons_self, h⟩
    · rcases List.mem_append.mp h with h | h
      · exact .inl h
      · rcases mem_join h with h | ⟨r, hr, h⟩
        · exact .inl h
        · exact .inr ⟨r, List.mem_cons_of_mem _ hr, h⟩

end Text

namespace Url

/-! ## 1. Cutting out a query -/

/-- The query of a written address: what stands between its first `?` and the first `#`. -/
def queryOf (address : Text) : Option Text :=
  match (address.takeWhile (· != '#')).dropWhile (· != '?') with
  | [] => none
  | _ :: query => some query

/-- A text that neither a query nor a fragment starts in. -/
def Clear (s : Text) : Prop := ∀ c ∈ s, endsPath c = false

variable {s t lead : Text} {c : Char} {k : Kind}

theorem Clear.ne_hash (h : Clear s) : ∀ c ∈ s, (c != '#') = true := by
  intro c hc
  have hend := h c hc
  simp only [endsPath, Bool.or_eq_false_iff, beq_eq_false_iff_ne] at hend
  exact bne_iff_ne.mpr hend.2

theorem Clear.ne_mark (h : Clear s) : ∀ c ∈ s, (c != '?') = true := by
  intro c hc
  have hend := h c hc
  simp only [endsPath, Bool.or_eq_false_iff, beq_eq_false_iff_ne] at hend
  exact bne_iff_ne.mpr hend.1

/-- What stands in front of a query is passed over. -/
theorem queryOf_append (h : Clear lead) (s : Text) : queryOf (lead ++ s) = queryOf s := by
  rw [queryOf, List.takeWhile_append_of_pos h.ne_hash, List.dropWhile_append_of_pos h.ne_mark]
  rfl

/-- The parts of an address in front of its query. -/
def front (u : Url) : Text := u.scheme ++ ':' :: u.writeAuthority ++ u.path

/-- The query and the fragment of an address, each behind its sign. -/
def rear (u : Url) : Text := u.query.elim [] ('?' :: ·) ++ u.fragment.elim [] ('#' :: ·)

theorem write_eq (u : Url) : u.write = u.front ++ u.rear := by
  obtain ⟨scheme, authority, path, query, fragment⟩ := u
  cases query <;> cases fragment <;> simp [write, front, rear]

/-- Behind the other parts the query ends at the fragment. -/
theorem queryOf_rear {u : Url} (hq : ∀ q, u.query = some q → '#' ∉ q) : queryOf u.rear = u.query := by
  have hfragment : (u.fragment.elim [] ('#' :: ·)).takeWhile (· != '#') = [] := by
    cases u.fragment <;> simp
  rw [rear, queryOf]
  cases hquery : u.query with
  | none =>
    rw [Option.elim_none, List.nil_append, hfragment]
    rfl
  | some q =>
    have hne : ∀ c ∈ '?' :: q, (c != '#') = true := by
      intro c hc
      rcases List.mem_cons.mp hc with rfl | hc
      · decide
      · exact bne_iff_ne.mpr fun heq => hq q hquery (heq ▸ hc)
    rw [Option.elim_some, List.takeWhile_append_of_pos hne, hfragment, List.append_nil]
    rfl

/-- **The query that is cut out of a written address is its query.** -/
theorem queryOf_write {u : Url} (hfront : Clear u.front) (hq : ∀ q, u.query = some q → '#' ∉ q) :
    queryOf u.write = u.query := by
  rw [write_eq, queryOf_append hfront, queryOf_rear hq]

/-! ## 2. Clear texts -/

theorem clear_nil : Clear [] := fun _ h => nomatch h

theorem Clear.append (hs : Clear s) (ht : Clear t) : Clear (s ++ t) := by
  intro c hc
  rcases List.mem_append.mp hc with hc | hc
  · exact hs c hc
  · exact ht c hc

theorem Clear.cons (hc : endsPath c = false) (hs : Clear s) : Clear (c :: s) :=
  List.forall_mem_cons.mpr ⟨hc, hs⟩

theorem Clear.subset (ht : Clear t) (h : s ⊆ t) : Clear s := fun c hc => ht c (h hc)

theorem clear_of_all (h : s.all (fun c => !endsPath c) = true) : Clear s := by
  intro c hc
  simpa using List.all_eq_true.mp h c hc

theorem clear_join {sep : Text} {parts : List Text} (hsep : Clear sep)
    (hparts : ∀ p ∈ parts, Clear p) : Clear (Text.join sep parts) := by
  intro c hc
  rcases Text.mem_join hc with hc | ⟨p, hp, hc⟩
  · exact hsep c hc
  · exact hparts p hp c hc

/-- What was taken up to the end of a path is clear. -/
theorem clear_takeWhile (s : Text) : Clear (s.takeWhile fun c => !endsPath c) :=
  clear_of_all List.all_takeWhile

/-- An escape is clear. -/
theorem endsPath_of_written {x : UInt8} (h : Form.Written x) :
    endsPath (Char.ofNat x.toNat) = false := by
  have hnot : (!endsPath (Char.ofNat x.toNat)) = true :=
    h.char (p := fun c => !endsPath c) (by decide +kernel)
  simpa using hnot

/-- **Escaping leaves nothing that is not clear**, unless it was there and is not escaped. -/
theorem clear_encodeText {mustEscape : Char → Bool}
    (h : ∀ c ∈ s, mustEscape c = false → endsPath c = false) :
    Clear (Percent.encodeText mustEscape s) := by
  intro c hc
  rcases Percent.mem_encodeText hc with ⟨hin, -, hkept⟩ | ⟨x, hx, rfl⟩
  · exact h c hin hkept
  · exact endsPath_of_written hx

/-- A rule that picks both signs leaves clear characters. -/
theorem endsPath_of_unpicked (picked : Char → Bool) (hmark : picked '?' = true)
    (hhash : picked '#' = true) (h : picked c = false) : endsPath c = false := by
  cases hend : endsPath c with
  | false => rfl
  | true =>
    simp only [endsPath, Bool.or_eq_true, beq_iff_eq] at hend
    rcases hend with rfl | rfl
    · rw [hmark] at h
      contradiction
    · rw [hhash] at h
      contradiction

theorem clear_encodePath (s : Text) : Clear (Percent.encodeText inPath s) :=
  clear_encodeText fun _ _ => endsPath_of_unpicked inPath (by decide) (by decide)

theorem clear_encodeUser (s : Text) : Clear (Percent.encodeText inUser s) :=
  clear_encodeText fun _ _ => endsPath_of_unpicked inUser (by decide) (by decide)

/-- Numerals are clear. -/
theorem clear_toDigits {b : Nat} (hb : 1 < b) (hle : b ≤ 16) (n : Nat) :
    Clear (Nat.toDigits b n) := by
  have hdigit : ∀ d < 16, Clear [Nat.digitChar d] := by
    have hall : ∀ d < 16, endsPath (Nat.digitChar d) = false := by decide
    exact fun d hd => Clear.cons (hall d hd) clear_nil
  induction n using Nat.strongRecOn with
  | ind n ih =>
    rcases Nat.lt_or_ge n b with hn | hn
    · rw [Nat.toDigits_of_lt_base hn]
      exact hdigit n (by omega)
    · rw [Nat.toDigits_of_base_le hb hn]
      have hmod := Nat.mod_lt n (by omega : b > 0)
      exact (ih _ (Nat.div_lt_self (by omega) hb)).append (hdigit _ (by omega))

theorem clear_ofNat (n : Nat) : Clear (Text.ofNat n) := clear_toDigits (by decide) (by decide) n

theorem clear_ofNatHex (n : Nat) : Clear (Text.ofNatHex n) :=
  clear_toDigits (by decide) (by decide) n

/-! ## 3. Hosts -/

theorem clear_writeV4 (n : Nat) : Clear (Ip.writeV4 n) := by
  refine clear_join (Clear.cons (by decide) clear_nil) fun p hp => ?_
  obtain ⟨m, -, rfl⟩ := List.mem_map.mp hp
  exact clear_ofNat m

theorem clear_writePieces (l : List Nat) : Clear (Ip.writePieces l) := by
  refine clear_join (Clear.cons (by decide) clear_nil) fun p hp => ?_
  obtain ⟨m, -, rfl⟩ := List.mem_map.mp hp
  exact clear_ofNatHex m

theorem clear_writeV6 (l : List Nat) : Clear (Ip.writeV6 l) := by
  have hgap : Clear [':', ':'] := Clear.cons (by decide) (Clear.cons (by decide) clear_nil)
  simp only [Ip.writeV6]
  split
  · exact clear_writePieces l
  · exact ((clear_writePieces _).append hgap).append (clear_writePieces _)

theorem clear_readBracketed {host : Text} (h : readBracketed s = some host) : Clear host := by
  unfold readBracketed at h
  split at h
  · obtain ⟨l, -, rfl⟩ := Option.map_eq_some_iff.mp h
    exact Clear.cons (by decide)
      ((clear_writeV6 l).append (Clear.cons (by decide) clear_nil))
  · contradiction

theorem clear_readPlainHost {host : Text} (h : readPlainHost s = some host) : Clear host := by
  unfold readPlainHost at h
  split at h
  · contradiction
  · next hforbidden =>
    obtain rfl := Option.some.inj h
    refine clear_encodeText fun c hc _ => ?_
    refine endsPath_of_unpicked isForbiddenInHost (by decide) (by decide) ?_
    simpa using fun h => hforbidden (List.any_eq_true.mpr ⟨c, hc, h⟩)

/-- The digits of punycode are letters and decimal digits. -/
theorem endsPath_digit {n : Nat} (h : n < 36) : endsPath (Punycode.digit n) = false := by
  revert n
  decide

theorem clear_writeNumber (bias k n : Nat) : Clear (Punycode.writeNumber bias k n) := by
  have hpos := Punycode.threshold_pos bias k
  have hle := Punycode.threshold_le bias k
  rw [Punycode.writeNumber]
  split
  · exact Clear.cons (endsPath_digit (by omega)) clear_nil
  · have hmod := Nat.mod_lt (n - Punycode.threshold bias k)
      (by omega : 36 - Punycode.threshold bias k > 0)
    exact Clear.cons (endsPath_digit (by omega)) (clear_writeNumber bias (k + 36) _)
termination_by n
decreasing_by
  have hdiv := Nat.div_le_self (n - Punycode.threshold bias k) (36 - Punycode.threshold bias k)
  omega

theorem clear_pass {w : Punycode.Writer} (h : Clear w.out) (basic n : Nat) (c : Char) :
    Clear (w.pass basic n c).out := by
  unfold Punycode.Writer.pass
  split
  · exact h
  · split
    · exact h.append (clear_writeNumber _ _ _)
    · exact h

theorem clear_foldl_pass {w : Punycode.Writer} (h : Clear w.out) (basic n : Nat) (label : Text) :
    Clear (label.foldl (Punycode.Writer.pass basic n) w).out := by
  induction label generalizing w with
  | nil => exact h
  | cons c label ih => exact ih (clear_pass h basic n c)

theorem clear_writeFrom (label : Text) (basic : Nat) : ∀ (points : List Nat) (n : Nat)
    {w : Punycode.Writer}, Clear w.out → Clear (Punycode.writeFrom label basic points n w)
  | [], _, _, h => h
  | m :: points, n, w, h => by
    rw [Punycode.writeFrom]
    refine clear_writeFrom label basic points (m + 1) ?_
    exact clear_foldl_pass (w := { w with step := w.step + (m - n) * (w.count + 1) }) h basic m label

theorem clear_encodeLabel {label : Text} (h : Clear label) : Clear (Punycode.encode label) := by
  refine Clear.append (Clear.append ?_ ?_) (clear_writeFrom label _ _ _ clear_nil)
  · exact h.subset (List.filter_sublist.subset)
  · split
    · exact clear_nil
    · exact Clear.cons (by decide) clear_nil

theorem clear_writeLabel {label : Text} (h : Clear label) : Clear (Domain.writeLabel label) := by
  have hmark : Clear Domain.punycodeMark := clear_of_all (by decide)
  unfold Domain.writeLabel
  split
  · exact h
  · exact hmark.append (clear_encodeLabel h)

/-- A clear text is cut into clear parts. -/
theorem Clear.splitOn : ∀ {s : Text}, Clear s → ∀ p ∈ s.splitOn '.', Clear p
  | [], _, p, hp => by
    rw [List.splitOn_nil, List.mem_singleton] at hp
    exact hp ▸ clear_nil
  | c :: s, h, p, hp => by
    obtain ⟨hc, hs⟩ := List.forall_mem_cons.mp h
    have ih := Clear.splitOn hs
    rw [List.splitOn_cons_eq_if_modifyHead] at hp
    split at hp
    · rcases List.mem_cons.mp hp with rfl | hp
      · exact clear_nil
      · exact ih p hp
    · obtain ⟨q, qs, hq⟩ := List.exists_cons_of_ne_nil (List.splitOn_ne_nil '.' s)
      rw [hq, List.modifyHead_cons] at hp
      rcases List.mem_cons.mp hp with rfl | hp
      · exact Clear.cons hc (ih q (hq ▸ List.mem_cons_self))
      · exact ih p (hq ▸ List.mem_cons_of_mem _ hp)

/-- A domain holds no character that is forbidden in domains. -/
theorem clear_toAscii {domain : Text} (h : Domain.toAscii? s = some domain) : Clear domain := by
  simp only [Domain.toAscii?, Option.bind_eq_bind, Option.bind_eq_some_iff] at h
  obtain ⟨mapped, -, h⟩ := h
  generalize (if Domain.isAscii mapped then mapped else Compose.normalize mapped) = written at h
  split at h
  · contradiction
  · next hforbidden =>
    have hwritten : Clear written := by
      intro c hc
      refine endsPath_of_unpicked Domain.isForbidden (by decide) (by decide) ?_
      simpa using fun h => hforbidden (List.any_eq_true.mpr ⟨c, hc, h⟩)
    obtain ⟨meant, -, h⟩ := Option.bind_eq_some_iff.mp h
    split at h
    · obtain rfl := Option.some.inj h
      refine clear_join (Clear.cons (by decide) clear_nil) fun p hp => ?_
      obtain ⟨label, hlabel, rfl⟩ := List.mem_map.mp hp
      exact clear_writeLabel (hwritten.splitOn label hlabel)
    · contradiction

theorem clear_readDomain {host : Text} (h : readDomain s = some host) : Clear host := by
  simp only [readDomain, Option.bind_eq_bind, Option.bind_eq_some_iff] at h
  obtain ⟨decoded, -, domain, hdomain, h⟩ := h
  split at h
  · contradiction
  · split at h
    · obtain ⟨n, -, rfl⟩ := Option.map_eq_some_iff.mp h
      exact clear_writeV4 n
    · obtain rfl := Option.some.inj h
      exact clear_toAscii hdomain

/-- **A host is clear**, whatever it is read from. -/
theorem clear_of_readHost {host : Text} (h : readHost k s = some host) : Clear host := by
  unfold readHost at h
  split at h
  · exact clear_readBracketed h
  · split at h
    · exact clear_readDomain h
    · exact clear_readPlainHost h

/-! ## 4. Authorities -/

/-- The parts of an authority are clear. -/
structure Authority.Sealed (a : Authority) : Prop where
  user : Clear a.user
  password : Clear a.password
  host : Clear a.host

theorem Authority.Sealed.write {a : Authority} (h : a.Sealed) : Clear a.write := by
  have hpassword : Clear (if a.password = [] then [] else ':' :: a.password) := by
    split
    · exact clear_nil
    · exact Clear.cons (by decide) h.password
  have hat : Clear (if a.user = [] ∧ a.password = [] then [] else ['@']) := by
    split
    · exact clear_nil
    · exact Clear.cons (by decide) clear_nil
  refine (((h.user.append hpassword).append hat).append h.host).append ?_
  split
  · exact Clear.cons (by decide) (clear_ofNat _)
  · exact clear_nil

/-- What is read of an authority is sealed. -/
theorem sealed_of_readAuthority {scheme rest : Text} {a : Authority}
    (h : readAuthority scheme s = some (a, rest)) : a.Sealed := by
  simp only [readAuthority] at h
  split at h
  · contradiction
  · split at h
    · contradiction
    · simp only [Option.bind_eq_bind, Option.bind_eq_some_iff] at h
      obtain ⟨host, hhost, h⟩ := h
      have hsealed (user password : Text) (port : Option Nat) : Authority.Sealed
          ⟨Percent.encodeText inUser user, Percent.encodeText inUser password, host, port⟩ :=
        ⟨clear_encodeUser _, clear_encodeUser _, clear_of_readHost hhost⟩
      split at h
      all_goals
        obtain ⟨port, -, h⟩ := Option.bind_eq_some_iff.mp h
        obtain ⟨rfl, -⟩ := Prod.mk.inj (Option.some.inj h)
        exact hsealed _ _ _

/-! ## 5. Paths -/

variable {path segment : Text}

theorem clear_slash : Clear ['/'] := Clear.cons (by decide) clear_nil

theorem clear_toLastSlash (h : Clear path) : Clear (toLastSlash path) := by
  refine h.subset fun c hc => ?_
  have hrev := (List.dropWhile_suffix (l := path.reverse) (· != '/')).subset (List.mem_reverse.mp hc)
  exact List.mem_reverse.mp hrev

theorem clear_dropSegment (h : Clear path) : Clear (dropSegment k path) := by
  have hlast : Clear path.dropLast := h.subset (List.dropLast_subset path)
  simp only [dropSegment]
  split
  · split
    · exact hlast
    · exact clear_toLastSlash hlast
  · split
    · exact h
    · exact clear_toLastSlash h

/-- A clear segment is added to a clear path. -/
theorem clear_addSegment (hpath : Clear path) (hsegment : Clear segment) (slash : Bool) :
    Clear (addSegment k path segment slash).1 := by
  have hafter : Clear (if slash then ['/'] else []) := by
    split
    · exact clear_slash
    · exact clear_nil
  simp only [addSegment]
  split
  · split
    · exact (clear_dropSegment hpath).append clear_slash
    · exact clear_dropSegment hpath
  · split
    · split
      · exact hpath
      · exact hpath.append clear_slash
    · split
      · exact (hpath.append (hsegment.subset (List.take_subset 1 segment))).append
          (Clear.cons (by decide) hafter)
      · exact (hpath.append hsegment).append hafter

theorem clear_addSegments : ∀ (segments : List Text) {path : Text}, Clear path →
    Clear (addSegments k path segments).1
  | [], _, h => h
  | [_], _, h => clear_addSegment h (clear_encodePath _) false
  | _ :: t :: segments, _, h =>
    clear_addSegments (t :: segments) (clear_addSegment h (clear_encodePath _) true)

/-- **A path that is read is clear**, as every segment is escaped before it is added. -/
theorem clear_of_readPath (h : Clear path) (input : Text) : Clear (readPath k path input).1 := by
  have hread := clear_addSegments (k := k)
    (input.splitOnP fun c => c == '/' || (k.isSpecial && c == '\\')) h
  simp only [readPath]
  split
  · exact Clear.cons (by decide) (hread.subset (List.dropWhile_suffix _).subset)
  · exact hread

theorem clear_readPathAfter (input : Text) : Clear (readPathAfter k input).1 := by
  unfold readPathAfter
  split
  · split
    · split
      · exact clear_of_readPath clear_slash _
      · exact clear_of_readPath clear_slash _
    · exact clear_of_readPath clear_slash _
  · split
    · exact clear_nil
    · exact clear_of_readPath clear_nil _
    · exact clear_of_readPath clear_slash _

/-! ## 6. Schemes -/

/-- A letter keeps its distance to both signs in lower case. -/
theorem endsPath_lowerAscii (h : endsPath c = false) : endsPath (Text.lowerAscii c) = false := by
  unfold Text.lowerAscii
  split
  · next hletter =>
    have hall : ∀ n < 91, 65 ≤ n → endsPath (Char.ofNat (n + 32)) = false := by decide
    exact hall c.toNat (Nat.lt_succ_of_le hletter.2) hletter.1
  · exact h

theorem endsPath_of_schemeChar
    (h : (isLetter c || ('0' ≤ c && c ≤ '9') || c == '+' || c == '-' || c == '.') = true) :
    endsPath c = false := by
  refine endsPath_of_unpicked (fun c => !(isLetter c ||
    ('0' ≤ c && c ≤ '9') || c == '+' || c == '-' || c == '.')) (by decide) (by decide) ?_
  rw [h]
  rfl

/-- A scheme is clear. -/
theorem clear_readScheme {scheme rest : Text} (h : readScheme s = some (scheme, rest)) :
    Clear scheme := by
  simp only [readScheme] at h
  split at h
  · split at h
    · obtain ⟨rfl, -⟩ := Prod.mk.inj (Option.some.inj h)
      intro c hc
      obtain ⟨d, hd, rfl⟩ := List.mem_map.mp hc
      exact endsPath_lowerAscii
        (endsPath_of_schemeChar (List.all_eq_true.mp List.all_takeWhile d hd))
    · contradiction
  · contradiction

/-! ## 7. Addresses -/

/-- The parts of an address in front of its query are clear. -/
structure Sealed (u : Url) : Prop where
  scheme : Clear u.scheme
  authority : ∀ a, u.authority = some a → a.Sealed
  path : Clear u.path

theorem Sealed.front {u : Url} (h : u.Sealed) : Clear u.front := by
  refine (h.scheme.append (Clear.cons (by decide) ?_)).append h.path
  unfold writeAuthority
  split
  · next a ha =>
    exact (Clear.append clear_slash clear_slash).append (h.authority a ha).write
  · split
    · exact Clear.cons (by decide) (Clear.cons (by decide) clear_nil)
    · exact clear_nil

end Url
end Stencil
