/-
# Dictionaries

A finite map from texts, kept as a list of entries with strictly ascending keys, so that the
order of the entries is the order of the keys and a key stands there once.  Texts are
ordered character by character, which is also the order of their UTF-8 bytes.

The view of a dictionary is `get?`, with one equation for each operation (`get?_insert`,
`get?_insertAll`, `get?_empty`); it finds exactly the entries (`get?_eq_some_iff`).
-/
import Stencil.Text.Basic

namespace Stencil

/-- Entries with strictly ascending keys. -/
structure Dict (α : Type) where
  entries : List (Text × α)
  ascending : entries.Pairwise (fun a b => a.1 < b.1)

namespace Dict

variable {α β : Type}

/-- The dictionary with no entries. -/
def empty : Dict α := ⟨[], .nil⟩

instance : Inhabited (Dict α) := ⟨empty⟩

/-- Puts an entry in its place, over an entry of the same key. -/
def insertEntry (k : Text) (v : α) : List (Text × α) → List (Text × α)
  | [] => [(k, v)]
  | e :: es =>
    if k < e.1 then (k, v) :: e :: es
    else if k = e.1 then (k, v) :: es
    else e :: insertEntry k v es

theorem mem_insertEntry {k : Text} {v : α} {a : Text × α} : ∀ {es : List (Text × α)},
    a ∈ insertEntry k v es → a = (k, v) ∨ a ∈ es
  | [], h => by simpa [insertEntry] using h
  | e :: es, h => by
    simp only [insertEntry] at h
    split at h
    · simpa using h
    · split at h
      · rcases List.mem_cons.mp h with h | h
        · exact .inl h
        · exact .inr (List.mem_cons_of_mem _ h)
      · rcases List.mem_cons.mp h with h | h
        · exact .inr (by simp [h])
        · rcases mem_insertEntry h with h | h
          · exact .inl h
          · exact .inr (List.mem_cons_of_mem _ h)

/-- Of two different texts one comes first. -/
theorem lt_of_not_lt_of_ne {a b : Text} (h : ¬ a < b) (hne : a ≠ b) : b < a :=
  Decidable.byContradiction fun h' => hne (List.le_antisymm (List.not_lt.mp h') (List.not_lt.mp h))

theorem ascending_insertEntry (k : Text) (v : α) : ∀ {es : List (Text × α)},
    es.Pairwise (fun a b => a.1 < b.1) →
    (insertEntry k v es).Pairwise (fun a b => a.1 < b.1)
  | [], _ => by simp [insertEntry]
  | e :: es, h => by
    obtain ⟨hhead, htail⟩ := List.pairwise_cons.mp h
    simp only [insertEntry]
    split
    · next hlt =>
      refine List.pairwise_cons.mpr ⟨fun a ha => ?_, h⟩
      rcases List.mem_cons.mp ha with rfl | ha
      · exact hlt
      · exact List.lt_trans hlt (hhead a ha)
    · next hlt =>
      split
      · next heq =>
        exact List.pairwise_cons.mpr ⟨fun a ha => heq ▸ hhead a ha, htail⟩
      · next hne =>
        refine List.pairwise_cons.mpr ⟨fun a ha => ?_, ascending_insertEntry k v htail⟩
        rcases mem_insertEntry ha with rfl | ha
        · exact lt_of_not_lt_of_ne hlt hne
        · exact hhead a ha

/-- Binds a key, replacing an earlier binding. -/
def insert (d : Dict α) (k : Text) (v : α) : Dict α :=
  ⟨insertEntry k v d.entries, ascending_insertEntry k v d.ascending⟩

/-- The value of a key in a list of entries. -/
def find? (k : Text) : List (Text × α) → Option α
  | [] => none
  | e :: es => if e.1 = k then some e.2 else find? k es

/-- The value bound to a key. -/
def get? (d : Dict α) (k : Text) : Option α := find? k d.entries

/-- A key is bound. -/
def contains (d : Dict α) (k : Text) : Bool := (d.get? k).isSome

/-- The keys in ascending order. -/
def keys (d : Dict α) : List Text := d.entries.map Prod.fst

/-- The number of entries. -/
def size (d : Dict α) : Nat := d.entries.length

/-- Binds the entries of a list in turn, so that the last binding of a key stays. -/
def insertAll (d : Dict α) (es : List (Text × α)) : Dict α :=
  es.foldl (fun d e => d.insert e.1 e.2) d

/-- The dictionary of a list of entries; the last binding of a key stays. -/
def ofList (es : List (Text × α)) : Dict α := empty.insertAll es

@[simp] theorem get?_empty (k : Text) : (empty : Dict α).get? k = none := rfl

theorem find?_insertEntry (k k' : Text) (v : α) : ∀ es : List (Text × α),
    find? k' (insertEntry k v es) = if k = k' then some v else find? k' es
  | [] => rfl
  | e :: es => by
    have ih := find?_insertEntry k k' v es
    simp only [insertEntry]
    split
    · rfl
    · split
      · next heq =>
        by_cases hk : k = k'
        · simp [find?, hk]
        · simp [find?, hk, ← heq]
      · next hne =>
        by_cases hk : e.1 = k'
        · have : k ≠ k' := fun h => hne (h.trans hk.symm)
          simp [find?, hk, this]
        · simp [find?, hk, ih]

/-- Inserting changes the value of one key. -/
@[simp] theorem get?_insert (d : Dict α) (k k' : Text) (v : α) :
    (d.insert k v).get? k' = if k = k' then some v else d.get? k' :=
  find?_insertEntry k k' v d.entries

theorem find?_eq_some_iff {k : Text} {v : α} : ∀ {es : List (Text × α)},
    es.Pairwise (fun a b => a.1 < b.1) → (find? k es = some v ↔ (k, v) ∈ es)
  | [], _ => by simp [find?]
  | e :: es, h => by
    obtain ⟨hhead, htail⟩ := List.pairwise_cons.mp h
    by_cases hk : e.1 = k
    · subst hk
      have hnot : (e.1, v) ∉ es := fun hmem => List.lt_irrefl e.1 (hhead (e.1, v) hmem)
      simp [find?, hnot, Prod.ext_iff, eq_comm]
    · have hne : (k, v) ≠ e := fun he => hk (he ▸ rfl)
      simp [find?, hk, hne, find?_eq_some_iff htail]

/-- Looking up finds exactly the entries. -/
theorem get?_eq_some_iff {d : Dict α} {k : Text} {v : α} :
    d.get? k = some v ↔ (k, v) ∈ d.entries :=
  find?_eq_some_iff d.ascending

/-- A key is bound when it is one of the keys. -/
theorem mem_keys_iff {d : Dict α} {k : Text} : k ∈ d.keys ↔ ∃ v, d.get? k = some v := by
  simp [keys, get?_eq_some_iff]

/-- **The last entry of a key counts**, and without one the key stays as it was. -/
theorem get?_insertAll (k : Text) : ∀ (es : List (Text × α)) (d : Dict α), (d.insertAll es).get? k =
    ((es.findRev? fun e => e.1 = k).map Prod.snd).or (d.get? k)
  | [], _ => rfl
  | e :: es, d => by
    have hrest : (d.insertAll (e :: es)).get? k = ((d.insert e.1 e.2).insertAll es).get? k := rfl
    rw [hrest, get?_insertAll k es, get?_insert, List.findRev?]
    cases es.findRev? fun e => e.1 = k with
    | some _ => rfl
    | none => by_cases hk : e.1 = k <;> simp [hk]

/-- What is bound after some insertions was inserted or bound before. -/
theorem mem_or_of_get?_insertAll {k : Text} {v : α} {es : List (Text × α)} {d : Dict α}
    (h : (d.insertAll es).get? k = some v) : (k, v) ∈ es ∨ d.get? k = some v := by
  rw [get?_insertAll, List.findRev?_eq_find?_reverse, Option.or_eq_some_iff,
    Option.map_eq_some_iff] at h
  rcases h with ⟨e, he, rfl⟩ | ⟨-, h⟩
  · obtain rfl : e.1 = k := by simpa using List.find?_some he
    exact .inl (List.mem_reverse.mp (List.mem_of_find?_eq_some he))
  · exact .inr h

/-- What a list of entries binds is one of them. -/
theorem mem_of_get?_ofList {es : List (Text × α)} {k : Text} {v : α}
    (h : (ofList es).get? k = some v) : (k, v) ∈ es :=
  (mem_or_of_get?_insertAll h).resolve_right (by simp)

/-- An entry that no other entry of its key comes after is the one that counts. -/
theorem get?_insertAll_of_last {d : Dict α} {k : Text} {v : α} {xs ys : List (Text × α)}
    (h : ∀ e ∈ ys, e.1 ≠ k) : (d.insertAll (xs ++ (k, v) :: ys)).get? k = some v := by
  have hnone : ys.reverse.find? (fun e => e.1 = k) = none :=
    List.find?_eq_none.mpr fun e he => by simpa using h e (List.mem_reverse.mp he)
  rw [get?_insertAll, List.findRev?_eq_find?_reverse, List.reverse_append, List.reverse_cons,
    List.append_assoc, List.find?_append, hnone]
  simp

/-- An entry whose key comes after all others is put at the end. -/
theorem insertEntry_of_forall_lt {k : Text} {v : α} : ∀ {es : List (Text × α)},
    (∀ e ∈ es, e.1 < k) → insertEntry k v es = es ++ [(k, v)]
  | [], _ => rfl
  | e :: es, h => by
    obtain ⟨he, hes⟩ := List.forall_mem_cons.mp h
    have hne : k ≠ e.1 := fun heq => List.lt_irrefl k (heq ▸ he)
    rw [insertEntry, if_neg (List.lt_asymm he), if_neg hne, insertEntry_of_forall_lt hes]
    rfl

/-- Entries that come in ascending order after all others are put at the end. -/
theorem entries_insertAll_of_ascending : ∀ {es : List (Text × α)} {d : Dict α},
    (d.entries ++ es).Pairwise (fun a b => a.1 < b.1) → (d.insertAll es).entries = d.entries ++ es
  | [], d, _ => (List.append_nil d.entries).symm
  | e :: es, d, h => by
    have hlast : ∀ a ∈ d.entries, a.1 < e.1 := fun a ha =>
      (List.pairwise_append.mp h).2.2 a ha e List.mem_cons_self
    have hinsert : (d.insert e.1 e.2).entries = d.entries ++ [e] := insertEntry_of_forall_lt hlast
    rw [List.append_cons, ← hinsert] at h ⊢
    exact entries_insertAll_of_ascending h

/-- **A dictionary is made of its entries.** -/
theorem ofList_entries (d : Dict α) : ofList d.entries = d := by
  have hentries : (ofList d.entries).entries = d.entries :=
    entries_insertAll_of_ascending (d := empty) d.ascending
  obtain ⟨entries, hascending⟩ := d
  generalize ofList entries = d' at hentries ⊢
  obtain ⟨entries', hascending'⟩ := d'
  obtain rfl : entries' = entries := hentries
  rfl

end Dict
end Stencil
