import Mathlib.Data.List.Induction
import CallBook.OrderedMap

/-!
# The entries of a map after an operation

`OrderedMap` says what its operations do by recursion over the entries. Here the same is said of the
list of entries as a whole, which is how a caller sees it: writing to a key that is there changes
that one entry and no position (`insert_of_mem`), erasing is a filter (`erase_eq_filter`), looking a
key up finds its first entry (`lookup_eq_find?`), and keys that arrive one after the other stand in
first-seen order, each with its last value (`OrderedMap.gathers_ofList`). A whole map inserted into
another is laid over it (`lookup_insertAll`) and touches no entry under any other key
(`filter_insertAll`).
-/

namespace CallBook.Entries

universe u v

variable {α : Type u}

theorem mem_keys_of_mem {p : String × α} {m : List (String × α)} (h : p ∈ m) : p.1 ∈ keys m :=
  List.mem_map_of_mem h

theorem ne_of_mem {p : String × α} {key : String} {m : List (String × α)} (hp : p ∈ m)
    (h : key ∉ keys m) : p.1 ≠ key := by
  rintro rfl
  exact h (mem_keys_of_mem hp)

/-- After an insertion there is the new entry and what was there before. -/
theorem mem_insert {p : String × α} {key : String} {value : α} {m : List (String × α)}
    (h : p ∈ insert key value m) : p = (key, value) ∨ p ∈ m := by
  induction m with
  | nil => exact Or.inl (List.mem_singleton.mp h)
  | cons q m ih =>
    obtain ⟨k, old⟩ := q
    rw [insert] at h
    split at h
    · rcases List.mem_cons.mp h with rfl | h
      · exact Or.inl rfl
      · exact Or.inr (List.mem_cons_of_mem _ h)
    · rcases List.mem_cons.mp h with rfl | h
      · exact Or.inr List.mem_cons_self
      · exact (ih h).imp_right (List.mem_cons_of_mem _)

/-- A key that is there keeps its place and gets the new value. -/
theorem insert_of_mem {key : String} {m : List (String × α)} (hn : (keys m).Nodup)
    (h : key ∈ keys m) (value : α) :
    insert key value m = m.map fun p => if p.1 = key then (key, value) else p := by
  induction m with
  | nil => simp at h
  | cons p m ih =>
    obtain ⟨k, old⟩ := p
    rw [keys_cons, List.nodup_cons] at hn
    by_cases hk : k = key
    · subst hk
      -- the key does not come again, so the map over the others changes nothing
      have hm : (m.map fun p => if p.1 = k then (k, value) else p) = m := by
        rw [List.map_congr_left (g := id), List.map_id]
        intro p hp
        rw [if_neg (ne_of_mem hp hn.1), id]
      simp only [insert, if_true, List.map_cons]
      rw [hm]
    · have hmem : key ∈ keys m := by
        rcases List.mem_cons.mp h with he | hm
        · exact absurd he.symm hk
        · exact hm
      simp only [insert, if_neg hk, List.map_cons]
      rw [ih hn.2 hmem]

/-- The later of two values for a key counts. -/
theorem insert_insert (key : String) (old new : α) (m : List (String × α)) :
    insert key new (insert key old m) = insert key new m := by
  induction m with
  | nil => simp [insert]
  | cons p m ih =>
    obtain ⟨k, first⟩ := p
    by_cases hk : k = key
    · simp [insert, hk]
    · simp [insert, hk, ih]

/-- Giving a key the value that it has changes nothing. -/
theorem insert_of_lookup {key : String} {value : α} {m : List (String × α)}
    (h : lookup key m = some value) : insert key value m = m := by
  induction m with
  | nil => cases h
  | cons p m ih =>
    obtain ⟨k, old⟩ := p
    rw [lookup] at h
    rw [insert]
    by_cases hk : k = key
    · rw [if_pos hk] at h ⊢
      rw [hk, Option.some.inj h]
    · rw [if_neg hk] at h ⊢
      rw [ih h]

/-- Erasing a key leaves the other entries in their order. -/
theorem erase_eq_filter {m : List (String × α)} (hn : (keys m).Nodup) (key : String) :
    erase key m = m.filter fun p => p.1 ≠ key := by
  induction m with
  | nil => rfl
  | cons p m ih =>
    obtain ⟨k, old⟩ := p
    rw [keys_cons, List.nodup_cons] at hn
    by_cases hk : k = key
    · subst hk
      have hm : (m.filter fun p => p.1 ≠ k) = m := by
        rw [List.filter_eq_self]
        intro p hp
        simpa using ne_of_mem hp hn.1
      rw [List.filter_cons_of_neg (by simp), hm]
      simp [erase]
    · rw [List.filter_cons_of_pos (by simpa using hk), ← ih hn.2]
      simp [erase, hk]

theorem lookup_eq_find? (key : String) (m : List (String × α)) :
    lookup key m = (m.find? fun p => p.1 = key).map Prod.snd := by
  induction m with
  | nil => rfl
  | cons p m ih =>
    obtain ⟨k, value⟩ := p
    by_cases hk : k = key
    · simp [lookup, hk]
    · simp [lookup, hk, ih]

/-- Pairs with different keys, inserted after others, are found first. -/
theorem lookup_insertAll {pairs : List (String × α)} (hn : (keys pairs).Nodup) (key : String)
    (m : List (String × α)) :
    lookup key (insertAll m pairs) = (lookup key pairs).or (lookup key m) := by
  induction pairs generalizing m with
  | nil => rfl
  | cons p pairs ih =>
    obtain ⟨k, value⟩ := p
    rw [keys_cons, List.nodup_cons] at hn
    show lookup key (insertAll (insert k value m) pairs) = _
    rw [ih hn.2, lookup_insert, lookup]
    by_cases hk : k = key
    · -- the key does not come again among the later pairs
      subst hk
      rw [if_pos rfl, if_pos rfl, lookup_eq_none_iff.mpr hn.1]
      rfl
    · rw [if_neg hk, if_neg hk]

/-- Each of several pairs with different keys is found. -/
theorem lookup_of_mem {m : List (String × α)} (hn : (keys m).Nodup) {p : String × α}
    (h : p ∈ m) : lookup p.1 m = some p.2 := by
  induction m with
  | nil => cases h
  | cons q m ih =>
    obtain ⟨k, value⟩ := q
    rw [keys_cons, List.nodup_cons] at hn
    rcases List.mem_cons.mp h with rfl | hp
    · rw [lookup, if_pos rfl]
    · rw [lookup, if_neg (ne_of_mem hp hn.1).symm, ih hn.2 hp]

theorem mem_of_lookup {key : String} {value : α} {m : List (String × α)}
    (h : lookup key m = some value) : (key, value) ∈ m := by
  rw [lookup_eq_find?, Option.map_eq_some_iff] at h
  obtain ⟨⟨k, v⟩, hfind, rfl⟩ := h
  obtain rfl : k = key := by simpa using List.find?_some hfind
  exact List.mem_of_find?_eq_some hfind

/-- Where keys are not repeated, what is found is what is there. -/
theorem lookup_eq_some_iff {key : String} {value : α} {m : List (String × α)}
    (hn : (keys m).Nodup) : lookup key m = some value ↔ (key, value) ∈ m :=
  ⟨mem_of_lookup, fun h => lookup_of_mem hn h⟩

/-- Where no key occurs twice, the order does not count. -/
theorem lookup_perm {m n : List (String × α)} (hn : (keys m).Nodup) (h : m.Perm n)
    (key : String) : lookup key m = lookup key n := by
  have hn' : (keys n).Nodup := (h.map Prod.fst).nodup_iff.mp hn
  refine Option.ext fun value => ?_
  rw [lookup_eq_some_iff hn, lookup_eq_some_iff hn', h.mem_iff]

/-- A key that is erased is not found, and every other one is as before. -/
theorem lookup_erase {m : List (String × α)} (hn : (keys m).Nodup) (key other : String) :
    lookup other (erase key m) = if key = other then none else lookup other m := by
  have hn' : (keys (erase key m)).Nodup := (keys_erase_sublist key m).nodup hn
  refine Option.ext fun value => ?_
  rw [lookup_eq_some_iff hn', erase_eq_filter hn, List.mem_filter, decide_eq_true_eq]
  by_cases h : key = other
  · simp [h]
  · rw [if_neg h, lookup_eq_some_iff hn]
    exact and_iff_left (Ne.symm h)

/-- An insertion does not touch the entries that pass a test which its key does not pass. -/
theorem filter_insert {keep : String → Bool} {key : String} (hk : keep key = false) (value : α)
    (m : List (String × α)) :
    (insert key value m).filter (fun p => keep p.1) = m.filter fun p => keep p.1 := by
  induction m with
  | nil => simp [insert, hk]
  | cons p m ih =>
    obtain ⟨k, old⟩ := p
    rw [insert]
    split
    · next he => simp [he, hk]
    · simp only [List.filter_cons, ih]

/-- Insertions under keys that a filter drops are not seen behind it. -/
theorem filter_insertAll (keep : String → Bool) {pairs : List (String × α)}
    (hk : ∀ p ∈ pairs, keep p.1 = false) (m : List (String × α)) :
    (insertAll m pairs).filter (fun p => keep p.1) = m.filter fun p => keep p.1 := by
  induction pairs generalizing m with
  | nil => rfl
  | cons p pairs ih =>
    have hrest := ih (fun q hq => hk q (List.mem_cons_of_mem p hq)) (insert p.1 p.2 m)
    exact hrest.trans (filter_insert (hk p List.mem_cons_self) p.2 m)

/-- An insertion adds one entry at most. -/
theorem length_insert_le (key : String) (value : α) (m : List (String × α)) :
    (insert key value m).length ≤ m.length + 1 := by
  induction m with
  | nil => exact Nat.le_refl _
  | cons p m ih =>
    rw [insert]
    split
    next => exact Nat.le_succ _
    next => exact Nat.succ_le_succ ih

/-- The last insertion is made into what the others have made. -/
theorem insertAll_concat (m pairs : List (String × α)) (p : String × α) :
    insertAll m (pairs ++ [p]) = insert p.1 p.2 (insertAll m pairs) := by
  simp [insertAll]

/-! ### First-seen order -/

section EraseDups

variable {γ : Type} [BEq γ] [LawfulBEq γ]

/-- An element that is there already adds nothing. -/
theorem eraseDups_concat_of_mem {a : γ} {l : List γ} (h : a ∈ l) :
    (l ++ [a]).eraseDups = l.eraseDups := by
  rw [List.eraseDups_append]
  simp [List.removeAll, h]

/-- A new element stands last. -/
theorem eraseDups_concat_of_not_mem {a : γ} {l : List γ} (h : a ∉ l) :
    (l ++ [a]).eraseDups = l.eraseDups ++ [a] := by
  rw [List.eraseDups_append]
  simp [List.removeAll, h, List.eraseDups_cons]

theorem nodup_eraseDups (l : List γ) : l.eraseDups.Nodup := by
  induction l using List.reverseRecOn with
  | nil => exact List.nodup_nil
  | append_singleton l a ih =>
    by_cases ha : a ∈ l
    · rw [eraseDups_concat_of_mem ha]
      exact ih
    · rw [eraseDups_concat_of_not_mem ha]
      refine List.nodup_append.mpr ⟨ih, List.pairwise_singleton _ a, ?_⟩
      rintro b hb c hc rfl
      rw [List.mem_singleton] at hc
      exact ha (hc ▸ List.mem_eraseDups.mp hb)

/-- Leaving elements out and leaving repetitions out may be done in either order. -/
theorem eraseDups_filter (keep : γ → Bool) (l : List γ) :
    (l.filter keep).eraseDups = l.eraseDups.filter keep := by
  induction l using List.reverseRecOn with
  | nil => rfl
  | append_singleton l a ih =>
    rw [List.filter_append]
    by_cases hk : keep a = true
    · have hone : [a].filter keep = [a] := List.filter_cons_of_pos hk
      by_cases ha : a ∈ l
      · rw [hone, eraseDups_concat_of_mem (List.mem_filter.mpr ⟨ha, hk⟩),
          eraseDups_concat_of_mem ha, ih]
      · rw [hone, eraseDups_concat_of_not_mem fun h => ha (List.mem_filter.mp h).1,
          eraseDups_concat_of_not_mem ha, List.filter_append, hone, ih]
    · have hnone : [a].filter keep = [] := List.filter_cons_of_neg hk
      rw [hnone, List.append_nil, ih]
      by_cases ha : a ∈ l
      · rw [eraseDups_concat_of_mem ha]
      · rw [eraseDups_concat_of_not_mem ha, List.filter_append, hnone, List.append_nil]

end EraseDups

/-- Keys that arrive one after the other stand in first-seen order. -/
theorem keys_insertAll_nil (pairs : List (String × α)) :
    keys (insertAll [] pairs) = (keys pairs).eraseDups := by
  induction pairs using List.reverseRecOn with
  | nil => rfl
  | append_singleton pairs p ih =>
    have hk : keys (pairs ++ [p]) = keys pairs ++ [p.1] := by simp [keys]
    rw [insertAll_concat, hk]
    by_cases hp : p.1 ∈ keys pairs
    · have hmem : p.1 ∈ keys (insertAll [] pairs) := by rw [ih, List.mem_eraseDups]; exact hp
      rw [keys_insert_of_mem hmem, ih, eraseDups_concat_of_mem hp]
    · have hmem : p.1 ∉ keys (insertAll [] pairs) := by rw [ih, List.mem_eraseDups]; exact hp
      rw [keys_insert_of_not_mem hmem, ih, eraseDups_concat_of_not_mem hp]

/-- What arrives last under a key is what the key has. -/
theorem lookup_insertAll_nil (key : String) (pairs : List (String × α)) :
    lookup key (insertAll [] pairs) = lookup key pairs.reverse := by
  induction pairs using List.reverseRecOn with
  | nil => rfl
  | append_singleton pairs p ih =>
    rw [insertAll_concat, lookup_insert, ih, List.reverse_append, List.reverse_singleton,
      List.singleton_append, lookup]

/-- Values may be sent through a function before or after they are inserted. -/
theorem map_insert {β : Type v} (f : α → β) (key : String) (value : α) (m : List (String × α)) :
    (insert key value m).map (fun p => (p.1, f p.2))
      = insert key (f value) (m.map fun p => (p.1, f p.2)) := by
  induction m with
  | nil => rfl
  | cons p m ih =>
    obtain ⟨k, old⟩ := p
    simp only [insert, List.map_cons]
    split
    · rfl
    · rw [List.map_cons, ih]

/-- Changing the values commutes with insertions. -/
theorem map_insertAll {β : Type v} (f : α → β) (m pairs : List (String × α)) :
    (insertAll m pairs).map (fun p => (p.1, f p.2))
      = insertAll (m.map fun p => (p.1, f p.2)) (pairs.map fun p => (p.1, f p.2)) := by
  induction pairs generalizing m with
  | nil => rfl
  | cons p pairs ih =>
    have hrest := ih (insert p.1 p.2 m)
    rw [map_insert] at hrest
    exact hrest

end CallBook.Entries

namespace CallBook.OrderedMap

universe u v

variable {α : Type u}

/-- A map contains a name exactly if it is one of its keys. -/
theorem contains_eq_mem (m : OrderedMap α) (name : String) :
    m.contains name = decide (name ∈ Entries.keys m.entries) := by
  rw [OrderedMap.contains, OrderedMap.get?]
  by_cases h : name ∈ Entries.keys m.entries
  · have hsome : Entries.lookup name m.entries ≠ none := fun e =>
      absurd h (Entries.lookup_eq_none_iff.mp e)
    rw [Option.isSome_iff_ne_none.mpr hsome, decide_eq_true h]
  · rw [Entries.lookup_eq_none_iff.mpr h, decide_eq_false h]
    rfl

theorem mem_keys_of_get? {m : OrderedMap α} {key : String} {value : α}
    (h : m.get? key = some value) : key ∈ m.keys := by
  by_contra hnot
  rw [OrderedMap.get?, Entries.lookup_eq_none_iff.mpr hnot] at h
  cases h

/-- What is found in a map with changed values is what was found, changed. -/
theorem get?_map {β : Type v} (m : OrderedMap α) (f : α → β) (key : String) :
    (m.map f).get? key = (m.get? key).map f := by
  show Entries.lookup key (m.entries.map fun p => (p.1, f p.2))
    = (Entries.lookup key m.entries).map f
  induction m.entries with
  | nil => rfl
  | cons p entries ih =>
    rw [List.map_cons, Entries.lookup, Entries.lookup, ih]
    split <;> rfl

/-- Removing a key touches no other, wherever their entries stand afterwards. -/
theorem get?_swapErase (m : OrderedMap α) (key other : String) :
    (m.swapErase key).get? other = if key = other then none else m.get? other := by
  show Entries.lookup other (Entries.swapErase key m.entries) = _
  rw [Entries.lookup_perm (Entries.nodup_keys_swapErase m.nodup key)
    (Entries.swapErase_perm key m.entries)]
  exact Entries.lookup_erase m.nodup key other

/-- Writing to a key changes nothing exactly if it has that value. -/
theorem insert_eq_self_iff {m : OrderedMap α} {key : String} {value : α} :
    m.insert key value = m ↔ m.get? key = some value := by
  constructor
  · intro h
    rw [← h, get?_insert, if_pos rfl]
  · intro h
    exact ext (Entries.insert_of_lookup h)

theorem length_keys (m : OrderedMap α) : m.keys.length = m.size := List.length_map _

/-- Values inserted one after the other, each under its own key. -/
theorem entries_foldl_insert {β : Type v} (key : β → String) (value : β → α) (l : List β)
    (start : OrderedMap α) :
    (l.foldl (fun m b => m.insert (key b) (value b)) start).entries
      = Entries.insertAll start.entries (l.map fun b => (key b, value b)) := by
  induction l generalizing start with
  | nil => rfl
  | cons b l ih => exact ih (start.insert (key b) (value b))

/-- The map of a list of pairs is made by inserting one after another. -/
theorem foldl_insert_empty (pairs : List (String × α)) :
    pairs.foldl (fun m p => m.insert p.1 p.2) .empty = ofList pairs := by
  refine ext ?_
  rw [entries_foldl_insert, List.map_id']
  rfl

/-- The map is what pairs come to that arrive one after the other: every key is there once, in the
order in which the keys came first, and has the value that came last. -/
structure Gathers (m : OrderedMap α) (pairs : List (String × α)) : Prop where
  keys : m.keys = (pairs.map Prod.fst).eraseDups
  last : ∀ key, m.get? key = Entries.lookup key pairs.reverse

/-- The map of a list of pairs has each name at its first place with its last value. -/
theorem gathers_ofList (pairs : List (String × α)) : (ofList pairs).Gathers pairs where
  keys := Entries.keys_insertAll_nil pairs
  last key := Entries.lookup_insertAll_nil key pairs

theorem size_ofList_le (pairs : List (String × α)) : (ofList pairs).size ≤ pairs.length := by
  induction pairs using List.reverseRecOn with
  | nil => exact Nat.le_refl _
  | append_singleton pairs p ih =>
    rw [size, entries_ofList, Entries.insertAll_concat, List.length_append, List.length_singleton]
    exact Nat.le_trans (Entries.length_insert_le p.1 p.2 _) (Nat.succ_le_succ ih)

/-- Only from no pairs an empty map is made. -/
theorem ofList_eq_empty_iff {pairs : List (String × α)} : ofList pairs = .empty ↔ pairs = [] := by
  constructor
  · intro h
    cases pairs with
    | nil => rfl
    | cons p pairs =>
      have hkeys := (gathers_ofList (p :: pairs)).keys
      rw [h, List.map_cons, List.eraseDups_cons] at hkeys
      cases hkeys
  · rintro rfl
    rfl

theorem map_ofList {β : Type v} (f : α → β) (pairs : List (String × α)) :
    (ofList pairs).map f = ofList (pairs.map fun p => (p.1, f p.2)) :=
  ext (Entries.map_insertAll f [] pairs)

/-- The entries of `m` laid over those of `n`: what `m` says of a key counts, else what `n` says. -/
def laidOver (m n : OrderedMap α) : OrderedMap α :=
  ⟨Entries.insertAll n.entries m.entries, Entries.nodup_keys_insertAll n.nodup m.entries⟩

/-- A map that is laid over another is asked first. -/
theorem get?_laidOver (m n : OrderedMap α) (key : String) :
    (m.laidOver n).get? key = (m.get? key).or (n.get? key) :=
  Entries.lookup_insertAll m.nodup key n.entries

end CallBook.OrderedMap
