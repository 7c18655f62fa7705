/-!
# Maps in insertion order

Headers, bodies, variables and collections of saved calls are maps from texts to values that keep
the order in which their keys first arrived. Writing to a key that is there replaces its value in
place; a new key goes last; erasing leaves the order of the others alone.

The operations are first given on plain lists of pairs (`Entries`), where JSON objects use them
too. `OrderedMap` is such a list together with the fact that no key occurs twice, so that a map is
determined by its entries (`ext`) and every operation is pinned down by what it does to them.
-/

namespace CallBook

universe u v

/-! ## Lists of pairs -/

namespace Entries

variable {α : Type u} {β : Type v}

/-- The value of the first pair with this key. -/
def lookup (key : String) : List (String × α) → Option α
  | [] => none
  | (k, value) :: more => if k = key then some value else lookup key more

/-- Gives `key` a value: in place where the key is, else at the end. -/
def insert (key : String) (value : α) : List (String × α) → List (String × α)
  | [] => [(key, value)]
  | (k, old) :: more => if k = key then (key, value) :: more else (k, old) :: insert key value more

/-- The list without its first pair with this key. -/
def erase (key : String) : List (String × α) → List (String × α)
  | [] => []
  | (k, value) :: more => if k = key then more else (k, value) :: erase key more

/-- The list without its first pair with this key, whose place the last pair takes. -/
def swapErase (key : String) : List (String × α) → List (String × α)
  | [] => []
  | (k, value) :: more =>
    if k = key then
      match more.getLast? with
      | none => []
      | some last => last :: more.dropLast
    else (k, value) :: swapErase key more

/-- The keys in order. -/
def keys (entries : List (String × α)) : List String := entries.map Prod.fst

/-- The pairs inserted from left to right after `entries`. -/
def insertAll (entries pairs : List (String × α)) : List (String × α) :=
  pairs.foldl (fun m p => insert p.1 p.2 m) entries

@[simp] theorem keys_nil : keys ([] : List (String × α)) = [] := rfl

@[simp] theorem keys_cons (p : String × α) (m : List (String × α)) :
    keys (p :: m) = p.1 :: keys m := rfl

/-- A key is not found exactly if it is not among the keys. -/
theorem lookup_eq_none_iff {key : String} {m : List (String × α)} :
    lookup key m = none ↔ key ∉ keys m := by
  induction m with
  | nil => simp [lookup]
  | cons p m ih =>
    obtain ⟨k, v⟩ := p
    by_cases h : k = key
    · simp [lookup, h]
    · simp [lookup, h, ih, Ne.symm h]

/-- What was inserted is found, and every other key is as before. -/
theorem lookup_insert (key other : String) (value : α) (m : List (String × α)) :
    lookup other (insert key value m) = if key = other then some value else lookup other m := by
  induction m with
  | nil => simp [insert, lookup]
  | cons p m ih =>
    obtain ⟨k, v⟩ := p
    by_cases h : k = key
    · subst h
      by_cases h' : k = other <;> simp [insert, lookup, h']
    · by_cases h' : k = other
      · subst h'
        simp [insert, lookup, h, Ne.symm h]
      · simp [insert, lookup, h, h', ih]

/-- A key that is there keeps its place. -/
theorem keys_insert_of_mem {key : String} {m : List (String × α)} (h : key ∈ keys m) (value : α) :
    keys (insert key value m) = keys m := by
  induction m with
  | nil => simp at h
  | cons p m ih =>
    obtain ⟨k, v⟩ := p
    by_cases hk : k = key
    · simp [insert, hk]
    · have : key ∈ keys m := by simpa [Ne.symm hk] using h
      simp [insert, hk, ih this]

/-- A new key goes to the end. -/
theorem insert_of_not_mem {key : String} {m : List (String × α)} (h : key ∉ keys m) (value : α) :
    insert key value m = m ++ [(key, value)] := by
  induction m with
  | nil => rfl
  | cons p m ih =>
    obtain ⟨k, v⟩ := p
    have hk : k ≠ key := fun e => h (by simp [e])
    have hm : key ∉ keys m := fun e => h (by simp [e])
    simp [insert, hk, ih hm]

theorem keys_insert_of_not_mem {key : String} {m : List (String × α)} (h : key ∉ keys m)
    (value : α) : keys (insert key value m) = keys m ++ [key] := by
  simp [insert_of_not_mem h, keys]

theorem mem_keys_insert {key other : String} {value : α} {m : List (String × α)} :
    other ∈ keys (insert key value m) ↔ other = key ∨ other ∈ keys m := by
  by_cases h : key ∈ keys m
  · rw [keys_insert_of_mem h]
    constructor
    · exact Or.inr
    · rintro (rfl | h') <;> assumption
  · rw [keys_insert_of_not_mem h]
    simp [or_comm]

/-- An insertion repeats no key. -/
theorem nodup_keys_insert {m : List (String × α)} (h : (keys m).Nodup) (key : String) (value : α) :
    (keys (insert key value m)).Nodup := by
  by_cases hk : key ∈ keys m
  · rwa [keys_insert_of_mem hk]
  · rw [keys_insert_of_not_mem hk]
    refine List.nodup_append.2 ⟨h, by simp, ?_⟩
    intro a ha b hb
    simp only [List.mem_singleton] at hb
    rintro rfl
    exact hk (hb ▸ ha)

theorem nodup_keys_insertAll {m : List (String × α)} (h : (keys m).Nodup)
    (pairs : List (String × α)) : (keys (insertAll m pairs)).Nodup := by
  induction pairs generalizing m with
  | nil => exact h
  | cons p pairs ih => exact ih (nodup_keys_insert h p.1 p.2)

/-- The keys that are left stay in their order. -/
theorem keys_erase_sublist (key : String) (m : List (String × α)) :
    (keys (erase key m)).Sublist (keys m) := by
  induction m with
  | nil => simp [erase]
  | cons p m ih =>
    obtain ⟨k, v⟩ := p
    by_cases h : k = key
    · simp [erase, h]
    · simpa [erase, h] using ih

/-- Only the order tells whether the last pair took the place of the one that was erased. -/
theorem swapErase_perm (key : String) (m : List (String × α)) :
    (swapErase key m).Perm (erase key m) := by
  induction m with
  | nil => exact .refl _
  | cons p m ih =>
    obtain ⟨k, v⟩ := p
    rw [swapErase, erase]
    split
    · rcases List.eq_nil_or_concat m with rfl | ⟨front, last, rfl⟩
      · exact .refl _
      · rw [List.concat_eq_append, List.getLast?_concat, List.dropLast_concat]
        exact (List.perm_append_singleton last front).symm
    · exact ih.cons _

theorem nodup_keys_swapErase {m : List (String × α)} (h : (keys m).Nodup) (key : String) :
    (keys (swapErase key m)).Nodup :=
  ((swapErase_perm key m).map Prod.fst).nodup_iff.mpr ((keys_erase_sublist key m).nodup h)

/-- Insertions under new and different keys are put at the end as they come. -/
theorem insertAll_of_nodup {m pairs : List (String × α)} (h : (keys (m ++ pairs)).Nodup) :
    insertAll m pairs = m ++ pairs := by
  induction pairs generalizing m with
  | nil => simp [insertAll]
  | cons p pairs ih =>
    have hp : p.1 ∉ keys m := by
      intro hm
      have := (List.nodup_append.1 (by simpa [keys] using h)).2.2 p.1 (by simpa [keys] using hm) p.1
        (by simp)
      exact this rfl
    have : insertAll m (p :: pairs) = insertAll (m ++ [p]) pairs := by
      simp [insertAll, insert_of_not_mem hp]
    rw [this, ih (by simpa using h)]
    simp

end Entries

/-! ## Maps -/

/-- A map from texts that keeps the order in which its keys first arrived. -/
structure OrderedMap (α : Type u) where
  /-- The pairs in order. -/
  entries : List (String × α)
  /-- No key occurs twice. -/
  nodup : (Entries.keys entries).Nodup

namespace OrderedMap

variable {α : Type u} {β : Type v}

@[ext] theorem ext {m n : OrderedMap α} (h : m.entries = n.entries) : m = n := by
  cases m; cases n; simp_all

instance [DecidableEq α] : DecidableEq (OrderedMap α) := fun m n =>
  decidable_of_iff (m.entries = n.entries) ⟨ext, fun h => h ▸ rfl⟩

/-- The map without entries. -/
def empty : OrderedMap α := ⟨[], by simp⟩

instance : Inhabited (OrderedMap α) := ⟨empty⟩

/-- The keys in order. -/
def keys (m : OrderedMap α) : List String := Entries.keys m.entries

/-- The values in the order of their keys. -/
def values (m : OrderedMap α) : List α := m.entries.map Prod.snd

/-- How many keys there are. -/
def size (m : OrderedMap α) : Nat := m.entries.length

/-- No key at all. -/
def isEmpty (m : OrderedMap α) : Bool := m.entries.isEmpty

/-- The value of a key. -/
def get? (m : OrderedMap α) (key : String) : Option α := Entries.lookup key m.entries

/-- The key has a value. -/
def contains (m : OrderedMap α) (key : String) : Bool := (m.get? key).isSome

/-- Gives `key` a value: in place where the key is, else at the end. -/
def insert (m : OrderedMap α) (key : String) (value : α) : OrderedMap α :=
  ⟨Entries.insert key value m.entries, Entries.nodup_keys_insert m.nodup key value⟩

/-- The map without `key`. -/
def erase (m : OrderedMap α) (key : String) : OrderedMap α :=
  ⟨Entries.erase key m.entries, (Entries.keys_erase_sublist key m.entries).nodup m.nodup⟩

/-- The map without `key`, in whose place the last entry stands. -/
def swapErase (m : OrderedMap α) (key : String) : OrderedMap α :=
  ⟨Entries.swapErase key m.entries, Entries.nodup_keys_swapErase m.nodup key⟩

/-- One more value for a key goes behind those it has. -/
def push (m : OrderedMap (List β)) (key : String) (value : β) : OrderedMap (List β) :=
  m.insert key ((m.get? key).getD [] ++ [value])

/-- The map that arises by inserting pairs from left to right. -/
def ofList (pairs : List (String × α)) : OrderedMap α :=
  ⟨Entries.insertAll [] pairs, Entries.nodup_keys_insertAll (by simp) pairs⟩

/-- The entries that pass a test, in order. -/
def filter (m : OrderedMap α) (keep : String × α → Bool) : OrderedMap α :=
  ⟨m.entries.filter keep, (List.filter_sublist.map Prod.fst).nodup m.nodup⟩

/-- The same keys with their values sent through `f`. -/
def map (m : OrderedMap α) (f : α → β) : OrderedMap β :=
  ⟨m.entries.map fun p => (p.1, f p.2), by simpa [Entries.keys, Function.comp_def] using m.nodup⟩

@[simp] theorem entries_insert (m : OrderedMap α) (key : String) (value : α) :
    (m.insert key value).entries = Entries.insert key value m.entries := rfl

@[simp] theorem entries_erase (m : OrderedMap α) (key : String) :
    (m.erase key).entries = Entries.erase key m.entries := rfl

@[simp] theorem entries_ofList (pairs : List (String × α)) :
    (ofList pairs).entries = Entries.insertAll [] pairs := rfl

/-- What was inserted is found, and every other key is as before. -/
theorem get?_insert (m : OrderedMap α) (key other : String) (value : α) :
    (m.insert key value).get? other = if key = other then some value else m.get? other :=
  Entries.lookup_insert key other value m.entries

@[simp] theorem map_id (m : OrderedMap α) : m.map id = m := ext (by simp [map])

/-- A map is made again from its entries. -/
theorem ofList_entries (m : OrderedMap α) : ofList m.entries = m :=
  ext (by simpa using Entries.insertAll_of_nodup (m := []) (by simpa using m.nodup))

end OrderedMap

end CallBook
