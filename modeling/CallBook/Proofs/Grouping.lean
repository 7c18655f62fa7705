import Mathlib.Algebra.GroupWithZero.Nat
import Mathlib.Data.List.Perm.Basic
import CallBook.Proofs.OrderedMap

/-!
# Values collected under keys

Some maps hold lists: what arrives under a key goes behind what arrived there before. `collected`
says what such a map comes to without following its steps: each key once, in the order in which the
keys first arrive, with all that arrived under it, in order. One arrival keeps that description
(`entries_push_collected`), so every run of arrivals ends in it (`entries_pushAll`).

Nothing is lost on the way and nothing is counted twice: the groups side by side are a
rearrangement of what arrived (`flatMap_group_perm`). If they arrive in that arrangement, one whole
group after the other, the map is the same (`pushAll_flatMap_group`).
-/

namespace CallBook.Entries

variable {α β : Type}

/-- What arrived under a key, in order. -/
def group (key : α → String) (k : String) (l : List α) : List α := l.filter fun a => key a = k

/-- The keys in the order in which they first arrive, each with its values in order. -/
def collected (key : α → String) (value : α → β) (l : List α) : List (String × List β) :=
  (l.map key).eraseDups.map fun k => (k, (group key k l).map value)

variable {key : α → String} {value : α → β}

/-! ## Groups -/

/-- A group has the members with its key. -/
theorem mem_group {k : String} {l : List α} {a : α} : a ∈ group key k l ↔ a ∈ l ∧ key a = k := by
  rw [group, List.mem_filter, decide_eq_true_eq]

/-- A new member goes to the end of its group. -/
theorem group_concat_self (l : List α) (a : α) :
    group key (key a) (l ++ [a]) = group key (key a) l ++ [a] := by
  simp [group]

/-- A new member changes no other group. -/
theorem group_concat_of_ne {k : String} {a : α} (h : k ≠ key a) (l : List α) :
    group key k (l ++ [a]) = group key k l := by
  simp [group, Ne.symm h]

theorem group_eq_nil_iff {k : String} {l : List α} : group key k l = [] ↔ k ∉ l.map key := by
  rw [List.eq_nil_iff_forall_not_mem, List.mem_map, not_exists]
  exact forall_congr' fun a => not_congr mem_group

/-- Groups of different keys, of which every element has one, are all that there is. -/
theorem flatMap_group_perm_of_nodup {ks : List String} (hn : ks.Nodup) {l : List α}
    (h : ∀ a ∈ l, key a ∈ ks) : (ks.flatMap fun k => group key k l).Perm l := by
  induction ks generalizing l with
  | nil =>
    cases l with
    | nil => exact List.Perm.refl _
    | cons a l => exact absurd (h a List.mem_cons_self) List.not_mem_nil
  | cons k ks ih =>
    rw [List.nodup_cons] at hn
    -- the later groups do not miss what the first group takes
    have hrest : (ks.flatMap fun j => group key j l)
        = ks.flatMap fun j => group key j (l.filter fun a => !decide (key a = k)) := by
      refine List.flatMap_congr fun j hj => ?_
      rw [group, group, List.filter_filter]
      refine List.filter_congr fun a _ => ?_
      by_cases ha : key a = j
      · have hne : j ≠ k := fun he => hn.1 (he ▸ hj)
        simp [ha, hne]
      · simp [ha]
    have hothers : ∀ a ∈ l.filter (fun a => !decide (key a = k)), key a ∈ ks := by
      intro a ha
      rw [List.mem_filter, Bool.not_eq_true', decide_eq_false_iff_not] at ha
      exact (List.mem_cons.mp (h a ha.1)).resolve_left ha.2
    rw [List.flatMap_cons, hrest]
    exact ((ih hn.2 hothers).append_left _).trans (List.filter_append_perm _ l)

/-- The groups side by side are what arrived, rearranged. -/
theorem flatMap_group_perm (key : α → String) (l : List α) :
    ((l.map key).eraseDups.flatMap fun k => group key k l).Perm l :=
  flatMap_group_perm_of_nodup (nodup_eraseDups _) fun _ ha =>
    List.mem_eraseDups.mpr (List.mem_map_of_mem ha)

/-! ## Collected values -/

/-- The groups stand in the order in which their keys come first. -/
theorem keys_collected (l : List α) : keys (collected key value l) = (l.map key).eraseDups := by
  simp [keys, collected, Function.comp_def]

theorem nodup_keys_collected (l : List α) : (keys (collected key value l)).Nodup := by
  rw [keys_collected]
  exact nodup_eraseDups _

theorem mem_keys_collected {k : String} {l : List α} :
    k ∈ keys (collected key value l) ↔ k ∈ l.map key := by
  rw [keys_collected, List.mem_eraseDups]

/-- A key that has come is found with the values of its group. -/
theorem lookup_collected_of_mem {k : String} {l : List α} (h : k ∈ l.map key) :
    lookup k (collected key value l) = some ((group key k l).map value) := by
  have hmem : (k, (group key k l).map value) ∈ collected key value l :=
    List.mem_map_of_mem (List.mem_eraseDups.mpr h)
  exact lookup_of_mem (nodup_keys_collected l) hmem

/-- A key that has not come is not found. -/
theorem lookup_collected_of_not_mem {k : String} {l : List α} (h : k ∉ l.map key) :
    lookup k (collected key value l) = none :=
  lookup_eq_none_iff.mpr (mt mem_keys_collected.mp h)

/-- There are as many values as arrived. -/
theorem sum_length_collected (l : List α) :
    ((collected key value l).map fun p => p.2.length).sum = l.length := by
  rw [← (flatMap_group_perm key l).length_eq, List.length_flatMap, collected, List.map_map]
  simp [Function.comp_def]

end CallBook.Entries

namespace CallBook.OrderedMap

open Entries (group collected)

variable {α β : Type} {key : α → String} {value : α → β}

/-- Values that arrive one after the other. -/
def pushAll (key : α → String) (value : α → β) (m : OrderedMap (List β)) (l : List α) :
    OrderedMap (List β) :=
  l.foldl (fun m a => m.push (key a) (value a)) m

/-- Values may be put in two batches. -/
theorem pushAll_append (m : OrderedMap (List β)) (l l' : List α) :
    pushAll key value m (l ++ l') = pushAll key value (pushAll key value m l) l' :=
  List.foldl_append

/-! ## One by one -/

/-- One arrival after others. -/
theorem entries_push_collected {m : OrderedMap (List β)} {l : List α}
    (h : m.entries = collected key value l) (a : α) :
    (m.push (key a) (value a)).entries = collected key value (l ++ [a]) := by
  have hothers : ∀ k, k ≠ key a →
      (k, (group key k (l ++ [a])).map value) = (k, (group key k l).map value) := by
    intro k hk
    rw [Entries.group_concat_of_ne hk]
  have hself : (group key (key a) (l ++ [a])).map value
      = (group key (key a) l).map value ++ [value a] := by
    rw [Entries.group_concat_self, List.map_append, List.map_singleton]
  rw [push, entries_insert, get?, h]
  by_cases ha : key a ∈ l.map key
  · -- the key keeps its place
    rw [Entries.lookup_collected_of_mem ha, Option.getD_some, ← hself,
      Entries.insert_of_mem (Entries.nodup_keys_collected l) (Entries.mem_keys_collected.mpr ha),
      collected, collected, List.map_append, List.map_singleton,
      Entries.eraseDups_concat_of_mem ha, List.map_map]
    refine List.map_congr_left fun k _ => ?_
    show (if k = key a then _ else _) = _
    by_cases hk : k = key a
    · rw [if_pos hk, hk]
    · rw [if_neg hk, hothers k hk]
  · -- the key is new and goes last
    have hlast : (collected key value l) = (l.map key).eraseDups.map fun k =>
        (k, (group key k (l ++ [a])).map value) := by
      refine List.map_congr_left fun k hk => (hothers k ?_).symm
      rintro rfl
      exact ha (List.mem_eraseDups.mp hk)
    rw [Entries.lookup_collected_of_not_mem ha, Option.getD_none,
      Entries.insert_of_not_mem (mt Entries.mem_keys_collected.mp ha), hlast, collected,
      List.map_append, List.map_singleton, Entries.eraseDups_concat_of_not_mem ha,
      List.map_append, List.map_singleton, hself, Entries.group_eq_nil_iff.mpr ha, List.map_nil]

/-- Values that arrive one after the other are collected under their keys. -/
theorem entries_pushAll (key : α → String) (value : α → β) (l : List α) :
    (pushAll key value .empty l).entries = collected key value l := by
  induction l using List.reverseRecOn with
  | nil => rfl
  | append_singleton l a ih =>
    rw [pushAll_append]
    exact entries_push_collected ih a

/-! ## Group by group -/

/-- Of two insertions under one key the second counts. -/
theorem insert_insert (m : OrderedMap α) (k : String) (a b : α) :
    (m.insert k a).insert k b = m.insert k b :=
  ext (Entries.insert_insert k a b m.entries)

/-- A whole group arrives as one value would. -/
theorem pushAll_of_forall {k : String} {l : List α} (hk : ∀ a ∈ l, key a = k) (hne : l ≠ [])
    (m : OrderedMap (List β)) :
    pushAll key value m l = m.insert k ((m.get? k).getD [] ++ l.map value) := by
  induction l using List.reverseRecOn with
  | nil => exact absurd rfl hne
  | append_singleton l a ih =>
    have ha : key a = k := hk a List.mem_concat_self
    rw [pushAll_append]
    show (pushAll key value m l).push (key a) (value a) = _
    rw [ha]
    by_cases hl : l = []
    · subst hl
      rfl
    · rw [ih (fun b hb => hk b (List.mem_append_left _ hb)) hl, push, get?_insert, if_pos rfl,
        insert_insert, Option.getD_some, List.map_append, List.map_singleton, List.append_assoc]

/-- Whole groups of new keys go behind what is there. -/
theorem entries_pushAll_flatMap {groups : List (String × List α)}
    (hgroups : ∀ p ∈ groups, p.2 ≠ [] ∧ ∀ a ∈ p.2, key a = p.1) {m : OrderedMap (List β)}
    (hn : (Entries.keys m.entries ++ Entries.keys groups).Nodup) :
    (pushAll key value m (groups.flatMap Prod.snd)).entries
      = m.entries ++ groups.map fun p => (p.1, p.2.map value) := by
  induction groups generalizing m with
  | nil => exact (List.append_nil _).symm
  | cons p groups ih =>
    obtain ⟨k, l⟩ := p
    rw [List.forall_mem_cons] at hgroups
    obtain ⟨⟨hne, hkey⟩, hgroups⟩ := hgroups
    have hnew : k ∉ Entries.keys m.entries := fun h =>
      (List.nodup_append.mp hn).2.2 k h k List.mem_cons_self rfl
    have hnone : m.get? k = none := Entries.lookup_eq_none_iff.mpr hnew
    have hentries : (m.insert k (l.map value)).entries = m.entries ++ [(k, l.map value)] :=
      Entries.insert_of_not_mem hnew _
    rw [List.flatMap_cons, pushAll_append, pushAll_of_forall hkey hne, hnone, Option.getD_none,
      List.nil_append, ih hgroups, hentries, List.map_cons, List.append_assoc,
      List.singleton_append]
    rw [hentries]
    simpa [Entries.keys] using hn

/-- One whole group after the other comes to the same map. -/
theorem pushAll_flatMap_group (key : α → String) (value : α → β) (l : List α) :
    pushAll key value .empty ((l.map key).eraseDups.flatMap fun k => group key k l)
      = pushAll key value .empty l := by
  have hgroups : ∀ p ∈ (l.map key).eraseDups.map (fun k => (k, group key k l)),
      p.2 ≠ [] ∧ ∀ a ∈ p.2, key a = p.1 := by
    intro p hp
    obtain ⟨k, hk, rfl⟩ := List.mem_map.mp hp
    exact ⟨fun h => Entries.group_eq_nil_iff.mp h (List.mem_eraseDups.mp hk),
      fun a ha => (Entries.mem_group.mp ha).2⟩
  have hkeys : Entries.keys ((l.map key).eraseDups.map fun k => (k, group key k l))
      = (l.map key).eraseDups := by
    simp [Entries.keys, Function.comp_def]
  have hn : (Entries.keys (empty : OrderedMap (List β)).entries
      ++ Entries.keys ((l.map key).eraseDups.map fun k => (k, group key k l))).Nodup := by
    rw [hkeys]
    exact Entries.nodup_eraseDups _
  refine ext ?_
  have hall := @entries_pushAll_flatMap α β key value _ hgroups .empty hn
  rw [List.flatMap_map, List.map_map] at hall
  exact hall.trans (entries_pushAll key value l).symm

end CallBook.OrderedMap
