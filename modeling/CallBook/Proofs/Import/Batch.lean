import Mathlib.Data.List.Nodup
import Mathlib.Data.List.Perm.Subperm
import CallBook.Import.Batch
import CallBook.Proofs.OrderedMap

/-!
# No two calls of a batch share a name

While a batch is gone through, the names that were asked for are counted. Among one more number
than there are names, one makes a name that is free (`freeNumber_not_mem`), and the search for it
says what happens to one call (`distinctFrom_cases`). The names that have a count are the names
given out so far, in order (`distinctFrom_cons`), so that a name that has none is free. So the names
given out are different from each other and from those counted before (`nodup_distinctFrom`), and
nothing but names is changed (`forall₂_distinctFrom`).
-/

namespace CallBook.Import

/-! ## Free numbers -/

/-- Different numbers make different names. -/
theorem numbered_injective (name : String) : Function.Injective (numbered name) := by
  intro a b h
  have hchars := congrArg String.toList h
  simp only [numbered, String.toList_append, Nat.toString_eq_ofList_toDigits,
    String.toList_ofList] at hchars
  have hdigits : Nat.toDigits 10 a = Nat.toDigits 10 b := List.append_cancel_left hchars
  rw [← Nat.ofDigitChars_ten_toDigits (n := a), hdigits, Nat.ofDigitChars_ten_toDigits]

/-- Every number that was passed over makes a name that is taken; the number that was found makes
one that is not, unless the tries ran out. -/
theorem freeNumber_cases (taken : List String) (name : String) (n tries : Nat) :
    n ≤ freeNumber taken name n tries ∧
      (∀ k, n ≤ k → k < freeNumber taken name n tries → numbered name k ∈ taken) ∧
      (numbered name (freeNumber taken name n tries) ∉ taken ∨
        freeNumber taken name n tries = n + tries) := by
  induction tries generalizing n with
  | zero =>
    refine ⟨Nat.le_refl n, ?_, Or.inr rfl⟩
    intro k hlow hhigh
    exact absurd hhigh (Nat.not_lt.mpr hlow)
  | succ tries ih =>
    rw [freeNumber]
    split
    · next htaken =>
      obtain ⟨hle, hpassed, hfound⟩ := ih (n + 1)
      refine ⟨Nat.le_of_succ_le hle, ?_, hfound.imp_right fun h => by omega⟩
      intro k hlow hhigh
      rcases Nat.eq_or_lt_of_le hlow with rfl | hlt
      · exact List.contains_iff_mem.mp htaken
      · exact hpassed k hlt hhigh
    · next hfree =>
      refine ⟨Nat.le_refl n, ?_, Or.inl fun h => hfree (List.contains_iff_mem.mpr h)⟩
      intro k hlow hhigh
      exact absurd hhigh (Nat.not_lt.mpr hlow)

/-- One more number than there are names cannot all make names that are taken. -/
theorem freeNumber_not_mem {taken : List String} {tries : Nat} (h : taken.length ≤ tries)
    (name : String) (n : Nat) : numbered name (freeNumber taken name n tries) ∉ taken := by
  intro hmem
  obtain ⟨-, hpassed, hfound⟩ := freeNumber_cases taken name n tries
  have hlast : freeNumber taken name n tries = n + tries := hfound.resolve_left fun h => h hmem
  rw [hlast] at hpassed hmem
  have hsubset : (List.range' n (tries + 1)).map (numbered name) ⊆ taken := by
    intro t ht
    obtain ⟨k, hk, rfl⟩ := List.mem_map.mp ht
    rw [List.mem_range'_1] at hk
    rcases Nat.eq_or_lt_of_le (show k ≤ n + tries by omega) with rfl | hlt
    · exact hmem
    · exact hpassed k hk.1 hlt
  have hnodup : ((List.range' n (tries + 1)).map (numbered name)).Nodup :=
    (List.nodup_range' 1).map (numbered_injective name)
  have hlength := (List.subperm_of_subset hnodup hsubset).length_le
  rw [List.length_map, List.length_range'] at hlength
  omega

/-! ## Names that are given out -/

/-- A name that has a count was asked for. -/
def Counts (seen : OrderedMap Nat) : Prop := ∀ name, seen.get? name ≠ some 0

theorem counts_empty : Counts .empty := by
  intro name h
  cases h

/-- Counting a name keeps the counts positive. -/
theorem Counts.insert {seen : OrderedMap Nat} (h : Counts seen) (name : String) {count : Nat}
    (hc : count ≠ 0) : Counts (seen.insert name count) := by
  intro other
  rw [OrderedMap.get?_insert]
  split
  · exact fun he => hc (Option.some.inj he)
  · exact h other

/-- A name that is counted for the first time was not there. -/
theorem not_mem_of_count_eq_one {seen : OrderedMap Nat} (h : Counts seen) {name : String}
    (hc : (seen.get? name).getD 0 + 1 = 1) : name ∉ seen.keys := by
  refine Entries.lookup_eq_none_iff.mp ?_
  show seen.get? name = none
  cases hget : seen.get? name with
  | none => rfl
  | some count =>
    rw [hget, Option.getD_some] at hc
    have hzero : count = 0 := by omega
    exact absurd (hzero ▸ hget) (h name)

/-- A name that is counted again was there. -/
theorem mem_of_count_ne_one {seen : OrderedMap Nat} {name : String}
    (hc : (seen.get? name).getD 0 + 1 ≠ 1) : name ∈ seen.keys := by
  by_contra hnot
  rw [OrderedMap.get?, Entries.lookup_eq_none_iff.mpr hnot] at hc
  exact hc rfl

/-- All that can happen to one call: its name is new and stays, or it was asked for before and a
number behind the count makes a name that is new, while all numbers passed over are taken. -/
theorem distinctFrom_cases {seen : OrderedMap Nat} (h : Counts seen) (r : Request)
    (more : List Request) :
    (r.name ∉ seen.keys ∧
      distinctFrom seen (r :: more) = r :: distinctFrom (seen.insert r.name 1) more) ∨
    ∃ count n, seen.get? r.name = some count ∧ count < n ∧
      (∀ k, count < k → k < n → numbered r.name k ∈ seen.keys) ∧
      numbered r.name n ∉ seen.keys ∧
      distinctFrom seen (r :: more)
        = { r with name := numbered r.name n } ::
          distinctFrom ((seen.insert r.name (count + 1)).insert (numbered r.name n) 1) more := by
  rw [distinctFrom]
  dsimp only
  split
  · next hone =>
    refine Or.inl ⟨not_mem_of_count_eq_one h hone, ?_⟩
    rw [hone]
  · next hmany =>
    have hmem := mem_of_count_ne_one hmany
    obtain ⟨count, hcount⟩ : ∃ count, seen.get? r.name = some count :=
      Option.ne_none_iff_exists'.mp fun hnone => Entries.lookup_eq_none_iff.mp hnone hmem
    rw [hcount, Option.getD_some]
    -- the name that was asked for is counted already, so its new count takes no new place
    have hkeys : (seen.insert r.name (count + 1)).keys = seen.keys :=
      Entries.keys_insert_of_mem hmem (count + 1)
    have hfree := freeNumber_not_mem (Nat.le_of_eq (seen.insert r.name (count + 1)).length_keys)
      r.name (count + 1)
    obtain ⟨hle, hpassed, -⟩ := freeNumber_cases (seen.insert r.name (count + 1)).keys r.name
      (count + 1) (seen.insert r.name (count + 1)).size
    rw [hkeys] at hfree hle hpassed ⊢
    exact Or.inr ⟨count, _, rfl, hle, hpassed, hfree, rfl⟩

/-- One call is given a name that was not given out before, and the name is counted from then on. -/
theorem distinctFrom_cons {seen : OrderedMap Nat} (h : Counts seen) (r : Request)
    (more : List Request) :
    ∃ name next, distinctFrom seen (r :: more) = { r with name } :: distinctFrom next more ∧
      name ∉ seen.keys ∧ next.keys = seen.keys ++ [name] ∧ Counts next := by
  rcases distinctFrom_cases h r more with ⟨hfree, heq⟩ | ⟨count, n, hcount, -, -, hfree, heq⟩
  · exact ⟨r.name, _, heq, hfree, Entries.keys_insert_of_not_mem hfree 1,
      h.insert r.name Nat.one_ne_zero⟩
  · have hmem : r.name ∈ seen.keys := OrderedMap.mem_keys_of_get? hcount
    have hkeys : (seen.insert r.name (count + 1)).keys = seen.keys :=
      Entries.keys_insert_of_mem hmem (count + 1)
    refine ⟨_, _, heq, hfree, ?_,
      (h.insert r.name (Nat.succ_ne_zero count)).insert _ Nat.one_ne_zero⟩
    rw [← hkeys] at hfree ⊢
    exact Entries.keys_insert_of_not_mem hfree 1

/-- The names given out differ from each other and from those given out before. -/
theorem nodup_distinctFrom {seen : OrderedMap Nat} (h : Counts seen) (rs : List Request) :
    (seen.keys ++ (distinctFrom seen rs).map Request.name).Nodup := by
  induction rs generalizing seen with
  | nil =>
    rw [distinctFrom, List.map_nil, List.append_nil]
    exact seen.nodup
  | cons r more ih =>
    obtain ⟨name, next, heq, -, hkeys, hnext⟩ := distinctFrom_cons h r more
    have hrest := ih hnext
    rw [hkeys, List.append_assoc] at hrest
    rw [heq, List.map_cons]
    exact hrest

/-- A call differs from the one it came from in its name only. -/
theorem forall₂_distinctFrom {seen : OrderedMap Nat} (h : Counts seen) (rs : List Request) :
    List.Forall₂ (fun r r' => r' = { r with name := r'.name }) rs (distinctFrom seen rs) := by
  induction rs generalizing seen with
  | nil => exact .nil
  | cons r more ih =>
    obtain ⟨name, next, heq, -, -, hnext⟩ := distinctFrom_cons h r more
    rw [heq]
    exact .cons rfl (ih hnext)

theorem nodup_distinctNames (rs : List Request) :
    ((distinctNames rs).map Request.name).Nodup :=
  nodup_distinctFrom counts_empty rs

end CallBook.Import
