import Mathlib.Order.Bounds.Defs
import CallBook.Proofs.Import.Batch

/-!
# The number behind a name is the least free one

The search for a number starts at the count of calls that asked for the name so far, not at 2. It
still finds the least one that is free: all numbers from 2 up to the count of a name have been
passed over or given out before (`Passed`), and a name that is given out stays taken. One step keeps
this (`passed_insert`, `passed_renamed`), so along the batch each call gets its own name if no
earlier one has it, and else the least number behind it (`leastFree_distinctFrom`). A batch without
repeated names is left as it is (`distinctFrom_of_nodup`).

Main result: `distinctNames_leastFree`.
-/

namespace CallBook.Import

/-- The name given to a call that asks for `name`: its own if it is free, else with the least number
from 2 on behind it that makes a name nobody has taken. -/
structure LeastFree (taken : List String) (name given : String) : Prop where
  own : name ∉ taken → given = name
  numbered : name ∈ taken →
    ∃ n, IsLeast {k | 2 ≤ k ∧ numbered name k ∉ taken} n ∧ given = numbered name n

/-! ## One call -/

/-- Every number from 2 up to the count of a name makes a name that is taken. -/
def Passed (seen : OrderedMap Nat) : Prop :=
  ∀ name count, seen.get? name = some count →
    ∀ k, 2 ≤ k → k ≤ count → numbered name k ∈ seen.keys

theorem passed_empty : Passed .empty := by
  intro name count h
  cases h

/-- A name that is counted once has no number to pass. -/
theorem passed_once {seen : OrderedMap Nat} (h : Passed seen) (name : String) :
    Passed (seen.insert name 1) := by
  intro other count hcount k hlow hhigh
  rw [OrderedMap.get?_insert] at hcount
  split at hcount
  · cases hcount
    omega
  · exact Entries.mem_keys_insert.mpr (Or.inr (h other count hcount k hlow hhigh))

/-- One more call has asked for a name, and was given the next number that is free. -/
theorem passed_renamed {seen : OrderedMap Nat} (h : Passed seen) {name : String} {count n : Nat}
    (hcount : seen.get? name = some count) (hlt : count < n)
    (hpassed : ∀ k, count < k → k < n → numbered name k ∈ seen.keys) :
    Passed ((seen.insert name (count + 1)).insert (numbered name n) 1) := by
  intro other c hc k hlow hhigh
  rw [OrderedMap.get?_insert] at hc
  split at hc
  · -- the name that was made is counted once
    cases hc
    omega
  · refine Entries.mem_keys_insert.mpr (or_iff_not_imp_left.mpr fun hne => ?_)
    refine Entries.mem_keys_insert.mpr (Or.inr ?_)
    rw [OrderedMap.get?_insert] at hc
    split at hc
    · next he =>
      -- the name that was asked for: its new count is the number given, or was passed over
      cases hc
      subst he
      rcases Nat.lt_or_ge count k with hnew | hold
      · have hk : k ≠ n := fun he => hne (congrArg (numbered name) he)
        exact hpassed k hnew (by omega)
      · exact h name count hcount k hlow hold
    · exact h other c hc k hlow hhigh

/-- The next free number behind the count of a name is the least free one of all. -/
theorem leastFree_renamed {seen : OrderedMap Nat} (hcounts : Counts seen) (h : Passed seen)
    {name : String} {count n : Nat} (hcount : seen.get? name = some count) (hlt : count < n)
    (hpassed : ∀ k, count < k → k < n → numbered name k ∈ seen.keys)
    (hfree : numbered name n ∉ seen.keys) : LeastFree seen.keys name (numbered name n) := by
  have hpos : count ≠ 0 := fun he => hcounts name (he ▸ hcount)
  refine ⟨fun hnot => absurd (OrderedMap.mem_keys_of_get? hcount) hnot, fun _ => ⟨n, ?_, rfl⟩⟩
  refine ⟨⟨by omega, hfree⟩, fun k hk => ?_⟩
  by_contra hlow
  rcases Nat.lt_or_ge count k with hnew | hold
  · exact hk.2 (hpassed k hnew (Nat.lt_of_not_le hlow))
  · exact hk.2 (h name count hcount k hk.1 hold)

/-- One call is given the least free name, and what is counted afterwards is passed again. -/
theorem distinctFrom_cons_leastFree {seen : OrderedMap Nat} (hcounts : Counts seen)
    (h : Passed seen) (r : Request) (more : List Request) :
    ∃ name next, distinctFrom seen (r :: more) = { r with name } :: distinctFrom next more ∧
      LeastFree seen.keys r.name name ∧ next.keys = seen.keys ++ [name] ∧
      Counts next ∧ Passed next := by
  rcases distinctFrom_cases hcounts r more with
    ⟨hfree, heq⟩ | ⟨count, n, hcount, hlt, hpassed, hfree, heq⟩
  · refine ⟨r.name, _, heq, ⟨fun _ => rfl, fun hmem => absurd hmem hfree⟩,
      Entries.keys_insert_of_not_mem hfree 1, hcounts.insert r.name Nat.one_ne_zero,
      passed_once h r.name⟩
  · have hkeys : (seen.insert r.name (count + 1)).keys = seen.keys :=
      Entries.keys_insert_of_mem (OrderedMap.mem_keys_of_get? hcount) (count + 1)
    refine ⟨_, _, heq, leastFree_renamed hcounts h hcount hlt hpassed hfree, ?_,
      (hcounts.insert r.name (Nat.succ_ne_zero count)).insert _ Nat.one_ne_zero,
      passed_renamed h hcount hlt hpassed⟩
    rw [← hkeys] at hfree ⊢
    exact Entries.keys_insert_of_not_mem hfree 1

/-! ## A batch -/

/-- Each call is given the least name that is free of the names counted before the batch and of
those given out to earlier calls. -/
theorem leastFree_distinctFrom {seen : OrderedMap Nat} (hcounts : Counts seen) (h : Passed seen)
    {rs : List Request} {i : Nat} {r r' : Request} (hr : rs[i]? = some r)
    (hr' : (distinctFrom seen rs)[i]? = some r') :
    LeastFree (seen.keys ++ ((distinctFrom seen rs).take i).map Request.name) r.name r'.name := by
  induction rs generalizing seen i with
  | nil => cases hr
  | cons first more ih =>
    obtain ⟨name, next, heq, hleast, hkeys, hcounts', h'⟩ :=
      distinctFrom_cons_leastFree hcounts h first more
    rw [heq] at hr' ⊢
    cases i with
    | zero =>
      cases hr
      cases hr'
      rw [List.take_zero, List.map_nil, List.append_nil]
      exact hleast
    | succ i =>
      have hrest := ih hcounts' h' hr hr'
      rw [hkeys, List.append_assoc] at hrest
      rw [List.take_succ_cons, List.map_cons]
      exact hrest

/-- Calls with different names keep them. -/
theorem distinctFrom_of_nodup {seen : OrderedMap Nat} (hcounts : Counts seen) {rs : List Request}
    (h : (seen.keys ++ rs.map Request.name).Nodup) : distinctFrom seen rs = rs := by
  induction rs generalizing seen with
  | nil => rfl
  | cons r more ih =>
    have hfree : r.name ∉ seen.keys := fun hmem =>
      List.disjoint_of_nodup_append h hmem List.mem_cons_self
    rcases distinctFrom_cases hcounts r more with ⟨-, heq⟩ | ⟨count, n, hcount, -⟩
    · rw [heq, ih (hcounts.insert r.name Nat.one_ne_zero)]
      rw [OrderedMap.keys, OrderedMap.entries_insert, Entries.keys_insert_of_not_mem hfree,
        List.append_assoc]
      exact h
    · exact absurd (OrderedMap.mem_keys_of_get? hcount) hfree

/-- **Each call gets the least free name.** Making the names of a batch different keeps the calls,
their number and their order, and changes nothing in a call but its name. A call keeps its name if
no earlier call was given it, and else is given the name with the least number from 2 on behind it
that no earlier call was given; there always is one. So no two calls share a name afterwards, and
doing it again changes nothing. -/
theorem distinctNames_leastFree (rs : List Request) :
    (distinctNames rs).length = rs.length ∧
    (∀ i r r', rs[i]? = some r → (distinctNames rs)[i]? = some r' →
      r' = { r with name := r'.name } ∧
        LeastFree (((distinctNames rs).take i).map Request.name) r.name r'.name) ∧
    ((distinctNames rs).map Request.name).Nodup ∧
    distinctNames (distinctNames rs) = distinctNames rs := by
  have hchanged := forall₂_distinctFrom counts_empty rs
  refine ⟨hchanged.length_eq.symm, ?_, nodup_distinctNames rs, ?_⟩
  · intro i r r' hr hr'
    refine ⟨?_, leastFree_distinctFrom counts_empty passed_empty hr hr'⟩
    obtain ⟨hi, rfl⟩ := List.getElem?_eq_some_iff.mp hr
    obtain ⟨hi', rfl⟩ := List.getElem?_eq_some_iff.mp hr'
    exact hchanged.get hi hi'
  · exact distinctFrom_of_nodup counts_empty (nodup_distinctNames rs)

/-- A captured name that looks like a numbered one takes a number away from the others, and is
numbered itself when it comes again. -/
theorem distinctNames_leastFree_beside_numbered :
    let rs := ["Users 2", "Users", "Users", "Users 2", "Users"].map fun name => ({ name } : Request)
    let given := ["Users 2", "Users", "Users 3", "Users 2 2", "Users 4"]
    (distinctNames rs).map Request.name = given ∧ rs[4]? = some { name := "Users" } ∧
      (distinctNames rs)[4]? = some { name := "Users 4" } ∧
      LeastFree (given.take 4) "Users" "Users 4" := by
  intro rs given
  have hgiven : (distinctNames rs).map Request.name = given := by decide +kernel
  have hlast : (distinctNames rs)[4]? = some { name := "Users 4" } := by decide +kernel
  obtain ⟨-, hleast, -⟩ := distinctNames_leastFree rs
  obtain ⟨-, hnamed⟩ := hleast 4 _ _ rfl hlast
  rw [List.map_take, hgiven] at hnamed
  exact ⟨hgiven, rfl, hlast, hnamed⟩

end CallBook.Import
