import CallBook.Proofs.Answers
import CallBook.Proofs.Json.Integers
import CallBook.Proofs.OrderedMap

/-!
# What a reader of values can give

A value that was read is well formed, and nested no deeper than its reader goes
(`bounded_of_value`): that is what each item and each member adds to the list or object around it.
The induction is on the depth of the reader. What holds of items and members is first said for any
reader of them (`forall_of_listOf`, `invariant_of_membersOf`).
-/

namespace CallBook.Json

namespace Value

/-- Items are well formed if each of them is. -/
theorem wellFormedItems_iff {items : List Value} :
    WellFormedItems items ↔ ∀ v ∈ items, v.WellFormed := by
  induction items with
  | nil => simp [WellFormedItems]
  | cons v items ih => simp [WellFormedItems, ih]

/-- Members are well formed if the value of each of them is. -/
theorem wellFormedMembers_iff {members : List (String × Value)} :
    WellFormedMembers members ↔ ∀ p ∈ members, p.2.WellFormed := by
  induction members with
  | nil => simp [WellFormedMembers]
  | cons p members ih => simp [WellFormedMembers, ih]

/-- Items are nested no deeper than each of them is. -/
theorem nestingItems_le_iff {items : List Value} {depth : Nat} :
    nestingItems items ≤ depth ↔ ∀ v ∈ items, v.nesting ≤ depth := by
  induction items with
  | nil => simp [nestingItems]
  | cons v items ih => rw [nestingItems, Nat.max_le, ih, List.forall_mem_cons]

/-- Members are nested no deeper than each of them is. -/
theorem nestingMembers_le_iff {members : List (String × Value)} {depth : Nat} :
    nestingMembers members ≤ depth ↔ ∀ p ∈ members, p.2.nesting ≤ depth := by
  induction members with
  | nil => simp [nestingMembers]
  | cons p members ih => rw [nestingMembers, Nat.max_le, ih, List.forall_mem_cons]

/-- A value that a reader can give, nested no deeper than `depth`. -/
structure Bounded (depth : Nat) (v : Value) : Prop where
  wellFormed : v.WellFormed
  nesting_le : v.nesting ≤ depth

theorem bounded_number {n : Number} {depth : Nat} (h : n.Fits) : (number n).Bounded depth where
  wellFormed := by cases n <;> exact h
  nesting_le := Nat.zero_le depth

/-- Bounded items make a bounded list. -/
theorem bounded_array {items : List Value} {depth : Nat}
    (h : ∀ v ∈ items, v.Bounded depth) : (array items).Bounded (depth + 1) where
  wellFormed := wellFormedItems_iff.mpr fun v hv => (h v hv).wellFormed
  nesting_le := Nat.succ_le_succ (nestingItems_le_iff.mpr fun v hv => (h v hv).nesting_le)

/-- Bounded members under different keys make a bounded object. -/
theorem bounded_object {members : List (String × Value)} {depth : Nat}
    (hn : (Entries.keys members).Nodup) (h : ∀ p ∈ members, p.2.Bounded depth) :
    (object members).Bounded (depth + 1) where
  wellFormed := ⟨hn, wellFormedMembers_iff.mpr fun p hp => (h p hp).wellFormed⟩
  nesting_le := Nat.succ_le_succ (nestingMembers_le_iff.mpr fun p hp => (h p hp).nesting_le)

/-- A bounded list takes a level. -/
theorem Bounded.exists_depth_of_array {items : List Value} {depth : Nat}
    (h : (array items).Bounded depth) : ∃ d, depth = d + 1 :=
  Nat.exists_eq_succ_of_ne_zero (Nat.ne_of_gt (Nat.zero_lt_of_lt h.nesting_le))

/-- A bounded object takes a level. -/
theorem Bounded.exists_depth_of_object {members : List (String × Value)} {depth : Nat}
    (h : (object members).Bounded depth) : ∃ d, depth = d + 1 :=
  Nat.exists_eq_succ_of_ne_zero (Nat.ne_of_gt (Nat.zero_lt_of_lt h.nesting_le))

/-- The items of a bounded list are bounded one level further in. -/
theorem Bounded.of_mem_array {items : List Value} {depth : Nat}
    (h : (array items).Bounded (depth + 1)) {v : Value} (hv : v ∈ items) : v.Bounded depth where
  wellFormed := wellFormedItems_iff.mp h.wellFormed v hv
  nesting_le := nestingItems_le_iff.mp (Nat.le_of_succ_le_succ h.nesting_le) v hv

/-- The members of a bounded object are bounded one level further in. -/
theorem Bounded.of_mem_object {members : List (String × Value)} {depth : Nat}
    (h : (object members).Bounded (depth + 1)) {p : String × Value} (hp : p ∈ members) :
    p.2.Bounded depth where
  wellFormed := wellFormedMembers_iff.mp h.wellFormed.2 p hp
  nesting_le := nestingMembers_le_iff.mp (Nat.le_of_succ_le_succ h.nesting_le) p hp

end Value

/-! ## What is read -/

section Given

variable {α σ : Type}

/-- What holds of everything that the reader of an item gives holds of all items. -/
theorem forall_of_items {read : Reader α} {P : α → Prop}
    (h : ∀ s a rest, read s = .ok (a, rest) → P a) {fuel : Nat} {first : Bool} {s : List Char}
    {list : List α} {rest : List Char} (hs : items read fuel first s = .ok (list, rest)) :
    ∀ a ∈ list, P a := by
  induction fuel generalizing first s list rest with
  | zero => cases hs
  | succ fuel ih =>
    rw [items] at hs
    split at hs
    · cases hs
    · cases hs
      exact List.forall_mem_nil _
    · split at hs
      · cases hs
      · next item tail hread =>
        split at hs
        · cases hs
        · next more last hmore =>
          cases hs
          exact List.forall_mem_cons.mpr ⟨h _ _ _ hread, ih hmore⟩

/-- What holds of everything that a reader gives holds of the items of a list. -/
theorem forall_of_listOf {read : Reader α} {P : α → Prop}
    (h : ∀ s a rest, read s = .ok (a, rest) → P a) {s : List Char} {list : List α}
    {rest : List Char} (hs : listOf read s = .ok (list, rest)) : ∀ a ∈ list, P a := by
  unfold listOf at hs
  split at hs
  · cases hs
  · next given tail hitems =>
    obtain ⟨after, -, ⟨⟩⟩ := exists_of_map_ok hs
    exact forall_of_items h hitems

/-- What every member keeps, all members of an object keep. -/
theorem invariant_of_members {step : Members σ} {P : σ → Prop}
    (h : ∀ state key read s next rest, P state → step state key = .ok read →
      read s = .ok (next, rest) → P next)
    {fuel : Nat} {first : Bool} {state final : σ} {s rest : List Char} (hstart : P state)
    (hs : members step fuel first state s = .ok (final, rest)) : P final := by
  induction fuel generalizing first state s with
  | zero => cases hs
  | succ fuel ih =>
    rw [members] at hs
    split at hs
    · cases hs
    · cases hs
      exact hstart
    · split at hs
      · cases hs
      · next key tail hkey =>
        split at hs
        · cases hs
        · next read hstep =>
          split at hs
          · cases hs
          · split at hs
            · cases hs
            · next next' after hread => exact ih (h _ _ _ _ _ _ hstart hstep hread) hs

/-- What every member keeps is kept by all of them. -/
theorem invariant_of_membersOf {step : Members σ} {P : σ → Prop}
    (h : ∀ state key read s next rest, P state → step state key = .ok read →
      read s = .ok (next, rest) → P next)
    {start final : σ} {s rest : List Char} (hstart : P start)
    (hs : membersOf step start s = .ok (final, rest)) : P final := by
  unfold membersOf at hs
  split at hs
  · cases hs
  · next given tail hmembers =>
    obtain ⟨after, -, ⟨⟩⟩ := exists_of_map_ok hs
    exact invariant_of_members h hstart hmembers

end Given

/-- How a reader of values came to a value. Lists and objects are read one level deeper. -/
inductive Took : (depth : Nat) → Value → Prop
  | null {depth : Nat} : Took depth .null
  | bool {depth : Nat} (b : Bool) : Took depth (.bool b)
  | number {depth : Nat} {negative : Bool} {s rest : List Char} {n : Number}
      (h : numberBody negative s = .ok (n, rest)) : Took depth (.number n)
  | string {depth : Nat} (text : String) : Took depth (.string text)
  | array {depth : Nat} {s rest : List Char} {list : List Value}
      (h : listOf (value depth) s = .ok (list, rest)) : Took (depth + 1) (.array list)
  | object {depth : Nat} {s rest : List Char} {m : OrderedMap Value}
      (h : membersOf (insertMember (value depth)) .empty s = .ok (m, rest)) :
      Took (depth + 1) (.object m.entries)

/-- Every value that is read came about in one of these ways. -/
theorem took_of_value {depth : Nat} {s : List Char} {v : Value} {rest : List Char}
    (h : value depth s = .ok (v, rest)) : Took depth v := by
  rw [value.eq_def] at h
  dsimp only at h
  split at h
  · cases h
  · -- one case for each character that a value may begin with, in the order of the reader
    split at h
    · obtain ⟨_, -, ⟨⟩⟩ := exists_of_map_ok h
      exact .null
    split at h
    · obtain ⟨_, -, ⟨⟩⟩ := exists_of_map_ok h
      exact .bool true
    split at h
    · obtain ⟨_, -, ⟨⟩⟩ := exists_of_map_ok h
      exact .bool false
    split at h
    · obtain ⟨_, hnumber, ⟨⟩⟩ := exists_of_map_ok h
      exact .number hnumber
    split at h
    · obtain ⟨_, hnumber, ⟨⟩⟩ := exists_of_map_ok h
      exact .number hnumber
    split at h
    · obtain ⟨_, -, ⟨⟩⟩ := exists_of_map_ok h
      exact .string _
    split at h
    · split at h
      · cases h
      · split at h
        · obtain ⟨_, hlist, ⟨⟩⟩ := exists_of_map_ok h
          exact .array hlist
        · obtain ⟨_, hobject, ⟨⟩⟩ := exists_of_map_ok h
          exact .object hobject
    · cases h

/-- A value that is read is well formed, and nested no deeper than the reader goes. -/
theorem bounded_of_value {depth : Nat} {s : List Char} {v : Value} {rest : List Char}
    (h : value depth s = .ok (v, rest)) : v.Bounded depth := by
  induction depth generalizing s v rest with
  | zero =>
    cases took_of_value h with
    | null => exact ⟨trivial, Nat.le_refl 0⟩
    | bool b => exact ⟨trivial, Nat.le_refl 0⟩
    | string text => exact ⟨trivial, Nat.le_refl 0⟩
    | number hn => exact Value.bounded_number (givesFitting_numberBody _ _ _ _ hn)
  | succ depth ih =>
    cases took_of_value h with
    | null => exact ⟨trivial, Nat.zero_le _⟩
    | bool b => exact ⟨trivial, Nat.zero_le _⟩
    | string text => exact ⟨trivial, Nat.zero_le _⟩
    | number hn => exact Value.bounded_number (givesFitting_numberBody _ _ _ _ hn)
    | array hlist => exact Value.bounded_array (forall_of_listOf (fun _ _ _ hv => ih hv) hlist)
    | @object _ _ _ m hobject =>
      -- that no key comes twice is in the type of the map; the members are bounded one by one
      refine Value.bounded_object m.nodup ?_
      refine invariant_of_membersOf (P := fun m => ∀ p ∈ m.entries, p.2.Bounded depth) ?_
        (List.forall_mem_nil _) hobject
      rintro state key read s next rest hstate ⟨⟩ hread
      obtain ⟨_, hvalue, ⟨⟩⟩ := exists_of_map_ok hread
      intro p hp
      rcases Entries.mem_insert hp with rfl | hp
      · exact ih hvalue
      · exact hstate p hp

end CallBook.Json
