import CallBook.Proofs.Json.Remainder
import CallBook.Proofs.OrderedMap

/-!
# The members of an object as they stand in a text

What an object holds after reading is a map, in which a repeated key has been merged. `ObjectText`
is the grammar of an object with all its members, as they are written between the braces: each is a
string, a colon and a value, and all but the first stand behind a comma. A text is read as an object
exactly if it has this form (`value_object_iff`), and the map read is that of the members one after
the other. The fuel of the reader is no limit, since every member takes some of the text.
-/

namespace CallBook.Json

/-! ## The grammar -/

/-- The members that stand here up to the closing brace, with `rest` behind it. -/
inductive MembersText (depth : Nat) :
    (first : Bool) → (s : List Char) → List (String × Value) → (rest : List Char) → Prop
  | close {first : Bool} {s rest : List Char} (h : skipBlanks s = '}' :: rest) :
      MembersText depth first s [] rest
  | member {first : Bool} {s body after t u rest : List Char} {key : String} {v : Value}
      {more : List (String × Value)} (hkey : KeyAt first s body)
      (hbody : stringBody body = .ok (key, after)) (hcolon : skipBlanks after = ':' :: t)
      (hvalue : value depth t = .ok (v, u)) (hmore : MembersText depth false u more rest) :
      MembersText depth first s ((key, v) :: more) rest

/-- An object stands here with these members, as they are written; `rest` stands behind it. -/
def ObjectText (depth : Nat) (s : List Char) (members : List (String × Value))
    (rest : List Char) : Prop :=
  ∃ t, skipBlanks s = '{' :: t ∧ MembersText depth true t members rest

theorem length_lt_of_skipBlanks {s rest : List Char} {c : Char} (h : skipBlanks s = c :: rest) :
    rest.length < s.length := by
  have hlen := (skipBlanks_suffix s).length_le
  rw [h, List.length_cons] at hlen
  exact hlen

/-- Behind a key less is left of the text. -/
theorem KeyAt.length_lt {first : Bool} {s body : List Char} (h : KeyAt first s body) :
    body.length < s.length := by
  cases h with
  | first hquote => exact length_lt_of_skipBlanks hquote
  | next hcomma hquote =>
    exact Nat.lt_trans (length_lt_of_skipBlanks hquote) (length_lt_of_skipBlanks hcomma)

/-- What stands behind one member of an object is shorter than what stood before it. -/
theorem length_lt_of_member {depth : Nat} {first : Bool} {s body after t u : List Char}
    {key : String} {v : Value} (hkey : KeyAt first s body)
    (hbody : stringBody body = .ok (key, after)) (hcolon : skipBlanks after = ':' :: t)
    (hvalue : value depth t = .ok (v, u)) : u.length < s.length := by
  have hafter := (leavesEnd_stringBody _ _ _ hbody).length_le
  have hu := (leavesEnd_value _ _ _ _ hvalue).length_le
  have ht := length_lt_of_skipBlanks hcolon
  have hs := hkey.length_lt
  omega

/-- The closing brace, and what stands behind it, are an end of the text of the members. -/
theorem MembersText.suffix {depth : Nat} {first : Bool} {s rest : List Char}
    {list : List (String × Value)} (h : MembersText depth first s list rest) :
    '}' :: rest <:+ s := by
  induction h with
  | close hclose => exact hclose ▸ skipBlanks_suffix _
  | member hkey hbody hcolon hvalue _ ih =>
    have hu := (leavesEnd_value _ _ _ _ hvalue).trans (suffix_of_skipBlanks hcolon)
    exact ih.trans (hu.trans ((leavesEnd_stringBody _ _ _ hbody).trans hkey.suffix))

/-! ## Reading -/

/-- There is no further key exactly where the object is closed. -/
theorem nextKey_eq_none_iff {first : Bool} {s : List Char} :
    nextKey first s = .ok none ↔ ∃ rest, skipBlanks s = '}' :: rest := by
  constructor
  · intro h
    unfold nextKey at h
    split at h
    · cases h
    · next c rest hs =>
      split at h
      · next hc => exact ⟨rest, hc ▸ hs⟩
      · repeat' split at h
        all_goals cases h
  · rintro ⟨rest, hs⟩
    simp [nextKey, hs]

/-- The map with members inserted one after the other. -/
def insertMembers (m : OrderedMap Value) (list : List (String × Value)) : OrderedMap Value :=
  list.foldl (fun m p => m.insert p.1 p.2) m

theorem insertMembers_empty (list : List (String × Value)) :
    insertMembers .empty list = .ofList list :=
  OrderedMap.foldl_insert_empty list

/-- What the reader goes through up to the closing brace are the members of a text. -/
theorem membersText_of_members {depth fuel : Nat} {first : Bool} {m final : OrderedMap Value}
    {s mid rest : List Char}
    (h : members (insertMember (value depth)) fuel first m s = .ok (final, mid))
    (hclose : skipBlanks mid = '}' :: rest) :
    ∃ list, MembersText depth first s list rest ∧ final = insertMembers m list := by
  induction fuel generalizing first m s with
  | zero => cases h
  | succ fuel ih =>
    rw [members] at h
    split at h
    · cases h
    · cases h
      exact ⟨[], .close hclose, rfl⟩
    · next body hkey =>
      split at h
      · cases h
      · next key after hbody =>
        split at h
        · cases h
        · next read hstep =>
          cases hstep
          split at h
          · cases h
          · next t hcolon =>
            split at h
            · cases h
            · next state u hread =>
              obtain ⟨⟨v, _⟩, hvalue, ⟨⟩⟩ := exists_of_map_ok hread
              obtain ⟨list, hlist, rfl⟩ := ih h
              -- each guard of the step is one part of the grammar of a member
              exact ⟨(key, v) :: list, .member (nextKey_eq_some_iff.mp hkey) hbody
                (colonAfter_eq_ok hcolon) hvalue hlist, rfl⟩

/-- The reader goes through the members of a text, if it has fuel for every character. -/
theorem members_of_membersText {depth : Nat} {first : Bool} {s rest : List Char}
    {list : List (String × Value)} (h : MembersText depth first s list rest) {fuel : Nat}
    (hfuel : s.length < fuel) (m : OrderedMap Value) :
    ∃ mid, members (insertMember (value depth)) fuel first m s = .ok (insertMembers m list, mid) ∧
      skipBlanks mid = '}' :: rest := by
  induction h generalizing fuel m with
  | @close first s rest hclose =>
    obtain ⟨fuel, rfl⟩ := Nat.exists_eq_succ_of_ne_zero (Nat.ne_zero_of_lt hfuel)
    refine ⟨s, ?_, hclose⟩
    rw [members, nextKey_eq_none_iff.mpr ⟨rest, hclose⟩]
    rfl
  | @member first s body after t u rest key v more hkey hbody hcolon hvalue _ ih =>
    obtain ⟨fuel, rfl⟩ := Nat.exists_eq_succ_of_ne_zero (Nat.ne_zero_of_lt hfuel)
    have hshorter := length_lt_of_member hkey hbody hcolon hvalue
    obtain ⟨mid, hmid, hclose⟩ := ih (show u.length < fuel by omega) (m.insert key v)
    refine ⟨mid, ?_, hclose⟩
    have hcolon' : colonAfter after = .ok t := by simp [colonAfter, hcolon]
    rw [members, nextKey_eq_some_iff.mpr hkey]
    simp only [hbody, insertMember, hcolon', hvalue]
    exact hmid

/-- An object that was read began with a brace, and its members were read behind it. -/
theorem exists_of_value_object {depth : Nat} {s rest : List Char} {m : List (String × Value)}
    (h : value (depth + 1) s = .ok (.object m, rest)) :
    ∃ t map, skipBlanks s = '{' :: t ∧
      membersOf (insertMember (value depth)) .empty t = .ok (map, rest) ∧ m = map.entries := by
  rw [value.eq_def] at h
  dsimp only at h
  split at h
  · cases h
  · next c t hs =>
    -- what begins with another character gives another kind of value
    split at h
    · obtain ⟨_, -, ⟨⟩⟩ := exists_of_map_ok h
    split at h
    · obtain ⟨_, -, ⟨⟩⟩ := exists_of_map_ok h
    split at h
    · obtain ⟨_, -, ⟨⟩⟩ := exists_of_map_ok h
    split at h
    · obtain ⟨_, -, ⟨⟩⟩ := exists_of_map_ok h
    split at h
    · obtain ⟨_, -, ⟨⟩⟩ := exists_of_map_ok h
    split at h
    · obtain ⟨_, -, ⟨⟩⟩ := exists_of_map_ok h
    split at h
    · next hopen =>
      split at h
      · obtain ⟨_, -, ⟨⟩⟩ := exists_of_map_ok h
      · next hbracket =>
        have hc : c = '{' := by simpa [hbracket] using hopen
        obtain ⟨⟨map, _⟩, hmap, ⟨⟩⟩ := exists_of_map_ok h
        exact ⟨t, map, hc ▸ hs, hmap, rfl⟩
    · cases h

/-- A text is read as an object exactly if an object stands there; what is read are its members one
after the other. -/
theorem value_object_iff {depth : Nat} {s rest : List Char} {m : List (String × Value)} :
    value (depth + 1) s = .ok (.object m, rest) ↔
      ∃ list, ObjectText depth s list rest ∧ m = (OrderedMap.ofList list).entries := by
  constructor
  · intro h
    obtain ⟨t, map, hs, hmap, rfl⟩ := exists_of_value_object h
    unfold membersOf at hmap
    split at hmap
    · cases hmap
    · next final mid hmembers =>
      obtain ⟨after, hclose, ⟨⟩⟩ := exists_of_map_ok hmap
      obtain ⟨list, hlist, rfl⟩ := membersText_of_members hmembers (closeObject_eq_ok hclose)
      exact ⟨list, ⟨t, hs, hlist⟩, by rw [insertMembers_empty]⟩
  · rintro ⟨list, ⟨t, hs, hmembers⟩, rfl⟩
    obtain ⟨mid, hmid, hclose⟩ :=
      members_of_membersText hmembers (Nat.lt_succ_self t.length) .empty
    have hobject : membersOf (insertMember (value depth)) .empty t
        = .ok (.ofList list, rest) := by
      rw [membersOf, hmid, insertMembers_empty]
      simp [closeObject, hclose, Except.map]
    rw [value, hs]
    simp [hobject, Except.map, Text.isDigit]

end CallBook.Json
