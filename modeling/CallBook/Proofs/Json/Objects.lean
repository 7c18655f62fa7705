import CallBook.Proofs.Json.Strings
import CallBook.Proofs.OrderedMap

/-!
# Objects read back as they were written

A reader of an object goes from state to state, one member after the other. `Follows` is the
relation between the states before and after the members of a written object: each member's key is
accepted and its written value is read (`Reads`) into the next state. Whenever the members lead from
one state to another, reading the written object does too (`membersOf_write`), in either layout and
at any depth; what an object stands for is then a matter of its members alone. Maps of one kind of
value (`reads_mapOf`) and records (`reads_recordOf`) are the two uses.
-/

namespace CallBook.Json

universe u

/-! ## Reading one value -/

/-- What may stand behind a value: nothing, or a character that goes on with no value. -/
def Ends : List Char → Prop
  | [] => True
  | c :: _ => c = ',' ∨ c = ']' ∨ c = '}' ∨ isJsonBlank c = true

/-- Blanks before an end are an end. -/
theorem ends_append {blanks : List Char} (hb : Blanks blanks) {rest : List Char} (h : Ends rest) :
    Ends (blanks ++ rest) := by
  cases blanks with
  | nil => exact h
  | cons c blanks => exact Or.inr (Or.inr (Or.inr (hb c List.mem_cons_self)))

theorem ends_comma (rest : List Char) : Ends (',' :: rest) := Or.inl rfl

theorem ends_brace (rest : List Char) : Ends ('}' :: rest) := Or.inr (Or.inr (Or.inl rfl))

/-- The reader takes a text for `a`, with any blanks before it and anything behind it that ends a
value. -/
def Reads {α : Type} (read : Reader α) (text : List Char) (a : α) : Prop :=
  ∀ blanks rest, Blanks blanks → Ends rest → read (blanks ++ (text ++ rest)) = .ok (a, rest)

/-- What is read may be changed afterwards. -/
theorem Reads.map {α β : Type} {read : Reader α} {text : List Char} {a : α}
    (h : Reads read text a) (f : α → β) :
    Reads (fun s => (read s).map fun (a, rest) => (f a, rest)) text (f a) := by
  intro blanks rest hb he
  show (read (blanks ++ (text ++ rest))).map _ = _
  rw [h blanks rest hb he]
  rfl

/-- What is read whatever follows is also read when nothing follows. -/
theorem Reads.readChars {α : Type} {read : Reader α} {text : List Char} {a : α}
    (h : Reads read text a) : readChars read text = .ok a := by
  have hread := h [] [] blanks_nil trivial
  rw [List.nil_append, List.append_nil] at hread
  rw [Json.readChars, hread]
  rfl

theorem quotedText_append (s : String) (rest : List Char) :
    quotedText s ++ rest = '"' :: (s.toList.flatMap escapedChar ++ '"' :: rest) := by
  simp [quotedText]

/-- A string as it is written is read back. -/
theorem reads_stringAs (wanted : Wanted) (s : String) :
    Reads (stringAs wanted) (quotedText s) s := by
  intro blanks rest hb _
  rw [quotedText_append, stringAs, skipBlanks_append hb (by decide)]
  exact stringBody_escaped s rest

/-- A text that is not `null` is read as something. -/
theorem Reads.optional {α : Type} {read : Reader α} {c : Char} {text : List Char} {a : α}
    (h : Reads read (c :: text) a) (hblank : isJsonBlank c = false) (hnull : c ≠ 'n') :
    Reads (optional read) (c :: text) (some a) := by
  intro blanks rest hb he
  rw [Json.optional, List.cons_append, skipBlanks_append hb hblank]
  split
  · next heq => exact absurd (List.cons.inj heq).1 hnull
  · rw [show c :: (text ++ rest) = [] ++ (c :: text ++ rest) from rfl, h [] rest blanks_nil he]
    rfl

/-- `null` is read as nothing. -/
theorem reads_optional_null {α : Type} (read : Reader α) :
    Reads (optional read) "null".toList none := by
  intro blanks rest hb _
  rw [Json.optional, show "null".toList = 'n' :: "ull".toList from rfl, List.cons_append,
    skipBlanks_append hb (by decide)]
  rfl

/-! ## Reading members -/

section Members

variable {σ : Type} {step : Members σ} {layout : Layout} {depth : Nat}

/-- Written members lead a reader from one state to another. -/
inductive Follows (step : Members σ) (layout : Layout) (depth : Nat) :
    σ → List (String × Value) → σ → Prop
  | nil (state : σ) : Follows step layout depth state [] state
  | cons {state next final : σ} {key : String} {v : Value} {more : List (String × Value)}
      {read : Reader σ} (hkey : step state key = .ok read)
      (hread : Reads read (v.write layout depth) next)
      (hmore : Follows step layout depth next more final) :
      Follows step layout depth state ((key, v) :: more) final

/-- A member as it is written, and what stands behind it. -/
def memberText (layout : Layout) (depth : Nat) (key : String) (v : Value) (rest : List Char) :
    List Char :=
  quotedText key ++ (layout.colon ++ (v.write layout depth ++ rest))

/-- The colon behind a key is found, and blanks are left before the value at most. -/
theorem colonAfter_colon (layout : Layout) (rest : List Char) :
    ∃ blanks, Blanks blanks ∧ colonAfter (layout.colon ++ rest) = .ok (blanks ++ rest) := by
  cases layout with
  | compact => exact ⟨[], blanks_nil, rfl⟩
  | pretty => exact ⟨[' '], by simp [Blanks, isJsonBlank], rfl⟩

/-- One member is read, wherever its key was found. -/
theorem members_member {fuel : Nat} {first : Bool} {state next : σ} {key : String} {v : Value}
    {read : Reader σ} {s rest : List Char} (hkey : step state key = .ok read)
    (hread : Reads read (v.write layout depth) next) (he : Ends rest)
    (hs : nextKey first s = .ok (some (memberText layout depth key v rest).tail)) :
    members step (fuel + 1) first state s = members step fuel false next rest := by
  obtain ⟨blanks, hb, hcolon⟩ := colonAfter_colon layout (v.write layout depth ++ rest)
  have htail : (memberText layout depth key v rest).tail
      = key.toList.flatMap escapedChar
        ++ '"' :: (layout.colon ++ (v.write layout depth ++ rest)) := by
    rw [memberText, quotedText_append]
    rfl
  rw [htail] at hs
  rw [members]
  simp only [hs, stringBody_escaped, hkey, hcolon, hread blanks rest hb he]

/-- No member is found where the object is closed. -/
theorem members_close {fuel : Nat} {first : Bool} (state : σ) {blanks : List Char}
    (hb : Blanks blanks) (rest : List Char) :
    members step (fuel + 1) first state (blanks ++ '}' :: rest)
      = .ok (state, blanks ++ '}' :: rest) := by
  rw [members, nextKey, skipBlanks_append hb (by decide)]
  simp

/-- The first key of an object begins behind the brace, blanks passed over. -/
theorem nextKey_first {blanks : List Char} (hb : Blanks blanks) (key : String) (v : Value)
    (rest : List Char) :
    nextKey true (blanks ++ memberText layout depth key v rest)
      = .ok (some (memberText layout depth key v rest).tail) := by
  rw [memberText, quotedText_append, nextKey, skipBlanks_append hb (by decide)]
  simp

/-- A later key begins behind the comma, blanks passed over. -/
theorem nextKey_comma {blanks : List Char} (hb : Blanks blanks) (key : String) (v : Value)
    (rest : List Char) :
    nextKey false (',' :: (blanks ++ memberText layout depth key v rest))
      = .ok (some (memberText layout depth key v rest).tail) := by
  rw [memberText, quotedText_append, nextKey, skipBlanks_cons (by decide)]
  simp [skipBlanks_append hb (show isJsonBlank '"' = false by decide)]

/-- The next member stands behind a comma and a line break. -/
theorem writeMembers_cons_append (key : String) (v : Value) (more : List (String × Value))
    (rest : List Char) :
    Value.writeMembers layout depth ((key, v) :: more) ++ rest
      = ',' :: (layout.lineBreak depth
        ++ memberText layout depth key v (Value.writeMembers layout depth more ++ rest)) := by
  simp [Value.writeMembers, memberText]

/-- What is written behind a member does not go on with it. -/
theorem ends_writeMembers (more : List (String × Value)) {rest : List Char} (he : Ends rest) :
    Ends (Value.writeMembers layout depth more ++ rest) := by
  cases more with
  | nil => exact he
  | cons p more =>
    rw [writeMembers_cons_append]
    exact ends_comma _

/-- The members after the first. -/
theorem members_writeMembers {state final : σ} {more : List (String × Value)}
    (h : Follows step layout depth state more final) {blanks : List Char} (hb : Blanks blanks)
    (rest : List Char) :
    ∀ fuel, more.length < fuel →
      members step fuel false state
          (Value.writeMembers layout depth more ++ (blanks ++ '}' :: rest))
        = .ok (final, blanks ++ '}' :: rest) := by
  induction h with
  | nil state =>
    intro fuel hf
    obtain ⟨fuel, rfl⟩ := Nat.exists_eq_succ_of_ne_zero (Nat.ne_of_gt hf)
    exact members_close state hb rest
  | @cons state next final key v more read hkey hread hmore ih =>
    intro fuel hf
    obtain ⟨fuel, rfl⟩ := Nat.exists_eq_succ_of_ne_zero (Nat.ne_of_gt (Nat.zero_lt_of_lt hf))
    rw [List.length_cons] at hf
    rw [writeMembers_cons_append, members_member hkey hread
      (ends_writeMembers more (ends_append hb (ends_brace rest)))
      (nextKey_comma (blanks_lineBreak layout depth) key v _)]
    exact ih fuel (Nat.lt_of_succ_lt_succ hf)

/-- The members of an object are no more than the characters that they are written with. -/
theorem length_le_writeMembers (layout : Layout) (depth : Nat) (more : List (String × Value)) :
    more.length ≤ (Value.writeMembers layout depth more).length := by
  induction more with
  | nil => exact Nat.le_refl _
  | cons p more ih =>
    obtain ⟨key, v⟩ := p
    simp only [Value.writeMembers, List.length_cons, List.length_append]
    omega

/-- An object as it is written, from after its opening brace on. -/
def objectTail (layout : Layout) (depth : Nat) (members : List (String × Value)) : List Char :=
  ((Value.object members).write layout depth).tail

theorem write_object (members : List (String × Value)) :
    (Value.object members).write layout depth = '{' :: objectTail layout depth members := by
  cases members <;> rfl

/-- Reading a written object goes where its members lead. -/
theorem membersOf_write {start final : σ} {object : List (String × Value)}
    (h : Follows step layout (depth + 1) start object final) (rest : List Char) :
    membersOf step start (objectTail layout depth object ++ rest) = .ok (final, rest) := by
  have hclose : ∀ {blanks : List Char}, Blanks blanks →
      closeObject (blanks ++ '}' :: rest) = .ok rest := by
    intro blanks hb
    rw [closeObject, skipBlanks_append hb (by decide)]
    rfl
  rw [membersOf]
  cases h with
  | nil =>
    have htail : objectTail layout depth [] ++ rest = [] ++ '}' :: rest := rfl
    rw [htail, members_close start blanks_nil rest]
    simp only [hclose blanks_nil]
    rfl
  | @cons _ next _ key v more read hkey hread hmore =>
    have hb := blanks_lineBreak layout depth
    have htail : objectTail layout depth ((key, v) :: more) ++ rest
        = layout.lineBreak (depth + 1) ++ memberText layout (depth + 1) key v
          (Value.writeMembers layout (depth + 1) more
            ++ (layout.lineBreak depth ++ '}' :: rest)) := by
      simp [objectTail, Value.write, memberText]
    -- every member takes a character at least, so the length is fuel enough
    have hlen : more.length < (objectTail layout depth ((key, v) :: more) ++ rest).length := by
      have := length_le_writeMembers layout (depth + 1) more
      rw [htail]
      simp only [memberText, List.length_append, List.length_cons]
      omega
    rw [htail] at hlen ⊢
    rw [members_member hkey hread (ends_writeMembers more (ends_append hb (ends_brace rest)))
      (nextKey_first (blanks_lineBreak layout (depth + 1)) key v _),
      members_writeMembers hmore hb rest _ hlen]
    simp only [hclose hb]
    rfl

end Members

/-! ## Maps of one kind of value -/

section Maps

variable {α β : Type} {layout : Layout} {level : Nat}

/-- Members that are read one like the other are inserted in their order. -/
theorem follows_insertMember {read : Reader α} {toValue : β → Value} {meaning : β → α}
    {pairs : List (String × β)}
    (h : ∀ p ∈ pairs, Reads read ((toValue p.2).write layout level) (meaning p.2))
    (start : OrderedMap α) :
    Follows (insertMember read) layout level start (pairs.map fun p => (p.1, toValue p.2))
      (pairs.foldl (fun m p => m.insert p.1 (meaning p.2)) start) := by
  induction pairs generalizing start with
  | nil => exact .nil start
  | cons p pairs ih =>
    have hp := (h p List.mem_cons_self).map fun v => start.insert p.1 v
    exact .cons rfl hp (ih (fun q hq => h q (List.mem_cons_of_mem p hq)) _)

/-- The members of a map, read in their order into an empty one, give the map. -/
theorem follows_entries {read : Reader α} {toValue : β → Value} {meaning : β → α}
    {m : OrderedMap β}
    (h : ∀ p ∈ m.entries, Reads read ((toValue p.2).write layout level) (meaning p.2)) :
    Follows (insertMember read) layout level .empty (m.entries.map fun p => (p.1, toValue p.2))
      (m.map meaning) := by
  have hfold : m.entries.foldl (fun m p => m.insert p.1 (meaning p.2)) .empty
      = m.map meaning := by
    apply OrderedMap.ext
    rw [OrderedMap.entries_foldl_insert]
    exact Entries.insertAll_of_nodup (m := []) (m.map meaning).nodup
  rw [← hfold]
  exact follows_insertMember h .empty

/-- A map is read from an object whose members lead to it one by one. -/
theorem reads_mapOf_of_follows {read : Nat → Reader α} {depth : Nat} {m : OrderedMap α}
    {object : List (String × Value)}
    (h : Follows (insertMember (read depth)) layout (level + 1) .empty object m) :
    Reads (mapOf read (depth + 1)) ((Value.object object).write layout level) m := by
  intro blanks rest hb _
  rw [write_object, List.cons_append, mapOf, skipBlanks_append hb (by decide)]
  exact membersOf_write h rest

/-- A map whose values can be read back is read back. -/
theorem reads_mapOf {read : Nat → Reader α} {depth : Nat} {toValue : α → Value}
    (h : ∀ a, Reads (read depth) ((toValue a).write layout (level + 1)) a) (m : OrderedMap α) :
    Reads (mapOf read (depth + 1)) ((Value.object (m.map toValue).entries).write layout level)
      m := by
  have hm : Follows (insertMember (read depth)) layout (level + 1) .empty (m.map toValue).entries
      (m.map id) :=
    follows_entries fun p _ => h p.2
  rw [OrderedMap.map_id] at hm
  exact reads_mapOf_of_follows hm

/-- A map of texts is read back. -/
theorem reads_stringMap (depth : Nat) (m : OrderedMap String) :
    Reads (stringMap (depth + 1)) ((Value.ofTexts m).write layout level) m :=
  reads_mapOf (fun s => reads_stringAs .string s) m

/-- An object of texts is read as a map although a key may be repeated. -/
theorem reads_stringMap_ofList (depth : Nat) (pairs : List (String × String)) :
    Reads (stringMap (depth + 1))
      ((Value.object (pairs.map fun p => (p.1, .string p.2))).write layout level)
      (.ofList pairs) := by
  have hfold : pairs.foldl (fun m p => m.insert p.1 (id p.2)) OrderedMap.empty = .ofList pairs :=
    OrderedMap.foldl_insert_empty pairs
  rw [← hfold]
  exact reads_mapOf_of_follows
    (follows_insertMember (fun p _ => reads_stringAs .string p.2) .empty)

/-- A string is read as the value that was written. -/
theorem reads_value_string (depth : Nat) (s : String) :
    Reads (value depth) ((Value.string s).write layout level) (.string s) := by
  intro blanks rest hb _
  rw [Value.write, quotedText_append, value, skipBlanks_append hb (by decide)]
  simp [stringBody_escaped, Text.isDigit, Except.map]

/-- An object of texts is read as the value that was written. -/
theorem reads_value_ofTexts (depth : Nat) (m : OrderedMap String) :
    Reads (value (depth + 1)) ((Value.ofTexts m).write layout level) (Value.ofTexts m) := by
  have hm : Follows (insertMember (value depth)) layout (level + 1) .empty
      (m.entries.map fun p => (p.1, .string p.2)) (m.map .string) :=
    follows_entries fun p _ => reads_value_string depth p.2
  intro blanks rest hb _
  rw [Value.ofTexts, write_object, List.cons_append, value, skipBlanks_append hb (by decide)]
  simp [membersOf_write hm, Text.isDigit, Except.map]
  rfl

end Maps

/-! ## Records -/

section Records

variable {σ α : Type} {fields : List (Field σ)} {layout : Layout} {depth level : Nat}

/-- A member that is a field not read so far changes the record as the field is read. -/
theorem Follows.member {key : String} {field : Field σ} {v : Value} {state next : σ}
    {seen : List String} {final : σ × List String} {more : List (String × Value)}
    (hfield : fields.find? (·.name == key) = some field) (hseen : seen.contains key = false)
    (hread : Reads (field.read depth state) (v.write layout level) next)
    (hmore : Follows (fieldMember fields depth) layout level (next, key :: seen) more final) :
    Follows (fieldMember fields depth) layout level (state, seen) ((key, v) :: more) final := by
  refine .cons ?_ (hread.map fun state => (state, key :: seen)) hmore
  simp only [fieldMember, hfield, hseen]
  rfl

/-- A field that is known and was not seen before is set, and the other members follow. -/
theorem Follows.field {name : String} {read : Nat → Reader α} {set : σ → α → σ} {a : α} {v : Value}
    {state : σ} {seen : List String} {final : σ × List String} {more : List (String × Value)}
    (hfield : fields.find? (·.name == name) = some (.of name read set))
    (hseen : seen.contains name = false) (hread : Reads (read depth) (v.write layout level) a)
    (hmore : Follows (fieldMember fields depth) layout level (set state a, name :: seen) more
      final) :
    Follows (fieldMember fields depth) layout level (state, seen) ((name, v) :: more) final :=
  .member hfield hseen (hread.map (set state)) hmore

/-- A record is read from an object whose members set its fields one by one. -/
theorem reads_recordOf {name : String} {start final : σ} {seen : List String}
    {object : List (String × Value)}
    (h : Follows (fieldMember fields depth) layout (level + 1) (start, []) object (final, seen)) :
    Reads (recordOf name fields start (depth + 1)) ((Value.object object).write layout level)
      final := by
  intro blanks rest hb _
  rw [write_object, List.cons_append, recordOf, skipBlanks_append hb (by decide)]
  simp only [if_true, deeper, membersOf_write h]
  rfl

end Records

end CallBook.Json
