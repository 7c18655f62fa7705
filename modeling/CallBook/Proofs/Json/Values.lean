import Mathlib.Data.List.Forall2
import CallBook.Proofs.Json.Bounded
import CallBook.Proofs.Text.Trimming

/-!
# Values read back as they were written

Every value that a reader can give and whose numbers are read back from their texts
(`Number.ReadsBack`) is itself read back from its text, in either layout and whatever follows
(`readsItem_value`). The depth of the reader bounds the nesting of the value, so the induction is on
that depth and never looks at the tree: one level is a list of items or of members that are each
read back by themselves.

Integers are read back, and so is the `-0` that is kept as a double (`readsBack_of_isWhole`); other
doubles are left out, because their digits would have to be read back too. For whole texts this says
that writing what was read and reading it again changes nothing, on one line (`parse_compact`) or
with indentation (`parse_pretty`).
-/

namespace CallBook.Json

/-- An integer. The text `-0` stands for one as well, but is kept as a double for its sign. -/
def Number.IsWhole : Number → Prop
  | integer _ => True
  | double x => x = .zero true

instance : DecidablePred Number.IsWhole
  | .integer _ => .isTrue trivial
  | .double x => inferInstanceAs (Decidable (x = .zero true))

namespace Value

mutual

/-- The numbers in the value, from left to right. -/
def numbers : Value → List Number
  | null | bool _ | string _ => []
  | number n => [n]
  | array items => numbersOfItems items
  | object members => numbersOfMembers members

/-- The numbers in a list of values. -/
def numbersOfItems : List Value → List Number
  | [] => []
  | v :: more => numbers v ++ numbersOfItems more

/-- The numbers in the values of members. -/
def numbersOfMembers : List (String × Value) → List Number
  | [] => []
  | (_, v) :: more => numbers v ++ numbersOfMembers more

end

theorem numbersOfItems_eq (items : List Value) : numbersOfItems items = items.flatMap numbers := by
  induction items with
  | nil => rfl
  | cons v items ih => rw [numbersOfItems, List.flatMap_cons, ih]

theorem numbersOfMembers_eq (members : List (String × Value)) :
    numbersOfMembers members = members.flatMap fun p => numbers p.2 := by
  induction members with
  | nil => rfl
  | cons p members ih => rw [numbersOfMembers, List.flatMap_cons, ih]

/-- The numbers of a list are those of its items. -/
theorem mem_numbers_array {items : List Value} {n : Number} :
    n ∈ (array items).numbers ↔ ∃ v ∈ items, n ∈ v.numbers := by
  rw [numbers, numbersOfItems_eq, List.mem_flatMap]

/-- The numbers of an object are those of its members. -/
theorem mem_numbers_object {members : List (String × Value)} {n : Number} :
    n ∈ (object members).numbers ↔ ∃ p ∈ members, n ∈ p.2.numbers := by
  rw [numbers, numbersOfMembers_eq, List.mem_flatMap]

/-- A value that can be read, all of whose numbers are integers. -/
structure Readable (depth : Nat) (v : Value) : Prop extends Bounded depth v where
  whole : ∀ n ∈ v.numbers, n.IsWhole

/-- A readable list takes a level. -/
theorem Readable.exists_depth_of_array {items : List Value} {depth : Nat}
    (h : (array items).Readable depth) : ∃ d, depth = d + 1 :=
  h.toBounded.exists_depth_of_array

/-- A readable object takes a level. -/
theorem Readable.exists_depth_of_object {members : List (String × Value)} {depth : Nat}
    (h : (object members).Readable depth) : ∃ d, depth = d + 1 :=
  h.toBounded.exists_depth_of_object

/-- The items of a readable list are readable one level further in. -/
theorem Readable.of_mem_array {items : List Value} {depth : Nat}
    (h : (array items).Readable (depth + 1)) {v : Value} (hv : v ∈ items) : v.Readable depth where
  toBounded := h.toBounded.of_mem_array hv
  whole n hn := h.whole n (mem_numbers_array.mpr ⟨v, hv, hn⟩)

/-- The members of a readable object are readable one level further in. -/
theorem Readable.of_mem_object {members : List (String × Value)} {depth : Nat}
    (h : (object members).Readable (depth + 1)) {p : String × Value} (hp : p ∈ members) :
    p.2.Readable depth where
  toBounded := h.toBounded.of_mem_object hp
  whole n hn := h.whole n (mem_numbers_object.mpr ⟨p, hp, hn⟩)

/-- A member that is looked up in a readable object is readable one level further in. -/
theorem Readable.of_lookup {members : List (String × Value)} {depth : Nat}
    (h : (object members).Readable (depth + 1)) {key : String} {v : Value}
    (hv : Entries.lookup key members = some v) : v.Readable depth := by
  rw [Entries.lookup_eq_find?, Option.map_eq_some_iff] at hv
  obtain ⟨p, hp, rfl⟩ := hv
  exact h.of_mem_object (List.mem_of_find?_eq_some hp)

/-- Readable items make a readable list. -/
theorem readable_array {items : List Value} {depth : Nat}
    (h : ∀ v ∈ items, v.Readable depth) : (array items).Readable (depth + 1) where
  toBounded := bounded_array fun v hv => (h v hv).toBounded
  whole n hn := by
    obtain ⟨v, hv, hmem⟩ := mem_numbers_array.mp hn
    exact (h v hv).whole n hmem

/-- Readable members under different keys make a readable object. -/
theorem readable_object {members : List (String × Value)} {depth : Nat}
    (hn : (Entries.keys members).Nodup) (h : ∀ p ∈ members, p.2.Readable depth) :
    (object members).Readable (depth + 1) where
  toBounded := bounded_object hn fun p hp => (h p hp).toBounded
  whole n hn := by
    obtain ⟨p, hp, hmem⟩ := mem_numbers_object.mp hn
    exact (h p hp).whole n hmem

end Value

/-! ## Lists -/

section Items

variable {α : Type} {read : Reader α} {layout : Layout} {depth : Nat}

/-- An item is taken for `a`, and its text can be told from blanks and from the end of a list. -/
structure ReadsItem (read : Reader α) (text : List Char) (a : α) : Prop where
  reads : Reads read text a
  head : ∃ c more, text = c :: more ∧ isJsonBlank c = false ∧ c ≠ ']'

theorem ends_bracket (rest : List Char) : Ends (']' :: rest) := Or.inr (Or.inl rfl)

/-- The first item of a list begins behind the bracket, blanks passed over. -/
theorem ReadsItem.nextItem_first {text : List Char} {a : α} (h : ReadsItem read text a)
    {blanks : List Char} (hb : Blanks blanks) (rest : List Char) :
    nextItem true (blanks ++ (text ++ rest)) = .ok (some (text ++ rest)) := by
  obtain ⟨c, more, rfl, hblank, hbracket⟩ := h.head
  rw [List.cons_append, nextItem, skipBlanks_append hb hblank]
  simp [hbracket]

/-- A later item begins behind the comma, blanks passed over. -/
theorem ReadsItem.nextItem_comma {text : List Char} {a : α} (h : ReadsItem read text a)
    {blanks : List Char} (hb : Blanks blanks) (rest : List Char) :
    nextItem false (',' :: (blanks ++ (text ++ rest))) = .ok (some (text ++ rest)) := by
  obtain ⟨c, more, rfl, hblank, hbracket⟩ := h.head
  rw [List.cons_append, nextItem, skipBlanks_cons (by decide)]
  simp [skipBlanks_append hb hblank, hbracket]

/-- One item is read, wherever it was found. -/
theorem ReadsItem.items {text : List Char} {a : α} (h : ReadsItem read text a) {fuel : Nat}
    {first : Bool} {s rest : List Char} (he : Ends rest)
    (hs : nextItem first s = .ok (some (text ++ rest))) :
    items read (fuel + 1) first s
      = (items read fuel false rest).map fun (more, rest) => (a :: more, rest) := by
  have hread := h.reads [] rest blanks_nil he
  rw [List.nil_append] at hread
  rw [Json.items]
  simp only [hs, hread]
  cases Json.items read fuel false rest <;> rfl

/-- No item is found where the list is closed. -/
theorem items_close {fuel : Nat} {first : Bool} {blanks : List Char} (hb : Blanks blanks)
    (rest : List Char) :
    items read (fuel + 1) first (blanks ++ ']' :: rest) = .ok ([], blanks ++ ']' :: rest) := by
  rw [items, nextItem, skipBlanks_append hb (by decide)]
  simp

/-- The closing bracket is found behind blanks. -/
theorem closeList_bracket {blanks : List Char} (hb : Blanks blanks) (rest : List Char) :
    closeList (blanks ++ ']' :: rest) = .ok rest := by
  rw [closeList, skipBlanks_append hb (by decide)]
  rfl

/-- The next item stands behind a comma and a line break. -/
theorem writeItems_cons_append (v : Value) (more : List Value) (rest : List Char) :
    Value.writeItems layout depth (v :: more) ++ rest
      = ',' :: (layout.lineBreak depth
        ++ (v.write layout depth ++ (Value.writeItems layout depth more ++ rest))) := by
  simp [Value.writeItems]

/-- What is written behind an item does not go on with it. -/
theorem ends_writeItems (more : List Value) {rest : List Char} (he : Ends rest) :
    Ends (Value.writeItems layout depth more ++ rest) := by
  cases more with
  | nil => exact he
  | cons v more =>
    rw [writeItems_cons_append]
    exact ends_comma _

/-- Written values are read as a list, item by item. -/
abbrev ReadsItems (read : Reader α) (layout : Layout) (depth : Nat) : List Value → List α → Prop :=
  List.Forall₂ fun v a => ReadsItem read (v.write layout depth) a

/-- The items after the first. -/
theorem items_writeItems {more : List Value} {list : List α}
    (h : ReadsItems read layout depth more list) {blanks : List Char} (hb : Blanks blanks)
    (rest : List Char) :
    ∀ fuel, more.length < fuel →
      items read fuel false (Value.writeItems layout depth more ++ (blanks ++ ']' :: rest))
        = .ok (list, blanks ++ ']' :: rest) := by
  induction h with
  | nil =>
    intro fuel hf
    obtain ⟨fuel, rfl⟩ := Nat.exists_eq_succ_of_ne_zero (Nat.ne_of_gt hf)
    exact items_close hb rest
  | @cons v a more list hv hmore ih =>
    intro fuel hf
    obtain ⟨fuel, rfl⟩ := Nat.exists_eq_succ_of_ne_zero (Nat.ne_of_gt (Nat.zero_lt_of_lt hf))
    rw [List.length_cons] at hf
    rw [writeItems_cons_append, hv.items
      (ends_writeItems more (ends_append hb (ends_bracket rest)))
      (hv.nextItem_comma (blanks_lineBreak layout depth) _),
      ih fuel (Nat.lt_of_succ_lt_succ hf)]
    rfl

/-- The items of a list are no more than the characters that they are written with. -/
theorem length_le_writeItems (layout : Layout) (depth : Nat) (more : List Value) :
    more.length ≤ (Value.writeItems layout depth more).length := by
  induction more with
  | nil => exact Nat.le_refl _
  | cons v more ih =>
    simp only [Value.writeItems, List.length_cons, List.length_append]
    omega

/-- An array as it is written, from after its opening bracket on. -/
def arrayTail (layout : Layout) (depth : Nat) (items : List Value) : List Char :=
  ((Value.array items).write layout depth).tail

theorem write_array (items : List Value) :
    (Value.array items).write layout depth = '[' :: arrayTail layout depth items := by
  cases items <;> rfl

/-- Reading a written array gives what its items are read as. -/
theorem listOf_write {values : List Value} {list : List α}
    (h : ReadsItems read layout (depth + 1) values list) (rest : List Char) :
    listOf read (arrayTail layout depth values ++ rest) = .ok (list, rest) := by
  rw [listOf]
  cases h with
  | nil =>
    have htail : arrayTail layout depth [] ++ rest = [] ++ ']' :: rest := rfl
    rw [htail, items_close blanks_nil rest]
    simp only [closeList_bracket blanks_nil]
    rfl
  | @cons v a more list hv hmore =>
    have hb := blanks_lineBreak layout depth
    have htail : arrayTail layout depth (v :: more) ++ rest
        = layout.lineBreak (depth + 1) ++ (v.write layout (depth + 1)
          ++ (Value.writeItems layout (depth + 1) more
            ++ (layout.lineBreak depth ++ ']' :: rest))) := by
      simp [arrayTail, Value.write]
    have hlen : more.length < (arrayTail layout depth (v :: more) ++ rest).length := by
      have := length_le_writeItems layout (depth + 1) more
      rw [htail]
      simp only [List.length_append, List.length_cons]
      omega
    rw [htail] at hlen ⊢
    rw [hv.items (ends_writeItems more (ends_append hb (ends_bracket rest)))
      (hv.nextItem_first (blanks_lineBreak layout (depth + 1)) _),
      items_writeItems hmore hb rest _ hlen]
    simp only [Except.map, closeList_bracket hb]

end Items

/-! ## Numbers -/

/-- The number is read back from its text, and the text can be told from blanks and from the end of
a list. -/
def Number.ReadsBack (n : Number) : Prop :=
  ∀ depth, ReadsItem (value depth) n.text (.number n)

/-- An integer of 64 bits is read back as itself. -/
theorem readsBack_integer {n : Int} (h : Number.fits n = true) :
    (Number.integer n).ReadsBack := by
  intro depth
  refine ⟨reads_value_integer depth h, ?_⟩
  obtain ⟨c, more, hcs, hc⟩ := exists_decimalText_eq_cons n.natAbs
  show ∃ c more, Number.integerText n = c :: more ∧ _
  rw [Number.integerText]
  split
  · exact ⟨'-', _, rfl, by decide⟩
  · exact ⟨c, more, hcs, isJsonBlank_of_isDigit hc, ne_of_isDigit hc rfl⟩

/-- The text `-0.0` is read as far as its last digit, whatever ends the value behind it. -/
theorem numberBody_negativeZero {rest : List Char} (he : Ends rest) :
    numberBody true ('0' :: '.' :: '0' :: rest) = .ok (.double (.zero true), rest) := by
  have hzero : ∀ c ∈ ['0'], Text.isDigit c = true := List.forall_mem_singleton.mpr rfl
  -- the one digit behind the point is read as a significand of its own
  have hrun : significand 0 ('0' :: rest) = (0, rest) :=
    significand_digits hzero he.noDigit 0 (by decide)
  have hlength : ('0' :: rest).length - rest.length = 1 := by
    rw [List.length_cons]
    omega
  have hdouble : ∀ s, double true 0 (((0 : Nat) : Int) - ((1 : Nat) : Int)) s
      = .ok (.double (.zero true), s) := by
    intro s
    have hround : Binary64.ofDecimal true 0 (((0 : Nat) : Int) - ((1 : Nat) : Int))
        = some (.zero true) := by decide
    rw [double, hround]
  have hstop : rest.dropWhile Text.isDigit = rest ∧
      optionalExponent true 0 (((0 : Nat) : Int) - ((1 : Nat) : Int)) rest
        = .ok (.double (.zero true), rest) := by
    cases rest with
    | nil => exact ⟨rfl, hdouble []⟩
    | cons c rest =>
      obtain ⟨hdigit, -, hlower, hupper⟩ := he.cases
      have hletter : ¬ (decide (c = 'e') || decide (c = 'E')) = true := by simp [hlower, hupper]
      refine ⟨List.dropWhile_cons_of_neg (by rw [hdigit]; decide), ?_⟩
      rw [optionalExponent, if_neg hletter]
      exact hdouble (c :: rest)
  show fraction true 0 ((0 : Nat) : Int) ('0' :: rest) = _
  rw [fraction, if_pos (by decide), hrun]
  simp only [hlength, hstop]

/-- Negative zero is written as a double and read back as one. -/
theorem readsBack_negativeZero : (Number.double (.zero true)).ReadsBack := by
  intro depth
  refine ⟨?_, '-', _, rfl, by decide⟩
  intro blanks rest hb he
  show value depth (blanks ++ '-' :: '0' :: '.' :: '0' :: rest) = _
  rw [value, skipBlanks_append hb (by decide)]
  simp [numberBody_negativeZero he, Except.map]

/-- A whole number of the kind that a reader gives is read back as itself. -/
theorem readsBack_of_isWhole {n : Number} (h : n.IsWhole) (hfits : n.Fits) : n.ReadsBack := by
  cases n with
  | integer n => exact readsBack_integer hfits
  | double x =>
    rw [show x = .zero true from h]
    exact readsBack_negativeZero

/-! ## Values -/

section Values

variable {layout : Layout} {depth level : Nat}

/-- A value that is nested no deeper than the reader goes is read back if its numbers are. -/
theorem readsItem_value {v : Value} (h : v.Bounded depth)
    (hn : ∀ n ∈ v.numbers, n.Fits → n.ReadsBack) :
    ReadsItem (value depth) (v.write layout level) v := by
  induction depth using Nat.strongRecOn generalizing v level with
  | ind depth ih =>
    cases v with
    | null =>
      refine ⟨?_, 'n', _, rfl, by decide⟩
      intro blanks rest hb _
      rw [Value.write, show "null".toList = 'n' :: "ull".toList from rfl, List.cons_append, value,
        skipBlanks_append hb (by decide)]
      rfl
    | bool b =>
      cases b with
      | true =>
        refine ⟨?_, 't', _, rfl, by decide⟩
        intro blanks rest hb _
        rw [Value.write, show "true".toList = 't' :: "rue".toList from rfl, List.cons_append,
          value, skipBlanks_append hb (by decide)]
        rfl
      | false =>
        refine ⟨?_, 'f', _, rfl, by decide⟩
        intro blanks rest hb _
        rw [Value.write, show "false".toList = 'f' :: "alse".toList from rfl, List.cons_append,
          value, skipBlanks_append hb (by decide)]
        rfl
    | string text => exact ⟨reads_value_string depth text, '"', _, rfl, by decide⟩
    | number n =>
      have hfits : n.Fits := by cases n <;> exact h.wellFormed
      exact hn n (List.mem_singleton_self n) hfits depth
    | array list =>
      -- the items are one level deeper, where the values that hold them cannot be
      obtain ⟨depth, rfl⟩ := h.exists_depth_of_array
      have hitems : ReadsItems (value depth) layout (level + 1) list list :=
        List.forall₂_same.mpr fun v hv => ih depth (Nat.lt_succ_self depth) (h.of_mem_array hv)
          fun n hmem => hn n (Value.mem_numbers_array.mpr ⟨v, hv, hmem⟩)
      refine ⟨?_, '[', _, write_array list, by decide⟩
      intro blanks rest hb _
      rw [write_array, List.cons_append, value, skipBlanks_append hb (by decide)]
      simp [listOf_write hitems, Text.isDigit, Except.map]
    | object list =>
      -- the keys differ, so putting the members in one by one gives the same object
      obtain ⟨depth, rfl⟩ := h.exists_depth_of_object
      have hm : Follows (insertMember (value depth)) layout (level + 1) .empty
          (list.map fun p => (p.1, id p.2)) (OrderedMap.map ⟨list, h.wellFormed.1⟩ id) :=
        @follows_entries _ _ _ _ _ id id ⟨list, h.wellFormed.1⟩ fun p hp =>
          (ih depth (Nat.lt_succ_self depth) (h.of_mem_object hp)
            fun n hmem => hn n (Value.mem_numbers_object.mpr ⟨p, hp, hmem⟩)).reads
      rw [OrderedMap.map_id, show (list.map fun p => (p.1, id p.2)) = list from List.map_id list]
        at hm
      refine ⟨?_, '{', _, write_object list, by decide⟩
      intro blanks rest hb _
      rw [write_object, List.cons_append, value, skipBlanks_append hb (by decide)]
      simp [membersOf_write hm, Text.isDigit, Except.map]

/-- A value of integers that is nested no deeper than the reader goes is read back. -/
theorem reads_value {v : Value} (h : v.Readable depth) :
    Reads (value depth) (v.write layout level) v :=
  (readsItem_value h.toBounded fun n hn =>
    readsBack_of_isWhole (h.whole n hn)).reads

end Values

/-! ## Whole texts -/

/-- A document that was read begins with its value. -/
theorem exists_value_of_parse {text : String} {v : Value} (h : parse text = .ok v) :
    ∃ rest, value maxDepth text.toList = .ok (v, rest) := by
  unfold parse readText readChars at h
  split at h
  · cases h
  · next a hread =>
    cases h
    split at hread
    · cases hread
    · next a rest hvalue =>
      split at hread
      · cases hread
        exact ⟨rest, hvalue⟩
      · cases hread

/-- A document that was read is well formed and not too deep. -/
theorem bounded_of_parse {text : String} {v : Value} (h : parse text = .ok v) :
    v.Bounded maxDepth := by
  obtain ⟨rest, hvalue⟩ := exists_value_of_parse h
  exact bounded_of_value hvalue

/-- A document that was read can be written and read again if its numbers are whole. -/
theorem readable_of_parse {text : String} {v : Value} (h : parse text = .ok v)
    (hn : ∀ n ∈ v.numbers, n.IsWhole) : v.Readable maxDepth :=
  ⟨bounded_of_parse h, hn⟩

/-- What is written on one line is read back. -/
theorem parse_compact {v : Value} (h : v.Readable maxDepth) : parse v.compact = .ok v := by
  rw [parse, readText, Value.compact, String.toList_ofList, (reads_value h).readChars]

/-- What is written with indentation is read back. -/
theorem parse_pretty {v : Value} (h : v.Bounded maxDepth) (hn : ∀ n ∈ v.numbers, n.IsWhole) :
    parse v.pretty = .ok v := by
  have hreads : Reads (value maxDepth) (v.write .pretty 0) v :=
    (readsItem_value h fun n hmem => readsBack_of_isWhole (hn n hmem)).reads
  rw [parse, readText, Value.pretty, String.toList_ofList, hreads.readChars]

/-- No value begins with white space, not even with white space that JSON does not skip. -/
theorem not_blank_of_parse {text : String} {v : Value} (h : parse text = .ok v) :
    Text.isBlankText text.toList = false := by
  obtain ⟨rest, hvalue⟩ := exists_value_of_parse h
  by_contra hblank
  rw [Bool.not_eq_false, Text.isBlankText, List.all_eq_true] at hblank
  rw [value.eq_def] at hvalue
  dsimp only at hvalue
  split at hvalue
  · cases hvalue
  · next c more hskip =>
    -- the first character that is not skipped would have to be blank, and no value begins so
    have hmem : c ∈ text.toList := by
      refine (List.dropWhile_suffix isJsonBlank).subset ?_
      rw [show text.toList.dropWhile isJsonBlank = c :: more from hskip]
      exact List.mem_cons_self
    have hc := hblank c hmem
    have hne : ∀ d, Text.isBlank d = false → c ≠ d := by
      rintro d hd rfl
      rw [hc] at hd
      cases hd
    rw [if_neg (hne 'n' rfl), if_neg (hne 't' rfl), if_neg (hne 'f' rfl), if_neg (hne '-' rfl),
      Text.isDigit_of_isBlank hc, if_neg (by decide), if_neg (hne '"' rfl)] at hvalue
    simp [hne '[' rfl, hne '{' rfl] at hvalue

end CallBook.Json
