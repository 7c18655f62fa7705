import CallBook.Proofs.Json.Skipping

/-!
# Records in any of their forms

A record may be written as an object with its fields in any order among other members, or as a list
of its fields. `Supplies` says which values of the fields such a form supplies. What is read after
some of the fields is a function of the set of these fields alone (`known`), because each field has
its own place in the record. The induction over the members (`follows_fields`) or over the items
(`fieldItems_writeItems`) keeps that, whatever the order, and in the end every field is known whose
value was supplied (`reads_recordOf_of_supplies`).
-/

namespace CallBook.Json

/-- What a form of a record supplies for its fields: the members of an object, of which the fields
come at most once each, or the items of a list in the order of the fields, which may end early. -/
inductive Supplies (names : List String) : Value → (String → Option Value) → Prop
  | object {members : List (String × Value)}
      (once : ((Entries.keys members).filter (names.contains ·)).Nodup) :
      Supplies names (.object members) fun name => Entries.lookup name members
  | list {items : List Value} (h : items.length ≤ names.length) :
      Supplies names (.array items) fun name => Entries.lookup name (names.zip items)

section Records

variable {σ : Type} {fields : List (Field σ)} {known : List String → σ} {layout : Layout}
  {depth level : Nat}

/-- A field is read, once some are known, to a record in which it is known as well. -/
def ReadsField (known : List String → σ) (layout : Layout) (depth level : Nat) (field : Field σ)
    (v : Value) : Prop :=
  ∀ seen, Reads (field.read depth (known seen)) (v.write layout level) (known (field.name :: seen))

/-- A field is read from its value if the value can be read, and is known afterwards. -/
theorem readsField_of {α : Type} {name : String} {read : Nat → Reader α} {set : σ → α → σ}
    {v : Value} {a : α} (h : Reads (read depth) (v.write layout level) a)
    (hset : ∀ seen, set (known seen) a = known (name :: seen)) :
    ReadsField known layout depth level (.of name read set) v := by
  intro seen
  rw [show (Field.of name read set).name = name from rfl, ← hset seen]
  exact h.map (set (known seen))

/-! ## Objects -/

/-- A member that is no field is read over. -/
theorem Follows.skip {key : String} (hkey : fields.find? (·.name == key) = none) {v : Value}
    {state final : σ × List String} {more : List (String × Value)}
    (hmore : Follows (fieldMember fields depth) layout level state more final) :
    Follows (fieldMember fields depth) layout level state ((key, v) :: more) final := by
  refine .cons ?_ ((reads_skipValue v).map fun _ => state) hmore
  simp only [fieldMember, hkey]

/-- Members in any order lead to a record in which the fields among them are known. -/
theorem follows_fields {members : List (String × Value)}
    (hread : ∀ field ∈ fields, ∀ v, Entries.lookup field.name members = some v →
      ReadsField known layout depth level field v)
    (seen : List String) (hseen : ∀ name ∈ seen, name ∉ Entries.keys members)
    (once : ((Entries.keys members).filter ((fields.map (·.name)).contains ·)).Nodup) :
    ∃ seen', Follows (fieldMember fields depth) layout level (known seen, seen) members
        (known seen', seen') ∧
      ∀ field ∈ fields, field.name ∈ seen' ↔
        field.name ∈ seen ∨ field.name ∈ Entries.keys members := by
  induction members generalizing seen with
  | nil => exact ⟨seen, .nil _, by simp⟩
  | cons p members ih =>
    obtain ⟨key, v⟩ := p
    rw [Entries.keys_cons] at hseen once
    -- a value behind the first member is that of the whole object, since its key came only once
    have hmore : (∀ field ∈ fields, field.name ∈ Entries.keys members → key ≠ field.name) →
        ∀ field ∈ fields, ∀ w, Entries.lookup field.name members = some w →
          ReadsField known layout depth level field w := by
      intro hother field hfield w hw
      have hmem : field.name ∈ Entries.keys members := by
        by_contra hnot
        rw [Entries.lookup_eq_none_iff.mpr hnot] at hw
        cases hw
      refine hread field hfield w ?_
      rw [Entries.lookup, if_neg (hother field hfield hmem), hw]
    have hlater : ∀ name ∈ seen, name ∉ Entries.keys members :=
      fun name hname h => hseen name hname (List.mem_cons_of_mem _ h)
    cases hkey : fields.find? (·.name == key) with
    | none =>
      have hother : ∀ field ∈ fields, key ≠ field.name := by
        rintro field hfield rfl
        exact List.find?_eq_none.mp hkey field hfield (beq_self_eq_true _)
      have honce := ((List.sublist_cons_self key (Entries.keys members)).filter _).nodup once
      obtain ⟨seen', hfollows, hmem⟩ :=
        ih (hmore fun field hfield _ => hother field hfield) seen hlater honce
      refine ⟨seen', .skip hkey hfollows, ?_⟩
      intro field hfield
      rw [hmem field hfield, Entries.keys_cons, List.mem_cons]
      simp [(hother field hfield).symm]
    | some field =>
      have hfield : field ∈ fields := List.mem_of_find?_eq_some hkey
      obtain rfl : field.name = key := by simpa using List.find?_some hkey
      have hnew : seen.contains field.name = false := by
        simpa using fun h => hseen field.name h List.mem_cons_self
      have hlisted : (fields.map (·.name)).contains field.name = true :=
        List.contains_iff_mem.mpr (List.mem_map_of_mem hfield)
      rw [List.filter_cons_of_pos hlisted, List.nodup_cons] at once
      have hgone : field.name ∉ Entries.keys members :=
        fun h => once.1 (List.mem_filter.mpr ⟨h, hlisted⟩)
      have hother : ∀ other ∈ fields, other.name ∈ Entries.keys members →
          field.name ≠ other.name :=
        fun other _ hmem heq => hgone (heq ▸ hmem)
      obtain ⟨seen', hfollows, hmem⟩ :=
        ih (hmore hother) (field.name :: seen) (List.forall_mem_cons.mpr ⟨hgone, hlater⟩) once.2
      have hv : Entries.lookup field.name ((field.name, v) :: members) = some v := if_pos rfl
      refine ⟨seen', .member hkey hnew (hread field hfield v hv seen) hfollows, ?_⟩
      intro other hother
      rw [hmem other hother, Entries.keys_cons, List.mem_cons, List.mem_cons]
      exact or_assoc.trans or_left_comm

/-! ## Lists -/

/-- One item is read as the next field, wherever it was found. -/
theorem fieldItems_item {field : Field σ} {first : Bool} {state next : σ} {text s rest : List Char}
    (h : ReadsItem (field.read depth state) text next) (he : Ends rest)
    (hs : nextItem first s = .ok (some (text ++ rest))) :
    fieldItems depth (field :: fields) first state s
      = fieldItems depth fields false next rest := by
  have hread := h.reads [] rest blanks_nil he
  rw [List.nil_append] at hread
  rw [fieldItems]
  simp only [hs, hread]

theorem fieldItems_close {first : Bool} (state : σ) {blanks : List Char} (hb : Blanks blanks)
    (rest : List Char) :
    fieldItems depth fields first state (blanks ++ ']' :: rest)
      = .ok (state, blanks ++ ']' :: rest) := by
  cases fields with
  | nil => rfl
  | cons field fields =>
    rw [fieldItems, nextItem, skipBlanks_append hb (by decide)]
    simp

/-- The fields that have an item are known in the end, the last one first. -/
theorem fieldItems_writeItems {items : List Value} (hlength : items.length ≤ fields.length)
    (hread : ∀ p ∈ fields.zip items, ReadsField known layout depth level p.1 p.2)
    {blanks : List Char} (hb : Blanks blanks) (rest : List Char) (seen : List String) :
    fieldItems depth fields false (known seen)
        (Value.writeItems layout level items ++ (blanks ++ ']' :: rest))
      = .ok (known ((Entries.keys ((fields.map (·.name)).zip items)).reverse ++ seen),
          blanks ++ ']' :: rest) := by
  induction items generalizing fields seen with
  | nil =>
    rw [List.zip_nil_right]
    exact fieldItems_close _ hb rest
  | cons v items ih =>
    cases fields with
    | nil => cases hlength
    | cons field fields =>
      obtain ⟨hfield, hmore⟩ := List.forall_mem_cons.mp hread
      have hitem : ReadsItem (field.read depth (known seen)) (v.write layout level)
          (known (field.name :: seen)) :=
        ⟨hfield seen, exists_write_eq_cons v layout level⟩
      rw [writeItems_cons_append, fieldItems_item hitem
        (ends_writeItems items (ends_append hb (ends_bracket rest)))
        (hitem.nextItem_comma (blanks_lineBreak layout level) _),
        ih (Nat.le_of_succ_le_succ hlength) hmore (field.name :: seen)]
      simp

/-- A record is read from the list of its fields, which may end early. -/
theorem reads_recordOf_list {name : String} {items : List Value}
    (hlength : items.length ≤ fields.length)
    (hread : ∀ p ∈ fields.zip items, ReadsField known layout depth (level + 1) p.1 p.2) :
    Reads (recordOf name fields (known []) (depth + 1)) ((Value.array items).write layout level)
      (known (Entries.keys ((fields.map (·.name)).zip items)).reverse) := by
  intro blanks rest hb _
  rw [write_array, List.cons_append, recordOf, skipBlanks_append hb (by decide)]
  simp only [deeper]
  -- the first item stands behind the bracket, each of the others behind a comma
  cases items with
  | nil =>
    have htail : arrayTail layout level [] ++ rest = [] ++ ']' :: rest := rfl
    rw [htail]
    simp only [fieldItems_close _ blanks_nil, closeList_bracket blanks_nil, List.zip_nil_right]
    rfl
  | cons v items =>
    cases fields with
    | nil => cases hlength
    | cons field fields =>
      obtain ⟨hfield, hmore⟩ := List.forall_mem_cons.mp hread
      have hitem : ReadsItem (field.read depth (known [])) (v.write layout (level + 1))
          (known [field.name]) :=
        ⟨hfield [], exists_write_eq_cons v layout (level + 1)⟩
      have hb := blanks_lineBreak layout level
      have htail : arrayTail layout level (v :: items) ++ rest
          = layout.lineBreak (level + 1) ++ (v.write layout (level + 1)
            ++ (Value.writeItems layout (level + 1) items
              ++ (layout.lineBreak level ++ ']' :: rest))) := by
        simp [arrayTail, Value.write]
      rw [htail, fieldItems_item hitem
        (ends_writeItems items (ends_append hb (ends_bracket rest)))
        (hitem.nextItem_first (blanks_lineBreak layout (level + 1)) _),
        fieldItems_writeItems (Nat.le_of_succ_le_succ hlength) hmore hb rest]
      simp only [closeList_bracket hb]
      simp [Except.map]

/-! ## Either form -/

/-- What stands beside a name is found under it. -/
theorem lookup_of_mem_zip {names : List String} (hnames : names.Nodup) {items : List Value}
    {name : String} {v : Value} (h : (name, v) ∈ names.zip items) :
    Entries.lookup name (names.zip items) = some v := by
  refine Entries.lookup_of_mem ?_ h
  rw [Entries.keys, List.zip_eq_zip_take_min, List.map_fst_zip (by simp)]
  exact (List.take_sublist _ _).nodup hnames

/-- A record is read from what supplies its fields: each field that is supplied is known in the
end. -/
theorem reads_recordOf_of_supplies {name : String} {v : Value} {member : String → Option Value}
    {r : σ} (hnames : (fields.map (·.name)).Nodup)
    (h : Supplies (fields.map (·.name)) v member)
    (hread : ∀ field ∈ fields, ∀ w, member field.name = some w →
      ReadsField known layout depth (level + 1) field w)
    (hknown : ∀ seen, (∀ key ∈ fields.map (·.name), key ∈ seen ↔ member key ≠ none) →
      known seen = r) :
    Reads (recordOf name fields (known []) (depth + 1)) (v.write layout level) r := by
  have hkeys : ∀ {key : String} {members : List (String × Value)},
      key ∈ Entries.keys members ↔ Entries.lookup key members ≠ none :=
    Entries.lookup_eq_none_iff.not_left.symm
  cases h with
  | @object members once =>
    obtain ⟨seen, hfollows, hmem⟩ :=
      follows_fields hread [] (fun _ h => absurd h List.not_mem_nil) once
    rw [← hknown seen (List.forall_mem_map.mpr fun field hfield => by
      simp [hmem field hfield, hkeys])]
    exact reads_recordOf hfollows
  | @list items hlength =>
    rw [List.length_map] at hlength
    have hzip : ∀ p ∈ fields.zip items, ReadsField known layout depth (level + 1) p.1 p.2 := by
      rintro ⟨field, w⟩ hp
      refine hread field (List.of_mem_zip hp).1 w (lookup_of_mem_zip hnames ?_)
      rw [List.zip_map_left]
      exact List.mem_map_of_mem hp
    rw [← hknown _ fun key _ => by rw [List.mem_reverse, hkeys]]
    exact reads_recordOf_list hlength hzip

end Records

end CallBook.Json
