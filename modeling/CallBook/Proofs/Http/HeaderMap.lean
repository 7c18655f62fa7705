import Mathlib
import CallBook.Http.Body
import CallBook.Http.HeaderMap
import CallBook.Proofs.OrderedMap

/-!
# What a header map holds

Of the map that a message is put together in, only the values of each name count, and how many
fields there are: the values say which fields there are (`mem_fields`), and who looks for a name
among the fields finds them (`valuesOf_fields`). So every operation is described by what it does to
the values of a name and to the number of fields.
-/

namespace CallBook.Http

namespace HeaderMap

variable {m : HeaderMap} {name : String}

/-! ## Fields and values -/

/-- Fields of one name, in front of others. -/
theorem valuesOf_append_map (name key : String) (values : List (List UInt8)) (fs : List Field) :
    Http.valuesOf name (values.map (Field.mk key) ++ fs)
      = (if key = name then values else []) ++ Http.valuesOf name fs := by
  rw [Http.valuesOf, List.filter_append, List.map_append, List.filter_map, List.map_map]
  by_cases h : key = name
  · simp [h, Http.valuesOf, Function.comp_def]
  · simp [h, Http.valuesOf, Function.comp_def]

/-- Who looks for a name among the fields finds the values that the map has for it. -/
theorem valuesOf_fields (m : HeaderMap) (name : String) :
    Http.valuesOf name m.fields = m.valuesOf name := by
  obtain ⟨entries, hn⟩ := m
  show Http.valuesOf name (entries.flatMap _) = (Entries.lookup name entries).getD []
  induction entries with
  | nil => rfl
  | cons p entries ih =>
    obtain ⟨key, values⟩ := p
    rw [Entries.keys_cons, List.nodup_cons] at hn
    rw [List.flatMap_cons, valuesOf_append_map, ih hn.2, Entries.lookup]
    by_cases h : key = name
    · -- the name does not come again
      subst h
      rw [if_pos rfl, if_pos rfl, Entries.lookup_eq_none_iff.mpr hn.1]
      exact List.append_nil _
    · rw [if_neg h, if_neg h, List.nil_append]

/-- A field is written exactly if its value is one of its name. -/
theorem mem_fields {f : Field} : f ∈ m.fields ↔ f.value ∈ m.valuesOf f.name := by
  rw [← valuesOf_fields, Http.valuesOf, List.mem_map]
  constructor
  · intro h
    exact ⟨f, List.mem_filter.mpr ⟨h, beq_self_eq_true _⟩, rfl⟩
  · rintro ⟨g, hg, hvalue⟩
    obtain ⟨hmem, hname⟩ := List.mem_filter.mp hg
    obtain rfl : g = f := by
      cases g
      cases f
      exact congrArg₂ Field.mk (eq_of_beq hname) hvalue
    exact hmem

/-! ## Values after an operation -/

/-- The values that are inserted replace those of their name, and no others. -/
theorem valuesOf_insert (m : HeaderMap) (key name : String) (values : List (List UInt8)) :
    HeaderMap.valuesOf (m.insert key values) name
      = if key = name then values else m.valuesOf name := by
  rw [valuesOf, OrderedMap.get?_insert]
  split <;> rfl

/-- A value is put behind those of its name. -/
theorem valuesOf_push (m : HeaderMap) (key name : String) (value : List UInt8) :
    HeaderMap.valuesOf (m.push key value) name
      = m.valuesOf name ++ if key = name then [value] else [] := by
  rw [OrderedMap.push, valuesOf_insert]
  by_cases h : key = name
  · rw [if_pos h, if_pos h, h]
    rfl
  · rw [if_neg h, if_neg h, List.append_nil]

/-- A name that is removed has no values, and every other one has its own. -/
theorem valuesOf_swapErase (m : HeaderMap) (key name : String) :
    HeaderMap.valuesOf (m.swapErase key) name = if key = name then [] else m.valuesOf name := by
  rw [valuesOf, OrderedMap.get?_swapErase]
  split <;> rfl

theorem valuesOf_of_contains_eq_false (h : m.contains name = false) : m.valuesOf name = [] := by
  rw [OrderedMap.contains, Option.isSome_eq_false_iff, Option.isNone_iff_eq_none] at h
  rw [valuesOf, h]
  rfl

theorem valuesOf_of_get? {values : List (List UInt8)} (h : m.get? name = some values) :
    m.valuesOf name = values := by
  rw [valuesOf, h]
  rfl

/-- Where no name is kept without values, a name that is found has some. -/
theorem ne_nil_of_get? (hne : ∀ name, m.get? name ≠ some []) {values : List (List UInt8)}
    (h : m.get? name = some values) : values ≠ [] := by
  rintro rfl
  exact hne name h

/-! ## What all fields have in common -/

/-- All fields have a property, which is said of the name and the value. -/
def All (p : String → List UInt8 → Prop) (m : HeaderMap) : Prop :=
  ∀ name, ∀ value ∈ m.valuesOf name, p name value

section

variable {p : String → List UInt8 → Prop}

/-- What all values have in common is kept by values that have it. -/
theorem All.insert (hm : m.All p) {key : String} {values : List (List UInt8)}
    (hvalues : ∀ value ∈ values, p key value) : HeaderMap.All p (m.insert key values) := by
  intro name value hvalue
  rw [valuesOf_insert] at hvalue
  split at hvalue
  next hname => exact hname ▸ hvalues value hvalue
  next => exact hm name value hvalue

/-- What all values have in common is kept by a value that has it. -/
theorem All.push (hm : m.All p) {key : String} {value : List UInt8} (hvalue : p key value) :
    HeaderMap.All p (m.push key value) :=
  hm.insert (List.forall_mem_append.mpr ⟨hm key, List.forall_mem_singleton.mpr hvalue⟩)

/-- What all values have in common is kept when a name is removed. -/
theorem All.swapErase (hm : m.All p) (key : String) : HeaderMap.All p (m.swapErase key) := by
  intro name value hvalue
  rw [valuesOf_swapErase] at hvalue
  split at hvalue
  next => cases hvalue
  next => exact hm name value hvalue

end

/-- A name that is there has values, where that is so of every other name. -/
theorem get?_push_ne (hm : ∀ name, m.get? name ≠ some []) (key : String) (value : List UInt8)
    (name : String) : OrderedMap.get? (m.push key value) name ≠ some [] := by
  rw [OrderedMap.push, OrderedMap.get?_insert]
  split
  next => simp
  next => exact hm name

/-! ## Numbers of fields and of names -/

/-- The fields are as many as the values of all names. -/
theorem length_fields (m : HeaderMap) :
    m.fields.length = (m.entries.map fun p => p.2.length).sum := by
  simp [fields, List.length_flatMap]

/-- The values of one name are put in the place of those it had. -/
theorem length_fields_insert (m : HeaderMap) (key : String) (values : List (List UInt8)) :
    (HeaderMap.fields (m.insert key values)).length + (m.valuesOf key).length
      = m.fields.length + values.length := by
  rw [length_fields, length_fields, valuesOf, OrderedMap.get?, OrderedMap.entries_insert]
  generalize m.entries = entries
  induction entries with
  | nil => simp [Entries.insert, Entries.lookup]
  | cons p entries ih =>
    obtain ⟨k, old⟩ := p
    rw [Entries.insert, Entries.lookup]
    by_cases h : k = key
    · simp only [h, if_true, List.map_cons, List.sum_cons, Option.getD_some]
      omega
    · simp only [h, if_false, List.map_cons, List.sum_cons] at ih ⊢
      omega

/-- A value makes one field. -/
theorem length_fields_push (m : HeaderMap) (key : String) (value : List UInt8) :
    (HeaderMap.fields (m.push key value)).length = m.fields.length + 1 := by
  have h := length_fields_insert m key (m.valuesOf key ++ [value])
  rw [List.length_append, List.length_singleton] at h
  show (HeaderMap.fields (m.insert key (m.valuesOf key ++ [value]))).length = _
  omega

/-- Removing a name adds no field. -/
theorem length_fields_swapErase_le (m : HeaderMap) (key : String) :
    (HeaderMap.fields (m.swapErase key)).length ≤ m.fields.length := by
  have hperm : (HeaderMap.fields (m.swapErase key)).Perm
      ((Entries.erase key m.entries).flatMap fun p => p.2.map (Field.mk p.1)) :=
    (Entries.swapErase_perm key m.entries).flatMap fun _ _ => .refl _
  rw [hperm.length_eq, Entries.erase_eq_filter m.nodup]
  exact (List.filter_sublist.flatMap _).length_le

theorem size_push_le (m : HeaderMap) (key : String) (value : List UInt8) :
    OrderedMap.size (m.push key value) ≤ m.size + 1 :=
  Entries.length_insert_le key _ m.entries

end HeaderMap

end CallBook.Http
