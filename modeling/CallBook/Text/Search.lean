/-!
# Searching and splitting

Small list functions on texts: the remainder after a prefix, whether one text occurs in another,
the parts around the first separator, and the fields between separators. Splitting at a character
loses nothing (`concat_eq_flatMap_fields`).
-/

namespace CallBook.Text

/-- What follows `start` in a text that begins with it. -/
def dropPrefix? : (start text : List Char) → Option (List Char)
  | [], text => some text
  | _ :: _, [] => none
  | p :: start, c :: text => if p = c then dropPrefix? start text else none

/-- A text that begins with another has a remainder. -/
theorem dropPrefix?_append (start text : List Char) :
    dropPrefix? start (start ++ text) = some text := by
  induction start with
  | nil => rfl
  | cons p start ih => simp [dropPrefix?, ih]

/-- Only a text that begins with another has a remainder. -/
theorem eq_append_of_dropPrefix? {start text rest : List Char}
    (h : dropPrefix? start text = some rest) : text = start ++ rest := by
  induction start generalizing text with
  | nil => simpa [dropPrefix?] using h
  | cons p start ih =>
    cases text with
    | nil => simp [dropPrefix?] at h
    | cons c text =>
      by_cases hp : p = c
      · simp only [dropPrefix?, hp, if_true] at h
        simp [ih h, hp]
      · simp [dropPrefix?, hp] at h

/-- The text begins with `start`. -/
def beginsWith (start text : List Char) : Bool := (dropPrefix? start text).isSome

theorem beginsWith_iff {start text : List Char} :
    beginsWith start text = true ↔ start <+: text := by
  constructor
  · intro h
    obtain ⟨rest, hr⟩ := Option.isSome_iff_exists.mp h
    exact ⟨rest, (eq_append_of_dropPrefix? hr).symm⟩
  · rintro ⟨rest, rfl⟩
    rw [beginsWith, dropPrefix?_append]
    rfl

/-- The text ends with `tail`. -/
def endsWith (tail text : List Char) : Bool := beginsWith tail.reverse text.reverse

theorem endsWith_iff {tail text : List Char} : endsWith tail text = true ↔ tail <:+ text := by
  rw [endsWith, beginsWith_iff, List.reverse_prefix]

/-- `part` occurs somewhere in the text. -/
def occursIn (part : List Char) : (text : List Char) → Bool
  | [] => part.isEmpty
  | c :: text => beginsWith part (c :: text) || occursIn part text

theorem occursIn_iff {part text : List Char} : occursIn part text = true ↔ part <:+: text := by
  induction text with
  | nil => simp [occursIn]
  | cons c text ih =>
    rw [occursIn, Bool.or_eq_true, beginsWith_iff, ih]
    exact List.infix_cons_iff.symm

/-- The parts before and after the first `sep`. -/
def splitFirst (sep : Char) : (text : List Char) → Option (List Char × List Char)
  | [] => none
  | c :: text =>
    if c = sep then some ([], text)
    else (splitFirst sep text).map fun (before, after) => (c :: before, after)

/-- A text is split at the first separator in it. -/
theorem splitFirst_append {sep : Char} {before : List Char} (h : sep ∉ before)
    (after : List Char) : splitFirst sep (before ++ sep :: after) = some (before, after) := by
  induction before with
  | nil => simp [splitFirst]
  | cons c before ih =>
    rw [List.mem_cons, not_or] at h
    rw [List.cons_append, splitFirst, if_neg (Ne.symm h.1), ih h.2]
    rfl

/-- What stands before the first separator holds none. -/
theorem splitFirst_eq_some {sep : Char} {text before after : List Char}
    (h : splitFirst sep text = some (before, after)) :
    text = before ++ sep :: after ∧ sep ∉ before := by
  induction text generalizing before with
  | nil => cases h
  | cons c text ih =>
    rw [splitFirst] at h
    split at h
    · next hc =>
      cases h
      exact ⟨by rw [hc, List.nil_append], List.not_mem_nil⟩
    · next hc =>
      obtain ⟨⟨more, rest⟩, hsplit, he⟩ := Option.map_eq_some_iff.mp h
      cases he
      obtain ⟨rfl, hnot⟩ := ih hsplit
      exact ⟨rfl, List.not_mem_cons_of_ne_of_not_mem (Ne.symm hc) hnot⟩

theorem splitFirst_eq_none {sep : Char} {text : List Char} (h : splitFirst sep text = none) :
    sep ∉ text := by
  intro hmem
  obtain ⟨before, after, rfl, hnot⟩ := List.eq_append_cons_of_mem hmem
  rw [splitFirst_append hnot] at h
  cases h

/-- The parts before and after the last `sep`. -/
def splitLast (sep : Char) (text : List Char) : Option (List Char × List Char) :=
  (splitFirst sep text.reverse).map fun (after, before) => (before.reverse, after.reverse)

/-- A run of what passes a test is all that stands before the first that does not. -/
theorem span_append_cons {α : Type} {p : α → Bool} {run : List α} {a : α}
    (h : ∀ b ∈ run, p b = true) (ha : p a = false) (rest : List α) :
    (run ++ a :: rest).takeWhile p = run ∧ (run ++ a :: rest).dropWhile p = a :: rest := by
  have hstop : ¬ p a = true := by simp [ha]
  rw [List.takeWhile_append_of_pos h, List.dropWhile_append_of_pos h,
    List.takeWhile_cons_of_neg hstop, List.dropWhile_cons_of_neg hstop]
  exact ⟨List.append_nil run, rfl⟩

/-- A run without a separator is all that stands before the separator or the end behind it. -/
theorem span_ne_append {sep : Char} {run after : List Char} (h : sep ∉ run)
    (hafter : after = [] ∨ ∃ rest, after = sep :: rest) :
    (run ++ after).takeWhile (· ≠ sep) = run ∧ (run ++ after).dropWhile (· ≠ sep) = after := by
  have hall : ∀ c ∈ run, decide (c ≠ sep) = true := by
    intro c hc
    exact decide_eq_true fun he => h (he ▸ hc)
  rcases hafter with rfl | ⟨rest, rfl⟩
  · rw [List.takeWhile_append_of_pos hall, List.dropWhile_append_of_pos hall]
    exact ⟨List.append_nil run, rfl⟩
  · exact span_append_cons hall (by simp) rest

/-- The fields between the separators; always at least one. -/
def fields (isSep : Char → Bool) : (text : List Char) → List (List Char)
  | [] => [[]]
  | c :: text =>
    if isSep c then [] :: fields isSep text
    else
      match fields isSep text with
      | [] => [[c]]
      | first :: more => (c :: first) :: more

/-- Fields set side by side with `sep` between them. -/
def joinFields (sep : List Char) : List (List Char) → List Char
  | [] => []
  | [field] => field
  | field :: more => field ++ sep ++ joinFields sep more

theorem fields_ne_nil (isSep : Char → Bool) (text : List Char) : fields isSep text ≠ [] := by
  cases text with
  | nil => simp [fields]
  | cons c text =>
    simp only [fields]
    split
    · simp
    · split <;> simp

/-- A separator splits the fields before it from those behind it. -/
theorem fields_append {isSep : Char → Bool} {sep : Char} (h : isSep sep = true)
    (a b : List Char) : fields isSep (a ++ sep :: b) = fields isSep a ++ fields isSep b := by
  induction a with
  | nil => simp [fields, h]
  | cons c a ih =>
    rw [List.cons_append, fields, fields, ih]
    by_cases hc : isSep c = true
    · rw [if_pos hc, if_pos hc, List.cons_append]
    · rw [if_neg hc, if_neg hc]
      obtain ⟨first, more, hfields⟩ := List.exists_cons_of_ne_nil (fields_ne_nil isSep a)
      rw [hfields]
      rfl

/-- A text without separators is one field. -/
theorem fields_of_notMem {sep : Char} {text : List Char} (h : sep ∉ text) :
    fields (· == sep) text = [text] := by
  induction text with
  | nil => rfl
  | cons c text ih =>
    rw [List.mem_cons, not_or] at h
    rw [fields, if_neg (by simpa using Ne.symm h.1), ih h.2]

/-- No field holds a separator. -/
theorem notMem_of_mem_fields {sep : Char} {text field : List Char}
    (h : field ∈ fields (· == sep) text) : sep ∉ field := by
  induction text generalizing field with
  | nil =>
    rw [fields, List.mem_singleton] at h
    simp [h]
  | cons c text ih =>
    obtain ⟨first, more, hfields⟩ := List.exists_cons_of_ne_nil (fields_ne_nil (· == sep) text)
    rw [fields, hfields] at h
    rw [hfields] at ih
    split at h
    next =>
      rcases List.mem_cons.mp h with rfl | hmem
      · exact List.not_mem_nil
      · exact ih hmem
    next hc =>
      rcases List.mem_cons.mp h with rfl | hmem
      · rw [List.mem_cons, not_or]
        exact ⟨fun heq => hc (by simp [heq]), ih List.mem_cons_self⟩
      · exact ih (List.mem_cons_of_mem _ hmem)

/-- With a separator at its end a text is its fields, each with a separator behind it. -/
theorem concat_eq_flatMap_fields (sep : Char) (text : List Char) :
    text ++ [sep] = (fields (· == sep) text).flatMap (· ++ [sep]) := by
  induction text with
  | nil => rfl
  | cons c text ih =>
    obtain ⟨first, more, hfields⟩ := List.exists_cons_of_ne_nil (fields_ne_nil (· == sep) text)
    rw [hfields, List.flatMap_cons] at ih
    rw [List.cons_append, ih, fields, hfields]
    split
    next hc => rw [List.flatMap_cons, List.flatMap_cons, ← beq_iff_eq.mp hc]; rfl
    next => rw [List.flatMap_cons]; rfl

/-- The texts of a list with `sep` between them. -/
def joinWith (sep : String) (texts : List String) : String :=
  String.ofList (joinFields sep.toList (texts.map String.toList))

end CallBook.Text
