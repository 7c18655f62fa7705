import CallBook.Proofs.Import.CurlCommand

/-!
# How options are written and read

The words of a command are read one after the other, and what a word is depends on the order in
which its readings are tried. `Group` says without any order how an option may be written: its name
and its value as two words, the value right behind a name with one dash, or behind `=` after a name
with two. A URL may stand by itself, some options take a value that is not kept, and what begins
with a dash and is none of these is a flag (`classify_eq_skip_iff`).

Each way of writing is read by its own lemma on `classify`; a group is then read as what it says
whatever follows it (`parts_group`), and a list of groups as the list of what they say.

Main result: `parts_groups`.
-/

namespace CallBook.Import

/-! ## How options are written -/

/-- The kinds of options whose values a call keeps. -/
inductive Kind
  | method
  | header
  | url
  | data

namespace Kind

/-- The names with one dash. -/
def short : Kind → List String
  | method => ["-X"]
  | header => ["-H"]
  | url => []
  | data => ["-d"]

/-- The names with two dashes. -/
def long : Kind → List String
  | method => ["--request"]
  | header => ["--header"]
  | url => ["--url"]
  | data => ["--data", "--data-raw", "--data-binary", "--data-ascii", "--json"]

/-- What an option of the kind says. -/
def part : Kind → (option value : String) → Part
  | method, _, value => .method value
  | header, _, value => .header value
  | url, _, value => .url value
  | data, option, value => dataPart option value

end Kind

/-- The words that give a value to an option. -/
inductive Gives (kind : Kind) : (option value : String) → (words : List String) → Prop
  | apart {option value : String} (h : option ∈ kind.short ++ kind.long) :
      Gives kind option value [option, value]
  | attached {option value : String} (h : option ∈ kind.short) (hne : value ≠ "") :
      Gives kind option value [option ++ value]
  | equals {option value : String} (h : option ∈ kind.long) :
      Gives kind option value [option ++ "=" ++ value]

/-- A word that gives an option its value, or takes the next word for it. -/
def IsOption (word : String) : Prop :=
  word ∈ ignoredOptions ∨ ∃ kind option value more, Gives kind option value (word :: more)

/-- The words of one option, URL or flag, with what they say about the call. -/
inductive Group : (words : List String) → Option Part → Prop
  | option {kind : Kind} {option value : String} {words : List String}
      (h : Gives kind option value words) : Group words (some (kind.part option value))
  | bare {word : String} (h : word = "-" ∨ ¬ ['-'] <+: word.toList) :
      Group [word] (some (.url word))
  | ignored {option : String} (h : option ∈ ignoredOptions) (value : String) :
      Group [option, value] none
  | flag {word : String} (hdash : ['-'] <+: word.toList) (hone : word ≠ "-") (htwo : word ≠ "--")
      (h : ¬ IsOption word) : Group [word] none

theorem isOption_of_mem (kind : Kind) {word : String} (h : word ∈ kind.short ++ kind.long) :
    IsOption word :=
  .inr ⟨kind, word, "", [""], .apart h⟩

/-- A short option with its value attached is an option. -/
theorem isOption_append (kind : Kind) {option : String} (h : option ∈ kind.short)
    (value : String) : IsOption (option ++ value) := by
  by_cases hne : value = ""
  · rw [hne, String.append_empty]
    exact isOption_of_mem kind (List.mem_append_left _ h)
  · exact .inr ⟨kind, option, value, [], .attached h hne⟩

/-- A long option with its value behind an equals sign is an option. -/
theorem isOption_equals (kind : Kind) {option : String} (h : option ∈ kind.long)
    (value : String) : IsOption (option ++ "=" ++ value) :=
  .inr ⟨kind, option, value, [], .equals h⟩

/-! ## One word -/

/-- An attached value is what is left of the word behind the option. -/
theorem eq_append_of_attached? {start word value : String} (h : attached? start word = some value) :
    word = start ++ value := by
  obtain ⟨rest, hrest, rfl⟩ := Option.map_eq_some_iff.mp h
  rw [← String.toList_inj, String.toList_append, String.toList_ofList]
  exact Text.eq_append_of_dropPrefix? hrest

theorem attached?_eq_none {start word : String} (h : ∀ value, word ≠ start ++ value) :
    attached? start word = none := by
  rw [Option.eq_none_iff_forall_ne_some]
  exact fun value hvalue => h value (eq_append_of_attached? hvalue)

/-- The value that is attached to an option of data is found. -/
theorem attachedData?_append {option : String} (h : option ∈ Kind.data.long) (value : String) :
    attachedData? (option ++ "=" ++ value) = some (dataPart option value) := by
  have hnames : ∀ o ∈ Kind.data.long,
      ['-', '-'] <+: o.toList ∧ '=' ∉ o.toList ∧ dataOptions.contains o = true := by decide
  obtain ⟨hdashes, hequals, hknown⟩ := hnames option h
  have hword : (option ++ "=" ++ value).toList = option.toList ++ '=' :: value.toList := by simp
  have hbegins : Text.beginsWith ['-', '-'] (option ++ "=" ++ value).toList = true := by
    rw [Text.beginsWith_iff, hword]
    exact hdashes.trans (List.prefix_append _ _)
  rw [attachedData?, hbegins, hword, Text.splitFirst_append hequals]
  simp only [String.ofList_toList, hknown, if_true]
  rfl

/-- A word with attached data is one of the options of data, an equals sign and the value. -/
theorem eq_append_of_attachedData? {word : String} {part : Part}
    (h : attachedData? word = some part) :
    ∃ option ∈ dataOptions, ∃ value, word = option ++ "=" ++ value := by
  rw [attachedData?] at h
  split at h
  · cases h
  · split at h
    · next name value hsplit =>
      dsimp only at h
      split at h
      · next hknown =>
        refine ⟨String.ofList name, List.contains_iff_mem.mp hknown, String.ofList value, ?_⟩
        rw [← String.toList_inj, (Text.splitFirst_eq_some hsplit).1]
        simp
      · cases h
    · cases h

/-- An option by itself takes the next word. -/
theorem classify_apart {kind : Kind} {option : String} (h : option ∈ kind.short ++ kind.long) :
    classify option = .takes (kind.part option) := by
  simp only [List.mem_append] at h
  cases kind with
  | method | header =>
    simp only [Kind.short, Kind.long, List.mem_singleton] at h
    rcases h with rfl | rfl <;> rfl
  | url =>
    simp only [Kind.short, Kind.long, List.not_mem_nil, List.mem_singleton, false_or] at h
    subst h
    rfl
  | data =>
    simp only [Kind.short, Kind.long, List.mem_cons, List.not_mem_nil, or_false] at h
    rcases h with rfl | rfl | rfl | rfl | rfl | rfl <;> rfl

/-- A short option may have its value attached. -/
theorem classify_attached {kind : Kind} {option value : String} (h : option ∈ kind.short)
    (hne : value ≠ "") : classify (option ++ value) = .part (kind.part option value) := by
  have hvalue : value.toList ≠ [] := by simpa using hne
  cases kind with
  | url => cases h
  | method | header | data =>
    simp only [Kind.short, List.mem_singleton] at h
    subst h
    simp [classify, ← String.toList_inj, attached?, Text.dropPrefix?, Text.beginsWith, hvalue,
      attachedData?, dataOptions, Kind.part]

/-- An option of data may have its value behind an equals sign. -/
theorem classify_data_equals {option : String} (h : option ∈ Kind.data.long) (value : String) :
    classify (option ++ "=" ++ value) = .part (dataPart option value) := by
  have hdata := attachedData?_append h value
  generalize hw : option ++ "=" ++ value = word at hdata ⊢
  have hword : word.toList = option.toList ++ '=' :: value.toList := by simp [← hw]
  -- the names have no `=` in them, so the word is none of them
  have hnot : word ∉ dataOptions := by
    intro hmem
    have hnames : ∀ o ∈ dataOptions, '=' ∉ o.toList := by decide
    exact hnames word hmem (by simp [hword])
  clear hw
  simp only [Kind.long, List.mem_cons, List.not_mem_nil, or_false] at h
  rcases h with rfl | rfl | rfl | rfl | rfl <;>
    simp [classify, ← String.toList_inj, hword, attached?, Text.dropPrefix?, Text.beginsWith,
      hnot, hdata]

/-- A long option may have its value behind an equals sign. -/
theorem classify_equals {kind : Kind} {option : String} (h : option ∈ kind.long) (value : String) :
    classify (option ++ "=" ++ value) = .part (kind.part option value) := by
  cases kind with
  | data => exact classify_data_equals h value
  | method | header | url =>
    simp only [Kind.long, List.mem_singleton] at h
    subst h
    simp [classify, ← String.toList_inj, attached?, Text.dropPrefix?, Text.beginsWith,
      Kind.part, -String.toList_eq_nil_iff]

/-- An option of no meaning here takes its value along. -/
theorem classify_ignored {option : String} (h : option ∈ ignoredOptions) :
    classify option = .skipsNext := by
  have hall : ignoredOptions.map classify = ignoredOptions.map fun _ => .skipsNext := rfl
  exact List.map_inj_left.mp hall option h

/-- No option is passed over as a flag. -/
theorem classify_ne_skip {word : String} (h : IsOption word) : classify word ≠ .skip := by
  obtain hignored | ⟨kind, option, value, more, hgives⟩ := h
  · rw [classify_ignored hignored]
    exact Word.noConfusion
  · cases hgives with
    | apart hname => rw [classify_apart hname]; exact Word.noConfusion
    | attached hname hne => rw [classify_attached hname hne]; exact Word.noConfusion
    | equals hname => rw [classify_equals hname]; exact Word.noConfusion

/-- A word that is no option has no data attached. -/
theorem attachedData?_eq_none {word : String} (h : ¬ IsOption word) :
    attachedData? word = none := by
  rw [Option.eq_none_iff_forall_ne_some]
  intro part hpart
  obtain ⟨option, hmem, value, rfl⟩ := eq_append_of_attachedData? hpart
  rcases List.mem_cons.mp hmem with rfl | hmem
  · rw [String.append_assoc] at h
    exact h (isOption_append .data (List.mem_singleton_self _) _)
  · exact h (isOption_equals .data hmem value)

/-- What is no option has none of the names, and none of the beginnings that a value follows. -/
theorem unread_of_not_isOption {word : String} (h : ¬ IsOption word) (kind : Kind) :
    word ∉ kind.short ++ kind.long ∧
      (∀ option ∈ kind.short, attached? option word = none) ∧
      ∀ option ∈ kind.long, attached? (option ++ "=") word = none := by
  refine ⟨fun hmem => h (isOption_of_mem kind hmem), fun option hmem => attached?_eq_none ?_,
    fun option hmem => attached?_eq_none ?_⟩
  · rintro value rfl
    exact h (isOption_append kind hmem value)
  · rintro value rfl
    exact h (isOption_equals kind hmem value)

/-- A word is a flag exactly if it begins with a dash, is more than one or two dashes, and is no
option. -/
theorem classify_eq_skip_iff {word : String} :
    classify word = .skip ↔
      ['-'] <+: word.toList ∧ word ≠ "-" ∧ word ≠ "--" ∧ ¬ IsOption word := by
  constructor
  · intro h
    have hoption : ¬ IsOption word := fun hoption => classify_ne_skip hoption h
    rw [classify] at h
    split at h
    · cases h
    · next htwo =>
      split at h
      · cases h
      · next hdash =>
        rw [Bool.or_eq_true, not_or, Bool.not_eq_true', Bool.not_eq_false,
          decide_eq_true_eq] at hdash
        exact ⟨Text.beginsWith_iff.mp hdash.1, hdash.2, htwo, hoption⟩
  · rintro ⟨hdash, hone, htwo, h⟩
    -- the tests in the order of the reader, each of which fails
    have hbegins : Text.beginsWith ['-'] word.toList = true := Text.beginsWith_iff.mpr hdash
    have hignored : word ∉ ignoredOptions := fun hmem => h (.inl hmem)
    have hattached : attachedData? word = none := attachedData?_eq_none h
    have hmethod := unread_of_not_isOption h .method
    have hheader := unread_of_not_isOption h .header
    have hurl := unread_of_not_isOption h .url
    have hdata : word ∉ dataOptions ∧ attached? "-d" word = none := by
      have hkind := unread_of_not_isOption h .data
      exact ⟨hkind.1, hkind.2.1 "-d" (List.mem_singleton_self _)⟩
    simp only [Kind.short, Kind.long, List.cons_append, List.nil_append, List.mem_cons,
      List.not_mem_nil, or_false, not_or, forall_eq, String.reduceAppend, IsEmpty.forall_iff,
      implies_true, true_and] at hmethod hheader hurl
    simp [classify, hbegins, hone, htwo, hmethod, hheader, hurl, hdata, hattached, hignored]

/-- A word that is no option is a URL. -/
theorem classify_bare {word : String} (h : word = "-" ∨ ¬ ['-'] <+: word.toList) :
    classify word = .part (.url word) := by
  rcases h with rfl | h
  · rfl
  · have htwo : word ≠ "--" := by
      rintro rfl
      exact h (by decide)
    have hbegins : Text.beginsWith ['-'] word.toList = false := by
      rw [Bool.eq_false_iff, ne_eq, Text.beginsWith_iff]
      exact h
    rw [classify, if_neg htwo, hbegins]
    rfl

/-! ## Groups of words -/

/-- A word that is a part by itself comes first, and the other words follow. -/
theorem parts_of_part {word : String} {part : Part} (h : classify word = .part part)
    (rest : List String) : parts (word :: rest) = (parts rest).map (part :: ·) := by
  rw [parts.eq_def (word :: rest)]
  simp only [h]

/-- A group is read as what it says, whatever follows it. -/
theorem parts_group {words : List String} {said : Option Part} (h : Group words said)
    (rest : List String) :
    parts (words ++ rest) = (parts rest).map (said.toList ++ ·) := by
  have hnothing : (parts rest).map (Option.toList none ++ ·) = parts rest := by
    cases parts rest <;> rfl
  cases h with
  | option h =>
    cases h with
    | apart hname => exact parts_of_takes (classify_apart hname) _ rest
    | attached hname hne => exact parts_of_part (classify_attached hname hne) rest
    | equals hname => exact parts_of_part (classify_equals hname _) rest
  | bare h => exact parts_of_part (classify_bare h) rest
  | @ignored option h value =>
    rw [hnothing, List.cons_append, parts.eq_def (option :: _)]
    simp only [classify_ignored h]
    rfl
  | @flag word hdash hone htwo h =>
    rw [hnothing, List.cons_append, parts.eq_def (word :: _)]
    simp only [classify_eq_skip_iff.mpr ⟨hdash, hone, htwo, h⟩]
    rfl

/-- Groups one after the other are read as the list of what they say. -/
theorem parts_groups {groups : List (List String)} {said : List (Option Part)}
    (h : List.Forall₂ Group groups said) : parts groups.flatten = .ok said.reduceOption := by
  induction h with
  | nil => rfl
  | @cons words part groups said hgroup _ ih =>
    rw [List.flatten_cons, parts_group hgroup, ih]
    cases part <;> rfl

end CallBook.Import
