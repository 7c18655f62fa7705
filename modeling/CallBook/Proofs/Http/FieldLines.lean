import CallBook.Http.Head
import CallBook.Proofs.Text.Utf8
import CallBook.Proofs.Url.WebHost
import CallBook.Text.Search

/-!
# The lines of header fields

A header is a name and a value, and it becomes a field if its name is a token and its value holds no
control; so a header that is not `Broken` has a field unless its name is of great length
(`exists_field`), and only such a header has one (`field_ok`).

The fields of headers are clean: their names are tokens in lower case, and nothing in their values
ends a line. The lines of clean fields can be told apart. Read back one by one (`fieldLine_line`,
`fieldLines_lines`), they are the fields that they were written for, and nothing is left of them in
front of the empty line (`fieldLines_block`).
-/

namespace CallBook.Http

open Text (lowerAscii)
open Text.Utf8 (encode encode_ascii)

/-! ## Headers and fields -/

/-- The characters that separate the parts of a message. -/
def delimiters : List Char :=
  ['"', '(', ')', ',', '/', ':', ';', '<', '=', '>', '?', '@', '[', '\\', ']', '{', '}']

/-- A token: one or more visible ASCII characters that are no delimiters. -/
structure IsToken (name : String) : Prop where
  nonempty : name ≠ ""
  visible : ∀ c ∈ name.toList, Url.Visible c ∧ c ∉ delimiters

/-- A control character other than the tab. -/
def IsControl (b : UInt8) : Prop := (b.toNat < 32 ∧ b ≠ 9) ∨ b.toNat = 127

/-- A header that no message can carry. -/
def Broken (h : String × String) : Prop := ¬ IsToken h.1 ∨ ∃ b ∈ encode h.2.toList, IsControl b

/-- A field as it is written: name, colon, blank and value. -/
def Field.content (f : Field) : List UInt8 := encode f.name.toList ++ 58 :: 32 :: f.value

/-- The line of a field. -/
def Field.line (f : Field) : List UInt8 := f.content ++ [13, 10]

/-- A field as it is read back: blanks around the value are no part of it. -/
def Field.asRead (f : Field) : Field := ⟨f.name, trimBlanks f.value⟩

/-! ## Names and values -/

theorem toNat_lt_of_isTokenChar {c : Char} (h : isTokenChar c = true) : c.toNat < 128 := by
  simp only [isTokenChar, Bool.or_eq_true] at h
  rcases h with (hletter | hdigit) | hmark
  · exact Text.Utf8.toNat_lt_of_isAsciiLetter hletter
  · exact Text.Utf8.toNat_lt_of_isDigit hdigit
  · have hmarks : ∀ d ∈ ['!', '#', '$', '%', '&', '\'', '*', '+', '-', '.', '^', '_', '\x60', '|',
        '~'], d.toNat < 128 := List.all_iff_forall_prop.mp (by decide)
    exact hmarks c (List.contains_iff_mem.mp hmark)

/-- What holds of the ASCII characters of tokens, one by one, holds of the characters of tokens. -/
theorem forall_isTokenChar {p : Char → Prop}
    (h : ∀ n < 128, isTokenChar (Char.ofNat n) = true → p (Char.ofNat n)) {c : Char}
    (hc : isTokenChar c = true) : p c :=
  Text.Utf8.forall_ascii (p := fun c => isTokenChar c = true → p c) h
    (toNat_lt_of_isTokenChar hc) hc

/-- The characters of a token are the visible ones that are no delimiters. -/
theorem isTokenChar_iff {c : Char} : isTokenChar c = true ↔ Url.Visible c ∧ c ∉ delimiters := by
  constructor
  · exact forall_isTokenChar (p := fun c => Url.Visible c ∧ c ∉ delimiters) (by decide)
  · rintro ⟨hvisible, hdelimiter⟩
    exact Text.Utf8.forall_ascii
      (p := fun c => Url.Visible c → c ∉ delimiters → isTokenChar c = true) (by decide)
      (Nat.lt_succ_of_lt hvisible.2) hvisible hdelimiter

/-- The lower case of a character of a token is one as well, and has no other lower case. -/
theorem isTokenChar_toLower {c : Char} (h : isTokenChar c = true) :
    isTokenChar c.toLower = true ∧ c.toLower.toLower = c.toLower :=
  forall_isTokenChar
    (p := fun c => isTokenChar c.toLower = true ∧ c.toLower.toLower = c.toLower) (by decide) h

/-- A name is taken exactly if it is a token and not too long. -/
theorem isFieldName_iff {name : String} :
    isFieldName name = true ↔ IsToken name ∧ name.length ≤ longestName := by
  have hempty : name.isEmpty = false ↔ name ≠ "" := by
    rw [Bool.eq_false_iff, Ne, String.isEmpty_iff]
  simp only [isFieldName, Bool.and_eq_true, Bool.not_eq_true', decide_eq_true_eq,
    List.all_eq_true, isTokenChar_iff, hempty]
  constructor
  · rintro ⟨⟨hne, hlength⟩, hall⟩
    exact ⟨⟨hne, hall⟩, hlength⟩
  · rintro ⟨htoken, hlength⟩
    exact ⟨⟨htoken.nonempty, hlength⟩, htoken.visible⟩

/-- A byte may stand in a value exactly if it is no control. -/
theorem isFieldByte_iff {b : UInt8} : isFieldByte b = true ↔ ¬ IsControl b := by
  simp only [isFieldByte, IsControl, Bool.or_eq_true, Bool.and_eq_true, decide_eq_true_eq]
  constructor
  · rintro (rfl | hhigh)
    · decide
    · omega
  · intro h
    by_cases htab : b = 9
    · exact .inl htab
    · have hlow : ¬ b.toNat < 32 := fun hlt => h (.inl ⟨hlt, htab⟩)
      exact .inr ⟨Nat.le_of_not_lt hlow, fun hdel => h (.inr hdel)⟩

/-- A value is taken exactly if none of its bytes is a control. -/
theorem isFieldValue_iff {value : String} :
    isFieldValue value = true ↔ ∀ b ∈ encode value.toList, ¬ IsControl b := by
  simp only [isFieldValue, List.all_eq_true, isFieldByte_iff]

/-- A field that can be told from what stands around it. -/
structure Field.Clean (f : Field) : Prop where
  nonempty : f.name.toList ≠ []
  name : ∀ c ∈ f.name.toList, isTokenChar c = true ∧ c.toLower = c
  value : ∀ b ∈ f.value, isFieldByte b = true

/-- What becomes of one header, if anything does. -/
theorem field_ok {name value : String} {f : Field} (h : field name value = .ok f) :
    ¬ Broken (name, value) ∧ f = ⟨lowerAscii name, encode value.toList⟩ ∧ f.Clean := by
  unfold field at h
  split at h
  next => cases h
  next hname =>
    split at h
    next => cases h
    next hvalue =>
      cases h
      rw [Bool.not_eq_true, Bool.not_eq_false'] at hname hvalue
      have htoken := (isFieldName_iff.mp hname).1
      have hbytes := isFieldValue_iff.mp hvalue
      refine ⟨?_, rfl, ?_, ?_, fun b hb => isFieldByte_iff.mpr (hbytes b hb)⟩
      · rintro (hbad | ⟨b, hb, hcontrol⟩)
        · exact hbad htoken
        · exact hbytes b hb hcontrol
      · rw [lowerAscii, String.toList_ofList, Ne, List.map_eq_nil_iff, String.toList_eq_nil_iff]
        exact htoken.nonempty
      · intro c hc
        rw [lowerAscii, String.toList_ofList] at hc
        obtain ⟨d, hd, rfl⟩ := List.mem_map.mp hc
        exact isTokenChar_toLower (isTokenChar_iff.mpr (htoken.visible d hd))

theorem exists_field_of_valid {name value : String} (hname : isFieldName name = true)
    (hvalue : isFieldValue value = true) : ∃ f, field name value = .ok f :=
  ⟨_, by rw [field, hname, hvalue]; rfl⟩

/-- Only a broken header or one with a name of great length has no field. -/
theorem exists_field {h : String × String} (hsound : ¬ Broken h)
    (hlength : h.1.length ≤ longestName) : ∃ f, field h.1 h.2 = .ok f := by
  rw [Broken, not_or, not_not, not_exists] at hsound
  exact exists_field_of_valid (isFieldName_iff.mpr ⟨hsound.1, hlength⟩)
    (isFieldValue_iff.mpr fun b hb hcontrol => hsound.2 b ⟨hb, hcontrol⟩)

/-! ## What stands in a clean field -/

/-- The bytes of a text of visible characters and spaces may stand in a value. -/
theorem isFieldByte_of_printable {s : List Char} (h : ∀ c ∈ s, 32 ≤ c.toNat ∧ c.toNat < 127) :
    ∀ b ∈ encode s, isFieldByte b = true := by
  have hall : ∀ n < 127, 32 ≤ n → isFieldByte (UInt8.ofNat n) = true := by decide
  rw [encode_ascii fun c hc => Nat.lt_succ_of_lt (h c hc).2]
  intro b hb
  obtain ⟨c, hc, rfl⟩ := List.mem_map.mp hb
  exact hall c.toNat (h c hc).2 (h c hc).1

theorem isFieldByte_of_visible {s : List Char} (h : ∀ c ∈ s, Url.Visible c) :
    ∀ b ∈ encode s, isFieldByte b = true :=
  isFieldByte_of_printable fun c hc => ⟨Nat.le_of_lt (h c hc).1, (h c hc).2⟩

/-- No byte of a clean field ends its line. -/
theorem Field.Clean.isFieldByte_of_mem {f : Field} (hf : f.Clean) :
    ∀ b ∈ f.content, isFieldByte b = true := by
  intro b hb
  rcases List.mem_append.mp hb with hname | hvalue
  · exact isFieldByte_of_visible (fun c hc => (isTokenChar_iff.mp (hf.name c hc).1).1) b hname
  · rcases List.mem_cons.mp hvalue with rfl | hvalue
    · decide
    · rcases List.mem_cons.mp hvalue with rfl | hvalue
      · decide
      · exact hf.value b hvalue

/-! ## Reading the lines -/

/-- The name of a field is read up to its colon, if it is a token in lower case. -/
theorem fieldName_encode {name : List Char} (hne : name ≠ [])
    (h : ∀ c ∈ name, isTokenChar c = true ∧ c.toLower = c) (rest : List UInt8) :
    fieldName (encode name ++ 58 :: rest) = .ok (String.ofList name, rest) := by
  have hbyte : ∀ c ∈ name, (UInt8.ofNat c.toNat).toNat = c.toNat := fun c hc =>
    Text.Utf8.toNat_ofNat (Nat.lt_trans (toNat_lt_of_isTokenChar (h c hc).1) (by decide))
  rw [encode_ascii fun c hc => toNat_lt_of_isTokenChar (h c hc).1]
  have htoken : ∀ b ∈ name.map (fun c => UInt8.ofNat c.toNat), isTokenByte b = true := by
    intro b hb
    obtain ⟨c, hc, rfl⟩ := List.mem_map.mp hb
    simp [isTokenByte, hbyte c hc, Char.ofNat_toNat, (h c hc).1,
      toNat_lt_of_isTokenChar (h c hc).1]
  obtain ⟨htake, hdrop⟩ := Text.span_append_cons htoken (by decide : isTokenByte 58 = false) rest
  have hback : (name.map fun c => UInt8.ofNat c.toNat).map (fun b => (Char.ofNat b.toNat).toLower)
      = name := by
    rw [List.map_map]
    refine (List.map_congr_left fun c hc => ?_).trans (List.map_id name)
    simp only [Function.comp_apply, hbyte c hc, Char.ofNat_toNat]
    exact (h c hc).2
  have hnonempty : (name.map fun c => UInt8.ofNat c.toNat).isEmpty = false := by
    simpa using hne
  unfold fieldName
  dsimp only
  rw [htake, hdrop, hback, hnonempty]
  rfl

/-- The line of a clean field is read back as that field, whatever follows its end. -/
theorem fieldLine_line {f : Field} (hf : f.Clean) (rest : List UInt8) :
    fieldLine (f.line ++ rest) = .ok (f.asRead, rest) := by
  have hvalue : ∀ b ∈ 32 :: f.value, isFieldByte b = true := by
    rw [List.forall_mem_cons]
    exact ⟨by decide, hf.value⟩
  have hshape : f.line ++ rest
      = encode f.name.toList ++ 58 :: ((32 :: f.value) ++ 13 :: 10 :: rest) := by
    simp [Field.line, Field.content]
  obtain ⟨htake, hdrop⟩ :=
    Text.span_append_cons hvalue (by decide : isFieldByte 13 = false) (10 :: rest)
  have htrim : trimBlanks (32 :: f.value) = trimBlanks f.value := by
    rw [trimBlanks, List.dropWhile_cons_of_pos (by decide), trimBlanks]
  rw [fieldLine, hshape, fieldName_encode hf.nonempty hf.name, String.ofList_toList]
  simp only [bind, Except.bind, htake, hdrop, htrim]
  rfl

/-- The line of a field is read as that field; reading goes on behind it. -/
theorem fieldLines_line {f : Field} (hf : f.Clean) (room : Nat) (rest : List UInt8) :
    fieldLines (room + 1) (f.line ++ rest)
      = (fieldLines room rest).map fun r => (f.asRead :: r.1, r.2) := by
  have hne : f.content ≠ [] := List.append_ne_nil_of_right_ne_nil _ (List.cons_ne_nil _ _)
  obtain ⟨b, more, hb⟩ := List.exists_cons_of_ne_nil hne
  have hstart : ¬ (b = 13 ∨ b = 10) := by
    have hbyte := hf.isFieldByte_of_mem b (hb ▸ List.mem_cons_self)
    rintro (rfl | rfl) <;> exact absurd hbyte (by decide)
  have hread := fieldLine_line hf rest
  have hline : f.line ++ rest = b :: (more ++ [13, 10] ++ rest) := by simp [Field.line, hb]
  rw [hline] at hread ⊢
  rw [fieldLines, if_neg hstart]
  simp only [hread, bind, Except.bind]
  cases fieldLines room rest <;> rfl

/-- The lines of clean fields are read back one by one, and the reading goes on behind them. -/
theorem fieldLines_lines {fs : List Field} (hfs : ∀ f ∈ fs, f.Clean) (room : Nat)
    (rest : List UInt8) :
    fieldLines (fs.length + room) (fs.flatMap Field.line ++ rest)
      = (fieldLines room rest).map fun r => (fs.map Field.asRead ++ r.1, r.2) := by
  induction fs with
  | nil =>
    rw [List.length_nil, Nat.zero_add, List.flatMap_nil, List.nil_append]
    cases fieldLines room rest <;> rfl
  | cons f fs ih =>
    rw [List.forall_mem_cons] at hfs
    rw [List.length_cons, Nat.add_right_comm, List.flatMap_cons, List.append_assoc,
      fieldLines_line hfs.1, ih hfs.2]
    cases fieldLines room rest <;> rfl

/-- Lines of fields, and an empty line behind them, are read as just those fields. -/
theorem fieldLines_block {fs : List Field} (hfs : ∀ f ∈ fs, f.Clean) {room : Nat}
    (hroom : fs.length ≤ room) (body : List UInt8) :
    fieldLines room (fs.flatMap Field.line ++ 13 :: 10 :: body)
      = .ok (fs.map Field.asRead, body) := by
  have hempty : fieldLines (room - fs.length) (13 :: 10 :: body) = .ok ([], body) := by
    unfold fieldLines
    rfl
  have hread := fieldLines_lines hfs (room - fs.length) (13 :: 10 :: body)
  rw [Nat.add_sub_cancel' hroom, hempty] at hread
  rw [hread]
  exact congrArg (fun all => Except.ok (all, body)) (List.append_nil _)

end CallBook.Http
