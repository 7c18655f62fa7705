import CallBook.Json.Record
import CallBook.Json.Writer

/-!
# Strings read back as they were written

Every character is written in one of three ways: as itself, as a backslash and a letter, or as
`\u00` and two digits. The reader undoes each of them and stops at the same place
(`stringChars_escapedChar`), so a written string reads back whole, whatever its characters are and
whatever follows it (`stringBody_escaped`).
-/

namespace CallBook.Json

/-! ## Blanks -/

/-- Only blanks. -/
def Blanks (s : List Char) : Prop := ∀ c ∈ s, isJsonBlank c = true

theorem blanks_nil : Blanks [] := by
  intro c hc
  cases hc

theorem blanks_lineBreak (layout : Layout) (depth : Nat) : Blanks (layout.lineBreak depth) := by
  cases layout with
  | compact => exact blanks_nil
  | pretty =>
    intro c hc
    rcases List.mem_cons.mp hc with rfl | hc
    · rfl
    · rw [List.eq_of_mem_replicate hc]
      rfl

/-- Blanks before anything else are skipped. -/
theorem skipBlanks_append {blanks : List Char} (hb : Blanks blanks) {c : Char}
    (hc : isJsonBlank c = false) (rest : List Char) :
    skipBlanks (blanks ++ c :: rest) = c :: rest :=
  (Text.span_append_cons hb hc rest).2

theorem skipBlanks_cons {c : Char} (hc : isJsonBlank c = false) (rest : List Char) :
    skipBlanks (c :: rest) = c :: rest :=
  skipBlanks_append blanks_nil hc rest

/-! ## Characters -/

/-- Puts a character before what was read. -/
def consChar (c : Char) :
    Except Fault (List Char × List Char) → Except Fault (List Char × List Char)
  | .error fault => .error fault
  | .ok (chars, rest) => .ok (c :: chars, rest)

/-- A character that needs no escape is read as it stands. -/
theorem stringChars_plain {c : Char} (hq : c ≠ '"') (hb : c ≠ '\\') (hc : ¬ c.toNat < 32)
    (rest : List Char) : stringChars (c :: rest) = consChar c (stringChars rest) := by
  rw [stringChars]
  rw [if_neg hq, if_neg hb, if_neg hc]
  rcases stringChars rest with fault | ⟨chars, tail⟩ <;> rfl

/-- An escape is read as what it stands for. -/
theorem stringChars_escape {d : Char} {s rest : List Char} (h : escape s = .ok (d, rest)) :
    stringChars ('\\' :: s) = consChar d (stringChars rest) := by
  rw [stringChars]
  rw [if_neg (by decide), if_pos rfl]
  split
  · next fault heq => rw [h] at heq; cases heq
  · next d' rest' heq =>
    rw [h] at heq
    cases heq
    rcases stringChars rest with fault | ⟨chars, tail⟩ <;> rfl

theorem hexValue?_hexDigit {n : Nat} (h : n < 16) : Text.hexValue? (Text.hexDigit n) = some n := by
  have hall : ∀ m < 16, Text.hexValue? (Text.hexDigit m) = some m := by decide
  exact hall n h

theorem length_le_byteCount (s : List Char) : s.length ≤ byteCount s := by
  induction s with
  | nil => exact Nat.le_refl _
  | cons c s ih =>
    have := c.utf8Size_pos
    rw [List.length_cons, byteCount]
    omega

/-- Four digits make a code unit. -/
theorem hexQuad_digits {a b c d : Char} {i j k l : Nat} (ha : Text.hexValue? a = some i)
    (hb : Text.hexValue? b = some j) (hc : Text.hexValue? c = some k)
    (hd : Text.hexValue? d = some l) (rest : List Char) :
    hexQuad (a :: b :: c :: d :: rest) = .ok (((i * 16 + j) * 16 + k) * 16 + l, rest) := by
  have hlen : ¬ byteCount [a, b, c, d] < 4 := Nat.not_lt.mpr (length_le_byteCount [a, b, c, d])
  unfold hexQuad
  rw [show (a :: b :: c :: d :: rest).take 4 = [a, b, c, d] from rfl, if_neg hlen]
  simp only [ha, hb, hc, hd]

/-- A control character in four digits. -/
theorem escape_control {c : Char} (h : c.toNat < 32) (rest : List Char) :
    escape ('u' :: '0' :: '0' :: Text.hexDigit (c.toNat / 16) :: Text.hexDigit (c.toNat % 16)
      :: rest) = .ok (c, rest) := by
  have hzero : Text.hexValue? '0' = some 0 := rfl
  have hhigh : Text.hexValue? (Text.hexDigit (c.toNat / 16)) = some (c.toNat / 16) :=
    hexValue?_hexDigit (by omega)
  have hlow : Text.hexValue? (Text.hexDigit (c.toNat % 16)) = some (c.toNat % 16) :=
    hexValue?_hexDigit (by omega)
  have hvalue : ((0 * 16 + 0) * 16 + c.toNat / 16) * 16 + c.toNat % 16 = c.toNat := by omega
  have hquad := hexQuad_digits hzero hzero hhigh hlow rest
  rw [hvalue] at hquad
  have hnotLow : isLowHalf c.toNat = false := by
    rw [isLowHalf, Bool.and_eq_false_iff, decide_eq_false_iff_not]
    exact Or.inl (by omega)
  have hnotHigh : isHighHalf c.toNat = false := by
    rw [isHighHalf, Bool.and_eq_false_iff, decide_eq_false_iff_not]
    exact Or.inl (by omega)
  unfold escape
  simp [hquad, hnotLow, hnotHigh, Char.ofNat_toNat]

/-- However a character was written, it is read back with the rest of the string. -/
theorem stringChars_escapedChar (c : Char) (rest : List Char) :
    stringChars (escapedChar c ++ rest) = consChar c (stringChars rest) := by
  unfold escapedChar
  split
  · next h => subst h; exact stringChars_escape rfl
  split
  · next h => subst h; exact stringChars_escape rfl
  split
  · next h => subst h; exact stringChars_escape rfl
  split
  · next h => subst h; exact stringChars_escape rfl
  split
  · next h => subst h; exact stringChars_escape rfl
  split
  · next h =>
    have hc : c = '\x08' := Char.toNat_inj.mp h
    subst hc
    exact stringChars_escape rfl
  split
  · next h =>
    have hc : c = '\x0c' := Char.toNat_inj.mp h
    subst hc
    exact stringChars_escape rfl
  split
  · next h => exact stringChars_escape (escape_control h rest)
  · next hq hb _ _ _ _ _ hc => exact stringChars_plain hq hb hc rest

/-- A string as it is written is read back, whatever its characters are. -/
theorem stringChars_escaped (chars rest : List Char) :
    stringChars (chars.flatMap escapedChar ++ '"' :: rest) = .ok (chars, rest) := by
  induction chars with
  | nil =>
    rw [List.flatMap_nil, List.nil_append, stringChars]
    rw [if_pos rfl]
  | cons c chars ih =>
    rw [List.flatMap_cons, List.append_assoc, stringChars_escapedChar, ih, consChar]

/-- A written string, from after its opening quote on. -/
theorem stringBody_escaped (s : String) (rest : List Char) :
    stringBody (s.toList.flatMap escapedChar ++ '"' :: rest) = .ok (s, rest) := by
  rw [stringBody, stringChars_escaped]
  simp only [String.ofList_toList]

end CallBook.Json
