import Mathlib.Data.List.Basic
import CallBook.Proofs.Json.Objects

/-!
# Integers read back as they were written

A reader of numbers collects digits while they fit 64 bits and then looks at what follows: a point,
an exponent, or neither. What is written for an integer that fits is a run of digits that collects
to its magnitude (`significand_digits`), followed by something that ends a value, so the number is
kept as that integer (`reads_value_integer`). In the other direction every integer that a reader
gives fits 64 bits (`givesFitting_numberBody`).
-/

namespace CallBook.Json

/-! ## Runs of digits -/

/-- No digit follows. -/
def NoDigit (s : List Char) : Prop := ∀ c ∈ s.head?, Text.isDigit c = false

/-- A character that ends a value is no digit, no point and no letter of an exponent. -/
theorem Ends.cases {c : Char} {rest : List Char} (h : Ends (c :: rest)) :
    Text.isDigit c = false ∧ c ≠ '.' ∧ c ≠ 'e' ∧ c ≠ 'E' := by
  rcases h with rfl | rfl | rfl | hb
  · decide
  · decide
  · decide
  · simp only [isJsonBlank, Bool.or_eq_true, decide_eq_true_eq] at hb
    rcases hb with ((rfl | rfl) | rfl) | rfl <;> decide

theorem Ends.noDigit {rest : List Char} (h : Ends rest) : NoDigit rest := by
  intro c hc
  cases rest with
  | nil => cases hc
  | cons d rest =>
    cases hc
    exact h.cases.1

theorem isDigit_of_mem_decimalText {n : Nat} {c : Char} (hc : c ∈ Text.decimalText n) :
    Text.isDigit c = true :=
  Nat.isDigit_of_mem_toDigits (by decide) (by decide) hc

/-- A number is written with a digit at least. -/
theorem exists_decimalText_eq_cons (n : Nat) :
    ∃ c more, Text.decimalText n = c :: more ∧ Text.isDigit c = true := by
  obtain ⟨c, more, h⟩ := List.exists_cons_of_ne_nil
    (show Text.decimalText n ≠ [] from Nat.toDigits_ne_nil)
  exact ⟨c, more, h, isDigit_of_mem_decimalText (h ▸ List.mem_cons_self)⟩

/-- A digit is no other character. -/
theorem ne_of_isDigit {c d : Char} (hc : Text.isDigit c = true) (hd : Text.isDigit d = false) :
    c ≠ d := by
  rintro rfl
  rw [hc] at hd
  cases hd

theorem isJsonBlank_of_isDigit {c : Char} (hc : Text.isDigit c = true) : isJsonBlank c = false := by
  have hne : ∀ d, Text.isDigit d = false → c ≠ d := fun d => ne_of_isDigit hc
  simp [isJsonBlank, hne ' ' rfl, hne '\n' rfl, hne '\t' rfl, hne '\r' rfl]

/-- A number other than zero is written without a leading zero. -/
theorem head?_decimalText_ne {n : Nat} (h : n ≠ 0) : (Text.decimalText n).head? ≠ some '0' := by
  induction n using Nat.strongRecOn with
  | ind n ih =>
    rw [Text.decimalText, Nat.toDigits_eq_if (by decide)]
    split
    · next hlt =>
      have hall : ∀ m < 10, m ≠ 0 → [m.digitChar].head? ≠ some '0' := by decide
      exact hall n hlt h
    · rw [List.head?_append_of_ne_nil _ Nat.toDigits_ne_nil]
      exact ih (n / 10) (by omega) (by omega)

/-- Digits before a digit weigh no less than nothing. -/
theorem le_ofDigitChars (digits : List Char) (n : Nat) : n ≤ Nat.ofDigitChars 10 digits n := by
  rw [Nat.ofDigitChars_eq_ofDigitChars_zero]
  have hpow : 1 * n ≤ 10 ^ digits.length * n :=
    Nat.mul_le_mul_right n (Nat.pow_pos (by decide))
  omega

/-- A run of digits whose number fits 64 bits is collected whole. -/
theorem significand_digits {digits rest : List Char} (hd : ∀ c ∈ digits, Text.isDigit c = true)
    (hrest : NoDigit rest) (n : Nat) (hfit : Nat.ofDigitChars 10 digits n < Nat.pow 2 64) :
    significand n (digits ++ rest) = (Nat.ofDigitChars 10 digits n, rest) := by
  induction digits generalizing n with
  | nil =>
    rw [List.nil_append, Nat.ofDigitChars_nil]
    cases rest with
    | nil => rfl
    | cons c rest =>
      rw [significand, if_neg]
      rw [hrest c rfl]
      decide
  | cons c digits ih =>
    rw [Nat.ofDigitChars_cons] at hfit ⊢
    have hnext : 10 * n + (c.toNat - 48) < Nat.pow 2 64 :=
      Nat.lt_of_le_of_lt (le_ofDigitChars digits _) hfit
    rw [List.cons_append, significand, if_pos (hd c List.mem_cons_self)]
    simp only [if_pos hnext]
    exact ih (fun d hmem => hd d (List.mem_cons_of_mem c hmem)) _ hfit

/-! ## Written integers -/

/-- A number ends where its digits end. -/
theorem afterWhole_ends (negative : Bool) (n : Nat) {rest : List Char} (he : Ends rest) :
    afterWhole negative n 0 rest = wholeNumber negative n rest := by
  cases rest with
  | nil => rfl
  | cons c rest =>
    obtain ⟨-, hpoint, hlower, hupper⟩ := he.cases
    simp [afterWhole, hpoint, hlower, hupper]

/-- The digits of a number that fits 64 bits, whatever its sign. -/
theorem numberBody_decimalText (negative : Bool) {n : Nat} (hn : n < Nat.pow 2 64)
    {rest : List Char} (he : Ends rest) :
    numberBody negative (Text.decimalText n ++ rest) = wholeNumber negative n rest := by
  by_cases hzero : n = 0
  · -- a zero is read apart from other runs of digits: no digit may follow it
    subst hzero
    show numberBody negative ('0' :: rest) = _
    rw [numberBody.eq_def]
    dsimp only
    rw [if_pos rfl]
    cases rest with
    | nil => exact afterWhole_ends negative 0 he
    | cons d rest =>
      show (if Text.isDigit d = true then _ else _) = _
      rw [if_neg (by rw [he.cases.1]; decide)]
      exact afterWhole_ends negative 0 he
  · obtain ⟨c, digits, hcs, -⟩ := exists_decimalText_eq_cons n
    have hc : c ≠ '0' := by
      intro h
      apply head?_decimalText_ne hzero
      rw [hcs, h]
      rfl
    have hdigits : ∀ d ∈ c :: digits, Text.isDigit d = true := by
      intro d hd
      rw [← hcs] at hd
      exact isDigit_of_mem_decimalText hd
    have hvalue : Nat.ofDigitChars 10 (c :: digits) 0 = n := by
      rw [← hcs]
      exact Nat.ofDigitChars_ten_toDigits
    have hrun : significand 0 (c :: digits ++ rest) = (n, rest) := by
      rw [significand_digits hdigits he.noDigit 0 (by rw [hvalue]; exact hn), hvalue]
    -- nothing was left over behind the digits that were collected
    have hleft : rest.dropWhile Text.isDigit = rest := by
      cases rest with
      | nil => rfl
      | cons d rest => exact List.dropWhile_cons_of_neg (by rw [he.cases.1]; decide)
    rw [hcs, List.cons_append, numberBody.eq_def]
    dsimp only
    rw [if_neg hc, if_pos (hdigits c List.mem_cons_self), ← List.cons_append, hrun]
    simp only [hleft, Nat.sub_self]
    exact afterWhole_ends negative n he

/-- An integer fits if it has 64 bits, with a sign or without. -/
theorem fits_iff {n : Int} :
    Number.fits n = true ↔ -9223372036854775808 ≤ n ∧ n < 18446744073709551616 := by
  rw [Number.fits, Bool.and_eq_true, decide_eq_true_eq, decide_eq_true_eq]
  rfl

/-- An integer that fits 64 bits is read as itself. -/
theorem reads_value_integer (depth : Nat) {n : Int} (hn : Number.fits n = true) :
    Reads (value depth) (Number.integerText n) (.number (.integer n)) := by
  rw [fits_iff] at hn
  intro blanks rest hb he
  rw [Number.integerText]
  by_cases hneg : n < 0
  · have hsmall : n.natAbs < 18446744073709551616 := by omega
    -- a minus is kept as an integer unless it stands before a zero or a magnitude beyond 63 bits
    have hkept : wholeNumber true n.natAbs rest = .ok (.integer n, rest) := by
      have hzero : n.natAbs ≠ 0 := by omega
      have hsize : ¬ 9223372036854775808 < n.natAbs := by omega
      have hwhole : ¬ (decide (n.natAbs = 0) || decide (Nat.pow 2 63 < n.natAbs)) = true := by
        rw [decide_eq_false hzero, Bool.false_or]
        exact fun h => hsize (of_decide_eq_true h)
      have habs : -(n.natAbs : Int) = n := by omega
      rw [wholeNumber, if_neg (by decide), if_neg hwhole, habs]
    rw [if_pos hneg, List.cons_append, value, skipBlanks_append hb (by decide)]
    simp [numberBody_decimalText true hsmall he, hkept, Except.map]
  · have hsmall : n.natAbs < 18446744073709551616 := by omega
    have hkept : wholeNumber false n.natAbs rest = .ok (.integer n, rest) := by
      have habs : (n.natAbs : Int) = n := by omega
      rw [wholeNumber, if_pos (by decide), habs]
    have hbody := numberBody_decimalText false hsmall he
    obtain ⟨c, digits, hcs, hc⟩ := exists_decimalText_eq_cons n.natAbs
    -- a digit is none of the characters by which the other kinds of values are told
    have hne : ∀ d, Text.isDigit d = false → c ≠ d := fun d => ne_of_isDigit hc
    rw [if_neg hneg, hcs, List.cons_append, value,
      skipBlanks_append hb (isJsonBlank_of_isDigit hc)]
    rw [hcs, List.cons_append] at hbody
    simp [hne 'n' rfl, hne 't' rfl, hne 'f' rfl, hne '-' rfl, hc, hbody, hkept, Except.map]

/-! ## Integers that are read -/

/-- An integer fits 64 bits, signed or unsigned; a double is as it is. -/
def Number.Fits : Number → Prop
  | integer n => Number.fits n = true
  | double _ => True

/-- What a reader gives, if it gives a number, fits. -/
def GivesFitting (r : Except Fault (Number × List Char)) : Prop :=
  ∀ n rest, r = .ok (n, rest) → n.Fits

theorem givesFitting_error (fault : Fault) : GivesFitting (.error fault) := by
  intro n rest h
  cases h

theorem givesFitting_double (negative : Bool) (n : Nat) (exponent : Int) (s : List Char) :
    GivesFitting (double negative n exponent s) := by
  intro m rest h
  unfold double at h
  split at h
  · cases h
    trivial
  · cases h

theorem givesFitting_exponentDigits (negative : Bool) (n : Nat) (start : Int) (raise : Bool)
    (e : Nat) (s : List Char) : GivesFitting (exponentDigits negative n start raise e s) := by
  induction s generalizing e with
  | nil => exact givesFitting_double _ _ _ _
  | cons c s ih =>
    rw [exponentDigits]
    split
    · dsimp only
      split
      · exact ih _
      split
      · exact givesFitting_error _
      · rintro m rest ⟨⟩
        trivial
    · exact givesFitting_double _ _ _ _

/-- A number with an exponent fits. -/
theorem givesFitting_exponentPart (negative : Bool) (n : Nat) (start : Int) (s : List Char) :
    GivesFitting (exponentPart negative n start s) := by
  unfold exponentPart
  dsimp only
  split
  · exact givesFitting_error _
  · split
    · exact givesFitting_exponentDigits _ _ _ _ _ _
    · exact givesFitting_error _

/-- A number with a fraction fits. -/
theorem givesFitting_fraction (negative : Bool) (n : Nat) (start : Int) (s : List Char) :
    GivesFitting (fraction negative n start s) := by
  unfold fraction
  split
  · exact givesFitting_error _
  · split
    · dsimp only
      unfold optionalExponent
      split
      · split
        · exact givesFitting_exponentPart _ _ _ _
        · exact givesFitting_double _ _ _ _
      · exact givesFitting_double _ _ _ _
    · exact givesFitting_error _

/-- The digits that are kept make a number of 64 bits. -/
theorem significand_lt {n : Nat} (h : n < Nat.pow 2 64) (s : List Char) :
    (significand n s).1 < Nat.pow 2 64 := by
  induction s generalizing n with
  | nil => exact h
  | cons c s ih =>
    rw [significand]
    split
    · dsimp only
      split
      · next hnext => exact ih hnext
      · exact h
    · exact h

/-- A whole number fits, as a double if it is too great for an integer. -/
theorem givesFitting_wholeNumber (negative : Bool) {n : Nat} (h : n < Nat.pow 2 64)
    (s : List Char) : GivesFitting (wholeNumber negative n s) := by
  have hn : n < 18446744073709551616 := h
  unfold wholeNumber
  split
  · rintro m rest ⟨⟩
    exact fits_iff.mpr (by omega)
  · split
    · exact givesFitting_double _ _ _ _
    · next hsize =>
      rintro m rest ⟨⟩
      simp only [Bool.or_eq_true, decide_eq_true_eq, not_or] at hsize
      have hsmall : ¬ 9223372036854775808 < n := hsize.2
      exact fits_iff.mpr (by omega)

/-- A number fits, whatever follows its whole part. -/
theorem givesFitting_afterWhole (negative : Bool) {n : Nat} (h : n < Nat.pow 2 64) (dropped : Nat)
    (s : List Char) : GivesFitting (afterWhole negative n dropped s) := by
  have hend : ∀ s, GivesFitting
      (if dropped = 0 then wholeNumber negative n s else double negative n dropped s) := by
    intro s
    split
    · exact givesFitting_wholeNumber negative h s
    · exact givesFitting_double _ _ _ _
  unfold afterWhole
  split
  · split
    · exact givesFitting_fraction _ _ _ _
    split
    · exact givesFitting_exponentPart _ _ _ _
    · exact hend _
  · exact hend _

/-- Every integer that is read fits 64 bits. -/
theorem givesFitting_numberBody (negative : Bool) (s : List Char) :
    GivesFitting (numberBody negative s) := by
  unfold numberBody
  split
  · exact givesFitting_error _
  · next c rest =>
    split
    · -- a leading zero
      split
      · split
        · exact givesFitting_error _
        · exact givesFitting_afterWhole negative (by decide) 0 _
      · exact givesFitting_afterWhole negative (by decide) 0 _
    split
    · have hlt := significand_lt (n := 0) (by decide) (c :: rest)
      rcases hrun : significand 0 (c :: rest) with ⟨n, left⟩
      rw [hrun] at hlt
      exact givesFitting_afterWhole negative hlt _ _
    · exact givesFitting_error _

end CallBook.Json
