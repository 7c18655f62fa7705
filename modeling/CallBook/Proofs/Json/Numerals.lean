import CallBook.Proofs.Json.Integers

/-!
# Numbers are written as numerals

Every number is written in the form that JSON asks for (`Number.numeral_text`): a sign if it is
negative, digits without a zero before others, and perhaps a fraction and an exponent. Of an integer
there are the digits only. A double has the fewest digits that name it, with the point set among
them, before them behind zeros, or behind the first one with an exponent. That its digits begin with
no zero is what has to be seen: the search for them does not end at zero, because no number that is
not zero lies so near to it (`digits_ne_zero`).
-/

namespace CallBook.Json

/-! ## The form of a number -/

/-- Digits, and at least one. -/
structure Digits (s : List Char) : Prop where
  nonempty : s ≠ []
  digits : ∀ c ∈ s, Text.isDigit c = true

/-- The digits before the point: a zero stands before no others. -/
inductive WholePart : List Char → Prop
  | zero : WholePart ['0']
  | digits {s : List Char} (h : Digits s) (hzero : s.head? ≠ some '0') : WholePart s

/-- A point and the digits behind it, or neither. -/
inductive FractionPart : List Char → Prop
  | none : FractionPart []
  | point {s : List Char} (h : Digits s) : FractionPart ('.' :: s)

/-- An exponent with its sign, or nothing. -/
inductive ExponentPart : List Char → Prop
  | none : ExponentPart []
  | signed {s : List Char} {sign : Char} (hsign : sign = '+' ∨ sign = '-') (h : Digits s) :
      ExponentPart ('e' :: sign :: s)

/-- A number without a sign. -/
inductive Unsigned : List Char → Prop
  | parts {whole fraction exponent : List Char} (hw : WholePart whole) (hf : FractionPart fraction)
      (he : ExponentPart exponent) : Unsigned (whole ++ (fraction ++ exponent))

theorem Unsigned.ofFraction {whole s : List Char} (hw : WholePart whole) (h : Digits s) :
    Unsigned (whole ++ '.' :: s) := by
  have := Unsigned.parts hw (.point h) .none
  rwa [List.append_nil] at this

/-- A number with a minus if it is negative. -/
inductive Numeral : List Char → Prop
  | unsigned {s : List Char} (h : Unsigned s) : Numeral s
  | minus {s : List Char} (h : Unsigned s) : Numeral ('-' :: s)

theorem digits_decimalText (n : Nat) : Digits (Text.decimalText n) where
  nonempty := Nat.toDigits_ne_nil
  digits := fun _ hc => isDigit_of_mem_decimalText hc

/-- A number in decimal has no zero before it. -/
theorem wholePart_decimalText (n : Nat) : WholePart (Text.decimalText n) := by
  by_cases h : n = 0
  · rw [h]
    exact .zero
  · exact .digits (digits_decimalText n) (head?_decimalText_ne h)

/-- Digits before digits are digits. -/
theorem Digits.append_left {s t : List Char} (hs : ∀ c ∈ s, Text.isDigit c = true)
    (ht : Digits t) : Digits (s ++ t) where
  nonempty := List.append_ne_nil_of_right_ne_nil s ht.nonempty
  digits := List.forall_mem_append.mpr ⟨hs, ht.digits⟩

/-- Digits behind digits are digits. -/
theorem Digits.append_right {s t : List Char} (hs : Digits s)
    (ht : ∀ c ∈ t, Text.isDigit c = true) : Digits (s ++ t) where
  nonempty := List.append_ne_nil_of_left_ne_nil hs.nonempty t
  digits := List.forall_mem_append.mpr ⟨hs.digits, ht⟩

theorem isDigit_of_mem_zeros {n : Nat} : ∀ c ∈ List.replicate n '0', Text.isDigit c = true := by
  intro c hc
  rw [List.eq_of_mem_replicate hc]
  rfl

/-! ## The digits of a double -/

namespace Binary64

variable {x : Binary64}

/-- The numbers that round to one that is not zero are positive. -/
theorem interval_pos (h : x.mantissa ≠ 0) : 0 < x.interval.1 := by
  unfold interval
  dsimp only
  split <;> omega

/-- A power of two or its inverse has a positive numerator. -/
theorem unscale_pos (e : Int) : 0 < (unscale 1 1 e).1 := by
  unfold unscale
  split
  next => exact Nat.one_pos
  next => exact Nat.mul_pos Nat.one_pos (Nat.pow_pos (by decide))

/-- Zero does not round to a number that is not zero. -/
theorem not_holds_zero (h : x.mantissa ≠ 0) (e : Int) : x.holds 0 e = false := by
  have hlow := interval_pos h
  have hscale := unscale_pos (2 - x.exponent)
  have hgrid : 0 < (if 0 ≤ e then 1 else Nat.pow 10 (-e).toNat) := by
    split
    next => exact Nat.one_pos
    next => exact Nat.pow_pos (by decide)
  unfold holds
  generalize x.interval = ends at hlow ⊢
  generalize unscale 1 1 (2 - x.exponent) = scale at hscale ⊢
  have hpos := Nat.mul_pos (Nat.mul_pos hlow hscale) hgrid
  simp only [Nat.zero_mul, ite_self]
  split
  next => rw [decide_eq_false (Nat.not_le.mpr hpos), Bool.false_and]
  next => rw [decide_eq_false (Nat.not_lt.mpr (Nat.le_of_lt hpos)), Bool.false_and]

/-- Rounding a quotient goes down to its whole part at most. -/
theorem le_roundDiv (n d : Nat) : n / d ≤ roundDiv n d := by
  unfold roundDiv
  dsimp only
  split
  next => exact Nat.le_refl _
  next =>
    split
    next => exact Nat.le_succ _
    next => exact Nat.le_add_right _ _

/-- No multiple of a step that is found for a number other than zero is zero. -/
theorem onGrid_ne_zero (h : x.mantissa ≠ 0) {e : Int} {k : Nat} (hk : x.onGrid e = some k) :
    k ≠ 0 := by
  unfold onGrid at hk
  dsimp only at hk
  split at hk
  next hbelow _ =>
    cases hk
    have hne : ∀ q, x.holds q e = true → q ≠ 0 := by
      rintro q hq rfl
      rw [not_holds_zero h] at hq
      cases hq
    exact Nat.ne_of_gt (Nat.lt_of_lt_of_le (Nat.pos_of_ne_zero (hne _ hbelow)) (le_roundDiv _ _))
  next hbelow _ =>
    cases hk
    intro hzero
    rw [hzero, not_holds_zero h] at hbelow
    cases hbelow
  next =>
    cases hk
    exact Nat.succ_ne_zero _
  next => cases hk

/-- The digits that are found on ever finer grids are those of a number other than zero. -/
theorem onFinerGrids_ne_zero (h : x.mantissa ≠ 0) (e : Int) (tries : Nat) :
    (x.onFinerGrids e tries).1 ≠ 0 := by
  induction tries generalizing e with
  | zero => exact h
  | succ tries ih =>
    rw [onFinerGrids]
    split
    next k hk => exact onGrid_ne_zero h hk
    next => exact ih (e - 1)

/-- A number other than zero stays one without the zeros at its end. -/
theorem stripZeros_ne_zero {k : Nat} (h : k ≠ 0) (e : Int) (tries : Nat) :
    (stripZeros k e tries).1 ≠ 0 := by
  induction tries generalizing k e with
  | zero => exact h
  | succ tries ih =>
    rw [stripZeros]
    split
    next hlast =>
      simp only [Bool.and_eq_true, decide_eq_true_eq] at hlast
      exact ih (by omega) (e + 1)
    next => exact h

/-- The shortest digits of a number other than zero are not zero. -/
theorem digits_ne_zero (h : x.mantissa ≠ 0) : x.digits.1 ≠ 0 := by
  unfold digits
  obtain ⟨n, d⟩ := x.ratio
  dsimp only
  generalize ((n.log2 : Int) - d.log2) * 30103 / 100000 = size
  have hfound := onFinerGrids_ne_zero h (size + 2) 24
  generalize x.onFinerGrids (size + 2) 24 = found at hfound ⊢
  exact stripZeros_ne_zero hfound _ _

end Binary64

/-! ## The point among the digits -/

section Point

variable {ds : List Char}

/-- Digits behind a full stop make a number, with a zero before it. -/
theorem unsigned_point_before (h : Digits ds) (n : Nat) :
    Unsigned ("0.".toList ++ List.replicate n '0' ++ ds) :=
  .ofFraction .zero (.append_left isDigit_of_mem_zeros h)

/-- Digits with zeros and a full stop behind them make a number. -/
theorem unsigned_point_behind (h : Digits ds) (hhead : ds.head? ≠ some '0') (n : Nat) :
    Unsigned (ds ++ List.replicate n '0' ++ ".0".toList) := by
  have hwhole : WholePart (ds ++ List.replicate n '0') := by
    refine .digits (h.append_right isDigit_of_mem_zeros) ?_
    rwa [List.head?_append_of_ne_nil _ h.nonempty]
  exact .ofFraction hwhole (digits_decimalText 0)

/-- Digits with a full stop among them make a number. -/
theorem unsigned_point_among (h : Digits ds) (hhead : ds.head? ≠ some '0') {n : Nat}
    (hn : n + 1 < ds.length) : Unsigned (ds.take (n + 1) ++ ['.'] ++ ds.drop (n + 1)) := by
  have hwhole : WholePart (ds.take (n + 1)) := by
    refine .digits ⟨?_, fun c hc => h.digits c (List.mem_of_mem_take hc)⟩ ?_
    · simp [h.nonempty]
    · rwa [List.head?_take, if_neg (Nat.succ_ne_zero n)]
  have hfraction : Digits (ds.drop (n + 1)) :=
    ⟨by simpa using hn, fun c hc => h.digits c (List.mem_of_mem_drop hc)⟩
  rw [List.append_assoc]
  exact .ofFraction hwhole hfraction

/-- Digits with a point behind the first, if there are others. -/
def pointed : List Char → List Char
  | [d] => [d]
  | d :: more => d :: '.' :: more
  | [] => []

/-- One digit stands before the point, and the exponent says where it was. -/
theorem unsigned_exponent (h : Digits ds) (hhead : ds.head? ≠ some '0') {sign : Char}
    (hsign : sign = '+' ∨ sign = '-') (power : Nat) :
    Unsigned (pointed ds ++ ['e', sign] ++ Text.decimalText power) := by
  have hexponent : ExponentPart ('e' :: sign :: Text.decimalText power) :=
    .signed hsign (digits_decimalText power)
  rw [List.append_assoc]
  unfold pointed
  split
  next d =>
    have hwhole : WholePart [d] := .digits h hhead
    have hnumber := Unsigned.parts hwhole .none hexponent
    exact hnumber
  next d more hmore =>
    have hd := List.forall_mem_cons.mp h.digits
    have hwhole : WholePart [d] :=
      .digits ⟨List.cons_ne_nil d [], List.forall_mem_singleton.mpr hd.1⟩ hhead
    have hfraction : Digits more := ⟨hmore, hd.2⟩
    have hnumber := Unsigned.parts hwhole (.point hfraction) hexponent
    exact hnumber
  next => exact absurd rfl h.nonempty

end Point

/-- A double is written with a sign if it is negative, and a numeral behind it. -/
theorem Binary64.exists_unsigned_text (x : Binary64) :
    ∃ body, Unsigned body ∧ x.text = (if x.negative then ['-'] else []) ++ body := by
  unfold text
  dsimp only
  split
  next => exact ⟨"0.0".toList, .ofFraction .zero (digits_decimalText 0), rfl⟩
  next h =>
    have hhead := head?_decimalText_ne (digits_ne_zero h)
    have hdigits := digits_decimalText x.digits.1
    generalize x.digits = found at hhead hdigits ⊢
    obtain ⟨k, e⟩ := found
    refine ⟨_, ?_, rfl⟩
    dsimp only at hhead hdigits ⊢
    generalize e + ((Text.decimalText k).length : Int) - 1 = point
    split
    next => exact unsigned_point_before hdigits _
    next =>
      split
      next =>
        split
        next => exact unsigned_point_behind hdigits hhead _
        next hlen => exact unsigned_point_among hdigits hhead (Nat.lt_of_not_le hlen)
      next =>
        refine unsigned_exponent hdigits hhead ?_ _
        split
        next => exact .inr rfl
        next => exact .inl rfl

/-- Every number is written as a numeral. -/
theorem Number.numeral_text (n : Number) : Numeral n.text := by
  cases n with
  | integer n =>
    have hdigits : Unsigned (Text.decimalText n.natAbs) := by
      have := Unsigned.parts (wholePart_decimalText n.natAbs) .none .none
      rwa [List.append_nil, List.append_nil] at this
    show Numeral (Number.integerText n)
    rw [Number.integerText]
    split
    next => exact .minus hdigits
    next => exact .unsigned hdigits
  | double x =>
    obtain ⟨body, hbody, htext⟩ := x.exists_unsigned_text
    show Numeral x.text
    rw [htext]
    split
    next => exact .minus hbody
    next => exact .unsigned hbody

end CallBook.Json
