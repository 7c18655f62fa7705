import Mathlib.Data.List.Basic
import CallBook.Url.Address

/-!
# What occurs in a written address

An address is written from its numbers, so a text that occurs in it says something about them. For
IPv4 the full stops decide: a text with three of them takes up all four bytes, of which the first
ends and the last begins like the parts of the text (`eq_of_loopback_infix`).

For IPv6 the two colons in a row decide. The numbers between colons are never empty, so two colons
stand in a row only where a run of zeros was left out, and there they stand once (`gap_unique`).
What follows them is the piece after the run, and that begins with the digit `1` if some shift by
whole digits leaves 1 of it (`head?_hexText`). Which run is left out is said by `LongestRun`: the
first one of the greatest length.

Main result: `one_after_colons_iff`.
-/

namespace CallBook.Url

open CallBook.Text

/-! ## Digits -/

/-- The digits that the numbers of an address are written with. -/
def addressDigits : List Char := (List.range 16).map Nat.digitChar

/-- Digits to a base of at most 16 are characters of addresses. -/
theorem toDigits_subset {b : Nat} (hb : 1 < b) (hb16 : b ≤ 16) (n : Nat) :
    Nat.toDigits b n ⊆ addressDigits := by
  have hdigit : ∀ d < b, Nat.digitChar d ∈ addressDigits := fun d hd =>
    List.mem_map_of_mem (List.mem_range.mpr (Nat.lt_of_lt_of_le hd hb16))
  intro c hc
  induction n using Nat.strongRecOn with
  | ind n ih =>
    by_cases hn : n < b
    · rw [Nat.toDigits_of_lt_base hn, List.mem_singleton] at hc
      exact hc ▸ hdigit n hn
    · rw [Nat.toDigits_of_base_le hb (by omega), List.mem_append, List.mem_singleton] at hc
      rcases hc with hc | hc
      · exact ih (n / b) (Nat.div_lt_self (by omega) hb) hc
      · exact hc ▸ hdigit _ (Nat.mod_lt _ (by omega))

theorem decimalText_subset (n : Nat) : decimalText n ⊆ addressDigits :=
  toDigits_subset (by omega) (by omega) n

theorem hexText_subset (n : Nat) : hexText n ⊆ addressDigits :=
  toDigits_subset (by omega) (by omega) n

theorem dot_notMem_decimalText (n : Nat) : '.' ∉ decimalText n := by
  intro hc
  exact absurd (decimalText_subset n hc) (by decide)

theorem colon_notMem_hexText (n : Nat) : ':' ∉ hexText n := by
  intro hc
  exact absurd (hexText_subset n hc) (by decide)

theorem hexText_ne_nil (n : Nat) : hexText n ≠ [] := Nat.toDigits_ne_nil

/-- What holds of the separator and of all fields holds of the joined text. -/
theorem joinFields_subset {sep chars : List Char} {fields : List (List Char)} (hsep : sep ⊆ chars)
    (h : ∀ field ∈ fields, field ⊆ chars) : joinFields sep fields ⊆ chars := by
  induction fields with
  | nil => exact List.nil_subset chars
  | cons field more ih =>
    rw [List.forall_mem_cons] at h
    cases more with
    | nil => exact h.1
    | cons second more =>
      exact List.append_subset.mpr ⟨List.append_subset.mpr ⟨h.1, hsep⟩, ih h.2⟩

/-- A shift by whole digits takes off one digit after the other. -/
theorem div_pow_succ (n k : Nat) : n / Nat.pow 16 (k + 1) = n / 16 / Nat.pow 16 k := by
  have hpow : Nat.pow 16 (k + 1) = 16 * Nat.pow 16 k := Nat.mul_comm _ _
  rw [hpow, Nat.div_div_eq_div_mul]

/-- A number begins with the digit `1` if some shift by whole digits leaves 1. -/
theorem head?_hexText (n : Nat) : (hexText n).head? = some '1' ↔ ∃ k, n / Nat.pow 16 k = 1 := by
  have hnone : ∀ n, n / Nat.pow 16 0 = n := Nat.div_one
  induction n using Nat.strongRecOn with
  | ind n ih =>
    rw [hexText]
    by_cases hn : n < 16
    · have hall : ∀ n < 16, [Nat.digitChar n].head? = some '1' → n = 1 := by decide
      rw [Nat.toDigits_of_lt_base hn]
      constructor
      · intro h
        exact ⟨0, by rw [hnone, hall n hn h]⟩
      · rintro ⟨_ | k, hk⟩
        · rw [hnone] at hk
          rw [hk]
          rfl
        · -- a shift by one digit already leaves nothing
          rw [div_pow_succ, Nat.div_eq_of_lt hn, Nat.zero_div] at hk
          cases hk
    · rw [Nat.toDigits_of_base_le (by decide) (by omega),
        List.head?_append_of_ne_nil _ Nat.toDigits_ne_nil]
      refine (ih (n / 16) (by omega)).trans ⟨?_, ?_⟩
      · rintro ⟨k, hk⟩
        exact ⟨k + 1, by rw [div_pow_succ, hk]⟩
      · rintro ⟨_ | k, hk⟩
        · rw [hnone] at hk
          omega
        · rw [div_pow_succ] at hk
          exact ⟨k, hk⟩

/-! ## IPv4 -/

/-- A byte whose text ends like that of 127 is 127. -/
theorem eq_of_suffix_decimalText {n : Nat} (hn : n < 256) {s : List Char}
    (h : s ++ ['1', '2', '7'] = decimalText n) : n = 127 := by
  have hvalue : Nat.ofDigitChars 10 (s ++ ['1', '2', '7']) 0 = n := by
    rw [h]
    exact Nat.ofDigitChars_toDigits (by decide) (by decide)
  rw [Nat.ofDigitChars_append] at hvalue
  -- the three digits stand for 127, and what is before them counts thousands
  generalize Nat.ofDigitChars 10 s 0 = thousands at hvalue
  have hdigits : Nat.ofDigitChars 10 ['1', '2', '7'] thousands
      = 10 * (10 * (10 * thousands + 1) + 2) + 7 := rfl
  omega

/-- An IPv4 address is its four bytes with full stops between them. -/
theorem ipv4Text_eq (address : Nat) :
    ipv4Text address = decimalText (address / 0x1000000) ++ '.' ::
      (decimalText (address / 0x10000 % 0x100) ++ '.' ::
        (decimalText (address / 0x100 % 0x100) ++ '.' :: decimalText (address % 0x100))) := by
  simp [ipv4Text, joinFields]

theorem ipv4Text_subset (address : Nat) : ipv4Text address ⊆ '.' :: addressDigits := by
  refine joinFields_subset (by simp) ?_
  intro field hfield
  obtain ⟨n, -, rfl⟩ := List.mem_map.mp hfield
  exact List.subset_cons_of_subset _ (decimalText_subset n)

/-- An IPv4 address has three full stops. -/
theorem count_dot_ipv4Text (address : Nat) : (ipv4Text address).count '.' = 3 := by
  have hnone : ∀ n, (decimalText n).count '.' = 0 := fun n =>
    List.count_eq_zero.mpr (dot_notMem_decimalText n)
  simp [ipv4Text_eq, hnone]

/-- The text `127.0.0.1` occurs in no address whose first byte is not 127. -/
theorem eq_of_loopback_infix {address : Nat} (hlt : address < 0x100000000)
    (h : "127.0.0.1".toList <:+: ipv4Text address) : address / 0x1000000 = 127 := by
  obtain ⟨s, t, hst⟩ := h
  have hs : '.' ∉ s ++ ['1', '2', '7'] := by
    have hcount := congrArg (List.count '.') hst
    rw [count_dot_ipv4Text, List.count_append, List.count_append] at hcount
    have hmark : "127.0.0.1".toList.count '.' = 3 := by decide
    have hzero : s.count '.' = 0 := by omega
    rw [List.mem_append, not_or]
    exact ⟨List.count_eq_zero.mp hzero, by decide⟩
  have hsplit : splitFirst '.' (s ++ "127.0.0.1".toList ++ t)
      = some (s ++ ['1', '2', '7'], "0.0.1".toList ++ t) := by
    have hshape : s ++ "127.0.0.1".toList ++ t
        = (s ++ ['1', '2', '7']) ++ '.' :: ("0.0.1".toList ++ t) := by
      simp
    rw [hshape, splitFirst_append hs]
  rw [hst, ipv4Text_eq, splitFirst_append (dot_notMem_decimalText _)] at hsplit
  have hfirst := congrArg Prod.fst (Option.some.inj hsplit)
  exact eq_of_suffix_decimalText (by omega) hfirst.symm

/-! ## Two colons in a row -/

/-- Two colons cannot begin in a field without any. -/
theorem colons_infix_append {field rest : List Char} (h : ':' ∉ field)
    (hc : [':', ':'] <:+: field ++ rest) : [':', ':'] <:+: rest := by
  induction field with
  | nil => exact hc
  | cons c field ih =>
    rw [List.mem_cons, not_or] at h
    rcases List.infix_cons_iff.mp hc with hstart | hlater
    · exact absurd (List.cons_prefix_cons.mp hstart).1 h.1
    · exact ih h.2 hlater

/-- A number between two colons keeps them apart. -/
theorem colons_infix_hexText {n : Nat} {rest : List Char}
    (hc : [':', ':'] <:+: ':' :: (hexText n ++ rest)) : [':', ':'] <:+: rest := by
  rcases List.infix_cons_iff.mp hc with hstart | hlater
  · exfalso
    obtain ⟨d, more, hd⟩ := List.exists_cons_of_ne_nil (hexText_ne_nil n)
    rw [hd] at hstart
    have hfirst : ':' = d := (List.cons_prefix_cons.mp (List.cons_prefix_cons.mp hstart).2).1
    exact colon_notMem_hexText n (by rw [hd, hfirst]; exact List.mem_cons_self)
  · exact colons_infix_append (colon_notMem_hexText n) hlater

/-- So do numbers with single colons between them. -/
theorem colons_infix_piecesText {pieces : List Nat} (hne : pieces ≠ []) {rest : List Char}
    (hc : [':', ':'] <:+: ':' :: (piecesText pieces ++ rest)) : [':', ':'] <:+: rest := by
  induction pieces with
  | nil => exact absurd rfl hne
  | cons n more ih =>
    cases more with
    | nil => exact colons_infix_hexText hc
    | cons m more =>
      have hshape : piecesText (n :: m :: more) ++ rest
          = hexText n ++ ':' :: (piecesText (m :: more) ++ rest) := by
        simp [piecesText, joinFields]
      rw [hshape] at hc
      exact ih (by simp) (colons_infix_hexText hc)

theorem not_colons_infix_single : ¬ [':', ':'] <:+: [':'] := by
  intro h
  exact absurd h.length_le (by decide)

/-- A colon before the pieces does not make two in a row. -/
theorem not_colons_before_piecesText (pieces : List Nat) :
    ¬ [':', ':'] <:+: ':' :: piecesText pieces := by
  intro h
  by_cases hne : pieces = []
  · rw [hne] at h
    exact not_colons_infix_single h
  · rw [← List.append_nil (piecesText pieces)] at h
    exact absurd (colons_infix_piecesText hne h).length_le (by decide)

/-- A colon behind the pieces does not make two in a row. -/
theorem not_colons_after_piecesText (pieces : List Nat) :
    ¬ [':', ':'] <:+: piecesText pieces ++ [':'] := by
  intro h
  by_cases hne : pieces = []
  · rw [hne] at h
    exact not_colons_infix_single h
  · exact not_colons_infix_single (colons_infix_piecesText hne (List.infix_cons h))

/-- Two colons in a row stand at one place, if on both sides of them there are no others. -/
theorem gap_unique {before after before' after' : List Char}
    (hbefore : ¬ [':', ':'] <:+: before ++ [':']) (hafter : ¬ [':', ':'] <:+: ':' :: after)
    (h : before ++ ':' :: ':' :: after = before' ++ ':' :: ':' :: after') : after = after' := by
  rcases List.append_eq_append_iff.mp h with ⟨w, -, hw⟩ | ⟨w, hw', hw⟩
  · -- the other place is `w` further on
    match w with
    | [] => exact (List.cons.inj (List.cons.inj hw).2).2
    | [c] =>
      exfalso
      rw [(List.cons.inj hw).2] at hafter
      exact hafter ⟨[], after', rfl⟩
    | c :: d :: w =>
      exfalso
      rw [(List.cons.inj (List.cons.inj hw).2).2] at hafter
      exact hafter ⟨':' :: w, after', by simp⟩
  · match w with
    | [] => exact (List.cons.inj (List.cons.inj hw).2).2.symm
    | [c] =>
      exfalso
      rw [hw', ← (List.cons.inj hw).1] at hbefore
      exact hbefore ⟨before', [], by simp⟩
    | c :: d :: w =>
      exfalso
      have hd := (List.cons.inj (List.cons.inj hw).2).1
      rw [hw', ← (List.cons.inj hw).1, ← hd] at hbefore
      exact hbefore ⟨before', w ++ [':'], by simp⟩

/-! ## The run that is left out -/

/-- The first of the longest runs of zeros. -/
structure LongestRun (pieces : List Nat) (place count : Nat) : Prop where
  zeros : leadingZeros (pieces.drop place) = count
  longest : ∀ i, leadingZeros (pieces.drop i) ≤ count
  first : ∀ i < place, leadingZeros (pieces.drop i) < count

/-- There is one first longest run of zeros. -/
theorem LongestRun.unique {pieces : List Nat} {place count place' count' : Nat}
    (h : LongestRun pieces place count) (h' : LongestRun pieces place' count') :
    place = place' ∧ count = count' := by
  have hcount : count = count' :=
    Nat.le_antisymm (h.zeros ▸ h'.longest place) (h'.zeros ▸ h.longest place')
  have hle : place ≤ place' := by
    refine Nat.le_of_not_lt fun hlt => ?_
    exact absurd (h.first place' hlt) (by rw [h'.zeros]; omega)
  have hge : place' ≤ place := by
    refine Nat.le_of_not_lt fun hlt => ?_
    exact absurd (h'.first place hlt) (by rw [h.zeros]; omega)
  exact ⟨by omega, hcount⟩

/-- The search from a place finds the first longest run of zeros behind it. -/
theorem longestZeros_run (start : Nat) (pieces : List Nat) :
    ∃ place, (longestZeros start pieces).1 = start + place ∧
      LongestRun pieces place (longestZeros start pieces).2 := by
  induction pieces generalizing start with
  | nil => exact ⟨0, rfl, rfl, by simp [leadingZeros, longestZeros], by simp⟩
  | cons n more ih =>
    obtain ⟨place, hplace, hrun⟩ := ih (start + 1)
    rw [longestZeros]
    split
    next hle =>
      refine ⟨0, rfl, rfl, ?_, by simp⟩
      intro i
      cases i with
      | zero => exact Nat.le_refl _
      | succ i => exact Nat.le_trans (hrun.longest i) hle
    next hlt =>
      refine ⟨place + 1, by omega, hrun.zeros, ?_, ?_⟩
      · intro i
        cases i with
        | zero => exact Nat.le_of_not_le hlt
        | succ i => exact hrun.longest i
      · intro i hi
        cases i with
        | zero => exact Nat.lt_of_not_le hlt
        | succ i => exact hrun.first i (by omega)

/-- The search finds the first longest run of zeros. -/
theorem longestRun_longestZeros (pieces : List Nat) :
    LongestRun pieces (longestZeros 0 pieces).1 (longestZeros 0 pieces).2 := by
  obtain ⟨place, hplace, hrun⟩ := longestZeros_run 0 pieces
  rwa [hplace, Nat.zero_add]

/-! ## IPv6 -/

/-- The piece after the run of zeros that is left out begins with the digit `1`. -/
def OneAfterGap (pieces : List Nat) : Prop :=
  ∃ place count n k, LongestRun pieces place count ∧ 2 ≤ count ∧
    pieces[place + count]? = some n ∧ n / Nat.pow 16 k = 1

/-- Pieces are written with digits and colons. -/
theorem piecesText_subset (pieces : List Nat) : piecesText pieces ⊆ ':' :: addressDigits := by
  refine joinFields_subset (by simp) ?_
  intro field hfield
  obtain ⟨n, -, rfl⟩ := List.mem_map.mp hfield
  exact List.subset_cons_of_subset _ (hexText_subset n)

/-- An IPv6 address is written with digits and colons. -/
theorem ipv6Text_subset (pieces : List Nat) : ipv6Text pieces ⊆ ':' :: addressDigits := by
  rw [ipv6Text]
  obtain ⟨place, count⟩ := longestZeros 0 pieces
  dsimp only
  split
  next => exact piecesText_subset pieces
  next =>
    exact List.append_subset.mpr
      ⟨List.append_subset.mpr ⟨piecesText_subset _, by simp⟩, piecesText_subset _⟩

/-- The text of pieces begins with the first digit of the first piece. -/
theorem head?_piecesText (pieces : List Nat) :
    (piecesText pieces).head? = pieces.head?.bind fun n => (hexText n).head? := by
  cases pieces with
  | nil => rfl
  | cons n more =>
    cases more with
    | nil => rfl
    | cons m more =>
      have hshape : piecesText (n :: m :: more) = hexText n ++ ':' :: piecesText (m :: more) := by
        simp [piecesText, joinFields]
      rw [hshape, List.head?_append_of_ne_nil _ (hexText_ne_nil n)]
      rfl

/-- Two colons with a `1` behind them occur in the text of an address exactly if the piece after the
run of zeros that is left out begins with that digit. -/
theorem one_after_colons_iff (pieces : List Nat) :
    [':', ':', '1'] <:+: ipv6Text pieces ↔ OneAfterGap pieces := by
  have hrun := longestRun_longestZeros pieces
  rw [ipv6Text]
  generalize longestZeros 0 pieces = run at hrun
  obtain ⟨place, count⟩ := run
  dsimp only at hrun ⊢
  split
  next hshort =>
    constructor
    · intro h
      -- without a gap no two colons stand together
      have hcolons : [':', ':'] <:+: [':', ':', '1'] := ⟨[], ['1'], rfl⟩
      exact absurd (List.infix_cons (hcolons.trans h)) (not_colons_before_piecesText pieces)
    · rintro ⟨place', count', n, k, hrun', htwo, -, -⟩
      have := (hrun.unique hrun').2
      omega
  next hlong =>
    -- with a gap its colons are the only two that stand together (`gap_unique`)
    have hbefore := not_colons_after_piecesText (pieces.take place)
    have hafter := not_colons_before_piecesText (pieces.drop (place + count))
    have hhead := head?_piecesText (pieces.drop (place + count))
    rw [List.head?_drop] at hhead
    generalize piecesText (pieces.take place) = before at hbefore
    generalize piecesText (pieces.drop (place + count)) = after at hafter hhead
    constructor
    · rintro ⟨s, t, hst⟩
      have hplace : before ++ ':' :: ':' :: after = s ++ ':' :: ':' :: ('1' :: t) := by
        simpa using hst.symm
      rw [gap_unique hbefore hafter hplace] at hhead
      obtain ⟨n, hn, hdigit⟩ := Option.bind_eq_some_iff.mp hhead.symm
      obtain ⟨k, hk⟩ := (head?_hexText n).mp hdigit
      exact ⟨place, count, n, k, hrun, by omega, hn, hk⟩
    · rintro ⟨place', count', n, k, hrun', -, hn, hk⟩
      obtain ⟨rfl, rfl⟩ := hrun.unique hrun'
      rw [hn, Option.bind_some, (head?_hexText n).mpr ⟨k, hk⟩] at hhead
      obtain ⟨t, rfl⟩ := List.head?_eq_some_iff.mp hhead
      exact ⟨before, t, by simp⟩

end CallBook.Url
