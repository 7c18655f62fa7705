import CallBook.Proofs.Answers
import CallBook.Json.Reader

/-!
# A reader leaves the end of its text

What is left of a text after reading is an end of it: no reader makes up characters or takes some
out of the middle. This is said of each reader of words and numbers by its cases, of lists and
objects for any reader of what they hold (`leavesEnd_listOf`, `leavesEnd_membersOf`), and of values
by induction on the depth (`leavesEnd_value`).
-/

namespace CallBook.Json

variable {α β σ : Type}

/-- What was read off `s`, if anything, leaves an end of it. -/
def LeavesEnd (s : List Char) (r : Except Fault (α × List Char)) : Prop :=
  ∀ a rest, r = .ok (a, rest) → rest <:+ s

theorem leavesEnd_error (s : List Char) (fault : Fault) :
    LeavesEnd s (.error fault : Except Fault (α × List Char)) := by
  intro a rest h
  cases h

theorem leavesEnd_ok {s rest : List Char} (h : rest <:+ s) (a : α) :
    LeavesEnd s (.ok (a, rest)) := by
  rintro b tail ⟨⟩
  exact h

/-- What is left of an end of a text is an end of the text. -/
theorem LeavesEnd.mono {s t : List Char} (hts : t <:+ s) {r : Except Fault (α × List Char)}
    (h : LeavesEnd t r) : LeavesEnd s r :=
  fun a rest hr => (h a rest hr).trans hts

theorem LeavesEnd.map {s : List Char} {r : Except Fault (α × List Char)} (h : LeavesEnd s r)
    (f : α → β) : LeavesEnd s (r.map fun (a, rest) => (f a, rest)) := by
  intro b rest hb
  obtain ⟨⟨a, _⟩, hr, ⟨⟩⟩ := exists_of_map_ok hb
  exact h a rest hr

theorem skipBlanks_suffix (s : List Char) : skipBlanks s <:+ s := List.dropWhile_suffix isJsonBlank

/-- What stands behind the first character after blanks. -/
theorem suffix_of_skipBlanks {s rest : List Char} {c : Char} (h : skipBlanks s = c :: rest) :
    rest <:+ s :=
  (List.suffix_cons c rest).trans (h ▸ skipBlanks_suffix s)

/-! ## Words and strings -/

/-- A word that is expected is read from the front. -/
theorem leavesEnd_word (letters s : List Char) : LeavesEnd s (word letters s) := by
  induction letters generalizing s with
  | nil => exact leavesEnd_ok (List.suffix_refl s) ()
  | cons l letters ih =>
    cases s with
    | nil => exact leavesEnd_error _ _
    | cons c rest =>
      rw [word]
      split
      · exact (ih rest).mono (List.suffix_cons c rest)
      · exact leavesEnd_error _ _

theorem leavesEnd_hexQuad (s : List Char) : LeavesEnd s (hexQuad s) := by
  unfold hexQuad
  split
  · exact leavesEnd_error _ _
  split
  · next a b c d rest _ =>
    split
    · exact leavesEnd_ok (List.suffix_append [a, b, c, d] rest) _
    · exact leavesEnd_error _ _
  · exact leavesEnd_error _ _

theorem leavesEnd_secondHalf (high : Nat) (s : List Char) : LeavesEnd s (secondHalf high s) := by
  unfold secondHalf
  split
  · exact leavesEnd_error _ _
  split
  · exact leavesEnd_error _ _
  split
  · exact leavesEnd_error _ _
  split
  · exact leavesEnd_error _ _
  · next c _ _ u rest _ =>
    have hrest : rest <:+ c :: u :: rest := List.suffix_append [c, u] rest
    split
    · exact leavesEnd_error _ _
    · next hquad =>
      split
      · exact leavesEnd_ok ((leavesEnd_hexQuad _ _ _ hquad).trans hrest) _
      · exact leavesEnd_error _ _

/-- An escape sequence is read from the front, the second half of a pair included. -/
theorem leavesEnd_escape (s : List Char) : LeavesEnd s (escape s) := by
  unfold escape
  split
  · exact leavesEnd_error _ _
  · next c rest =>
    have hrest : rest <:+ c :: rest := List.suffix_cons c rest
    -- the escapes of one letter
    split
    · exact leavesEnd_ok hrest _
    split
    · exact leavesEnd_ok hrest _
    split
    · exact leavesEnd_ok hrest _
    split
    · exact leavesEnd_ok hrest _
    split
    · exact leavesEnd_ok hrest _
    split
    · exact leavesEnd_ok hrest _
    split
    · split
      · exact leavesEnd_error _ _
      · next n tail hquad =>
        have htail : tail <:+ c :: rest := (leavesEnd_hexQuad _ _ _ hquad).trans hrest
        split
        · exact leavesEnd_error _ _
        split
        · exact (leavesEnd_secondHalf n tail).mono htail
        · exact leavesEnd_ok htail _
    · exact leavesEnd_error _ _

/-- The characters of a string are read from the front, up to and with the closing quote. -/
theorem leavesEnd_stringChars (s : List Char) : LeavesEnd s (stringChars s) := by
  fun_induction stringChars s with
  | case1 => exact leavesEnd_error _ _
  | case2 rest => exact leavesEnd_ok (List.suffix_cons _ rest) _
  | case3 => exact leavesEnd_error _ _
  | case4 => exact leavesEnd_error _ _
  | case5 rest d after hescape more tail hmore _ ih =>
    have hafter : after <:+ rest := leavesEnd_escape _ _ _ hescape
    exact leavesEnd_ok ((ih _ _ hmore).trans (hafter.trans (List.suffix_cons _ rest))) _
  | case6 => exact leavesEnd_error _ _
  | case7 => exact leavesEnd_error _ _
  | case8 c rest _ _ _ more tail hmore ih =>
    exact leavesEnd_ok ((ih _ _ hmore).trans (List.suffix_cons c rest)) _

theorem leavesEnd_stringBody (s : List Char) : LeavesEnd s (stringBody s) := by
  unfold stringBody
  split
  · exact leavesEnd_error _ _
  · next chars rest hchars => exact leavesEnd_ok (leavesEnd_stringChars s _ _ hchars) _

/-! ## Numbers -/

/-- Digits are read from the front, those that are beyond the precision as well. -/
theorem significand_suffix (n : Nat) (s : List Char) : (significand n s).2 <:+ s := by
  induction s generalizing n with
  | nil => exact List.suffix_refl []
  | cons c s ih =>
    rw [significand]
    split
    · dsimp only
      split
      · exact (ih _).trans (List.suffix_cons c s)
      · exact List.suffix_refl _
    · exact List.suffix_refl _

theorem leavesEnd_double (negative : Bool) (n : Nat) (exponent : Int) (s : List Char) :
    LeavesEnd s (double negative n exponent s) := by
  unfold double
  split
  · exact leavesEnd_ok (List.suffix_refl s) _
  · exact leavesEnd_error _ _

/-- The digits of an exponent are read from the front. -/
theorem leavesEnd_exponentDigits (negative : Bool) (n : Nat) (start : Int) (raise : Bool) (e : Nat)
    (s : List Char) : LeavesEnd s (exponentDigits negative n start raise e s) := by
  induction s generalizing e with
  | nil => exact leavesEnd_double _ _ _ _
  | cons c s ih =>
    rw [exponentDigits]
    split
    · dsimp only
      split
      · exact (ih _).mono (List.suffix_cons c s)
      split
      · exact leavesEnd_error _ _
      · exact leavesEnd_ok ((List.dropWhile_suffix _).trans (List.suffix_cons c s)) _
    · exact leavesEnd_double _ _ _ _

theorem leavesEnd_exponentPart (negative : Bool) (n : Nat) (start : Int) (s : List Char) :
    LeavesEnd s (exponentPart negative n start s) := by
  unfold exponentPart
  split
  next raise t hsign =>
  -- a sign, if there is one, is taken off the text
  have ht : t <:+ s := by
    split at hsign
    · split at hsign
      · cases hsign
        exact List.suffix_cons _ _
      split at hsign
      · cases hsign
        exact List.suffix_cons _ _
      · cases hsign
        exact List.suffix_refl _
    · cases hsign
      exact List.suffix_refl _
  split
  · exact leavesEnd_error _ _
  · next c rest =>
    split
    · have hrest : rest <:+ s := (List.suffix_cons c rest).trans ht
      exact (leavesEnd_exponentDigits _ _ _ _ _ rest).mono hrest
    · exact leavesEnd_error _ _

theorem leavesEnd_optionalExponent (negative : Bool) (n : Nat) (start : Int) (s : List Char) :
    LeavesEnd s (optionalExponent negative n start s) := by
  unfold optionalExponent
  split
  · next c rest =>
    split
    · exact (leavesEnd_exponentPart _ _ _ rest).mono (List.suffix_cons c rest)
    · exact leavesEnd_double _ _ _ _
  · exact leavesEnd_double _ _ _ _

/-- The digits behind a full stop are read from the front. -/
theorem leavesEnd_fraction (negative : Bool) (n : Nat) (start : Int) (s : List Char) :
    LeavesEnd s (fraction negative n start s) := by
  unfold fraction
  split
  · exact leavesEnd_error _ _
  · next c rest =>
    split
    · have hdigits := significand_suffix n (c :: rest)
      exact (leavesEnd_optionalExponent _ _ _ _).mono ((List.dropWhile_suffix _).trans hdigits)
    · exact leavesEnd_error _ _

/-- The digits before a full stop are read from the front. -/
theorem leavesEnd_wholeNumber (negative : Bool) (n : Nat) (s : List Char) :
    LeavesEnd s (wholeNumber negative n s) := by
  unfold wholeNumber
  split
  · exact leavesEnd_ok (List.suffix_refl s) _
  split
  · exact leavesEnd_double _ _ _ _
  · exact leavesEnd_ok (List.suffix_refl s) _

theorem leavesEnd_afterWhole (negative : Bool) (n dropped : Nat) (s : List Char) :
    LeavesEnd s (afterWhole negative n dropped s) := by
  have hend : ∀ t, LeavesEnd t
      (if dropped = 0 then wholeNumber negative n t else double negative n dropped t) := by
    intro t
    split
    · exact leavesEnd_wholeNumber _ _ _
    · exact leavesEnd_double _ _ _ _
  unfold afterWhole
  split
  · next c rest =>
    split
    · exact (leavesEnd_fraction _ _ _ rest).mono (List.suffix_cons c rest)
    split
    · exact (leavesEnd_exponentPart _ _ _ rest).mono (List.suffix_cons c rest)
    · exact hend _
  · exact hend _

/-- A number without its sign is read from the front. -/
theorem leavesEnd_numberBody (negative : Bool) (s : List Char) :
    LeavesEnd s (numberBody negative s) := by
  unfold numberBody
  split
  · exact leavesEnd_error _ _
  · next c rest =>
    have hrest : rest <:+ c :: rest := List.suffix_cons c rest
    split
    · -- a leading zero
      split
      · split
        · exact leavesEnd_error _ _
        · exact (leavesEnd_afterWhole _ _ _ _).mono hrest
      · exact (leavesEnd_afterWhole _ _ _ _).mono hrest
    split
    · have hdigits := significand_suffix 0 (c :: rest)
      exact (leavesEnd_afterWhole _ _ _ _).mono ((List.dropWhile_suffix _).trans hdigits)
    · exact leavesEnd_error _ _

/-! ## Lists and objects -/

/-- An item begins further on in the text. -/
theorem nextItem_suffix {first : Bool} {s t : List Char} (h : nextItem first s = .ok (some t)) :
    t <:+ s := by
  unfold nextItem at h
  split at h
  · cases h
  · next c rest hs =>
    have hrest := suffix_of_skipBlanks hs
    split at h
    · cases h
    split at h
    · cases h
      exact hs ▸ skipBlanks_suffix s
    split at h
    · split at h
      · cases h
      · next d tail hd =>
        split at h
        · cases h
        · cases h
          exact (hd ▸ skipBlanks_suffix rest).trans hrest
    · cases h

/-- The bracket that closes a list is further on in the text. -/
theorem closeList_suffix {s rest : List Char} (h : closeList s = .ok rest) : rest <:+ s := by
  unfold closeList at h
  split at h
  · cases h
  · next c tail hs =>
    split at h
    · cases h
      exact suffix_of_skipBlanks hs
    · split at h
      · split at h <;> cases h
      · cases h

/-- If single items are read from the front, so are any number of them. -/
theorem leavesEnd_items {read : Reader α} (h : ∀ s, LeavesEnd s (read s)) (fuel : Nat)
    (first : Bool) (s : List Char) : LeavesEnd s (items read fuel first s) := by
  induction fuel generalizing first s with
  | zero => exact leavesEnd_error _ _
  | succ fuel ih =>
    rw [items]
    split
    · exact leavesEnd_error _ _
    · exact leavesEnd_ok (List.suffix_refl s) _
    · next t hnext =>
      split
      · exact leavesEnd_error _ _
      · next item rest hread =>
        have hrest : rest <:+ s := (h _ _ _ hread).trans (nextItem_suffix hnext)
        split
        · exact leavesEnd_error _ _
        · next hmore => exact leavesEnd_ok ((ih _ _ _ _ hmore).trans hrest) _

theorem leavesEnd_listOf {read : Reader α} (h : ∀ s, LeavesEnd s (read s)) (s : List Char) :
    LeavesEnd s (listOf read s) := by
  unfold listOf
  split
  · exact leavesEnd_error _ _
  · next list tail hitems =>
    intro a rest hr
    obtain ⟨after, hclose, ⟨⟩⟩ := exists_of_map_ok hr
    exact (closeList_suffix hclose).trans (leavesEnd_items h _ _ _ _ _ hitems)

/-- A key begins here, with `body` behind its opening quote: behind a comma, unless it is the first
one. -/
inductive KeyAt : (first : Bool) → (s body : List Char) → Prop
  | first {s body : List Char} (h : skipBlanks s = '"' :: body) : KeyAt true s body
  | next {s t body : List Char} (hcomma : skipBlanks s = ',' :: t)
      (hquote : skipBlanks t = '"' :: body) : KeyAt false s body

/-- A key is found exactly where one begins, behind a comma unless it is the first. -/
theorem nextKey_eq_some_iff {first : Bool} {s body : List Char} :
    nextKey first s = .ok (some body) ↔ KeyAt first s body := by
  constructor
  · intro h
    unfold nextKey at h
    split at h
    · cases h
    · next c rest hs =>
      split at h
      · cases h
      split at h
      · next hfirst =>
        split at h
        · next hc =>
          cases h
          rw [hfirst]
          exact .first (hc ▸ hs)
        · cases h
      · next hfirst =>
        rw [Bool.not_eq_true] at hfirst
        split at h
        · next hc =>
          split at h
          · cases h
          · next d tail hd =>
            split at h
            · next hq =>
              cases h
              rw [hfirst]
              exact .next (hc ▸ hs) (hq ▸ hd)
            split at h <;> cases h
        · cases h
  · rintro (hs | ⟨hs, ht⟩)
    · simp [nextKey, hs]
    · simp [nextKey, hs, ht]

/-- A key begins further on in the text. -/
theorem KeyAt.suffix {first : Bool} {s body : List Char} (h : KeyAt first s body) : body <:+ s := by
  cases h with
  | first hquote => exact suffix_of_skipBlanks hquote
  | next hcomma hquote => exact (suffix_of_skipBlanks hquote).trans (suffix_of_skipBlanks hcomma)

/-- A colon is found behind blanks only. -/
theorem colonAfter_eq_ok {s rest : List Char} (h : colonAfter s = .ok rest) :
    skipBlanks s = ':' :: rest := by
  unfold colonAfter at h
  split at h
  · cases h
  · next c tail hs =>
    split at h
    · next hc =>
      cases h
      rw [hs, hc]
    · cases h

/-- The brace that closes an object is found behind blanks only. -/
theorem closeObject_eq_ok {s rest : List Char} (h : closeObject s = .ok rest) :
    skipBlanks s = '}' :: rest := by
  unfold closeObject at h
  split at h
  · cases h
  · next c tail hs =>
    split at h
    · next hc =>
      cases h
      rw [hs, hc]
    · split at h <;> cases h

/-- If the value of each key is read from the front, so are the members of an object. -/
theorem leavesEnd_members {step : Members σ}
    (h : ∀ state key read, step state key = .ok read → ∀ s, LeavesEnd s (read s)) (fuel : Nat)
    (first : Bool) (state : σ) (s : List Char) :
    LeavesEnd s (members step fuel first state s) := by
  induction fuel generalizing first state s with
  | zero => exact leavesEnd_error _ _
  | succ fuel ih =>
    rw [members]
    split
    · exact leavesEnd_error _ _
    · exact leavesEnd_ok (List.suffix_refl s) _
    · next t hnext =>
      have ht := (nextKey_eq_some_iff.mp hnext).suffix
      split
      · exact leavesEnd_error _ _
      · next key after hkey =>
        have hafter := leavesEnd_stringBody _ _ _ hkey
        split
        · exact leavesEnd_error _ _
        · next read hstep =>
          split
          · exact leavesEnd_error _ _
          · next u hcolon =>
            have hu := suffix_of_skipBlanks (colonAfter_eq_ok hcolon)
            split
            · exact leavesEnd_error _ _
            · next hread =>
              have hv := h _ _ _ hstep _ _ _ hread
              -- each reader leaves an end of what the one before it left
              exact (ih _ _ _).mono (hv.trans (hu.trans (hafter.trans ht)))

theorem leavesEnd_membersOf {step : Members σ}
    (h : ∀ state key read, step state key = .ok read → ∀ s, LeavesEnd s (read s)) (start : σ)
    (s : List Char) : LeavesEnd s (membersOf step start s) := by
  unfold membersOf
  split
  · exact leavesEnd_error _ _
  · next state tail hmembers =>
    intro a rest hr
    obtain ⟨after, hclose, ⟨⟩⟩ := exists_of_map_ok hr
    exact (suffix_of_skipBlanks (closeObject_eq_ok hclose)).trans
      (leavesEnd_members h _ _ _ _ _ _ hmembers)

/-! ## Values -/

/-- A reader of values, given that it holds of those one level deeper. -/
theorem leavesEnd_value_of_deeper {depth : Nat}
    (h : ∀ deeper, depth = deeper + 1 → ∀ s, LeavesEnd s (value deeper s)) (s : List Char) :
    LeavesEnd s (value depth s) := by
  rw [value.eq_def]
  dsimp only
  split
  · exact leavesEnd_error _ _
  · next c rest hs =>
    have hrest : rest <:+ s := suffix_of_skipBlanks hs
    have hall : c :: rest <:+ s := hs ▸ skipBlanks_suffix s
    -- one case for each character that a value may begin with, in the order of the reader
    split
    · exact ((leavesEnd_word _ rest).map fun _ => Value.null).mono hrest
    split
    · exact ((leavesEnd_word _ rest).map fun _ => Value.bool true).mono hrest
    split
    · exact ((leavesEnd_word _ rest).map fun _ => Value.bool false).mono hrest
    split
    · exact ((leavesEnd_numberBody true rest).map Value.number).mono hrest
    split
    · exact ((leavesEnd_numberBody false (c :: rest)).map Value.number).mono hall
    split
    · exact ((leavesEnd_stringBody rest).map Value.string).mono hrest
    split
    · split
      · exact leavesEnd_error _ _
      · next deeper =>
        have hvalue := h deeper rfl
        split
        · exact ((leavesEnd_listOf hvalue rest).map Value.array).mono hrest
        · have hstep : ∀ state key read, insertMember (value deeper) state key = .ok read →
              ∀ t, LeavesEnd t (read t) := by
            rintro state key read ⟨⟩ t
            exact (hvalue t).map fun v => state.insert key v
          have hmembers := leavesEnd_membersOf hstep .empty rest
          exact (hmembers.map fun m => Value.object m.entries).mono hrest
    · exact leavesEnd_error _ _

/-- A value is read from the front: what is left is an end of the text. -/
theorem leavesEnd_value (depth : Nat) (s : List Char) : LeavesEnd s (value depth s) := by
  induction depth generalizing s with
  | zero =>
    refine leavesEnd_value_of_deeper (fun deeper h => ?_) s
    cases h
  | succ depth ih =>
    refine leavesEnd_value_of_deeper (fun deeper h => ?_) s
    cases h
    exact ih

end CallBook.Json
