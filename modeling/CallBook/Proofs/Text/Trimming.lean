import Mathlib.Data.List.TakeWhile
import CallBook.Text.Ascii
import CallBook.Text.Blank

/-!
# Trimming

White space around a text goes, and nothing else does: whatever blanks are put around a text that
begins and ends visibly, trimming gives the text back (`trim_around`).
-/

namespace CallBook.Text

/-- White space before a text is trimmed. -/
theorem trimStart_append {blanks : List Char} (h : isBlankText blanks = true)
    (s : List Char) : trimStart (blanks ++ s) = trimStart s :=
  List.dropWhile_append_of_pos (List.all_eq_true.mp h)

/-- White space behind a text is trimmed. -/
theorem trimEnd_append {blanks : List Char} (h : isBlankText blanks = true)
    (s : List Char) : trimEnd (s ++ blanks) = trimEnd s := by
  have hrev : ∀ c ∈ blanks.reverse, isBlank c = true := by
    intro c hc
    exact List.all_eq_true.mp h c (List.mem_reverse.mp hc)
  rw [trimEnd, List.reverse_append, List.dropWhile_append_of_pos hrev, trimEnd]

/-- White space around a text that begins and ends visibly is all that trimming takes away. -/
theorem trim_around {before body after : List Char} (hb : isBlankText before = true)
    (ha : isBlankText after = true) (hbody : trim body = body)
    (hstart : ∃ c more, body = c :: more ∧ isBlank c = false) :
    trim (before ++ (body ++ after)) = body := by
  obtain ⟨c, more, rfl, hc⟩ := hstart
  have hs : trimStart (c :: (more ++ after)) = c :: (more ++ after) :=
    trimStart_cons_of_not_blank hc _
  rw [trim, trimStart_append hb, List.cons_append, hs, ← List.cons_append, trimEnd_append ha]
  rw [trim, trimStart_cons_of_not_blank hc] at hbody
  exact hbody

theorem trim_of_trimmed {s : String} (h : trimmed s = s) : trim s.toList = s.toList := by
  have := congrArg String.toList h
  rwa [trimmed, String.toList_ofList] at this

theorem trim_cons_space (s : List Char) : trim (' ' :: s) = trim s := rfl

theorem isDigit_of_isBlank {c : Char} (h : isBlank c = true) : isDigit c = false := by
  by_contra hd
  rw [Bool.not_eq_false, isDigit, Char.isDigit_iff_toNat] at hd
  have hrange : 48 ≤ c.toNat ∧ c.toNat ≤ 57 := hd
  simp only [isBlank, Bool.or_eq_true, Bool.and_eq_true, decide_eq_true_eq, beq_iff_eq] at h
  omega

/-- Nothing goes from a text without white space. -/
theorem trim_of_not_blank {s : List Char} (h : ∀ c ∈ s, isBlank c = false) : trim s = s := by
  have hdrop : ∀ t : List Char, (∀ c ∈ t, isBlank c = false) → t.dropWhile isBlank = t := by
    intro t ht
    cases t with
    | nil => rfl
    | cons c t => exact List.dropWhile_cons_of_neg (by simp [ht c List.mem_cons_self])
  rw [trim, trimEnd, trimStart, hdrop s h, hdrop s.reverse fun c hc => h c (List.mem_reverse.mp hc),
    List.reverse_reverse]

/-- Of white space nothing is left. -/
theorem trim_of_isBlankText {s : List Char} (h : isBlankText s = true) : trim s = [] := by
  have hstart : trimStart s = [] := by
    rw [trimStart, List.dropWhile_eq_nil_iff]
    exact List.all_eq_true.mp h
  rw [trim, hstart]
  rfl

/-- Trimming leaves no space at the front. -/
theorem head?_ne_of_trim {s : List Char} (h : trim s = s) : s.head? ≠ some ' ' := by
  intro hs
  -- trimming drops the space, and what is left is no longer than the rest
  obtain ⟨more, rfl⟩ : ∃ more, s = ' ' :: more := by
    cases s with
    | nil => cases hs
    | cons c more => exact ⟨more, by rw [Option.some.inj hs]⟩
  have hlen : (trim more).length ≤ more.length := by
    rw [trim, trimEnd, List.length_reverse]
    refine Nat.le_trans (List.dropWhile_sublist _).length_le ?_
    rw [List.length_reverse]
    exact (List.dropWhile_sublist _).length_le
  rw [trim_cons_space] at h
  rw [h, List.length_cons] at hlen
  omega

end CallBook.Text
