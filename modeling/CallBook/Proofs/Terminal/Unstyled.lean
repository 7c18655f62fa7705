import CallBook.Terminal.Style

/-!
# Texts without their styles

A reader that does not know about styles takes the style sequences out of a text: everything from
an escape character and a bracket over numbers to an `m`. Of a painted text the same remains as of
the text itself (`unstyled_paint`), whatever sequences the text may bring along.

A sequence does not go on over an escape character or a line feed, so that a text may be cut in
front of these (`unstyled_append`). What `restore` adds stands behind a whole sequence, which is
behind the next escape character for whatever begins earlier: it neither breaks a sequence nor
completes one (`behindSequence?_restore`).
-/

namespace CallBook.Terminal

/-- A character between the bracket and the `m` of a style sequence. -/
def isParameter (c : Char) : Bool := c.isDigit || c = ';'

/-- What stands in a style sequence behind its escape character. -/
def IsBody (body : List Char) : Prop :=
  ∃ code : List Char, (∀ c ∈ code, isParameter c = true) ∧ body = '[' :: (code ++ ['m'])

/-- What stands behind the style sequence that a text begins with, if it begins with one. -/
def behindSequence? : List Char → Option (List Char)
  | '\x1b' :: '[' :: rest =>
    match rest.dropWhile isParameter with
    | 'm' :: after => some after
    | _ => none
  | _ => none

/-- A sequence is an escape character and a body. -/
theorem behindSequence?_eq_some_iff {text after : List Char} :
    behindSequence? text = some after ↔ ∃ body, IsBody body ∧ text = '\x1b' :: (body ++ after) := by
  constructor
  · intro h
    unfold behindSequence? at h
    split at h
    next rest =>
      split at h
      next stop hstop =>
        cases h
        refine ⟨_, ⟨rest.takeWhile isParameter, List.all_eq_true.mp List.all_takeWhile, rfl⟩, ?_⟩
        have hrest := List.takeWhile_append_dropWhile (p := isParameter) (l := rest)
        rw [hstop] at hrest
        simp [hrest]
      next => cases h
    next => cases h
  · rintro ⟨-, ⟨code, hcode, rfl⟩, rfl⟩
    have hstop := (Text.span_append_cons hcode (a := 'm') (by decide) after).2
    simp [behindSequence?, hstop]

/-- A text without its style sequences. -/
def unstyled : (text : List Char) → List Char
  | [] => []
  | c :: rest =>
    match _h : behindSequence? (c :: rest) with
    | some after => unstyled after
    | none => c :: unstyled rest
termination_by text => text.length
decreasing_by
  · obtain ⟨body, -, htext⟩ := behindSequence?_eq_some_iff.mp _h
    rw [htext, List.length_cons, List.length_append]
    omega
  · exact Nat.lt_succ_self _

/-- A sequence at the front is left out. -/
theorem unstyled_of_some {text after : List Char} (h : behindSequence? text = some after) :
    unstyled text = unstyled after := by
  cases text with
  | nil => cases h
  | cons c rest =>
    rw [unstyled]
    split
    next found hfound => rw [Option.some.inj (hfound.symm.trans h)]
    next hnone => cases hnone.symm.trans h

/-- A character that begins no sequence is kept. -/
theorem unstyled_of_none {c : Char} {rest : List Char} (h : behindSequence? (c :: rest) = none) :
    unstyled (c :: rest) = c :: unstyled rest := by
  rw [unstyled]
  split
  next found hfound => cases hfound.symm.trans h
  next => rfl

/-! ## Where a sequence ends -/

/-- A body holds neither an escape character nor a line feed. -/
theorem IsBody.ne {body : List Char} (h : IsBody body) {c : Char} (hc : c ∈ body) :
    c ≠ '\x1b' ∧ c ≠ '\n' := by
  obtain ⟨code, hcode, rfl⟩ := h
  rw [List.mem_cons, List.mem_append, List.mem_singleton] at hc
  rcases hc with rfl | hc | rfl
  · decide
  · have hparameter := hcode c hc
    constructor <;> rintro rfl <;> cases hparameter
  · decide

/-- No sequence that begins earlier goes on with this text. -/
def Breaks (rest : List Char) : Prop := ∀ c ∈ rest.head?, c = '\x1b' ∨ c = '\n'

/-- A sequence does not go on into a text that breaks it. -/
theorem behindSequence?_append {rest : List Char} (h : Breaks rest) (c : Char)
    (text : List Char) :
    behindSequence? (c :: text ++ rest) = (behindSequence? (c :: text)).map (· ++ rest) := by
  cases hfound : behindSequence? (c :: text) with
  | some after =>
    obtain ⟨body, hbody, htext⟩ := behindSequence?_eq_some_iff.mp hfound
    refine behindSequence?_eq_some_iff.mpr ⟨body, hbody, ?_⟩
    rw [htext, List.cons_append, List.append_assoc]
  | none =>
    rw [Option.map_none, Option.eq_none_iff_forall_not_mem]
    intro after hafter
    obtain ⟨body, hbody, htext⟩ := behindSequence?_eq_some_iff.mp hafter
    obtain ⟨rfl, hcut⟩ := List.cons.inj htext
    have hno : ∀ excess, text ≠ body ++ excess := by
      intro excess hexcess
      have hsome : behindSequence? ('\x1b' :: text) = some excess :=
        behindSequence?_eq_some_iff.mpr ⟨body, hbody, congrArg _ hexcess⟩
      cases hfound.symm.trans hsome
    rcases List.append_eq_append_iff.mp hcut with ⟨excess, hexcess, hrest⟩ | ⟨excess, hexcess, -⟩
    · -- the text ends inside the sequence, and the rest would have to go on with it
      cases excess with
      | nil => exact hno [] (by simp [hexcess])
      | cons d excess =>
        have hd := hbody.ne (c := d) (by simp [hexcess])
        rcases h d (by simp [hrest]) with rfl | rfl
        · exact hd.1 rfl
        · exact hd.2 rfl
    · exact hno excess hexcess

/-- A text may be cut where no sequence goes on. -/
theorem unstyled_append {rest : List Char} (h : Breaks rest) (text : List Char) :
    unstyled (text ++ rest) = unstyled text ++ unstyled rest := by
  induction text using unstyled.induct with
  | case1 => rw [unstyled]; rfl
  | case2 c text after hfound ih =>
    have happend := behindSequence?_append h c text
    rw [hfound, Option.map_some] at happend
    rw [unstyled_of_some happend, ih, unstyled_of_some hfound]
  | case3 c text hnone ih =>
    have happend := behindSequence?_append h c text
    rw [hnone, Option.map_none, List.cons_append] at happend
    rw [List.cons_append, unstyled_of_none happend, ih, unstyled_of_none hnone]
    rfl

theorem unstyled_lineFeed (rest : List Char) : unstyled ('\n' :: rest) = '\n' :: unstyled rest :=
  unstyled_of_none rfl

/-- A text without an escape character is kept as it is. -/
theorem unstyled_of_notMem {text : List Char} (h : '\x1b' ∉ text) : unstyled text = text := by
  induction text with
  | nil => rw [unstyled]
  | cons c text ih =>
    rw [List.mem_cons, not_or] at h
    have hnone : behindSequence? (c :: text) = none := by
      unfold behindSequence?
      split
      next heq => exact absurd (List.cons.inj heq).1.symm h.1
      next => rfl
    rw [unstyled_of_none hnone, ih h.2]

/-! ## Painting -/

/-- A sequence of parameters is left out. -/
theorem unstyled_sequence {code : String} (h : code.toList.all isParameter = true)
    (rest : List Char) : unstyled (sequence code ++ rest) = unstyled rest := by
  have hbody : IsBody ('[' :: (code.toList ++ ['m'])) := ⟨_, List.all_eq_true.mp h, rfl⟩
  exact unstyled_of_some (behindSequence?_eq_some_iff.mpr ⟨_, hbody, rfl⟩)

/-- Switching a style on cannot be seen in plain text. -/
theorem unstyled_on (style : Style) (rest : List Char) :
    unstyled (style.on ++ rest) = unstyled rest := by
  refine unstyled_sequence ?_ rest
  cases style with
  | weight w => cases w <;> decide
  | color c => cases c <;> decide
  | both w c => cases w <;> cases c <;> decide

/-- Switching all styles off cannot be seen in plain text. -/
theorem unstyled_off (rest : List Char) : unstyled (off ++ rest) = unstyled rest :=
  unstyled_sequence (by decide) rest

theorem behindSequence?_off (rest : List Char) : behindSequence? (off ++ rest) = some rest := rfl

variable (style : Style)

/-- A style is switched on again behind every place that switches all styles off. -/
theorem restore_off (rest : List Char) :
    style.restore 0 (off ++ rest) = off ++ style.on ++ style.restore 0 rest := by
  have hbegins : Text.beginsWith off (off ++ rest) = true :=
    Text.beginsWith_iff.mpr (List.prefix_append off rest)
  show (if Text.beginsWith off (off ++ rest) then _ else _) = _
  rw [if_pos hbegins]
  rfl

/-- A run without escape characters stays as it is. -/
theorem restore_append {run : List Char} (h : '\x1b' ∉ run) (rest : List Char) :
    style.restore 0 (run ++ rest) = run ++ style.restore 0 rest := by
  induction run with
  | nil => rfl
  | cons c run ih =>
    rw [List.mem_cons, not_or] at h
    have hoff : ¬ Text.beginsWith off (c :: (run ++ rest)) = true := by
      intro hbegins
      exact h.1 (List.cons_prefix_cons.mp (Text.beginsWith_iff.mp hbegins)).1
    rw [List.cons_append, Style.restore, if_neg hoff, ih h.2]
    rfl

/-- Restoring a style changes no first character. -/
theorem head?_restore (text : List Char) : (style.restore 0 text).head? = text.head? := by
  cases text with
  | nil => rfl
  | cons c rest =>
    rw [Style.restore]
    split <;> rfl

/-- Switching a style on again makes no sequence out of what was none. -/
theorem behindSequence?_restore {c : Char} {text : List Char}
    (h : behindSequence? (c :: text) = none) :
    behindSequence? (c :: style.restore 0 text) = none := by
  -- only what stands before the next escape character counts, and `restore` leaves that alone
  let run := text.takeWhile (· ≠ '\x1b')
  let tail := text.dropWhile (· ≠ '\x1b')
  have htext : text = run ++ tail := List.takeWhile_append_dropWhile.symm
  have hrun : '\x1b' ∉ run := by
    intro hmem
    have hne := List.all_eq_true.mp List.all_takeWhile _ hmem
    simp at hne
  have htail : Breaks tail := by
    intro d hd
    have hstop := List.head?_dropWhile_not (· ≠ '\x1b') text
    rw [Option.mem_def.mp hd] at hstop
    exact .inl (by simpa using hstop)
  have hrestored : Breaks (style.restore 0 tail) := by
    rw [Breaks, head?_restore]
    exact htail
  rw [htext, ← List.cons_append, behindSequence?_append htail, Option.map_eq_none_iff] at h
  rw [htext, restore_append style hrun, ← List.cons_append, behindSequence?_append hrestored,
    h, Option.map_none]

/-- Restoring a style cannot be seen in plain text. -/
theorem unstyled_restore (text : List Char) : unstyled (style.restore 0 text) = unstyled text := by
  induction text using unstyled.induct with
  | case1 => rfl
  | case2 c text after hfound ih =>
    obtain ⟨body, hbody, htext⟩ := behindSequence?_eq_some_iff.mp hfound
    rw [unstyled_of_some hfound, ← ih]
    by_cases hoff : Text.beginsWith off (c :: text) = true
    · -- a second sequence comes behind this one, and both go
      obtain ⟨rest, hrest⟩ := Text.beginsWith_iff.mp hoff
      rw [← hrest, behindSequence?_off] at hfound
      cases hfound
      rw [← hrest, restore_off, List.append_assoc, unstyled_off, unstyled_on]
    · -- no place to switch anything on before the next escape character
      rw [Style.restore, if_neg hoff]
      obtain ⟨rfl, rfl⟩ := List.cons.inj htext
      rw [restore_append style (fun hc => (hbody.ne hc).1 rfl)]
      exact unstyled_of_some (behindSequence?_eq_some_iff.mpr ⟨body, hbody, rfl⟩)
  | case3 c text hnone ih =>
    have hoff : ¬ Text.beginsWith off (c :: text) = true := by
      intro hoff
      obtain ⟨rest, hrest⟩ := Text.beginsWith_iff.mp hoff
      rw [← hrest, behindSequence?_off] at hnone
      cases hnone
    rw [Style.restore, if_neg hoff, unstyled_of_none (behindSequence?_restore style hnone), ih,
      unstyled_of_none hnone]

/-- Of a painted text the same remains as of the text itself. -/
theorem unstyled_paint (text : String) :
    unstyled (style.paint true text).toList = unstyled text.toList := by
  have hpainted : (style.paint true text).toList
      = style.on ++ (style.restore 0 text.toList ++ off) := by
    rw [Style.paint, if_pos rfl, String.toList_ofList, List.append_assoc]
  have hoff : Breaks off := by
    rintro c ⟨⟩
    exact .inl rfl
  have hnothing : unstyled off = [] := by
    rw [← List.append_nil off, unstyled_off, unstyled]
  rw [hpainted, unstyled_on, unstyled_append hoff, unstyled_restore, hnothing, List.append_nil]

end CallBook.Terminal
