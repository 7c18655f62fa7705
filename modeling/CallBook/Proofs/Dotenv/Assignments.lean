import CallBook.Cli.Session
import CallBook.Proofs.OrderedMap
import CallBook.Proofs.Text.Trimming
import CallBook.Proofs.Text.Utf8

/-!
# Files of quoted assignments

A value in single quotes stands for itself, whatever else its characters mean elsewhere in a dotenv
file. The scan for the end of a line passes over it inside the quotes, where a `#` begins no comment
(`scan_assignment`), and the reader of values takes it whole (`readValue_quoted`), so that neither
the process environment nor what was assigned before plays a part. A line that assigns nothing, be
it empty or a comment, is passed over.

Each line is finished by its own end, so the file is read line by line (`readLines_line`), and by
induction over the lines the variables are those of its assignments, made one after the other
(`readLines_fileText`).

Main result: `readEnvironment_of_assignments`.
-/

namespace CallBook.Dotenv

open CallBook.Text

/-! ## The files -/

/-- A letter or an underscore, then letters, digits, underscores and points. -/
structure IsName (name : String) : Prop where
  first : ∃ c ∈ name.toList.head?, c.isAlpha = true ∨ c = '_'
  more : ∀ c ∈ name.toList.tail, c.isAlphanum = true ∨ c = '_' ∨ c = '.'

-- the instances are named because a quantifier over all characters is decidable as well
instance (name : String) : Decidable (IsName name) :=
  @decidable_of_iff _ (_ ∧ _) ⟨fun h => ⟨h.1, h.2⟩, fun h => ⟨h.first, h.more⟩⟩
    (@instDecidableAnd _ _ (Option.decidableExistsMem _) (List.decidableBAll _ _))

/-- What single quotes can be put around: no quote, no backslash and no line feed. -/
def IsQuotable (value : String) : Prop := ∀ c ∈ value.toList, c ≠ '\'' ∧ c ≠ '\\' ∧ c ≠ '\n'

instance (value : String) : Decidable (IsQuotable value) := List.decidableBAll _ _

/-- White space inside a line. -/
def IsPadding (s : List Char) : Prop := ∀ c ∈ s, isBlank c = true ∧ c ≠ '\n'

instance (s : List Char) : Decidable (IsPadding s) := List.decidableBAll _ _

/-- What a line says. -/
inductive Entry
  | nothing
  | comment (text : List Char)
  | assignment (name value : String)

namespace Entry

/-- The entry as it is written. -/
def text : Entry → List Char
  | nothing => []
  | comment text => '#' :: text
  | assignment name value => name.toList ++ '=' :: '\'' :: (value.toList ++ ['\''])

/-- The entry can be written on one line, its value in single quotes. -/
def Plain : Entry → Prop
  | nothing => True
  | comment text => '\n' ∉ text
  | assignment name value => IsName name ∧ IsQuotable value

instance : (entry : Entry) → Decidable entry.Plain
  | nothing => isTrue trivial
  | comment _ => inferInstanceAs (Decidable (_ ∉ _))
  | assignment _ _ => inferInstanceAs (Decidable (_ ∧ _))

/-- The pair of an assignment. -/
def pair? : Entry → Option (String × String)
  | assignment name value => some (name, value)
  | _ => none

end Entry

/-- An entry with white space around it. -/
structure Line where
  before : List Char := []
  entry : Entry
  after : List Char := []

namespace Line

/-- The line without its line feed. -/
def text (line : Line) : List Char := line.before ++ (line.entry.text ++ line.after)

/-- White space around an entry that can be written on one line. -/
structure Plain (line : Line) : Prop where
  before : IsPadding line.before
  entry : line.entry.Plain
  after : IsPadding line.after

instance (line : Line) : Decidable line.Plain :=
  decidable_of_iff (_ ∧ _ ∧ _)
    ⟨fun h => ⟨h.1, h.2.1, h.2.2⟩, fun h => ⟨h.before, h.entry, h.after⟩⟩

end Line

/-- The text of a file: whole lines, and a last one that has no line feed. -/
def fileText (lines : List Line) (last : Entry) : String :=
  String.ofList (lines.flatMap (fun line => line.text ++ ['\n']) ++ last.text)

/-- The pairs of all assignments in their order. -/
def pairsOf (lines : List Line) (last : Entry) : List (String × String) :=
  (lines.map (·.entry) ++ [last]).filterMap Entry.pair?

/-! ## Characters -/

/-- The characters of a name are ASCII. -/
theorem toNat_lt_of_isNameChar {c : Char} (h : isNameChar c = true) : c.toNat < 128 := by
  simp only [isNameChar, Bool.or_eq_true, decide_eq_true_eq] at h
  rcases h with ((hletter | hdigit) | rfl) | rfl
  · exact Utf8.toNat_lt_of_isAsciiLetter hletter
  · exact Utf8.toNat_lt_of_isDigit hdigit
  · decide
  · decide

/-- A character of a name means nothing else anywhere in a line. -/
theorem plain_of_isNameChar {c : Char} (h : isNameChar c = true) :
    isBlank c = false ∧ c ≠ '#' ∧ c ≠ '=' ∧ c ≠ '\n' ∧ Place.afterPlain c = .plain :=
  Utf8.forall_ascii
    (p := fun c => isNameChar c = true →
      isBlank c = false ∧ c ≠ '#' ∧ c ≠ '=' ∧ c ≠ '\n' ∧ Place.afterPlain c = .plain)
    (by decide) (toNat_lt_of_isNameChar h) h

/-- A name begins as one, and goes on with characters of names only. -/
theorem IsName.cases {name : String} (h : IsName name) :
    ∃ c more, name.toList = c :: more ∧ startsName c = true ∧
      ∀ d ∈ c :: more, isNameChar d = true := by
  obtain ⟨⟨c, hhead, hc⟩, hmore⟩ := h
  obtain ⟨more, hname⟩ := List.head?_eq_some_iff.mp hhead
  rw [hname, List.tail_cons] at hmore
  have hstart : startsName c = true := by simpa [startsName, isAsciiLetter] using hc
  refine ⟨c, more, hname, hstart, List.forall_mem_cons.mpr ⟨?_, ?_⟩⟩
  · rcases hc with hc | rfl
    · simp [isNameChar, isAsciiLetter, hc]
    · decide
  · intro d hd
    have hd' := hmore d hd
    simpa [isNameChar, isAsciiLetter, isDigit, Char.isAlphanum, or_assoc] using hd'

/-! ## Lines of a text -/

/-- A line without a line feed in it ends at the line feed behind it. -/
theorem physicalLines_line {line : List Char} (h : '\n' ∉ line) (rest : List Char) :
    physicalLines (line ++ '\n' :: rest) = (line ++ ['\n']) :: physicalLines rest := by
  induction line with
  | nil => rfl
  | cons c line ih =>
    rw [List.mem_cons, not_or] at h
    rw [List.cons_append, physicalLines, if_neg (Ne.symm h.1), ih h.2]
    rfl

/-- The last line needs no line feed. -/
theorem physicalLines_last {line : List Char} (h : '\n' ∉ line) (hne : line ≠ []) :
    physicalLines line = [line] := by
  induction line with
  | nil => exact absurd rfl hne
  | cons c line ih =>
    rw [List.mem_cons, not_or] at h
    rw [physicalLines, if_neg (Ne.symm h.1)]
    cases line with
    | nil => rfl
    | cons d line => rw [ih h.2 (List.cons_ne_nil d line)]

theorem IsPadding.lineFeed_notMem {s : List Char} (h : IsPadding s) : '\n' ∉ s :=
  fun hmem => (h '\n' hmem).2 rfl

theorem IsPadding.isBlankText {s : List Char} (h : IsPadding s) : isBlankText s = true :=
  List.all_eq_true.mpr fun c hc => (h c hc).1

/-- A plain entry stands on one line. -/
theorem Entry.lineFeed_notMem {entry : Entry} (h : entry.Plain) : '\n' ∉ entry.text := by
  cases entry with
  | nothing => exact List.not_mem_nil
  | comment text => exact List.not_mem_cons_of_ne_of_not_mem (by decide) h
  | assignment name value =>
    obtain ⟨hname, hvalue⟩ := h
    obtain ⟨c, more, hc, -, hchars⟩ := hname.cases
    have hnot : '\n' ∉ name.toList := by
      intro hmem
      rw [hc] at hmem
      exact (plain_of_isNameChar (hchars '\n' hmem)).2.2.2.1 rfl
    have hnot' : '\n' ∉ value.toList := fun hmem => (hvalue '\n' hmem).2.2 rfl
    simp [Entry.text, hnot, hnot']

/-- A plain line has its line feed at its end only. -/
theorem Line.Plain.lineFeed_notMem {line : Line} (h : line.Plain) : '\n' ∉ line.text := by
  simp [Line.text, h.before.lineFeed_notMem, Entry.lineFeed_notMem h.entry,
    h.after.lineFeed_notMem]

/-! ## Where a line ends -/

/-- A place where no quote is open and nothing is escaped. -/
def Place.Outside (p : Place) : Prop := p = plain ∨ p = blank

/-- A scan that reads all of a text goes on with what is behind it, from the place that it has
reached. -/
theorem scan_append {p q : Place} {s : List Char} (h : scan p s = (s, some q)) (t : List Char) :
    scan p (s ++ t) = (s ++ (scan q t).1, (scan q t).2) := by
  induction s generalizing p with
  | nil =>
    obtain rfl : p = q := by simpa [scan] using h
    rfl
  | cons c s ih =>
    rw [scan] at h
    rw [List.cons_append, scan]
    split at h
    next => cases h
    next next hnext =>
      have hs : scan next s = (s, some q) := by
        obtain ⟨h₁, h₂⟩ := Prod.mk.inj h
        exact Prod.ext (List.cons.inj h₁).2 h₂
      simp only [ih hs, List.cons_append]

/-- Texts that are passed over whole may be put together. -/
theorem scan_append_of_whole {p q r : Place} {s t : List Char} (hs : scan p s = (s, some q))
    (ht : scan q t = (t, some r)) : scan p (s ++ t) = (s ++ t, some r) := by
  rw [scan_append hs, ht]

/-- A scan that each character leaves where it is reads all of them. -/
theorem scan_of_forall {p : Place} {s : List Char} (h : ∀ c ∈ s, p.next c = some p) :
    scan p s = (s, some p) := by
  induction s with
  | nil => rfl
  | cons c s ih =>
    rw [List.forall_mem_cons] at h
    simp only [scan, h.1, ih h.2]

/-- Outside of quotes and comments blanks are read, and the scan stays outside. -/
theorem scan_padding {p : Place} (hp : p.Outside) {s : List Char} (h : IsPadding s) :
    ∃ q, q.Outside ∧ scan p s = (s, some q) := by
  induction s generalizing p with
  | nil => exact ⟨p, hp, rfl⟩
  | cons c s ih =>
    rw [IsPadding, List.forall_mem_cons] at h
    obtain ⟨⟨hblank, -⟩, hs⟩ := h
    have hne : ∀ d, isBlank d = false → c ≠ d := by
      rintro d hd rfl
      rw [hblank] at hd
      cases hd
    have hafter : Place.afterPlain c = .plain := by
      simp [Place.afterPlain, hne '\\' rfl, hne '"' rfl, hne '\'' rfl]
    obtain ⟨next, hnext, hout⟩ : ∃ next, p.next c = some next ∧ next.Outside := by
      rcases hp with rfl | rfl
      · rw [Place.next, hafter]
        split
        next => exact ⟨_, rfl, .inr rfl⟩
        next => exact ⟨_, rfl, .inl rfl⟩
      · rw [Place.next, if_neg (hne '#' rfl), hafter]
        exact ⟨_, rfl, .inl rfl⟩
    obtain ⟨q, hq, hscan⟩ := ih hout hs
    exact ⟨q, hq, by simp only [scan, hnext, hscan]⟩

/-- A character of a name leads to the plain place, from wherever outside. -/
theorem next_of_isNameChar {p : Place} (hp : p.Outside) {c : Char} (h : isNameChar c = true) :
    p.next c = some .plain := by
  obtain ⟨hblank, hhash, -, -, hafter⟩ := plain_of_isNameChar h
  rcases hp with rfl | rfl
  · simp [Place.next, hblank, hafter]
  · rw [Place.next, if_neg hhash, hafter]

/-- An assignment is read from its name to its closing quote. -/
theorem scan_assignment {p : Place} (hp : p.Outside) {name value : String} (hn : IsName name)
    (hv : IsQuotable value) :
    scan p (Entry.assignment name value).text
      = ((Entry.assignment name value).text, some .plain) := by
  obtain ⟨c, more, hname, -, hchars⟩ := hn.cases
  rw [List.forall_mem_cons] at hchars
  have hmore : scan .plain more = (more, some .plain) :=
    scan_of_forall fun d hd => next_of_isNameChar (.inl rfl) (hchars.2 d hd)
  have hbare : scan p name.toList = (name.toList, some .plain) := by
    rw [hname, scan]
    simp only [next_of_isNameChar hp hchars.1, hmore]
  -- inside the quotes nothing but a quote or a backslash leads elsewhere
  have hquoted : scan .single value.toList = (value.toList, some .single) := by
    refine scan_of_forall fun d hd => ?_
    obtain ⟨hquote, hbackslash, -⟩ := hv d hd
    rw [Place.next, if_neg hbackslash, if_neg hquote]
  have hopen : scan .plain ['=', '\''] = (['=', '\''], some .single) := rfl
  have hclose : scan .single ['\''] = (['\''], some .plain) := rfl
  exact scan_append_of_whole hbare
    (scan_append_of_whole hopen (scan_append_of_whole hquoted hclose))

/-- A line feed finishes a line wherever nothing is open. -/
theorem scan_ended {p : Place} (hp : p.Outside) {after : List Char} (h : IsPadding after) :
    scan p (after ++ ['\n']) = (after ++ ['\n'], some .plain) := by
  obtain ⟨q, hq, hscan⟩ := scan_padding hp h
  refine scan_append_of_whole hscan ?_
  rcases hq with rfl | rfl <;> rfl

/-! ## What a line says -/

/-- Of the line feed nothing is left behind a trimmed line. -/
theorem trimEnd_withoutLineEnd (s : List Char) :
    trimEnd (withoutLineEnd (s ++ ['\n'])) = trimEnd s := by
  unfold withoutLineEnd
  rw [List.reverse_append, List.reverse_singleton, List.singleton_append]
  split
  next before heq =>
    have hs : s = before.reverse ++ ['\r'] := by
      rw [← List.reverse_reverse s, (List.cons.inj heq).2, List.reverse_cons]
    rw [hs, trimEnd_append (by decide)]
  next before _ heq =>
    rw [← (List.cons.inj heq).2, List.reverse_reverse]
  next h => exact absurd rfl (h s.reverse)

theorem withoutLineEnd_of_notMem {s : List Char} (h : '\n' ∉ s) : withoutLineEnd s = s := by
  unfold withoutLineEnd
  split
  next heq => exact absurd (List.mem_reverse.mp (heq ▸ List.mem_cons_self)) h
  next heq => exact absurd (List.mem_reverse.mp (heq ▸ List.mem_cons_self)) h
  next => rfl

/-- A value in single quotes stands for itself. -/
theorem readValue_quoted (lookup : List Char → List Char) {value : List Char}
    (h : '\'' ∉ value) (index : Nat) :
    readValue lookup .single index (value ++ ['\'']) = .ok value := by
  induction value generalizing index with
  | nil => rfl
  | cons c value ih =>
    rw [List.mem_cons, not_or] at h
    rw [List.cons_append, readValue, if_neg (Ne.symm h.1), ih h.2]
    rfl

/-- A value in single quotes is taken as it stands, no placeholder looked up. -/
theorem valueOf_quoted (lookup : List Char → List Char) {value : String} (h : IsQuotable value) :
    valueOf lookup ('\'' :: (value.toList ++ ['\''])) = .ok value := by
  have hnot : '\'' ∉ value.toList := fun hmem => (h '\'' hmem).1 rfl
  have hread : readValue lookup (.plain false) 0 ('\'' :: (value.toList ++ ['\'']))
      = .ok value.toList := readValue_quoted lookup hnot 1
  simp only [valueOf, hread, String.ofList_toList]
  rfl

/-- A name is read up to the first character that cannot belong to one. -/
theorem name?_append {name : String} (h : IsName name) {c : Char} (hc : isNameChar c = false)
    (rest : List Char) : name? (name.toList ++ c :: rest) = some (name.toList, c :: rest) := by
  obtain ⟨d, more, hname, hstart, hchars⟩ := h.cases
  obtain ⟨htake, hdrop⟩ := span_append_cons hchars hc rest
  rw [hname, List.cons_append, name?, if_pos hstart, ← List.cons_append, htake, hdrop]

/-- Also the name `export` is one if it is followed by its value. -/
theorem exportedAssignment_text {name value : String} (h : IsName name) :
    exportedAssignment (Entry.assignment name value).text
      = .ok (name.toList, '\'' :: (value.toList ++ ['\''])) := by
  have hassignment : assignment (Entry.assignment name value).text
      = .ok (name.toList, '\'' :: (value.toList ++ ['\''])) := by
    rw [assignment, Entry.text, name?_append h (by decide)]
    rfl
  rw [exportedAssignment, hassignment]

/-- A line with only white space around its entry says what the entry says. -/
theorem readLine_of_trimmed (lookup : List Char → List Char) {entry : Entry} (h : entry.Plain)
    {line : List Char} (hline : trimStart (trimEnd line) = entry.text) :
    readLine lookup line = .ok entry.pair? := by
  unfold readLine
  rw [hline]
  cases entry with
  | nothing => rfl
  | comment text => rfl
  | assignment name value =>
    obtain ⟨hname, hvalue⟩ := h
    obtain ⟨c, more, hc, -, hchars⟩ := hname.cases
    have hhash : c ≠ '#' := (plain_of_isNameChar (hchars c List.mem_cons_self)).2.1
    split
    next heq => simp [Entry.text, hc] at heq
    next heq => simp [Entry.text, hc, hhash] at heq
    next =>
      rw [exportedAssignment_text hname]
      simp only [valueOf_quoted lookup hvalue, Except.map, String.ofList_toList]
      rfl

/-- Trimming takes the white space around an entry away. -/
theorem trim_around_entry {entry : Entry} (h : entry.Plain) (hc : ∀ text, entry ≠ .comment text)
    {before after : List Char} (hb : IsPadding before) (ha : IsPadding after) :
    trimStart (trimEnd (before ++ (entry.text ++ after))) = entry.text := by
  rw [← List.append_assoc, trimEnd_append ha.isBlankText]
  cases entry with
  | nothing =>
    have hnone : trimEnd before = [] := trimEnd_append hb.isBlankText []
    rw [Entry.text, List.append_nil, hnone]
    rfl
  | comment text => exact absurd rfl (hc text)
  | assignment name value =>
    obtain ⟨c, more, hname, -, hchars⟩ := h.1.cases
    have hlast : before ++ (Entry.assignment name value).text
        = (before ++ (name.toList ++ '=' :: '\'' :: value.toList)) ++ ['\''] := by
      simp [Entry.text]
    rw [hlast, trimEnd_append_of_not_blank (by decide), ← hlast, trimStart_append hb.isBlankText,
      Entry.text, hname]
    exact trimStart_cons_of_not_blank (plain_of_isNameChar (hchars c List.mem_cons_self)).1 _

/-! ## A file line by line -/

/-- What an entry assigns comes after what was assigned before. -/
def Entry.assign (assigned : Variables) (entry : Entry) : Variables :=
  match entry.pair? with
  | none => assigned
  | some (name, value) => assigned.insert name value

/-- If a line says what an entry says, the reading goes on with the entry assigned. -/
theorem readLines_entry {process : List (String × String)} {assigned : Variables}
    {text : List Char} {entry : Entry}
    (h : readLine (lookup process assigned) text = .ok entry.pair?)
    (more : List (Except (List Char) (List Char))) :
    readLines process assigned (.ok text :: more)
      = readLines process (entry.assign assigned) more := by
  rw [readLines, h, Entry.assign]
  cases entry.pair? <;> rfl

/-- A number sign behind blanks begins a comment. -/
theorem isComment_comment {before : List Char} (h : IsPadding before) (text : List Char) :
    isComment (before ++ '#' :: text) = true := by
  rw [isComment, trimStart_append h.isBlankText, trimStart_cons_of_not_blank (by decide)]
  rfl

/-- An assignment is no comment, whatever is behind it. -/
theorem isComment_assignment {before : List Char} (h : IsPadding before) {name : String}
    (hn : IsName name) (value : String) (after : List Char) :
    isComment (before ++ ((Entry.assignment name value).text ++ after)) = false := by
  obtain ⟨c, more, hname, -, hchars⟩ := hn.cases
  obtain ⟨hblank, hhash, -⟩ := plain_of_isNameChar (hchars c List.mem_cons_self)
  rw [isComment, trimStart_append h.isBlankText, Entry.text, hname]
  simp only [List.cons_append, trimStart_cons_of_not_blank hblank, List.head?_cons]
  simp [hhash]

theorem isComment_of_isBlankText {s : List Char} (h : isBlankText s = true) :
    isComment s = false := by
  have hnone : trimStart s = [] := List.dropWhile_eq_nil_iff.mpr (List.all_eq_true.mp h)
  rw [isComment, hnone]
  rfl

/-- A comment makes an empty line of its own. -/
theorem logicalLines_comment {s : List Char} (h : isComment s = true)
    (more : List (List Char)) :
    logicalLines [] .plain (s :: more) = .ok [] :: logicalLines [] .plain more := by
  rw [logicalLines, List.nil_append, if_pos h]

/-- A line that ends outside of quotes is a line of its own. -/
theorem logicalLines_whole {s : List Char} (h : isComment s = false)
    (hs : scan .plain s = (s, some .plain)) (more : List (List Char)) :
    logicalLines [] .plain (s :: more)
      = .ok (withoutLineEnd s) :: logicalLines [] .plain more := by
  rw [logicalLines, List.nil_append, if_neg (by rw [h]; decide), hs]

/-- A line is finished by its own line feed, and what is read from it is its entry. -/
theorem logicalLines_line {line : Line} (h : line.Plain) (more : List (List Char)) :
    ∃ text,
      logicalLines [] .plain ((line.text ++ ['\n']) :: more)
        = .ok text :: logicalLines [] .plain more ∧
      ∀ lookup, readLine lookup text = .ok line.entry.pair? := by
  obtain ⟨before, entry, after⟩ := line
  obtain ⟨hb, he, ha⟩ := h
  have hended : ∀ {p : Place}, p.Outside →
      scan p (after ++ ['\n']) = (after ++ ['\n'], some .plain) := fun hp => scan_ended hp ha
  obtain ⟨p, hp, hbefore⟩ := scan_padding (p := .plain) (.inl rfl) hb
  have htext : Line.text ⟨before, entry, after⟩ ++ ['\n']
      = before ++ (entry.text ++ (after ++ ['\n'])) := by simp [Line.text]
  -- what is left of a line that is no comment is its entry
  have hreads : (∀ text, entry ≠ .comment text) → ∀ lookup,
      readLine lookup (withoutLineEnd (before ++ (entry.text ++ (after ++ ['\n']))))
        = .ok entry.pair? := by
    intro hc lookup
    refine readLine_of_trimmed lookup he ?_
    rw [← htext, trimEnd_withoutLineEnd]
    exact trim_around_entry he hc hb ha
  rw [htext]
  cases entry with
  | nothing =>
    have hblank : isBlankText (before ++ ([] ++ (after ++ ['\n']))) = true := by
      refine List.all_eq_true.mpr fun c hc => ?_
      rw [List.nil_append, List.mem_append, List.mem_append, List.mem_singleton] at hc
      rcases hc with hc | hc | rfl
      · exact (hb c hc).1
      · exact (ha c hc).1
      · rfl
    exact ⟨_, logicalLines_whole (isComment_of_isBlankText hblank)
      (scan_append_of_whole hbefore (hended hp)) more, hreads (by simp)⟩
  | comment text =>
    exact ⟨[], logicalLines_comment (isComment_comment hb _) more, fun _ => rfl⟩
  | assignment name value =>
    -- the scan ends the line plain: its quotes are closed and nothing continues it
    have hscan := scan_append_of_whole hbefore
      (scan_append_of_whole (scan_assignment hp he.1 he.2) (hended (.inl rfl)))
    exact ⟨_, logicalLines_whole (isComment_assignment hb he.1 value _) hscan more,
      hreads (by simp)⟩

/-- One plain line at the front of a file: it is assigned, and the reading goes on behind it. -/
theorem readLines_line (process : List (String × String)) (assigned : Variables) {line : Line}
    (h : line.Plain) (rest : List Char) :
    readLines process assigned (logicalLines [] .plain (physicalLines (line.text ++ '\n' :: rest)))
      = readLines process (line.entry.assign assigned)
        (logicalLines [] .plain (physicalLines rest)) := by
  obtain ⟨text, hlogical, hread⟩ := logicalLines_line h (physicalLines rest)
  rw [physicalLines_line h.lineFeed_notMem, hlogical, readLines_entry (hread _)]

/-- The last line may end with the file. -/
theorem readLines_last (process : List (String × String)) (assigned : Variables) {last : Entry}
    (h : last.Plain) :
    readLines process assigned (logicalLines [] .plain (physicalLines last.text))
      = .ok (last.assign assigned) := by
  have hpadding : IsPadding [] := List.forall_mem_nil _
  cases last with
  | nothing => rfl
  | comment text =>
    have hcomment : isComment (Entry.comment text).text = true := isComment_comment hpadding text
    rw [physicalLines_last (Entry.lineFeed_notMem h) (List.cons_ne_nil _ _),
      logicalLines_comment hcomment]
    rfl
  | assignment name value =>
    have hnot := Entry.lineFeed_notMem h
    have hne : (Entry.assignment name value).text ≠ [] := by simp [Entry.text]
    have hcomment := isComment_assignment hpadding h.1 value []
    rw [List.nil_append, List.append_nil] at hcomment
    have htrim := trim_around_entry h (by simp) hpadding hpadding
    rw [List.nil_append, List.append_nil] at htrim
    rw [physicalLines_last hnot hne,
      logicalLines_whole hcomment (scan_assignment (.inl rfl) h.1 h.2),
      withoutLineEnd_of_notMem hnot, readLines_entry (readLine_of_trimmed _ h htrim)]
    rfl

/-- All lines of a file are assigned in order, with the last one that has no line feed. -/
theorem readLines_fileText (process : List (String × String)) {lines : List Line}
    (h : ∀ line ∈ lines, line.Plain) {last : Entry} (hlast : last.Plain) (assigned : Variables) :
    readLines process assigned
        (logicalLines [] .plain (physicalLines (fileText lines last).toList))
      = .ok ((lines.map (·.entry) ++ [last]).foldl Entry.assign assigned) := by
  rw [fileText, String.toList_ofList]
  induction lines generalizing assigned with
  | nil => exact readLines_last process assigned hlast
  | cons line lines ih =>
    rw [List.forall_mem_cons] at h
    rw [List.flatMap_cons, List.append_assoc, List.append_assoc, List.singleton_append,
      readLines_line process assigned h.1, ih h.2]
    rfl

/-- Entries without a pair assign nothing. -/
theorem foldl_assign (entries : List Entry) (assigned : Variables) :
    entries.foldl Entry.assign assigned
      = (entries.filterMap Entry.pair?).foldl (fun m p => m.insert p.1 p.2) assigned := by
  induction entries generalizing assigned with
  | nil => rfl
  | cons entry entries ih => cases entry <;> exact ih _

/-- The variables of a file are the pairs of its lines, inserted in their order. -/
theorem read_fileText (process : List (String × String)) {lines : List Line}
    (h : ∀ line ∈ lines, line.Plain) {last : Entry} (hlast : last.Plain) :
    read process (fileText lines last) = .ok (.ofList (pairsOf lines last)) := by
  rw [read, readLines_fileText process h hlast, foldl_assign, OrderedMap.foldl_insert_empty,
    pairsOf]

end CallBook.Dotenv

namespace CallBook.Cli

open CallBook.Dotenv

/-- **A file of quoted assignments gives its pairs.** Whatever the lines of a file assign in single
quotes, and whatever stands in the comments and in the white space around, an environment is read
from the file whose variables are the pairs inserted in their order: each name stands where it came
first and has the value that came last. Neither the process environment nor an earlier line changes
a value. -/
theorem readEnvironment_of_assignments (c : Context) (name path : String) (lines : List Line)
    (last : Entry) (hlines : ∀ line ∈ lines, line.Plain) (hlast : last.Plain)
    (hfile : c.read path = (Content.ofText (fileText lines last)).text?) :
    readEnvironment c name path = .ok { name, vars := .ofList (pairsOf lines last) } ∧
      (OrderedMap.ofList (pairsOf lines last)).Gathers (pairsOf lines last) := by
  refine ⟨?_, OrderedMap.gathers_ofList _⟩
  rw [Content.text?_ofText] at hfile
  simp only [readEnvironment, hfile, read_fileText c.process hlines hlast]

/-- A name that is also a word of the format and comes twice, values that would be comments,
references or quotes elsewhere, and a process environment in which the names have other values. -/
theorem readEnvironment_of_assignments_repeated_export :
    let lines : List Line := [
      { entry := .comment " it's local".toList, after := ['\r'] },
      { entry := .assignment "export" "a #b" },
      { before := [' ', '\t'], entry := .nothing },
      { entry := .assignment "TOKEN" "\"$export\" = 1" },
      { before := [' ', ' '], entry := .comment [] },
      { entry := .assignment "export" "$TOKEN " }]
    let last : Entry := .assignment "_x.1" ""
    let text := "# it's local\r\nexport='a #b'\n \t\nTOKEN='\"$export\" = 1'\n  #\n"
      ++ "export='$TOKEN '\n_x.1=''"
    let c : Context := {
      settings := {}
      colours := false
      read := fun _ => .ok text
      process := [("TOKEN", "0"), ("_x.1", "0")]
      select := fun _ => .error (.client "")
      elapsedMs := 0 }
    ((∀ line ∈ lines, line.Plain) ∧ last.Plain ∧ c.read "e" = .ok (fileText lines last)) ∧
      readEnvironment c "staging" "e" = .ok
        { name := "staging"
          vars := .ofList
            [("export", "$TOKEN "), ("TOKEN", "\"$export\" = 1"), ("_x.1", "")] } := by
  intro lines last text c
  have hlines : ∀ line ∈ lines, line.Plain := by decide
  have hlast : last.Plain := by decide
  have htext : text = fileText lines last := by decide
  have hread : c.read "e" = .ok (fileText lines last) := congrArg Except.ok htext
  have hvars : OrderedMap.ofList (pairsOf lines last)
      = .ofList [("export", "$TOKEN "), ("TOKEN", "\"$export\" = 1"), ("_x.1", "")] := by decide
  refine ⟨⟨hlines, hlast, hread⟩, ?_⟩
  rw [← hvars]
  exact (readEnvironment_of_assignments c "staging" "e" lines last hlines hlast
    (hread.trans (Content.text?_ofText _).symm)).1

end CallBook.Cli
