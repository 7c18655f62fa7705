import CallBook.Import.Curl
import CallBook.Proofs.Import.OneLine
import CallBook.Proofs.Shell.Quoting
import CallBook.Proofs.Text.Trimming

/-!
# A curl command does not depend on its layout

The same words may be written on one line, or over many with a backslash at the end of each. Before
a command is split into words, two passes rewrite the text without knowing of quotes: line
continuations, then runs of white space, become single spaces. `Layout` says what a layout of quoted
words is; the passes bring each layout of the same words to the same line.

Neither pass crosses a quote. A continuation is a backslash and white space, and a quote is neither:
the backslash of an escaped quote has a quote behind it, and a backslash at the end of a word has
the closing one. So joining the lines of a quoted word is joining those of the word
(`joinLines_quoted`), and a filler becomes white space of which something is left
(`joinLines_filler`). The same holds of squeezing (`squeezeFrom_quoted`, `squeezeFrom_visible`).
What is left is a command of single-spaced words, whose splitting is known.

Main result: `curlCommand_layout`.
-/

namespace CallBook.Import

open Text (isBlank trim_around)
open Shell (Argument quotedChar singleQuoted)

/-! ## Layouts -/

/-- What may stand between two words: blanks and line continuations, a backslash with a line end
among blanks. -/
inductive Filler : List Char → Prop
  | none : Filler []
  | blank {c : Char} {more : List Char} (hc : isBlank c = true) (h : Filler more) :
      Filler (c :: more)
  | continuation {before after more : List Char} (hb : Text.isBlankText before = true)
      (ha : Text.isBlankText after = true) (h : Filler more) :
      Filler ('\\' :: (before ++ '\n' :: (after ++ more)))

/-- The words in single quotes with fillers between them, none of them empty. -/
inductive Spread : List (List Char) → List Char → Prop
  | last (word : List Char) : Spread [word] (singleQuoted word)
  | more (word : List Char) {filler : List Char} {words : List (List Char)} {text : List Char}
      (hf : Filler filler) (hne : filler ≠ []) (h : Spread words text) :
      Spread (word :: words) (singleQuoted word ++ (filler ++ text))

/-- A text in which the words are spread out, possibly with white space around them. -/
def Layout (words : List (List Char)) (text : List Char) : Prop :=
  ∃ before body after, text = before ++ (body ++ after) ∧ Spread words body
    ∧ Text.isBlankText before = true ∧ Text.isBlankText after = true

/-- A word as it stands on one line: its line continuations, then its runs of white space, are
single spaces. -/
def onOneLine (word : List Char) : List Char := squeeze (joinLines word)

/-! ## Joining lines -/

/-- A character other than a backslash is kept. -/
theorem joinLines_plain {c : Char} (h : c ≠ '\\') (s : List Char) :
    joinLines (c :: s) = c :: joinLines s := by
  rw [joinLines, if_neg (by simp [h])]

/-- A backslash without a line end behind it is kept. -/
theorem joinLines_backslash {s : List Char} (h : (s.takeWhile isBlank).contains '\n' = false) :
    joinLines ('\\' :: s) = '\\' :: joinLines s := by
  rw [joinLines, h]
  rfl

/-- A backslash with a line end behind it becomes a space, with all blanks there. -/
theorem joinLines_continuation {s : List Char}
    (h : (s.takeWhile isBlank).contains '\n' = true) :
    joinLines ('\\' :: s) = ' ' :: joinLines (s.dropWhile isBlank) := by
  rw [joinLines, h]
  rfl

/-- Quoting a word leaves the white space at its front alone, and the quote behind it ends that. -/
theorem blanks_quoted (word after : List Char) :
    (word.flatMap quotedChar ++ '\'' :: after).takeWhile isBlank = word.takeWhile isBlank ∧
    (word.flatMap quotedChar ++ '\'' :: after).dropWhile isBlank
      = (word.dropWhile isBlank).flatMap quotedChar ++ '\'' :: after := by
  induction word with
  | nil => exact ⟨rfl, rfl⟩
  | cons c word ih =>
    cases hc : isBlank c with
    | true =>
      have hq : quotedChar c = [c] := by
        refine if_neg ?_
        rintro rfl
        cases hc
      rw [List.flatMap_cons, hq, List.singleton_append, List.cons_append,
        List.takeWhile_cons_of_pos hc, List.takeWhile_cons_of_pos hc,
        List.dropWhile_cons_of_pos hc, List.dropWhile_cons_of_pos hc, ih.1, ih.2]
      exact ⟨rfl, rfl⟩
    | false =>
      obtain ⟨d, more, hd, hblank⟩ : ∃ d more, quotedChar c = d :: more ∧ isBlank d = false := by
        by_cases hquote : c = '\''
        · exact ⟨'\'', _, if_pos hquote, rfl⟩
        · exact ⟨c, _, if_neg hquote, hc⟩
      have hneg : ¬ isBlank c = true := by rw [hc]; decide
      have hneg' : ¬ isBlank d = true := by rw [hblank]; decide
      rw [List.takeWhile_cons_of_neg hneg, List.dropWhile_cons_of_neg hneg, List.flatMap_cons, hd]
      exact ⟨List.takeWhile_cons_of_neg hneg', List.dropWhile_cons_of_neg hneg'⟩

/-- The lines of a quoted word are joined as those of the word, and up to the closing quote. -/
theorem joinLines_quoted (word after : List Char) :
    joinLines (word.flatMap quotedChar ++ '\'' :: after)
      = (joinLines word).flatMap quotedChar ++ '\'' :: joinLines after := by
  fun_induction joinLines word with
  | case1 => exact joinLines_plain (by decide) after
  | case2 c word hc ih =>
    rw [Bool.and_eq_true, decide_eq_true_eq] at hc
    obtain ⟨rfl, hline⟩ := hc
    obtain ⟨htake, hdrop⟩ := blanks_quoted word after
    rw [← htake] at hline
    show joinLines ('\\' :: (word.flatMap quotedChar ++ '\'' :: after)) = _
    rw [joinLines_continuation hline, hdrop, ih]
    rfl
  | case3 c word hc ih =>
    by_cases hquote : c = '\''
    · -- a quote has a quote behind the backslash that escapes it
      subst hquote
      show joinLines ('\'' :: '\\' :: '\'' :: '\'' :: (word.flatMap quotedChar ++ '\'' :: after))
        = _
      rw [joinLines_plain (by decide), joinLines_backslash rfl, joinLines_plain (by decide),
        joinLines_plain (by decide), ih]
      rfl
    · have hself : quotedChar c = [c] := if_neg hquote
      rw [List.flatMap_cons, List.flatMap_cons, hself, List.singleton_append, List.cons_append,
        List.singleton_append, List.cons_append, ← ih]
      by_cases hslash : c = '\\'
      · subst hslash
        obtain ⟨htake, -⟩ := blanks_quoted word after
        refine joinLines_backslash ?_
        rw [htake]
        simpa using hc
      · exact joinLines_plain hslash _

/-- Joining lines makes white space of a filler; of one that is not empty something is left. -/
theorem joinLines_filler {filler : List Char} (h : Filler filler) {s : List Char}
    (hs : s.dropWhile isBlank = s) :
    ∃ blanks, Text.isBlankText blanks = true ∧ (filler ≠ [] → blanks ≠ [])
      ∧ joinLines (filler ++ s) = blanks ++ joinLines s := by
  -- a continuation takes the blanks behind it as well: the induction has to know of both
  suffices hboth : (∃ blanks, Text.isBlankText blanks = true ∧ (filler ≠ [] → blanks ≠ [])
      ∧ joinLines (filler ++ s) = blanks ++ joinLines s) ∧
      ∃ blanks, Text.isBlankText blanks = true
        ∧ joinLines ((filler ++ s).dropWhile isBlank) = blanks ++ joinLines s from hboth.1
  induction h with
  | none =>
    rw [List.nil_append, hs]
    exact ⟨⟨[], rfl, fun hne => absurd rfl hne, rfl⟩, [], rfl, rfl⟩
  | @blank c more hc _ ih =>
    obtain ⟨⟨blanks, hblanks, -, hjoin⟩, hdropped⟩ := ih
    have hslash : c ≠ '\\' := by
      rintro rfl
      cases hc
    rw [List.cons_append, joinLines_plain hslash, hjoin, List.dropWhile_cons_of_pos hc]
    exact ⟨⟨c :: blanks, by simpa [Text.isBlankText, hc] using hblanks,
      fun _ => List.cons_ne_nil _ _, rfl⟩, hdropped⟩
  | @continuation before after more hb ha _ ih =>
    obtain ⟨-, blanks, hblanks, hjoin⟩ := ih
    have hb' : ∀ c ∈ before ++ '\n' :: after, isBlank c = true := by
      have hall : (before ++ '\n' :: after).all isBlank = true := by
        rw [List.all_append, List.all_cons]
        simp only [Text.isBlankText] at hb ha
        rw [hb, ha]
        rfl
      exact List.all_eq_true.mp hall
    have hshape : before ++ '\n' :: (after ++ more) ++ s
        = (before ++ '\n' :: after) ++ (more ++ s) := by simp
    have hline : (((before ++ '\n' :: after) ++ (more ++ s)).takeWhile isBlank).contains '\n'
        = true := by
      rw [List.takeWhile_append_of_pos hb']
      simp
    have hcont : joinLines ('\\' :: (before ++ '\n' :: (after ++ more)) ++ s)
        = (' ' :: blanks) ++ joinLines s := by
      rw [List.cons_append, hshape, joinLines_continuation hline,
        List.dropWhile_append_of_pos hb', hjoin]
      rfl
    have hspace : Text.isBlankText (' ' :: blanks) = true := hblanks
    have hdrop : ('\\' :: (before ++ '\n' :: (after ++ more)) ++ s).dropWhile isBlank
        = '\\' :: (before ++ '\n' :: (after ++ more)) ++ s := List.dropWhile_cons_of_neg (by decide)
    -- a continuation is joined to one blank, and begins with none
    rw [hdrop, hcont]
    exact ⟨⟨' ' :: blanks, hspace, fun _ => List.cons_ne_nil _ _, rfl⟩, ' ' :: blanks, hspace, rfl⟩

/-! ## Squeezing -/

/-- A visible character ends the run before it. -/
theorem squeezeFrom_visible {c : Char} (hc : isBlank c = false) (inRun : Bool)
    (before after : List Char) :
    squeezeFrom inRun (before ++ c :: after)
      = squeezeFrom inRun before ++ c :: squeezeFrom false after := by
  induction before generalizing inRun with
  | nil =>
    show squeezeFrom inRun (c :: after) = c :: squeezeFrom false after
    rw [squeezeFrom, hc]
    rfl
  | cons d before ih =>
    rw [List.cons_append, squeezeFrom, squeezeFrom, ih, ih]
    cases isBlank d <;> cases inRun <;> rfl

/-- Blanks behind a blank are left out. -/
theorem squeezeFrom_blanks {blanks : List Char} (h : Text.isBlankText blanks = true) :
    squeezeFrom true blanks = [] := by
  induction blanks with
  | nil => rfl
  | cons c blanks ih =>
    simp only [Text.isBlankText, List.all_cons, Bool.and_eq_true] at h
    rw [squeezeFrom, if_pos h.1, if_pos rfl]
    exact ih h.2

/-- A run of white space becomes one space. -/
theorem squeeze_blanks {blanks : List Char} (h : Text.isBlankText blanks = true)
    (hne : blanks ≠ []) : squeeze blanks = [' '] := by
  obtain ⟨c, more, rfl⟩ := List.exists_cons_of_ne_nil hne
  simp only [Text.isBlankText, List.all_cons, Bool.and_eq_true] at h
  rw [squeeze, squeezeFrom, if_pos h.1, squeezeFrom_blanks h.2]
  rfl

/-- The white space of a quoted word is squeezed as that of the word. -/
theorem squeezeFrom_quoted (inRun : Bool) (word : List Char) :
    squeezeFrom inRun (word.flatMap quotedChar) = (squeezeFrom inRun word).flatMap quotedChar := by
  induction word generalizing inRun with
  | nil => rfl
  | cons c word ih =>
    by_cases hquote : c = '\''
    · subst hquote
      show '\'' :: '\\' :: '\'' :: '\'' :: squeezeFrom false (word.flatMap quotedChar) = _
      rw [ih]
      rfl
    · have hself : quotedChar c = [c] := if_neg hquote
      rw [List.flatMap_cons, hself, List.singleton_append, squeezeFrom, squeezeFrom, ih, ih]
      cases isBlank c with
      | true => cases inRun <;> rfl
      | false => rw [if_neg (by decide), if_neg (by decide), List.flatMap_cons, hself]; rfl

/-- Squeezing leaves no white space but single spaces. -/
theorem singleSpaced_squeeze (s : List Char) : SingleSpaced (squeeze s) := by
  suffices hboth : ∀ inRun, SingleSpaced (squeezeFrom inRun s)
      ∧ (inRun = true → (squeezeFrom inRun s).head? ≠ some ' ') from (hboth false).1
  induction s with
  | nil => exact fun _ => ⟨singleSpaced_nil, fun _ heq => by cases heq⟩
  | cons c s ih =>
    intro inRun
    rw [squeezeFrom]
    cases hc : isBlank c with
    | false =>
      rw [if_neg (by decide)]
      exact ⟨(ih false).1.cons hc, fun _ heq => ne_space hc (Option.some.inj heq)⟩
    | true =>
      rw [if_pos rfl]
      cases inRun with
      | true => exact ih true
      | false => exact ⟨(ih true).1.cons_space ((ih true).2 rfl), fun he => by cases he⟩

/-! ## One line for every layout -/

/-- The words on one line, in single quotes. -/
def lineOf (words : List (List Char)) : List Argument :=
  words.map fun word => .quoted (String.ofList (onOneLine word))

/-- The words on one line are kept. -/
theorem kept_lineOf (words : List (List Char)) : ∀ a ∈ lineOf words, Kept a.text := by
  intro a ha
  obtain ⟨word, -, rfl⟩ := List.mem_map.mp ha
  show Kept (singleQuoted (String.ofList (onOneLine word)).toList)
  rw [String.toList_ofList]
  exact kept_singleQuoted (singleSpaced_squeeze _)

theorem Spread.words_ne_nil {words : List (List Char)} {body : List Char} (h : Spread words body) :
    words ≠ [] := by
  cases h <;> exact List.cons_ne_nil _ _

/-- Words that are spread out begin with a quote. -/
theorem Spread.exists_quote {words : List (List Char)} {body : List Char} (h : Spread words body) :
    ∃ more, body = '\'' :: more := by
  cases h <;> exact ⟨_, rfl⟩

/-- Both passes bring spread words onto one line. -/
theorem Spread.squeeze_joinLines {words : List (List Char)} {body : List Char}
    (h : Spread words body) : squeeze (joinLines body) = Shell.commandLine (lineOf words) := by
  have hquoted : ∀ word after, squeeze (joinLines (singleQuoted word ++ after))
      = singleQuoted (onOneLine word) ++ squeeze (joinLines after) := by
    intro word after
    have hshape : singleQuoted word ++ after
        = '\'' :: (word.flatMap quotedChar ++ '\'' :: after) := by simp [singleQuoted]
    rw [hshape, joinLines_plain (by decide), joinLines_quoted]
    show '\'' :: squeezeFrom false ((joinLines word).flatMap quotedChar ++ '\'' :: joinLines after)
      = _
    rw [squeezeFrom_visible rfl, squeezeFrom_quoted]
    simp [singleQuoted, onOneLine, squeeze]
  induction h with
  | last word =>
    have hone := hquoted word []
    rw [List.append_nil, joinLines] at hone
    rw [hone]
    simp [Shell.commandLine, lineOf, Text.joinFields, Argument.text, squeeze, squeezeFrom]
  | @more word filler words text hf hne hspread ih =>
    obtain ⟨rest, rfl⟩ := hspread.exists_quote
    obtain ⟨blanks, hblanks, hleft, hjoin⟩ :=
      joinLines_filler hf (s := '\'' :: rest) (List.dropWhile_cons_of_neg (by decide))
    -- the quote of the next word ends the run of white space that is left of the filler
    have hfill : squeeze (joinLines (filler ++ '\'' :: rest))
        = ' ' :: squeeze (joinLines ('\'' :: rest)) := by
      have hrun := squeeze_blanks hblanks (hleft hne)
      rw [squeeze] at hrun
      rw [hjoin, joinLines_plain (by decide), squeeze, squeezeFrom_visible rfl, hrun]
      rfl
    obtain ⟨next, more, rfl⟩ := List.exists_cons_of_ne_nil hspread.words_ne_nil
    rw [hquoted, hfill, ih]
    simp only [lineOf, List.map_cons]
    rw [Shell.commandLine_cons_cons, Argument.text, String.toList_ofList]

/-- Words that are spread out have no blanks around them. -/
theorem Spread.trim {words : List (List Char)} {body : List Char} (h : Spread words body) :
    Text.trim body = body := by
  obtain ⟨before, hend⟩ : ∃ before, body = before ++ ['\''] := by
    induction h with
    | last word => exact ⟨'\'' :: word.flatMap quotedChar, rfl⟩
    | more word _ _ _ ih =>
      obtain ⟨before, rfl⟩ := ih
      exact ⟨_, by rw [← List.append_assoc, ← List.append_assoc]⟩
  obtain ⟨more, hstart⟩ := h.exists_quote
  rw [Text.trim, hstart, Text.trimStart_cons_of_not_blank rfl, ← hstart, hend,
    Text.trimEnd_append_of_not_blank rfl]

/-- Every layout of the words has the same one line. -/
theorem Layout.oneLine {words : List (List Char)} {text : List Char} (h : Layout words text) :
    oneLine text = Shell.commandLine (lineOf words) := by
  obtain ⟨before, body, after, rfl, hspread, hb, ha⟩ := h
  obtain ⟨more, hquote⟩ := hspread.exists_quote
  have hne : lineOf words ≠ [] := by simpa [lineOf] using hspread.words_ne_nil
  rw [Import.oneLine, trim_around hb ha hspread.trim ⟨'\'', more, hquote, rfl⟩,
    hspread.squeeze_joinLines, (kept_commandLine hne (kept_lineOf words)).trim]

/-- However a command is laid out, its words are those on one line. -/
theorem Layout.words_oneLine {words : List (List Char)} {text : List Char}
    (h : Layout words text) : Shell.words (Import.oneLine text) = some (words.map onOneLine) := by
  have hspells : ∀ a ∈ lineOf words, Shell.Spells a.text a.word.toList := by
    intro a ha
    obtain ⟨word, -, rfl⟩ := List.mem_map.mp ha
    exact Shell.spells_singleQuoted _
  rw [h.oneLine, Shell.words_commandLine hspells, lineOf, List.map_map]
  refine congrArg some (List.map_congr_left fun word _ => ?_)
  exact String.toList_ofList

/-- A command that is laid out is not blank. -/
theorem Layout.not_blank {words : List (List Char)} {text : List Char} (h : Layout words text) :
    Text.isBlankText text = false := by
  obtain ⟨before, body, after, rfl, hspread, -, -⟩ := h
  obtain ⟨more, rfl⟩ := hspread.exists_quote
  simp [Text.isBlankText, show isBlank '\'' = false from rfl]

/-- A single spaced word is the same on one line. -/
theorem onOneLine_of_singleSpaced {word : List Char} (h : SingleSpaced word) :
    onOneLine word = word := by
  have hn : '\n' ∉ word := fun hm => absurd (h.only_space '\n' hm rfl) (by decide)
  rw [onOneLine, joinLines_of_not_mem hn, squeeze_of_singleSpaced h]

/-- The call that a layout describes depends on its words alone. -/
theorem Layout.curlCommand {words : List (List Char)} {text : String}
    (h : Layout words text.toList) :
    curlCommand text = ofWords (words.map fun word => String.ofList (onOneLine word)) := by
  rw [Import.curlCommand, h.not_blank, if_neg (by decide), h.words_oneLine]
  simp only [List.map_map]
  rfl

/-- **The layout of a command does not matter.** However words are written in single quotes, with
blanks and line continuations between them and white space around, the words that the options are
read from are these words with their line continuations, then their runs of white space, replaced
by single spaces. So the call, or the error, is the same for every layout of the same words, and
words whose only white space is single spaces come through as they are. -/
theorem curlCommand_layout {words : List (List Char)} {text : String}
    (h : Layout words text.toList) :
    Shell.words (oneLine text.toList) = some (words.map onOneLine) ∧
    curlCommand text = ofWords (words.map fun word => String.ofList (onOneLine word)) ∧
    (∀ other : String, Layout words other.toList → curlCommand other = curlCommand text) ∧
    ((∀ word ∈ words, SingleSpaced word) → Shell.words (oneLine text.toList) = some words) := by
  refine ⟨h.words_oneLine, h.curlCommand, ?_, ?_⟩
  · intro other hother
    rw [hother.curlCommand, h.curlCommand]
  · intro hspaced
    have hsame : words.map onOneLine = words.map id :=
      List.map_congr_left fun word hm => onOneLine_of_singleSpaced (hspaced word hm)
    rw [h.words_oneLine, hsame, List.map_id]

/-- Four words over five lines, one of them with a quote and one with a line continuation in it. -/
theorem curlCommand_layout_over_lines :
    let words := ["curl", "http://h/it's", "-H", "X: a \\\n\tb"].map String.toList
    let text := "\n'curl' \\ \r\n 'http://h/it'\\''s'\t\n\\\n\\\n'-H' 'X: a \\\n\tb' "
    Layout words text.toList ∧
    Shell.words (oneLine text.toList)
      = some (["curl", "http://h/it's", "-H", "X: a b"].map String.toList) ∧
    curlCommand text = curlCommand "'curl' 'http://h/it'\\''s' '-H' 'X: a \\\n\tb'" := by
  intro words text
  have hspace : Filler [' '] := .blank rfl .none
  have hline : Filler " \\ \r\n ".toList :=
    .blank rfl (@Filler.continuation [' ', '\r'] [' '] [] rfl rfl .none)
  have hlines : Filler "\t\n\\\n\\\n".toList :=
    .blank rfl (.blank rfl (@Filler.continuation [] [] "\\\n".toList rfl rfl
      (@Filler.continuation [] [] [] rfl rfl .none)))
  have hlayout : Layout words text.toList := by
    refine ⟨['\n'], _, [' '], ?_, .more _ hline (by decide) (.more _ hlines (by decide)
      (.more _ hspace (by decide) (.last _))), rfl, rfl⟩
    decide
  have hother : Layout words "'curl' 'http://h/it'\\''s' '-H' 'X: a \\\n\tb'".toList := by
    refine ⟨[], _, [], ?_, .more _ hspace (by decide) (.more _ hspace (by decide)
      (.more _ hspace (by decide) (.last _))), rfl, rfl⟩
    decide
  obtain ⟨hwords, -, hsame, -⟩ := curlCommand_layout hlayout
  refine ⟨hlayout, ?_, (hsame _ hother).symm⟩
  rw [hwords]
  decide +kernel

end CallBook.Import
