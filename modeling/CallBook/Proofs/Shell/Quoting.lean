import CallBook.Shell.Words
import CallBook.Text.Search

/-!
# Arguments split into the words they were written for

An argument stands in a command either bare or in single quotes. `Spells` says that a text is read
as one word wherever it stands in a command, up to the separator behind it. A word in single quotes
is spelled whatever its characters are (`spells_singleQuoted`): a quote in it closes the quotes,
comes back escaped outside of them and opens them again, and everything else stands for itself. A
bare word is spelled if the shell gives none of its characters a meaning (`spells_bare`). A command
is then split into the words of its arguments (`words_commandLine`).
-/

namespace CallBook.Shell

/-! ## One word -/

/-- What may stand behind a word: nothing, or a separator. -/
def Breaks : List Char → Prop
  | [] => True
  | c :: _ => isSeparator c = true

/-- A character that begins a word. -/
def isStart (c : Char) : Bool := !isSeparator c && c ≠ '#' && c ≠ '\\'

/-- The text is read as the word, whatever follows its separator. -/
structure Spells (text word : List Char) : Prop where
  start : ∃ c more, text = c :: more ∧ isStart c = true
  read : ∀ rest, Breaks rest → wordRest .none (text ++ rest) = some (word, rest.drop 1)

/-- A word ends where it breaks. -/
theorem wordRest_break {rest : List Char} (h : Breaks rest) :
    wordRest .none rest = some ([], rest.drop 1) := by
  cases rest with
  | nil => rfl
  | cons c rest =>
    have hc : c = ' ' ∨ c = '\t' ∨ c = '\n' := by simpa [Breaks, isSeparator, or_assoc] using h
    -- the recursion is not structural where a backslash takes two characters: it is opened by name
    rcases hc with rfl | rfl | rfl <;> rw [wordRest.eq_def] <;> rfl

theorem wordRest_open (rest : List Char) :
    wordRest .none ('\'' :: rest) = wordRest .single rest := by
  rw [wordRest.eq_def]
  rfl

theorem wordRest_close (rest : List Char) :
    wordRest .single ('\'' :: rest) = wordRest .none rest := by
  rw [wordRest.eq_def]
  rfl

/-- A quote behind a backslash is a character of the word. -/
theorem wordRest_escape (rest : List Char) :
    wordRest .none ('\\' :: '\'' :: rest) = push '\'' (wordRest .none rest) := by
  rw [wordRest.eq_def]
  rfl

/-- Inside single quotes a word is read as it was written, up to the quote that closes them. -/
theorem wordRest_quoted {word after rest more : List Char}
    (h : wordRest .none after = some (rest, more)) :
    wordRest .single (word.flatMap quotedChar ++ '\'' :: after) = some (word ++ rest, more) := by
  induction word with
  | nil => rwa [List.flatMap_nil, List.nil_append, wordRest_close]
  | cons c word ih =>
    rw [List.flatMap_cons, List.append_assoc]
    by_cases hc : c = '\''
    · -- the quotes close, an escaped quote is read outside of them, and they open again
      subst hc
      have hquote : quotedChar '\'' = ['\'', '\\', '\'', '\''] := rfl
      simp only [hquote, List.cons_append, List.nil_append]
      rw [wordRest_close, wordRest_escape, wordRest_open, ih]
      rfl
    · have hself : quotedChar c = [c] := if_neg hc
      rw [hself, List.singleton_append, wordRest, if_neg hc, ih]
      rfl

/-- Every word can be written in single quotes. -/
theorem spells_singleQuoted (word : List Char) : Spells (singleQuoted word) word where
  start := ⟨'\'', word.flatMap quotedChar ++ ['\''], rfl, rfl⟩
  read := by
    intro rest hrest
    rw [singleQuoted, List.cons_append, List.append_assoc, wordRest_open]
    show wordRest .single (word.flatMap quotedChar ++ '\'' :: rest) = _
    rw [wordRest_quoted (wordRest_break hrest), List.append_nil]

/-- A character that means itself outside quotes. -/
def isLiteral (c : Char) : Bool := c ≠ '\'' && c ≠ '"' && c ≠ '\\' && !isSeparator c

/-- A word of literal characters that would not start a comment. -/
def isBare (word : List Char) : Bool :=
  !word.isEmpty && word.head? ≠ some '#' && word.all isLiteral

/-- Literal characters are read up to the break. -/
theorem wordRest_literal {word rest : List Char} (h : word.all isLiteral = true)
    (hrest : Breaks rest) : wordRest .none (word ++ rest) = some (word, rest.drop 1) := by
  induction word with
  | nil => exact wordRest_break hrest
  | cons c word ih =>
    rw [List.all_cons, Bool.and_eq_true] at h
    obtain ⟨hc, hword⟩ := h
    simp only [isLiteral, Bool.and_eq_true, decide_eq_true_eq, Bool.not_eq_true'] at hc
    obtain ⟨⟨⟨hq, hd⟩, hb⟩, hsep⟩ := hc
    rw [List.cons_append, wordRest.eq_def]
    simp only [if_neg hq, if_neg hd, if_neg hb, hsep]
    rw [ih hword]
    rfl

/-- Such a word need not be quoted. -/
theorem spells_bare {word : List Char} (h : isBare word = true) : Spells word word := by
  simp only [isBare, Bool.and_eq_true, Bool.not_eq_true', decide_eq_true_eq] at h
  obtain ⟨⟨hne, hcomment⟩, hall⟩ := h
  refine ⟨?_, fun rest hrest => wordRest_literal hall hrest⟩
  cases word with
  | nil => cases hne
  | cons c more =>
    have hsharp : c ≠ '#' := by simpa using hcomment
    rw [List.all_cons, Bool.and_eq_true] at hall
    have hc := hall.1
    simp only [isLiteral, Bool.and_eq_true, decide_eq_true_eq] at hc
    exact ⟨c, more, rfl, by simp [isStart, hc, hsharp]⟩

/-! ## All words -/

/-- A text that spells a word is read as that word, and the words behind the break follow. -/
theorem Spells.words_append {text word : List Char} (h : Spells text word) {rest : List Char}
    (hrest : Breaks rest) : words (text ++ rest) = (words (rest.drop 1)).map (word :: ·) := by
  have hread := h.read rest hrest
  obtain ⟨c, more, rfl, hc⟩ := h.start
  simp only [isStart, Bool.and_eq_true, decide_eq_true_eq, Bool.not_eq_true'] at hc
  obtain ⟨⟨hsep, hsharp⟩, hslash⟩ := hc
  rw [List.cons_append] at hread ⊢
  rw [words, if_neg (by simp [hsep]), if_neg hsharp, if_neg (by simp [hslash])]
  split
  · next heq => rw [hread] at heq; cases heq
  · next w r heq =>
    rw [hread] at heq
    cases heq
    rfl

/-- An argument of a command. -/
inductive Argument
  /-- Written as it is. -/
  | bare (word : String)
  /-- Written in single quotes. -/
  | quoted (word : String)

namespace Argument

/-- The word that the argument is written for. -/
def word : Argument → String
  | bare w | quoted w => w

/-- The argument as it is written. -/
def text : Argument → List Char
  | bare w => w.toList
  | quoted w => singleQuoted w.toList

end Argument

/-- Arguments with single spaces between them. -/
def commandLine (arguments : List Argument) : List Char :=
  Text.joinFields [' '] (arguments.map Argument.text)

theorem commandLine_cons_cons (a b : Argument) (more : List Argument) :
    commandLine (a :: b :: more) = a.text ++ ' ' :: commandLine (b :: more) := by
  simp [commandLine, Text.joinFields]

/-- A command whose arguments spell their words is split into these words. -/
theorem words_commandLine {arguments : List Argument}
    (h : ∀ a ∈ arguments, Spells a.text a.word.toList) :
    words (commandLine arguments) = some (arguments.map fun a => a.word.toList) := by
  induction arguments with
  | nil => rw [commandLine, List.map_nil, Text.joinFields, words]; rfl
  | cons a more ih =>
    have ha := h a List.mem_cons_self
    have ih := ih fun b hb => h b (List.mem_cons_of_mem a hb)
    cases more with
    | nil =>
      have hline : commandLine [a] = a.text ++ [] := (List.append_nil a.text).symm
      rw [hline, ha.words_append (show Breaks [] from trivial), List.drop_nil, words]
      rfl
    | cons b more =>
      rw [commandLine_cons_cons, ha.words_append (show Breaks (' ' :: _) from rfl), List.drop_one,
        List.tail_cons, ih]
      rfl

end CallBook.Shell
