/-!
# Shell words

A command line is a list of words with blanks and line ends between them. Inside single quotes every
character stands for itself; inside double quotes a backslash takes the special meaning of a
dollar, a backquote, a double quote or a backslash, and joins lines; outside quotes it does so for
any character. A `#` where a word could begin starts a comment that lasts to the end of the line.
A quote that is never closed is the only fault.

`singleQuoted` writes any word in single quotes.
-/

namespace CallBook.Shell

/-- The quotes that are open inside a word. -/
inductive Quoting
  | none
  | single
  | double
  deriving DecidableEq, Repr

/-- A character that separates words. -/
def isSeparator (c : Char) : Bool := c = ' ' || c = '\t' || c = '\n'

/-- Puts a character before a word that was read. -/
def push (c : Char) : Option (List Char × List Char) → Option (List Char × List Char)
  | some (word, rest) => some (c :: word, rest)
  | none => none

/-- The rest of a word, and what follows the separator after it. -/
def wordRest : Quoting → List Char → Option (List Char × List Char)
  | .none, [] => some ([], [])
  | .none, c :: rest =>
    if c = '\'' then wordRest .single rest
    else if c = '"' then wordRest .double rest
    else if c = '\\' then
      match rest with
      | [] => some (['\\'], [])
      | d :: rest => if d = '\n' then wordRest .none rest else push d (wordRest .none rest)
    else if isSeparator c then some ([], rest)
    else push c (wordRest .none rest)
  | .single, [] => none
  | .single, c :: rest =>
    if c = '\'' then wordRest .none rest else push c (wordRest .single rest)
  | .double, [] => none
  | .double, c :: rest =>
    if c = '"' then wordRest .none rest
    else if c = '\\' then
      match rest with
      | [] => none
      | d :: rest =>
        if d = '\n' then wordRest .double rest
        else if d = '$' || d = '\x60' || d = '"' || d = '\\' then push d (wordRest .double rest)
        else push '\\' (push d (wordRest .double rest))
    else push c (wordRest .double rest)

theorem exists_of_push {c : Char} {r : Option (List Char × List Char)} {word rest : List Char}
    (h : push c r = some (word, rest)) : ∃ tail, r = some (tail, rest) := by
  cases r with
  | none => simp [push] at h
  | some p => obtain ⟨w, t⟩ := p; simp_all [push]

/-- A word leaves less than it was read from. -/
theorem length_of_wordRest {q : Quoting} {s word rest : List Char}
    (h : wordRest q s = some (word, rest)) : rest.length ≤ s.length - 1 := by
  fun_induction wordRest q s generalizing word <;>
    grind [→ exists_of_push]

/-- The words of a text, nothing if a quote is left open. -/
def words (s : List Char) : Option (List (List Char)) :=
  match s with
  | [] => some []
  | c :: rest =>
    if isSeparator c then words rest
    else if c = '#' then words (rest.dropWhile (· ≠ '\n'))
    else if c = '\\' && rest.head? = some '\n' then words (rest.drop 1)
    else
      match _h : wordRest .none (c :: rest) with
      | none => none
      | some (word, rest') => (words rest').map (word :: ·)
  termination_by s.length
  decreasing_by
    · simp
    · have := (List.dropWhile_sublist (fun c : Char => decide (c ≠ '\n')) (l := rest)).length_le
      simp only [List.length_cons]
      omega
    · simp only [List.length_drop, List.length_cons]
      omega
    · have := length_of_wordRest _h
      simp only [List.length_cons] at *
      omega

/-- A character of a word inside single quotes. -/
def quotedChar (c : Char) : List Char := if c = '\'' then ['\'', '\\', '\'', '\''] else [c]

/-- A word in single quotes; a quote inside it closes them, stands escaped, and opens them again. -/
def singleQuoted (word : List Char) : List Char := '\'' :: (word.flatMap quotedChar ++ ['\''])

end CallBook.Shell
