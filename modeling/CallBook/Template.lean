import CallBook.Call.Request
import CallBook.Text.Search

/-!
# Placeholders

A placeholder is `{{`, a name, and `}}`; a name is not empty and holds no `}` (it may hold `{`).
A text is cut into pieces from left to right: where a placeholder begins it becomes one piece, any
other character is a piece by itself. Pieces give back the text (`text_pieces`), so filling in
values is a single pass and what was filled in is not looked at again. A text without two opening
braces in a row is not even cut (`fill_eq_fillPieces`).
-/

namespace CallBook.Template

/-- The name of the placeholder at the head of a text, and what follows the placeholder. -/
def placeholder? : List Char → Option (List Char × List Char)
  | '{' :: '{' :: rest =>
    match rest.takeWhile (· ≠ '}'), rest.dropWhile (· ≠ '}') with
    | c :: name, '}' :: '}' :: after => some (c :: name, after)
    | _, _ => none
  | _ => none

/-- The text of a placeholder. -/
def placeholder (name : List Char) : List Char := '{' :: '{' :: (name ++ ['}', '}'])

theorem eq_of_placeholder? {s name rest : List Char} (h : placeholder? s = some (name, rest)) :
    s = placeholder name ++ rest := by
  unfold placeholder? at h
  split at h
  · rename_i text
    split at h
    · rename_i c before after hb ha
      simp only [Option.some.injEq, Prod.mk.injEq] at h
      obtain ⟨rfl, rfl⟩ := h
      have := List.takeWhile_append_dropWhile (p := fun x : Char => decide (x ≠ '}')) (l := text)
      rw [hb, ha] at this
      simp [placeholder, ← this]
    · simp at h
  · simp at h

theorem length_lt_of_placeholder? {s name rest : List Char}
    (h : placeholder? s = some (name, rest)) : rest.length < s.length := by
  simp [eq_of_placeholder? h, placeholder]
  omega

/-- A piece of a text. -/
inductive Piece
  | char (c : Char)
  | hole (name : List Char)
  deriving DecidableEq, Repr

namespace Piece

/-- The text that a piece was cut from. -/
def text : Piece → List Char
  | char c => [c]
  | hole name => placeholder name

/-- The name of a placeholder. -/
def name? : Piece → Option String
  | char _ => none
  | hole name => some (String.ofList name)

/-- The text of a piece under variables: the value of a placeholder whose name is known, else the
piece as it stands. -/
def fill (vars : Variables) : Piece → List Char
  | char c => [c]
  | hole name =>
    match vars.get? (String.ofList name) with
    | some value => value.toList
    | none => placeholder name

end Piece

/-- The pieces of a text, cut from left to right. -/
def pieces (s : List Char) : List Piece :=
  match _h : placeholder? s with
  | some (name, rest) => .hole name :: pieces rest
  | none =>
    match s with
    | [] => []
    | c :: rest => .char c :: pieces rest
  termination_by s.length
  decreasing_by
    · exact length_lt_of_placeholder? _h
    · simp

/-- The pieces of a text hold it whole. -/
theorem text_pieces (s : List Char) : (pieces s).flatMap Piece.text = s := by
  fun_induction pieces s with
  | case1 s name rest h ih => simp [Piece.text, ih, ← eq_of_placeholder? h]
  | case2 => rfl
  | case3 c rest _ ih => simp [Piece.text, ih]

/-- The text put together again from its pieces, every known placeholder replaced by its value. -/
def fillPieces (vars : Variables) (text : String) : String :=
  String.ofList ((pieces text.toList).flatMap (Piece.fill vars))

/-- The text with every known placeholder replaced by its value. Where no two opening braces follow
each other there is nothing to replace. -/
def fill (vars : Variables) (text : String) : String :=
  if Text.occursIn ['{', '{'] text.toList then fillPieces vars text else text

/-- A text without two opening braces in a row is all single characters. -/
theorem pieces_of_not_occursIn {s : List Char} (h : Text.occursIn ['{', '{'] s = false) :
    pieces s = s.map Piece.char := by
  fun_induction pieces s with
  | case1 s name rest hp ih =>
    rw [eq_of_placeholder? hp] at h
    simp [placeholder, Text.occursIn, Text.beginsWith, Text.dropPrefix?] at h
  | case2 => rfl
  | case3 c rest hp ih =>
    simp only [Text.occursIn, Bool.or_eq_false_iff] at h
    rw [List.map_cons, ih h.2]

/-- Leaving such a text alone is what filling its pieces would do. -/
theorem fill_eq_fillPieces (vars : Variables) (text : String) :
    fill vars text = fillPieces vars text := by
  unfold fill
  split
  · rfl
  · next h =>
    have hp := pieces_of_not_occursIn (Bool.eq_false_iff.mpr h)
    have hc : (text.toList.map Piece.char).flatMap (Piece.fill vars) = text.toList := by
      rw [List.flatMap_map]
      exact List.flatMap_singleton' _
    rw [fillPieces, hp, hc, String.ofList_toList]

/-- The names of the placeholders of a text, without repetition, in the order of their first
occurrence. -/
def names (text : String) : List String :=
  let found := (pieces text.toList).filterMap Piece.name?
  (OrderedMap.ofList (found.map fun name => (name, ()))).keys

end CallBook.Template
