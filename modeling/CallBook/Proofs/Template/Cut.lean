import Mathlib.Logic.ExistsUnique
import CallBook.Proofs.OrderedMap
import CallBook.Template

/-!
# The one way to cut a text at its placeholders

`Template.pieces` cuts a text by running over it. This file says what it finds without any run. A
`Cut` writes a text as literals with placeholders between them; it is `Leftmost` if no placeholder
begins inside a literal, where what follows the literal counts: each placeholder then begins at the
earliest position at which one can.

A text has exactly one leftmost cut, and filling and listing names are read off it
(`fillPieces_of_leftmost`, `names_of_leftmost`). Uniqueness is not argued by comparing two cuts
position by position: inside a quiet literal the run takes one character after the other
(`pieces_append_of_quiet`), so the pieces of a text are those of any leftmost cut of it, and pieces
give the cut back.
-/

namespace CallBook.Template

/-! ## Where a placeholder begins -/

/-- What may stand between the braces of a placeholder: anything without a closing brace, but
something. -/
def IsName (name : List Char) : Prop := name ≠ [] ∧ '}' ∉ name

instance (name : List Char) : Decidable (IsName name) :=
  inferInstanceAs (Decidable (name ≠ [] ∧ '}' ∉ name))

/-- The text begins with a placeholder. -/
def Begins (s : List Char) : Prop := ∃ name rest, IsName name ∧ s = placeholder name ++ rest

/-- A placeholder is found at the front, whatever follows it. -/
theorem placeholder?_append {name : List Char} (h : IsName name) (rest : List Char) :
    placeholder? (placeholder name ++ rest) = some (name, rest) := by
  have htext : placeholder name ++ rest = '{' :: '{' :: (name ++ '}' :: '}' :: rest) := by
    simp [placeholder]
  obtain ⟨htake, hdrop⟩ := Text.span_ne_append h.2 (Or.inr ⟨'}' :: rest, rfl⟩)
  obtain ⟨c, more, rfl⟩ := List.exists_cons_of_ne_nil h.1
  rw [htext, placeholder?]
  simp only [htake, hdrop]

/-- What stands between the braces of a placeholder is a name. -/
theorem isName_of_placeholder? {s name rest : List Char}
    (h : placeholder? s = some (name, rest)) : IsName name := by
  unfold placeholder? at h
  split at h
  · next text =>
    split at h
    · next c before after hb ha =>
      simp only [Option.some.injEq, Prod.mk.injEq] at h
      obtain ⟨rfl, rfl⟩ := h
      refine ⟨List.cons_ne_nil _ _, ?_⟩
      rw [← hb]
      intro hmem
      have := List.all_eq_true.mp List.all_takeWhile '}' hmem
      simp at this
    · simp at h
  · simp at h

/-- The reader finds a placeholder exactly where one begins. -/
theorem begins_iff {s : List Char} : Begins s ↔ (placeholder? s).isSome = true := by
  constructor
  · rintro ⟨name, rest, hn, rfl⟩
    rw [placeholder?_append hn]
    rfl
  · intro h
    obtain ⟨⟨name, rest⟩, hp⟩ := Option.isSome_iff_exists.mp h
    exact ⟨name, rest, isName_of_placeholder? hp, eq_of_placeholder? hp⟩

instance (s : List Char) : Decidable (Begins s) := decidable_of_iff' _ begins_iff

theorem placeholder?_eq_none {s : List Char} (h : ¬ Begins s) : placeholder? s = none := by
  rw [begins_iff, Option.not_isSome_iff_eq_none] at h
  exact h

theorem not_begins_of_head {c : Char} {s : List Char} (h : c ≠ '{') : ¬ Begins (c :: s) := by
  rintro ⟨name, rest, -, he⟩
  exact h (List.cons.inj he).1

/-- No placeholder begins inside a literal that `next` follows. -/
def Quiet (literal next : List Char) : Prop :=
  ∀ i < literal.length, ¬ Begins ((literal ++ next).drop i)

instance (literal next : List Char) : Decidable (Quiet literal next) :=
  inferInstanceAs (Decidable (∀ i < literal.length, ¬ Begins ((literal ++ next).drop i)))

@[simp] theorem quiet_nil (next : List Char) : Quiet [] next := by
  intro i hi
  exact absurd hi (Nat.not_lt_zero i)

/-- No placeholder begins in a literal if none begins at its first character or later. -/
theorem quiet_cons {c : Char} {literal next : List Char} :
    Quiet (c :: literal) next ↔ ¬ Begins (c :: (literal ++ next)) ∧ Quiet literal next := by
  constructor
  · intro h
    exact ⟨h 0 (Nat.succ_pos _), fun i hi => h (i + 1) (Nat.succ_lt_succ hi)⟩
  · rintro ⟨h0, h⟩ i hi
    cases i with
    | zero => exact h0
    | succ i => exact h i (Nat.lt_of_succ_lt_succ hi)

/-- No placeholder begins in two parts if none begins in either of them. -/
theorem quiet_append {a b next : List Char} :
    Quiet (a ++ b) next ↔ Quiet a (b ++ next) ∧ Quiet b next := by
  induction a with
  | nil => simp
  | cons c a ih => rw [List.cons_append, quiet_cons, quiet_cons, ih, List.append_assoc, and_assoc]

/-! ## Cuts -/

/-- A text as literals with placeholders between them. -/
inductive Cut
  | last (literal : List Char)
  | hole (literal name : List Char) (more : Cut)
  deriving DecidableEq

namespace Cut

/-- The text that was cut. -/
def text : Cut → List Char
  | last literal => literal
  | hole literal name more => literal ++ (placeholder name ++ more.text)

/-- Each placeholder begins at the earliest position at or after the end of the one before it at
which a placeholder begins, and none begins after the last. -/
def Leftmost : Cut → Prop
  | last literal => Quiet literal []
  | hole literal name more =>
    IsName name ∧ Quiet literal (placeholder name ++ more.text) ∧ more.Leftmost

instance decidableLeftmost : (d : Cut) → Decidable d.Leftmost
  | last literal => inferInstanceAs (Decidable (Quiet literal []))
  | hole literal name more =>
    haveI := decidableLeftmost more
    inferInstanceAs (Decidable (IsName name ∧ Quiet literal (placeholder name ++ more.text)
      ∧ more.Leftmost))

/-- The text with the value of its exact name in the place of each placeholder that has one. -/
def fill (vars : Variables) : Cut → List Char
  | last literal => literal
  | hole literal name more =>
    literal ++ (((vars.get? (String.ofList name)).map String.toList).getD (placeholder name)
      ++ more.fill vars)

/-- The names of the placeholders in order. -/
def names : Cut → List String
  | last _ => []
  | hole _ name more => String.ofList name :: more.names

/-- The cut with more text before it. -/
def after (literal : List Char) : Cut → Cut
  | last l => last (literal ++ l)
  | hole l name more => hole (literal ++ l) name more

@[simp] theorem text_after (literal : List Char) (d : Cut) :
    (d.after literal).text = literal ++ d.text := by
  cases d <;> simp [after, text]

@[simp] theorem names_after (literal : List Char) (d : Cut) :
    (d.after literal).names = d.names := by
  cases d <;> rfl

/-- More text before a cut asks for nothing more than that it is quiet. -/
theorem leftmost_after {literal : List Char} {d : Cut} :
    (d.after literal).Leftmost ↔ Quiet literal d.text ∧ d.Leftmost := by
  cases d with
  | last l => rw [after, Leftmost, quiet_append, List.append_nil]; rfl
  | hole l name more =>
    simp only [after, Leftmost, text]
    rw [quiet_append]
    tauto

/-! ## Cuts and pieces -/

/-- The pieces of a cut: the characters of its literals and its placeholders. -/
def pieces : Cut → List Piece
  | last literal => literal.map .char
  | hole literal name more => literal.map .char ++ .hole name :: more.pieces

/-- The cut that has these pieces. -/
def ofPieces : List Piece → Cut
  | [] => last []
  | .char c :: more => (ofPieces more).after [c]
  | .hole name :: more => hole [] name (ofPieces more)

/-- Characters before pieces make a literal before the cut. -/
theorem ofPieces_map_char_append (literal : List Char) (more : List Piece) :
    ofPieces (literal.map .char ++ more) = (ofPieces more).after literal := by
  induction literal with
  | nil => cases h : ofPieces more <;> simp [after, h]
  | cons c literal ih =>
    rw [List.map_cons, List.cons_append, ofPieces, ih]
    cases ofPieces more <;> rfl

/-- A cut is made again from its pieces. -/
theorem ofPieces_pieces (d : Cut) : ofPieces d.pieces = d := by
  induction d with
  | last literal =>
    have h := ofPieces_map_char_append literal []
    rw [List.append_nil] at h
    simpa [pieces, ofPieces, after] using h
  | hole literal name more ih =>
    rw [pieces, ofPieces_map_char_append, ofPieces, ih]
    simp [after]

/-- Filling the pieces fills the cut. -/
theorem flatMap_fill_pieces (vars : Variables) (d : Cut) :
    d.pieces.flatMap (Piece.fill vars) = d.fill vars := by
  have hchars : ∀ l : List Char, (l.map Piece.char).flatMap (Piece.fill vars) = l := by
    intro l
    rw [List.flatMap_map]
    exact List.flatMap_singleton' l
  induction d with
  | last literal => exact hchars literal
  | hole literal name more ih =>
    rw [pieces, List.flatMap_append, List.flatMap_cons, hchars, ih, fill, Piece.fill]
    cases vars.get? (String.ofList name) <;> rfl

/-- The names of the pieces are those of the cut. -/
theorem filterMap_name?_pieces (d : Cut) : d.pieces.filterMap Piece.name? = d.names := by
  have hchars : ∀ l : List Char, (l.map Piece.char).filterMap Piece.name? = [] := by
    intro l
    rw [List.filterMap_map]
    exact List.filterMap_eq_nil_iff.mpr fun _ _ => rfl
  induction d with
  | last literal => exact hchars literal
  | hole literal name more ih =>
    rw [pieces, List.filterMap_append, hchars, List.nil_append, List.filterMap_cons, ih]
    rfl

end Cut

/-! ## The run over a text -/

theorem pieces_nil : pieces [] = [] := by
  rw [pieces]
  rfl

/-- Inside a quiet literal the run takes one character after the other. -/
theorem pieces_append_of_quiet {literal next : List Char} (h : Quiet literal next) :
    pieces (literal ++ next) = literal.map .char ++ pieces next := by
  induction literal with
  | nil => rfl
  | cons c literal ih =>
    rw [quiet_cons] at h
    have hnone := placeholder?_eq_none h.1
    rw [List.cons_append, pieces]
    split
    · next hsome => rw [hnone] at hsome; cases hsome
    · show .char c :: pieces (literal ++ next) = _
      rw [ih h.2]
      rfl

/-- A placeholder is a piece of its own. -/
theorem pieces_placeholder_append {name : List Char} (h : IsName name) (rest : List Char) :
    pieces (placeholder name ++ rest) = .hole name :: pieces rest := by
  have hsome := placeholder?_append h rest
  rw [pieces]
  split
  · next name' rest' heq =>
    rw [hsome, Option.some.injEq, Prod.mk.injEq] at heq
    rw [heq.1, heq.2]
  · next hnone => rw [hsome] at hnone; cases hnone

/-- The pieces of a text are those of any leftmost cut of it. -/
theorem pieces_text_of_leftmost {d : Cut} (h : d.Leftmost) : pieces d.text = d.pieces := by
  induction d with
  | last literal =>
    have hp := pieces_append_of_quiet h
    rw [pieces_nil, List.append_nil, List.append_nil] at hp
    exact hp
  | hole literal name more ih =>
    obtain ⟨hn, hq, hm⟩ := h
    rw [Cut.text, pieces_append_of_quiet hq, pieces_placeholder_append hn, ih hm]
    rfl

/-- What the run finds is a leftmost cut of the text. -/
theorem leftmost_ofPieces_pieces (s : List Char) :
    (Cut.ofPieces (pieces s)).text = s ∧ (Cut.ofPieces (pieces s)).Leftmost := by
  fun_induction pieces s with
  | case1 s name rest hp ih =>
    refine ⟨?_, isName_of_placeholder? hp, quiet_nil _, ih.2⟩
    rw [Cut.ofPieces, Cut.text, ih.1, List.nil_append, ← eq_of_placeholder? hp]
  | case2 => exact ⟨rfl, quiet_nil _⟩
  | case3 c rest hp ih =>
    rw [Cut.ofPieces, Cut.text_after, Cut.leftmost_after, ih.1]
    refine ⟨rfl, ?_, ih.2⟩
    rw [quiet_cons, begins_iff]
    refine ⟨?_, quiet_nil _⟩
    rw [List.nil_append, hp]
    simp

/-- A text has one leftmost cut. -/
theorem existsUnique_leftmost (s : List Char) : ∃! d : Cut, d.text = s ∧ d.Leftmost := by
  refine ⟨Cut.ofPieces (pieces s), leftmost_ofPieces_pieces s, ?_⟩
  rintro d ⟨rfl, hd⟩
  rw [pieces_text_of_leftmost hd, Cut.ofPieces_pieces]

/-- The scan fills the placeholders of the leftmost cut. -/
theorem fillPieces_of_leftmost {text : String} {d : Cut} (ht : d.text = text.toList)
    (hd : d.Leftmost) (vars : Variables) : fillPieces vars text = String.ofList (d.fill vars) := by
  rw [fillPieces, ← ht, pieces_text_of_leftmost hd, Cut.flatMap_fill_pieces]

/-- The scan finds the names of the leftmost cut, each of them once. -/
theorem names_of_leftmost {text : String} {d : Cut} (ht : d.text = text.toList)
    (hd : d.Leftmost) : names text = d.names.eraseDups := by
  have hkeys : ∀ l : List String, Entries.keys (l.map fun name => (name, ())) = l := by
    intro l
    rw [Entries.keys, List.map_map]
    exact List.map_id l
  rw [names, ← ht, pieces_text_of_leftmost hd, Cut.filterMap_name?_pieces, OrderedMap.keys,
    OrderedMap.entries_ofList, Entries.keys_insertAll_nil, hkeys]

/-- A text has no names exactly if no placeholder stands anywhere in it. -/
theorem names_eq_nil_iff {text : String} :
    names text = [] ↔
      ¬ ∃ before name after, IsName name ∧ text.toList = before ++ (placeholder name ++ after) := by
  obtain ⟨d, ⟨ht, hd⟩, -⟩ := existsUnique_leftmost text.toList
  rw [names_of_leftmost ht hd, ← ht]
  cases d with
  | last literal =>
    constructor
    · rintro - ⟨before, name, after, hn, he⟩
      -- the cut has no placeholder, and its one literal begins none where this one begins
      have hlt : before.length < literal.length := by
        rw [show literal = before ++ (placeholder name ++ after) from he]
        simp [placeholder]
      refine hd before.length hlt ⟨name, after, hn, ?_⟩
      rw [List.append_nil, show literal = before ++ (placeholder name ++ after) from he,
        List.drop_left]
    · intro _
      rfl
  | hole literal name more =>
    constructor
    · intro h
      rw [Cut.names, List.eraseDups_cons] at h
      cases h
    · intro h
      exact absurd ⟨literal, name, more.text, hd.1, rfl⟩ h

/-- **Filling and listing are one pass over the one leftmost cut.** Every text has exactly one
leftmost cut. Filling puts the value of its exact name in the place of each placeholder of the cut
that has one and keeps everything else; the names are those of the cut, each once, in first-seen
order. A text without two opening braces in a row, which is not cut at all, would come out of the
cut unchanged. -/
theorem fill_names_of_cut (text : String) :
    (∃! d : Cut, d.text = text.toList ∧ d.Leftmost) ∧
    (∀ d : Cut, d.text = text.toList → d.Leftmost →
      (∀ vars, fill vars text = String.ofList (d.fill vars)) ∧ names text = d.names.eraseDups) ∧
    (¬ ['{', '{'] <:+: text.toList →
      ∀ vars, fill vars text = text ∧ fillPieces vars text = text) := by
  refine ⟨existsUnique_leftmost text.toList, ?_, ?_⟩
  · intro d ht hd
    refine ⟨fun vars => ?_, names_of_leftmost ht hd⟩
    rw [fill_eq_fillPieces, fillPieces_of_leftmost ht hd]
  · intro h vars
    rw [← Text.occursIn_iff] at h
    have hfill : fill vars text = text := if_neg h
    exact ⟨hfill, (fill_eq_fillPieces vars text).symm.trans hfill⟩

/-- Braces that make no placeholder stay where they are, on both sides of one that is filled in. -/
theorem fill_names_of_stray_braces :
    let text := String.ofList (['{', '{', 'b', '}'] ++ placeholder ['a'] ++ ['}'])
    fill (.ofList [("a", "1")]) text = String.ofList ['{', '{', 'b', '}', '1', '}'] ∧
      names text = ["a"] := by
  intro text
  have h := (fill_names_of_cut text).2.1
    (.hole ['{', '{', 'b', '}'] ['a'] (.last ['}'])) (by decide) (by decide)
  refine ⟨?_, ?_⟩
  · rw [h.1]
    decide
  · rw [h.2]
    decide

end CallBook.Template
