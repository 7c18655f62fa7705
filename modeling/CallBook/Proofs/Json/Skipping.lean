import CallBook.Proofs.Json.Numerals
import CallBook.Proofs.Json.Values

/-!
# What was written is skipped whole

A value that nobody asked for is read over by a machine that keeps the open brackets in a list and
never looks back. Whatever value was written, the machine comes from in front of its text to behind
it with the same brackets open (`skippable_write`), in at most three steps for each character, which
is what it is given (`reads_skipValue`). There is no bound on how deep the value is nested and none
on its numbers: skipping asks for the form of a number only, and every number has that form
(`Number.numeral_text`).

`Goes` counts the steps from one standing of the machine to another, and the induction is over the
value, with one lemma for each kind of step.
-/

namespace CallBook.Json

/-! ## Numbers -/

/-- Digits are dropped up to the first character that is none. -/
theorem dropWhile_digits {ds rest : List Char} (h : ∀ c ∈ ds, Text.isDigit c = true)
    (hrest : NoDigit rest) : (ds ++ rest).dropWhile Text.isDigit = rest := by
  rw [List.dropWhile_append_of_pos h]
  cases rest with
  | nil => rfl
  | cons c rest => exact List.dropWhile_cons_of_neg (by rw [hrest c rfl]; decide)

/-- A run of digits begins with one. -/
theorem Digits.cases {ds : List Char} (h : Digits ds) :
    ∃ c more, ds = c :: more ∧ Text.isDigit c = true ∧ ∀ d ∈ more, Text.isDigit d = true := by
  obtain ⟨c, more, rfl⟩ := List.exists_cons_of_ne_nil h.nonempty
  obtain ⟨hc, hmore⟩ := List.forall_mem_cons.mp h.digits
  exact ⟨c, more, rfl, hc, hmore⟩

section Numbers

variable {s rest : List Char}

/-- Neither an exponent nor what may follow a number begins with a digit. -/
theorem ExponentPart.noDigit (h : ExponentPart s) (he : Ends rest) : NoDigit (s ++ rest) := by
  cases h with
  | none => exact he.noDigit
  | signed hsign hd =>
    rintro c ⟨⟩
    rfl

/-- Neither a fraction nor what follows it begins with a digit. -/
theorem FractionPart.noDigit (h : FractionPart s) (hrest : NoDigit rest) :
    NoDigit (s ++ rest) := by
  cases h with
  | none => exact hrest
  | point hd =>
    rintro c ⟨⟩
    rfl

/-- An exponent is skipped, and nothing behind it. -/
theorem skipOptionalExponent_append (h : ExponentPart s) (he : Ends rest) :
    skipOptionalExponent (s ++ rest) = .ok rest := by
  cases h with
  | none =>
    cases rest with
    | nil => rfl
    | cons c rest =>
      obtain ⟨-, -, hlower, hupper⟩ := he.cases
      simp [skipOptionalExponent, hlower, hupper]
  | @signed ds sign hsign hd =>
    obtain ⟨d, more, rfl, hdigit, hmore⟩ := hd.cases
    have hsigned : (decide (sign = '+') || decide (sign = '-')) = true := by
      rcases hsign with rfl | rfl <;> rfl
    show skipExponent (sign :: (d :: (more ++ rest))) = _
    rw [skipExponent, if_pos hsigned]
    simp only [hdigit, if_true, dropWhile_digits hmore he.noDigit]

/-- A fraction and an exponent are skipped, and nothing behind them. -/
theorem skipAfterWhole_append {exponent : List Char} (hf : FractionPart s)
    (hx : ExponentPart exponent) (he : Ends rest) :
    skipAfterWhole (s ++ (exponent ++ rest)) = .ok rest := by
  have hexponent := skipOptionalExponent_append hx he
  cases hf with
  | none =>
    rw [List.nil_append]
    cases hx with
    | none =>
      cases rest with
      | nil => rfl
      | cons c rest =>
        obtain ⟨-, hpoint, -⟩ := he.cases
        rw [List.nil_append] at hexponent ⊢
        rw [skipAfterWhole.eq_def]
        dsimp only
        rw [if_neg hpoint]
        exact hexponent
    | signed hsign hd => exact hexponent
  | @point ds hd =>
    have hstop := dropWhile_digits hd.digits (hx.noDigit he)
    obtain ⟨d, more, rfl, hdigit, -⟩ := hd.cases
    show skipAfterWhole ('.' :: (d :: (more ++ (exponent ++ rest)))) = _
    rw [List.cons_append] at hstop
    rw [skipAfterWhole, if_pos rfl]
    simp only [hdigit, if_true, hstop, hexponent]

/-- A number without a sign is skipped, and nothing behind it. -/
theorem skipNumber_append (h : Unsigned s) (he : Ends rest) :
    skipNumber (s ++ rest) = .ok rest := by
  obtain @⟨whole, fraction, exponent, hw, hf, hx⟩ := h
  have hafter := skipAfterWhole_append hf hx he
  have hstop : NoDigit (fraction ++ (exponent ++ rest)) := hf.noDigit (hx.noDigit he)
  rw [List.append_assoc, List.append_assoc]
  generalize fraction ++ (exponent ++ rest) = tail at hafter hstop
  cases hw with
  | zero =>
    show skipNumber ('0' :: tail) = _
    rw [skipNumber.eq_def]
    dsimp only
    rw [if_pos rfl]
    cases tail with
    | nil => exact hafter
    | cons d tail =>
      dsimp only
      rw [if_neg (by rw [hstop d rfl]; decide)]
      exact hafter
  | digits hd hhead =>
    obtain ⟨d, more, rfl, hdigit, hmore⟩ := hd.cases
    have hne : d ≠ '0' := by
      rintro rfl
      exact hhead rfl
    rw [List.cons_append, skipNumber.eq_def]
    dsimp only
    rw [if_neg hne, if_pos hdigit, dropWhile_digits hmore hstop, hafter]

end Numbers

/-! ## Strings -/

/-- A character that needs no escape is passed over. -/
theorem skipString_plain {c : Char} (hq : c ≠ '"') (hb : c ≠ '\\') (hc : ¬ c.toNat < 32)
    (rest : List Char) : skipString (c :: rest) = skipString rest := by
  rw [skipString.eq_def]
  split
  next heq => cases heq
  next heq => exact absurd (List.cons.inj heq).1 hb
  next heq =>
    obtain ⟨rfl, rfl⟩ := List.cons.inj heq
    rw [if_neg hq, if_neg hc]

/-- An escape of one letter is passed over. -/
theorem skipString_letter {c : Char} (h : "\"\\/bfnrt".toList.contains c = true)
    (rest : List Char) : skipString ('\\' :: c :: rest) = skipString rest := by
  rw [skipString.eq_def]
  simp only [h, if_true]

/-- A control character in four digits. -/
theorem skipString_control {c : Char} (h : c.toNat < 32) (rest : List Char) :
    skipString ('\\' :: 'u' :: '0' :: '0' :: Text.hexDigit (c.toNat / 16)
      :: Text.hexDigit (c.toNat % 16) :: rest) = skipString rest := by
  have hzero : Text.hexValue? '0' = some 0 := rfl
  have hhigh : Text.hexValue? (Text.hexDigit (c.toNat / 16)) = some (c.toNat / 16) :=
    hexValue?_hexDigit (by omega)
  have hlow : Text.hexValue? (Text.hexDigit (c.toNat % 16)) = some (c.toNat % 16) :=
    hexValue?_hexDigit (by omega)
  have hquad := hexQuad_digits hzero hzero hhigh hlow rest
  rw [skipString.eq_def]
  simp [hquad]

/-- However a character was written, it is skipped. -/
theorem skipString_escapedChar (c : Char) (rest : List Char) :
    skipString (escapedChar c ++ rest) = skipString rest := by
  unfold escapedChar
  split
  next => exact skipString_letter (by decide) rest
  split
  next => exact skipString_letter (by decide) rest
  split
  next => exact skipString_letter (by decide) rest
  split
  next => exact skipString_letter (by decide) rest
  split
  next => exact skipString_letter (by decide) rest
  split
  next => exact skipString_letter (by decide) rest
  split
  next => exact skipString_letter (by decide) rest
  split
  next h => exact skipString_control h rest
  next hq hb _ _ _ _ _ hc => exact skipString_plain hq hb hc rest

/-- A string as it is written is skipped, whatever its characters are. -/
theorem skipString_escaped (chars rest : List Char) :
    skipString (chars.flatMap escapedChar ++ '"' :: rest) = .ok rest := by
  induction chars with
  | nil => rw [List.flatMap_nil, List.nil_append, skipString.eq_def]; rfl
  | cons c chars ih => rw [List.flatMap_cons, List.append_assoc, skipString_escapedChar, ih]

/-! ## Values that hold no others -/

/-- A text that is told from blanks and brackets by its first character, and skipped at once. -/
def ScalarText (s : List Char) : Prop :=
  ∃ c more, s = c :: more ∧ isJsonBlank c = false ∧ c ∉ ['[', ']', '{'] ∧
    ∀ rest, Ends rest → skipScalar c (more ++ rest) = .ok rest

theorem Unsigned.cases {s : List Char} (h : Unsigned s) :
    ∃ c more, s = c :: more ∧ Text.isDigit c = true := by
  obtain @⟨whole, fraction, exponent, hw, -, -⟩ := h
  cases hw with
  | zero => exact ⟨'0', _, rfl, rfl⟩
  | digits hd _ =>
    obtain ⟨c, more, rfl, hc, -⟩ := hd.cases
    exact ⟨c, _, rfl, hc⟩

/-- A numeral is skipped in one step. -/
theorem scalarText_of_numeral {s : List Char} (h : Numeral s) : ScalarText s := by
  cases h with
  | minus h =>
    refine ⟨'-', _, rfl, by decide, by decide, ?_⟩
    intro rest he
    exact skipNumber_append h he
  | unsigned h =>
    obtain ⟨c, more, rfl, hc⟩ := h.cases
    have hne : ∀ d, Text.isDigit d = false → c ≠ d := fun d => ne_of_isDigit hc
    refine ⟨c, more, rfl, isJsonBlank_of_isDigit hc, ?_, ?_⟩
    · simp [hne '[' rfl, hne ']' rfl, hne '{' rfl]
    · intro rest he
      rw [skipScalar, if_neg (hne 'n' rfl), if_neg (hne 't' rfl), if_neg (hne 'f' rfl),
        if_neg (hne '-' rfl), if_pos hc]
      exact skipNumber_append h he

/-- A string as it is written is skipped in one step. -/
theorem scalarText_string (s : String) : ScalarText (quotedText s) := by
  refine ⟨'"', _, rfl, by decide, by decide, ?_⟩
  intro rest _
  rw [List.append_assoc]
  exact skipString_escaped s.toList rest

/-! ## Steps -/

/-- The character that opens a frame. -/
def Frame.opening : Frame → Char
  | list => '['
  | object => '{'

/-- Where the skipping stands: at a stage, inside of brackets, before a text. -/
structure Standing where
  stage : Stage
  frames : List Frame
  text : List Char

/-- So many steps lead from one standing to another. -/
def Goes (n : Nat) (a b : Standing) : Prop :=
  ∀ fuel, skipFrom (fuel + n) a.stage a.frames a.text = skipFrom fuel b.stage b.frames b.text

/-- Runs of the machine add up. -/
theorem Goes.trans {m n : Nat} {a b c : Standing} (hab : Goes m a b) (hbc : Goes n b c) :
    Goes (n + m) a c := by
  intro fuel
  rw [← Nat.add_assoc, hab, hbc]

instance {m n : Nat} : Trans (Goes m) (Goes n) (Goes (n + m)) := ⟨Goes.trans⟩

section Steps

variable {frames : List Frame} {frame : Frame} {blanks s rest : List Char}

/-- A number, a string or a word takes one step. -/
theorem goes_scalar (h : ScalarText s) (hb : Blanks blanks) (he : Ends rest) :
    Goes 1 ⟨.value, frames, blanks ++ (s ++ rest)⟩ ⟨.done, frames, rest⟩ := by
  obtain ⟨c, more, rfl, hblank, hbracket, hskip⟩ := h
  intro fuel
  simp only [List.mem_cons, not_or] at hbracket
  obtain ⟨hopen, -, hbrace, -⟩ := hbracket
  simp only [skipFrom, List.cons_append, skipBlanks_append hb hblank, if_neg hopen, if_neg hbrace,
    hskip rest he]

/-- An opening bracket puts a frame on the stack. -/
theorem goes_open (frame : Frame) (hb : Blanks blanks) :
    Goes 1 ⟨.value, frames, blanks ++ frame.opening :: s⟩ ⟨.opened, frame :: frames, s⟩ := by
  intro fuel
  cases frame with
  | list => simp [skipFrom, Frame.opening, skipBlanks_append hb (c := '[') (by decide)]
  | object => simp [skipFrom, Frame.opening, skipBlanks_append hb (c := '{') (by decide)]

theorem Frame.isJsonBlank_closing (frame : Frame) : isJsonBlank frame.closing = false := by
  cases frame <;> rfl

/-- A bracket that closes at once takes the frame off the stack. -/
theorem goes_openedClose (hb : Blanks blanks) :
    Goes 1 ⟨.opened, frame :: frames, blanks ++ frame.closing :: s⟩ ⟨.done, frames, s⟩ := by
  intro fuel
  simp only [skipFrom, skipBlanks_append hb frame.isJsonBlank_closing, if_true]

/-- The first entry of a list or an object is looked at again from inside. -/
theorem goes_openedInside {c : Char} (hb : Blanks blanks) (hblank : isJsonBlank c = false)
    (hc : c ≠ frame.closing) :
    Goes 1 ⟨.opened, frame :: frames, blanks ++ c :: s⟩ ⟨.inside, frame :: frames, c :: s⟩ := by
  intro fuel
  simp only [skipFrom, skipBlanks_append hb hblank, if_neg hc]

theorem goes_item : Goes 1 ⟨.inside, .list :: frames, s⟩ ⟨.value, .list :: frames, s⟩ :=
  fun _ => rfl

/-- A key and its colon are skipped up to the blanks before the value. -/
theorem goes_key (layout : Layout) (frames : List Frame) (hb : Blanks blanks) (key : String) :
    ∃ before, Blanks before ∧
      Goes 1 ⟨.inside, .object :: frames, blanks ++ (quotedText key ++ (layout.colon ++ s))⟩
        ⟨.value, .object :: frames, before ++ s⟩ := by
  have hkey : ∀ tail, skipKey (blanks ++ (quotedText key ++ ':' :: tail)) = .ok tail := by
    intro tail
    rw [quotedText_append, skipKey, skipBlanks_append hb (by decide)]
    simp only [if_true, skipString_escaped]
    rw [skipBlanks_cons (by decide)]
    rfl
  cases layout with
  | compact =>
    refine ⟨[], blanks_nil, fun fuel => ?_⟩
    simp only [skipFrom, Layout.colon, List.cons_append, List.nil_append, hkey]
  | pretty =>
    refine ⟨[' '], fun c hc => List.mem_singleton.mp hc ▸ rfl, fun fuel => ?_⟩
    simp only [skipFrom, Layout.colon, List.cons_append, List.nil_append, hkey]

/-- A comma leads to the next entry. -/
theorem goes_comma (hb : Blanks blanks) :
    Goes 1 ⟨.done, frame :: frames, blanks ++ ',' :: s⟩ ⟨.inside, frame :: frames, s⟩ := by
  intro fuel
  simp only [skipFrom, skipBlanks_append hb (show isJsonBlank ',' = false by decide), if_true]

/-- A closing bracket takes the frame off the stack. -/
theorem goes_close (hb : Blanks blanks) :
    Goes 1 ⟨.done, frame :: frames, blanks ++ frame.closing :: s⟩ ⟨.done, frames, s⟩ := by
  intro fuel
  have hcomma : frame.closing ≠ ',' := by cases frame <;> decide
  simp only [skipFrom, skipBlanks_append hb frame.isJsonBlank_closing, if_neg hcomma, if_true]

end Steps

/-! ## Values -/

/-- The machine comes from in front of a text to behind it, whatever brackets are open. -/
def Skippable (text : List Char) : Prop :=
  ∃ n ≤ 3 * text.length, ∀ (blanks : List Char) (frames : List Frame) (rest : List Char),
    Blanks blanks → Ends rest →
      Goes n ⟨.value, frames, blanks ++ (text ++ rest)⟩ ⟨.done, frames, rest⟩

/-- An item or a member: the machine comes over it inside the bracket that holds it. -/
structure SkippableEntry (frame : Frame) (text : List Char) : Prop where
  head : ∃ c more, text = c :: more ∧ isJsonBlank c = false ∧ c ≠ frame.closing
  goes : ∃ n ≤ 3 * text.length + 1, ∀ (blanks : List Char) (frames : List Frame)
    (rest : List Char), Blanks blanks → Ends rest →
      Goes n ⟨.inside, frame :: frames, blanks ++ (text ++ rest)⟩ ⟨.done, frame :: frames, rest⟩

/-- The machine comes over the items or members behind the first. -/
def SkippableMore (frame : Frame) (text : List Char) : Prop :=
  ∃ n ≤ 3 * text.length, ∀ (frames : List Frame) (rest : List Char), Ends rest →
    Goes n ⟨.done, frame :: frames, text ++ rest⟩ ⟨.done, frame :: frames, rest⟩

theorem ScalarText.skippable {text : List Char} (h : ScalarText text) : Skippable text := by
  have hlen : 1 ≤ text.length := by
    obtain ⟨c, more, rfl, -⟩ := h
    exact Nat.succ_le_succ (Nat.zero_le _)
  exact ⟨1, by omega, fun _ _ _ hb he => goes_scalar h hb he⟩

/-- A written value begins with a character that is no blank and closes nothing. -/
theorem exists_write_eq_cons (v : Value) (layout : Layout) (level : Nat) :
    ∃ c more, v.write layout level = c :: more ∧ isJsonBlank c = false ∧ c ≠ ']' := by
  cases v with
  | null => exact ⟨'n', _, rfl, by decide⟩
  | bool b => cases b <;> exact ⟨_, _, rfl, by decide⟩
  | number n =>
    obtain ⟨c, more, hc, hblank, hbracket, -⟩ := scalarText_of_numeral n.numeral_text
    exact ⟨c, more, hc, hblank, fun h => hbracket (by simp [h])⟩
  | string s => exact ⟨'"', _, rfl, by decide⟩
  | array items => exact ⟨'[', _, write_array items, by decide⟩
  | object members => exact ⟨'{', _, write_object members, by decide⟩

section Values

variable {layout : Layout} {level : Nat} {frame : Frame} {text others : List Char}

theorem Skippable.item {v : Value} (h : Skippable (v.write layout level)) :
    SkippableEntry .list (v.write layout level) where
  head := exists_write_eq_cons v layout level
  goes := by
    obtain ⟨n, hn, hgoes⟩ := h
    refine ⟨n + 1, by omega, ?_⟩
    intro blanks frames rest hb he
    exact goes_item.trans (hgoes blanks _ rest hb he)

/-- A member is skipped if its value is. -/
theorem Skippable.member {v : Value} (h : Skippable (v.write layout level)) (key : String) :
    SkippableEntry .object (quotedText key ++ (layout.colon ++ v.write layout level)) where
  head := ⟨'"', _, rfl, by decide, by decide⟩
  goes := by
    obtain ⟨n, hn, hgoes⟩ := h
    refine ⟨n + 1, ?_, ?_⟩
    · simp only [List.length_append]
      omega
    · intro blanks frames rest hb he
      obtain ⟨before, hbefore, hkey⟩ := goes_key layout frames hb key
      rw [List.append_assoc, List.append_assoc]
      exact hkey.trans (hgoes before _ rest hbefore he)

/-- A comma before an item or member, and others behind it. -/
theorem SkippableEntry.separated (h : SkippableEntry frame text)
    (hmore : SkippableMore frame others) (hends : ∀ rest, Ends rest → Ends (others ++ rest))
    (layout : Layout) (level : Nat) :
    SkippableMore frame (',' :: (layout.lineBreak level ++ (text ++ others))) := by
  obtain ⟨n, hn, hentry⟩ := h.goes
  obtain ⟨m, hm, hmore⟩ := hmore
  refine ⟨m + (n + 1), ?_, ?_⟩
  · simp only [List.length_cons, List.length_append]
    omega
  · intro frames rest he
    rw [List.cons_append, List.append_assoc, List.append_assoc]
    calc
      Goes 1 _ ⟨.inside, frame :: frames, _⟩ := goes_comma blanks_nil
      Goes n _ ⟨.done, frame :: frames, _⟩ :=
        hentry _ _ _ (blanks_lineBreak layout level) (hends rest he)
      Goes m _ ⟨.done, frame :: frames, rest⟩ := hmore _ _ he

/-- Brackets around a first item or member and others behind it. -/
theorem SkippableEntry.framed (h : SkippableEntry frame text)
    (hmore : SkippableMore frame others) (hends : ∀ rest, Ends rest → Ends (others ++ rest))
    (layout : Layout) (level : Nat) :
    Skippable (frame.opening :: (layout.lineBreak (level + 1) ++ (text ++ (others
      ++ (layout.lineBreak level ++ [frame.closing]))))) := by
  obtain ⟨n, hn, hentry⟩ := h.goes
  obtain ⟨m, hm, hmore⟩ := hmore
  have hinner := blanks_lineBreak layout (level + 1)
  have houter := blanks_lineBreak layout level
  refine ⟨1 + (m + (n + (1 + 1))), ?_, ?_⟩
  · simp only [List.length_cons, List.length_append]
    omega
  · intro blanks frames rest hb _
    -- whatever is behind the entries, the scan gets to the closing bracket
    have hclose : Ends (layout.lineBreak level ++ frame.closing :: rest) := by
      refine ends_append houter ?_
      cases frame with
      | list => exact ends_bracket rest
      | object => exact ends_brace rest
    have hinside : ∀ behind, Goes 1
        ⟨.opened, frame :: frames, layout.lineBreak (level + 1) ++ (text ++ behind)⟩
        ⟨.inside, frame :: frames, text ++ behind⟩ := by
      intro behind
      obtain ⟨c, tail, rfl, hblank, hne⟩ := h.head
      exact goes_openedInside hinner hblank hne
    simp only [List.cons_append, List.append_assoc, List.nil_append]
    calc
      Goes 1 _ ⟨.opened, frame :: frames, _⟩ := goes_open frame hb
      Goes 1 _ ⟨.inside, frame :: frames, _⟩ := hinside _
      Goes n _ ⟨.done, frame :: frames, _⟩ := hentry [] _ _ blanks_nil (hends _ hclose)
      Goes m _ ⟨.done, frame :: frames, layout.lineBreak level ++ frame.closing :: rest⟩ :=
        hmore _ _ hclose
      Goes 1 _ ⟨.done, frames, rest⟩ := goes_close houter

theorem skippable_empty (frame : Frame) : Skippable [frame.opening, frame.closing] := by
  refine ⟨1 + 1, by simp, ?_⟩
  intro blanks frames rest hb _
  calc
    Goes 1 _ ⟨.opened, frame :: frames, frame.closing :: rest⟩ := goes_open frame hb
    Goes 1 _ ⟨.done, frames, rest⟩ := goes_openedClose blanks_nil

theorem skippableMore_nil (frame : Frame) : SkippableMore frame [] :=
  ⟨0, Nat.zero_le _, fun _ _ _ _ => rfl⟩

mutual

/-- A value as it is written is skipped, whatever is behind it. -/
theorem skippable_write : ∀ (v : Value) (level : Nat), Skippable (v.write layout level)
  | .null, _ => ScalarText.skippable ⟨'n', _, rfl, by decide, by decide, fun _ _ => rfl⟩
  | .bool true, _ => ScalarText.skippable ⟨'t', _, rfl, by decide, by decide, fun _ _ => rfl⟩
  | .bool false, _ => ScalarText.skippable ⟨'f', _, rfl, by decide, by decide, fun _ _ => rfl⟩
  | .number n, _ => (scalarText_of_numeral n.numeral_text).skippable
  | .string s, _ => (scalarText_string s).skippable
  | .array [], _ => skippable_empty .list
  | .array (v :: more), level => by
    have h := (skippable_write v (level + 1)).item.framed
      (skippableMore_writeItems more (level + 1)) (fun _ => ends_writeItems more) layout level
    simpa [Value.write, Frame.opening, Frame.closing] using h
  | .object [], _ => skippable_empty .object
  | .object ((key, v) :: more), level => by
    have h := ((skippable_write v (level + 1)).member key).framed
      (skippableMore_writeMembers more (level + 1)) (fun _ => ends_writeMembers more) layout level
    simpa [Value.write, Frame.opening, Frame.closing] using h

/-- The further items of a list as they are written are skipped. -/
theorem skippableMore_writeItems : ∀ (items : List Value) (level : Nat),
    SkippableMore .list (Value.writeItems layout level items)
  | [], _ => skippableMore_nil .list
  | v :: more, level => by
    have h := (skippable_write v level).item.separated (skippableMore_writeItems more level)
      (fun _ => ends_writeItems more) layout level
    simpa [Value.writeItems] using h

/-- The further members of an object as they are written are skipped. -/
theorem skippableMore_writeMembers : ∀ (members : List (String × Value)) (level : Nat),
    SkippableMore .object (Value.writeMembers layout level members)
  | [], _ => skippableMore_nil .object
  | (key, v) :: more, level => by
    have h := ((skippable_write v level).member key).separated
      (skippableMore_writeMembers more level) (fun _ => ends_writeMembers more) layout level
    simpa [Value.writeMembers] using h

end

/-- Whatever value was written, its text is what skipping reads over. -/
theorem reads_skipValue (v : Value) : Reads skipValue (v.write layout level) () := by
  obtain ⟨n, hn, hgoes⟩ : Skippable (v.write layout level) := skippable_write v level
  intro blanks rest hb he
  have hfuel : n ≤ 3 * (blanks ++ (v.write layout level ++ rest)).length := by
    simp only [List.length_append]
    omega
  obtain ⟨left, hleft⟩ := Nat.exists_eq_add_of_le' hfuel
  have hrun := hgoes blanks [] rest hb he (left + 3)
  rw [skipValue, hleft, show left + n + 3 = left + 3 + n by omega, hrun, skipFrom_done]
  rfl

end Values

end CallBook.Json
