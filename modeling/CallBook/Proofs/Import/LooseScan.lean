import CallBook.Proofs.Import.Layout
import CallBook.Proofs.Import.Payloads
import CallBook.Proofs.Json.Values
import Mathlib.Data.Bool.AllAny

/-!
# A comma too many

An object with a comma behind its last member is no JSON, so its fields are those that the loose
scan finds. For members that need no escapes (`SpacedMember.Plain`) the comma makes no difference:
the scan finds every member where the strict reader reads it, whatever blanks stand between the
tokens.

The scan goes from quote to quote. `Finds` says which fields it comes to from a place; what it
passes over until the next quote does not matter (`Scans.skipAll`), and a member that stands before
a comma is found whole, with the scan going on at a place from which only blanks lead to that comma
(`loosePair?_member`). The comma is what ends a bare value, so it is the comma behind the last
member that the scan depends on and the reader stumbles over (`membersText_spaced_iff`).

Main result: `payloadFields_trailing_comma`.
-/

namespace CallBook.Import

open Json (Value Blanks Ends MembersText)
open Text (trimStart_append trim_around trim_of_trimmed)

/-! ## Members as they are written -/

/-- A text that stands between quotes as it is: not empty, without white space around it, and
without quotes, backslashes and controls. -/
structure PlainText (text : String) : Prop where
  ne_empty : text ≠ ""
  trimmed : Text.trimmed text = text
  plain : ∀ c ∈ text.toList, c ≠ '"' ∧ c ≠ '\\' ∧ ¬ c.toNat < 32

/-- A value that is written in one token without escapes: a plain text, a word, or an integer that
fits 64 bits. -/
inductive PlainValue : Value → Prop
  | null : PlainValue .null
  | bool (b : Bool) : PlainValue (.bool b)
  | integer {n : Int} (h : Json.Number.fits n = true) : PlainValue (.number (.integer n))
  | string {text : String} (h : PlainText text) : PlainValue (.string text)

/-- A member of an object with what stands around its tokens. -/
structure SpacedMember where
  beforeKey : List Char := []
  key : String
  beforeColon : List Char := []
  beforeValue : List Char := []
  value : Value
  afterValue : List Char := []

namespace SpacedMember

/-- Key and value are plain, and only blanks stand around the tokens. -/
structure Plain (m : SpacedMember) : Prop where
  key : PlainText m.key
  value : PlainValue m.value
  beforeKey : Blanks m.beforeKey
  beforeColon : Blanks m.beforeColon
  beforeValue : Blanks m.beforeValue
  afterValue : Blanks m.afterValue

/-- The member from behind the opening quote of its key on, with `rest` behind it. -/
def bodyText (m : SpacedMember) (rest : List Char) : List Char :=
  m.key.toList ++ '"' :: (m.beforeColon ++ ':' :: (m.beforeValue
    ++ (m.value.write .compact 0 ++ (m.afterValue ++ rest))))

/-- The member as it is written. -/
def text (m : SpacedMember) : List Char := m.beforeKey ++ '"' :: m.bodyText []

/-- A member begins with its key, behind blanks. -/
theorem text_append (m : SpacedMember) (rest : List Char) :
    m.text ++ rest = m.beforeKey ++ '"' :: m.bodyText rest := by
  simp [text, bodyText]

/-- The key and the value. -/
def pair (m : SpacedMember) : String × Value := (m.key, m.value)

/-- The key and the text of the value. -/
def field (m : SpacedMember) : String × String := (m.key, flatText m.value)

end SpacedMember

/-- Members with commas between them. -/
def spacedText (members : List SpacedMember) : List Char :=
  Text.joinFields [','] (members.map SpacedMember.text)

/-- A member that is not the last one has a comma behind it. -/
theorem spacedText_cons {members : List SpacedMember} (hne : members ≠ []) (m : SpacedMember) :
    spacedText (m :: members) = m.text ++ ',' :: spacedText members := by
  obtain ⟨n, more, rfl⟩ := List.exists_cons_of_ne_nil hne
  simp [spacedText, Text.joinFields]

/-! ## Plain texts and values -/

section Plain

variable {text : String} {v : Value}

theorem PlainText.quote_notMem (h : PlainText text) : '"' ∉ text.toList :=
  fun hq => (h.plain _ hq).1 rfl

theorem PlainText.toList_ne_nil (h : PlainText text) : text.toList ≠ [] :=
  fun he => h.ne_empty (String.toList_eq_nil_iff.mp he)

/-- A plain text is its own JSON text between the quotes. -/
theorem PlainText.flatMap_escapedChar (h : PlainText text) :
    text.toList.flatMap Json.escapedChar = text.toList := by
  have hchar : ∀ c ∈ text.toList, Json.escapedChar c = [c] := by
    intro c hc
    obtain ⟨hquote, hback, hcontrol⟩ := h.plain c hc
    have hne : ∀ d : Char, d.toNat < 32 → c ≠ d := by
      rintro d hd rfl
      exact hcontrol hd
    rw [Json.escapedChar, if_neg hquote, if_neg hback, if_neg (hne '\n' (by decide)),
      if_neg (hne '\r' (by decide)), if_neg (hne '\t' (by decide)), if_neg (by omega),
      if_neg (by omega), if_neg hcontrol]
  rw [List.flatMap_congr hchar, List.flatMap_singleton']

/-- A plain text in quotes is read as it stands. -/
theorem PlainText.stringBody (h : PlainText text) (rest : List Char) :
    Json.stringBody (text.toList ++ '"' :: rest) = .ok (text, rest) := by
  have hbody := Json.stringBody_escaped text rest
  rwa [h.flatMap_escapedChar] at hbody

/-- A plain text is written without escapes. -/
theorem PlainText.quotedText (h : PlainText text) :
    Json.quotedText text = '"' :: (text.toList ++ ['"']) := by
  rw [Json.quotedText, h.flatMap_escapedChar]

/-- A reader of any depth takes a plain value. -/
theorem PlainValue.reads (h : PlainValue v) (depth : Nat) :
    Json.Reads (Json.value depth) (v.write .compact 0) v := by
  refine Json.reads_value ⟨⟨?_, ?_⟩, ?_⟩
  · cases h with
    | integer hfits => exact hfits
    | _ => trivial
  · cases h <;> exact Nat.zero_le depth
  · cases h with
    | integer hfits =>
      intro n hn
      obtain rfl := List.mem_singleton.mp hn
      trivial
    | _ =>
      intro n hn
      cases hn

/-- A text that a bare value may be: without quotes, white space, commas and braces. -/
def BareText (s : List Char) : Prop :=
  s ≠ [] ∧ ∀ c ∈ s, c ≠ '"' ∧ isBareChar c = true ∧ Text.isBlank c = false

/-- A plain value is a plain text between quotes or else bare. -/
theorem PlainValue.cases_text (h : PlainValue v) :
    (∃ s, PlainText s ∧ v.write .compact 0 = '"' :: (s.toList ++ ['"']) ∧ flatText v = s) ∨
      (BareText (v.write .compact 0) ∧ flatText v = String.ofList (v.write .compact 0)) := by
  cases h with
  | string hs => exact Or.inl ⟨_, hs, hs.quotedText, rfl⟩
  | null => exact Or.inr ⟨⟨by decide, List.all_iff_forall_prop.mp (by decide)⟩, rfl⟩
  | bool b => cases b <;> exact Or.inr ⟨⟨by decide, List.all_iff_forall_prop.mp (by decide)⟩, rfl⟩
  | @integer n hfits =>
    refine Or.inr ⟨⟨?_, ?_⟩, rfl⟩
    · show Json.Number.integerText n ≠ []
      rw [Json.Number.integerText]
      split
      · exact List.cons_ne_nil _ _
      · exact Nat.toDigits_ne_nil
    · show ∀ c ∈ Json.Number.integerText n, _
      have hdigits : ∀ c ∈ Text.decimalText n.natAbs,
          c ≠ '"' ∧ isBareChar c = true ∧ Text.isBlank c = false := by
        intro c hc
        have hd := Json.isDigit_of_mem_decimalText hc
        refine ⟨Json.ne_of_isDigit hd rfl, ?_, ?_⟩
        · simp [isBareChar, Json.ne_of_isDigit hd (d := ',') rfl,
            Json.ne_of_isDigit hd (d := '}') rfl]
        · rw [Bool.eq_false_iff]
          intro hblank
          rw [Text.isDigit_of_isBlank hblank] at hd
          cases hd
      rw [Json.Number.integerText]
      split
      · exact List.forall_mem_cons.mpr ⟨by decide, hdigits⟩
      · exact hdigits

end Plain

/-! ## Blanks -/

theorem isBlankText_of_blanks {blanks : List Char} (h : Blanks blanks) :
    Text.isBlankText blanks = true :=
  List.all_eq_true.mpr fun c hc => isBlank_of_isJsonBlank (h c hc)

/-- JSON blanks are blanks that the scan passes over. -/
theorem dropWhile_blanks {blanks : List Char} (h : Blanks blanks) {c : Char}
    (hc : Text.isBlank c = false) (rest : List Char) :
    (blanks ++ c :: rest).dropWhile Text.isBlank = c :: rest := by
  have hstart := trimStart_append (isBlankText_of_blanks h) (c :: rest)
  rwa [Text.trimStart_cons_of_not_blank hc] at hstart

/-- Among blanks there is only what is blank. -/
theorem notMem_of_blanks {blanks : List Char} (h : Blanks blanks) {c : Char}
    (hc : Json.isJsonBlank c = false) : c ∉ blanks := by
  intro hmem
  rw [h c hmem] at hc
  cases hc

/-! ## The scan -/

/-- From here on the scan comes to these pairs. -/
def Scans (s : List Char) (pairs : List (List Char × List Char)) : Prop :=
  ∀ fuel, s.length ≤ fuel → loosePairs fuel s = pairs

section Scans

variable {s rest : List Char} {pairs : List (List Char × List Char)}

theorem scans_nil : Scans [] [] := by
  intro fuel _
  cases fuel <;> rfl

/-- No pair begins at a character other than a quote. -/
theorem Scans.skip {c : Char} (hc : c ≠ '"') (h : Scans s pairs) : Scans (c :: s) pairs := by
  intro fuel hfuel
  obtain ⟨fuel, rfl⟩ := Nat.exists_eq_succ_of_ne_zero (Nat.ne_of_gt (Nat.zero_lt_of_lt hfuel))
  have hnone : loosePair? (c :: s) = none := by rw [loosePair?, quoted?, if_pos hc]
  rw [loosePairs, hnone]
  exact h fuel (Nat.le_of_succ_le_succ hfuel)

/-- A scan passes over everything up to the next quote. -/
theorem Scans.skipAll {gap : List Char} (hgap : '"' ∉ gap) (h : Scans s pairs) :
    Scans (gap ++ s) pairs := by
  induction gap with
  | nil => exact h
  | cons c gap ih =>
    rw [List.mem_cons, not_or] at hgap
    exact (ih hgap.2).skip (Ne.symm hgap.1)

/-- Behind a pair the scan goes on where the pair ends. -/
theorem Scans.pair {c : Char} {p : List Char × List Char}
    (hpair : loosePair? (c :: s) = some (p, rest)) (hlen : rest.length ≤ s.length)
    (h : Scans rest pairs) : Scans (c :: s) (p :: pairs) := by
  intro fuel hfuel
  obtain ⟨fuel, rfl⟩ := Nat.exists_eq_succ_of_ne_zero (Nat.ne_of_gt (Nat.zero_lt_of_lt hfuel))
  rw [loosePairs, hpair]
  have hrest := h fuel (Nat.le_trans hlen (Nat.le_of_succ_le_succ hfuel))
  simp only [hrest]

end Scans

/-- A text in quotes is read up to the closing quote. -/
theorem quoted?_append {text : List Char} (hne : text ≠ []) (hquote : '"' ∉ text)
    (rest : List Char) : quoted? ('"' :: (text ++ '"' :: rest)) = some (text, rest) := by
  obtain ⟨c, more, rfl⟩ := List.exists_cons_of_ne_nil hne
  obtain ⟨htake, hdrop⟩ := Text.span_ne_append hquote (Or.inr ⟨rest, rfl⟩)
  rw [quoted?, if_neg (by simp), htake, hdrop]

theorem quoted?_of_ne {c : Char} (h : c ≠ '"') (s : List Char) : quoted? (c :: s) = none :=
  if_pos h

/-- A bare value reaches up to the comma, with the blanks before it. -/
theorem bare?_append {blanks text after rest : List Char} (hb : Blanks blanks)
    (htext : BareText text) (ha : Blanks after) :
    bare? (blanks ++ (text ++ (after ++ ',' :: rest))) = some (text ++ after, ',' :: rest) := by
  obtain ⟨c, more, rfl⟩ := List.exists_cons_of_ne_nil htext.1
  have hdrop := dropWhile_blanks hb (htext.2 c List.mem_cons_self).2.2
    (more ++ (after ++ ',' :: rest))
  have hbare : ∀ d ∈ c :: more ++ after, isBareChar d = true := by
    intro d hd
    rcases List.mem_append.mp hd with hd | hd
    · exact (htext.2 d hd).2.1
    · have hcomma : d ≠ ',' := by
        rintro rfl
        exact notMem_of_blanks ha rfl hd
      have hbrace : d ≠ '}' := by
        rintro rfl
        exact notMem_of_blanks ha rfl hd
      simp [isBareChar, hcomma, hbrace]
  obtain ⟨htake, hrest⟩ := Text.span_append_cons hbare (by decide : isBareChar ',' = false) rest
  rw [bare?, List.cons_append, hdrop]
  rw [List.append_assoc, List.cons_append] at htake hrest
  simp only [htake, hrest]
  rfl

/-- A bare text is what trimming leaves of it and of blanks behind it. -/
theorem trim_bareText {text after : List Char} (h : BareText text) (ha : Blanks after) :
    Text.trim (text ++ after) = text := by
  obtain ⟨c, more, rfl⟩ := List.exists_cons_of_ne_nil h.1
  have hc := (h.2 c List.mem_cons_self).2.2
  refine @trim_around [] _ after rfl (isBlankText_of_blanks ha) ?_ ⟨c, more, rfl, hc⟩
  rw [Text.trim, Text.trimStart_cons_of_not_blank hc]
  obtain ⟨init, d, hd⟩ := List.eq_nil_or_concat (c :: more) |>.resolve_left (List.cons_ne_nil _ _)
  have hlast := (h.2 d (by simp [hd])).2.2
  rw [hd, List.concat_eq_append, Text.trimEnd_append_of_not_blank hlast]

/-- A member before a comma is a pair. The scan goes on before the comma, with nothing but what
stood behind the value in between. -/
theorem loosePair?_member {m : SpacedMember} (h : m.Plain) (rest : List Char) :
    ∃ raw gap, loosePair? ('"' :: m.bodyText (',' :: rest))
        = some ((m.key.toList, raw), gap ++ ',' :: rest) ∧
      Text.trim raw = (flatText m.value).toList ∧ gap <:+ m.afterValue := by
  have hkey : ∀ s, quoted? ('"' :: (m.key.toList ++ '"' :: s)) = some (m.key.toList, s) :=
    quoted?_append h.key.toList_ne_nil h.key.quote_notMem
  have hcolon : ∀ s, (m.beforeColon ++ ':' :: s).dropWhile Text.isBlank = ':' :: s :=
    dropWhile_blanks h.beforeColon (by decide)
  -- a string is read in quotes, any other plain value runs up to the comma
  rcases h.value.cases_text with ⟨s, hs, hwrite, hflat⟩ | ⟨hbare, hflat⟩
  · refine ⟨s.toList, m.afterValue, ?_, ?_, List.suffix_refl _⟩
    · have hvalue : quoted? ((m.beforeValue ++ '"' :: (s.toList
          ++ '"' :: (m.afterValue ++ ',' :: rest))).dropWhile Text.isBlank)
          = some (s.toList, m.afterValue ++ ',' :: rest) := by
        rw [dropWhile_blanks h.beforeValue (by decide)]
        exact quoted?_append hs.toList_ne_nil hs.quote_notMem _
      have hbody : m.bodyText (',' :: rest) = m.key.toList ++ '"' :: (m.beforeColon ++ ':' ::
          (m.beforeValue ++ '"' :: (s.toList ++ '"' :: (m.afterValue ++ ',' :: rest)))) := by
        simp [SpacedMember.bodyText, hwrite]
      rw [hbody, loosePair?, hkey]
      simp only [hcolon, hvalue, Option.some_or]
    · rw [hflat, trim_of_trimmed hs.trimmed]
  · refine ⟨m.value.write .compact 0 ++ m.afterValue, [], ?_, ?_, List.nil_suffix⟩
    · obtain ⟨c, more, hcs⟩ := List.exists_cons_of_ne_nil hbare.1
      obtain ⟨hquote, -, hblank⟩ := hbare.2 c (hcs ▸ List.mem_cons_self)
      have hnone : quoted? ((m.beforeValue ++ (m.value.write .compact 0
          ++ (m.afterValue ++ ',' :: rest))).dropWhile Text.isBlank) = none := by
        rw [hcs, List.cons_append, dropWhile_blanks h.beforeValue hblank, quoted?_of_ne hquote]
      rw [SpacedMember.bodyText, loosePair?, hkey]
      simp only [hcolon, hnone, Option.none_or,
        bare?_append h.beforeValue hbare h.afterValue]
      rfl
    · rw [trim_bareText hbare h.afterValue, hflat, String.toList_ofList]

/-- The fields of the pairs that the scan comes to. -/
def Finds (s : List Char) (fields : List (String × String)) : Prop :=
  ∃ pairs, Scans s pairs ∧
    (pairs.map fun p => (String.ofList (Text.trim p.1), String.ofList (Text.trim p.2))) = fields

/-- Without a quote there is nothing to be found. -/
theorem finds_of_no_quote {gap : List Char} (hgap : '"' ∉ gap) : Finds gap [] := by
  have hscan := scans_nil.skipAll hgap
  rw [List.append_nil] at hscan
  exact ⟨[], hscan, rfl⟩

/-- A plain member is found, and after its comma what is found behind it. -/
theorem finds_member {m : SpacedMember} (h : m.Plain) {rest : List Char}
    {fields : List (String × String)} (hrest : Finds rest fields) :
    Finds (m.text ++ ',' :: rest) (m.field :: fields) := by
  obtain ⟨pairs, hscan, rfl⟩ := hrest
  obtain ⟨raw, gap, hpair, hraw, hgap⟩ := loosePair?_member h rest
  have hquote : '"' ∉ gap :=
    fun hmem => notMem_of_blanks h.afterValue rfl (hgap.subset hmem)
  have hlen : (gap ++ ',' :: rest).length ≤ (m.bodyText (',' :: rest)).length := by
    have hgapLen := hgap.length_le
    simp only [SpacedMember.bodyText, List.length_append, List.length_cons]
    omega
  have hafter : Scans (gap ++ ',' :: rest) pairs := (hscan.skip (by decide)).skipAll hquote
  refine ⟨(m.key.toList, raw) :: pairs, ?_, ?_⟩
  · rw [SpacedMember.text_append]
    exact (Scans.pair hpair hlen hafter).skipAll (notMem_of_blanks h.beforeKey rfl)
  · rw [List.map_cons, hraw, trim_of_trimmed h.key.trimmed, String.ofList_toList,
      String.ofList_toList]
    rfl

/-- The scan finds every member of a list that ends in a comma. -/
theorem finds_members {members : List SpacedMember} (hne : members ≠ [])
    (hplain : ∀ m ∈ members, m.Plain) {gap : List Char} (hgap : '"' ∉ gap) :
    Finds (spacedText members ++ ',' :: gap) (members.map SpacedMember.field) := by
  induction members with
  | nil => exact absurd rfl hne
  | cons m members ih =>
    have hm := hplain m List.mem_cons_self
    cases members with
    | nil => exact finds_member hm (finds_of_no_quote hgap)
    | cons n more =>
      have hmore := ih (List.cons_ne_nil _ _) fun k hk => hplain k (List.mem_cons_of_mem m hk)
      rw [spacedText_cons (List.cons_ne_nil n more), List.append_assoc, List.cons_append]
      exact finds_member hm hmore

/-! ## The reader -/

section Reader

variable {depth : Nat} {first : Bool} {s rest : List Char} {list : List (String × Value)}

/-- Blanks before members do not matter. -/
theorem membersText_of_skipBlanks {s' : List Char} (h : Json.skipBlanks s = Json.skipBlanks s')
    (hs : MembersText depth first s list rest) : MembersText depth first s' list rest := by
  cases hs with
  | close hclose => exact .close (h ▸ hclose)
  | member hkey hbody hcolon hvalue hmore =>
    refine .member ?_ hbody hcolon hvalue hmore
    cases hkey with
    | first hquote => exact .first (h ▸ hquote)
    | next hcomma hquote => exact .next (h ▸ hcomma) hquote

/-- Blanks before members change nothing. -/
theorem membersText_blanks_iff {blanks : List Char} (hb : Blanks blanks) :
    MembersText depth first (blanks ++ s) list rest ↔ MembersText depth first s list rest := by
  have hskip : Json.skipBlanks (blanks ++ s) = Json.skipBlanks s :=
    List.dropWhile_append_of_pos hb
  exact ⟨membersText_of_skipBlanks hskip, membersText_of_skipBlanks hskip.symm⟩

/-- A plain member is read as the member that it is, and nothing else can be read in its place. -/
theorem membersText_member_iff {m : SpacedMember} (h : m.Plain) {tail : List Char}
    (htail : Ends tail) (hkey : Json.KeyAt first s (m.bodyText tail)) :
    MembersText depth first s list rest ↔
      ∃ more, list = m.pair :: more ∧ MembersText depth false tail more rest := by
  have hbody := h.key.stringBody (m.beforeColon ++ ':' :: (m.beforeValue
    ++ (m.value.write .compact 0 ++ (m.afterValue ++ tail))))
  have hcolon := Json.skipBlanks_append h.beforeColon (c := ':') rfl (m.beforeValue
    ++ (m.value.write .compact 0 ++ (m.afterValue ++ tail)))
  have hvalue := h.value.reads depth m.beforeValue _ h.beforeValue
    (Json.ends_append h.afterValue htail)
  constructor
  · intro hs
    cases hs with
    | close hclose =>
      have hnone : Json.nextKey first _ = .ok none := Json.nextKey_eq_none_iff.mpr ⟨_, hclose⟩
      rw [Json.nextKey_eq_some_iff.mpr hkey] at hnone
      cases hnone
    | member hkey' hbody' hcolon' hvalue' hmore =>
      have hplace := Json.nextKey_eq_some_iff.mpr hkey'
      rw [Json.nextKey_eq_some_iff.mpr hkey] at hplace
      cases hplace
      cases hbody.symm.trans hbody'
      cases hcolon.symm.trans hcolon'
      cases hvalue.symm.trans hvalue'
      exact ⟨_, rfl, (membersText_blanks_iff h.afterValue).mp hmore⟩
  · rintro ⟨more, rfl, hmore⟩
    exact .member hkey hbody hcolon hvalue ((membersText_blanks_iff h.afterValue).mpr hmore)

/-- What stands before a list of members: all but the first have a comma before them. -/
def memberLead : (first : Bool) → List Char
  | true => []
  | false => [',']

/-- The key of a member is where the strict reader looks for it. -/
theorem keyAt_member {m : SpacedMember} (h : m.Plain) (first : Bool) (tail : List Char) :
    Json.KeyAt first (memberLead first ++ (m.text ++ tail)) (m.bodyText tail) := by
  have hquote : Json.skipBlanks (m.text ++ tail) = '"' :: m.bodyText tail := by
    rw [SpacedMember.text_append]
    exact Json.skipBlanks_append h.beforeKey (by decide) _
  cases first with
  | true => exact .first hquote
  | false => exact .next (Json.skipBlanks_cons (by decide) _) hquote

/-- Plain members are read one after the other. -/
theorem membersText_spaced_iff {members : List SpacedMember} (hne : members ≠ [])
    (hplain : ∀ m ∈ members, m.Plain) {tail : List Char} (htail : Ends tail) :
    MembersText depth first (memberLead first ++ (spacedText members ++ tail)) list rest ↔
      ∃ more, list = members.map SpacedMember.pair ++ more ∧
        MembersText depth false tail more rest := by
  induction members generalizing first list with
  | nil => exact absurd rfl hne
  | cons m members ih =>
    have hm := hplain m List.mem_cons_self
    cases members with
    | nil => exact membersText_member_iff hm htail (keyAt_member hm first tail)
    | cons n more =>
      have hne' : n :: more ≠ [] := List.cons_ne_nil n more
      have hmore : ∀ list, MembersText depth false
          (memberLead false ++ (spacedText (n :: more) ++ tail)) list rest ↔
          ∃ last, list = (n :: more).map SpacedMember.pair ++ last ∧
            MembersText depth false tail last rest :=
        fun list => ih hne' fun k hk => hplain k (List.mem_cons_of_mem m hk)
      rw [spacedText_cons hne', List.append_assoc, List.cons_append,
        membersText_member_iff hm (Json.ends_comma _) (keyAt_member hm first _)]
      constructor
      · rintro ⟨_, rfl, hrest⟩
        obtain ⟨last, rfl, htail⟩ := (hmore _).mp hrest
        exact ⟨last, rfl, htail⟩
      · rintro ⟨last, rfl, hlast⟩
        exact ⟨_, rfl, (hmore _).mpr ⟨last, rfl, hlast⟩⟩

/-- A closing brace does not stand behind a comma. -/
theorem not_membersText_comma {gap : List Char} (hgap : Blanks gap) (after : List Char) :
    ¬ MembersText depth false (',' :: (gap ++ '}' :: after)) list rest := by
  have hskip := Json.skipBlanks_append hgap (c := '}') rfl after
  intro h
  cases h with
  | close hclose => cases (Json.skipBlanks_cons (by decide) _).symm.trans hclose
  | member hkey _ _ _ _ =>
    cases hkey with
    | next hcomma hquote =>
      cases (Json.skipBlanks_cons (by decide) _).symm.trans hcomma
      cases hskip.symm.trans hquote

end Reader

/-! ## Payloads -/

/-- Braces around a text, and blanks around the braces. -/
def bracedText (before inner after : List Char) : String :=
  String.ofList (before ++ '{' :: (inner ++ '}' :: after))

section Payloads

variable {before inner after : List Char}

/-- Trimmed, a text in braces begins with one and ends with the other. -/
theorem trim_bracedText (hb : Blanks before) (ha : Blanks after) :
    Text.trim (bracedText before inner after).toList = '{' :: (inner ++ ['}']) := by
  have hbody : Text.trim ('{' :: (inner ++ ['}'])) = '{' :: (inner ++ ['}']) := by
    rw [Text.trim, Text.trimStart_cons_of_not_blank (by decide), ← List.cons_append,
      Text.trimEnd_append_of_not_blank (by decide)]
  have haround := trim_around (isBlankText_of_blanks hb) (isBlankText_of_blanks ha) hbody
    ⟨'{', _, rfl, by decide⟩
  rw [bracedText, String.toList_ofList]
  simpa using haround

/-- A text in braces is an object exactly if members stand between them. -/
theorem holdsObject_bracedText_iff (hb : Blanks before) (ha : Blanks after)
    {members : List (String × Value)} :
    HoldsObject (bracedText before inner after) members ↔
      MembersText (Json.maxDepth - 1) true (inner ++ ['}']) members [] := by
  rw [HoldsObject, trim_bracedText hb ha, Json.ObjectText, Json.skipBlanks_cons (by decide)]
  exact ⟨fun ⟨t, ht, hmembers⟩ => (List.cons.inj ht).2 ▸ hmembers, fun h => ⟨_, rfl, h⟩⟩

/-- What the loose scan finds between the braces are the fields. -/
theorem looseFields_bracedText (hb : Blanks before) (ha : Blanks after)
    {fields : List (String × String)} (h : Finds inner fields) :
    looseFields (bracedText before inner after).toList = .ofList fields := by
  obtain ⟨pairs, hscan, rfl⟩ := h
  have hinner : insideBraces ('{' :: (inner ++ ['}'])) = inner := by
    rw [insideBraces, List.getLast?_concat, if_pos rfl, List.dropLast_concat]
  rw [looseFields, trim_bracedText hb ha, hinner, hscan _ (Nat.le_refl _)]

/-- A text in braces that is no object has the fields that the scan finds, if there are any. -/
theorem payloadFields_of_loose (hb : Blanks before) (ha : Blanks after)
    {fields : List (String × String)} (hne : fields ≠ []) (h : Finds inner fields)
    (hnone : ∀ members, ¬ HoldsObject (bracedText before inner after) members) :
    payloadFields (bracedText before inner after) = .ofList fields := by
  have hlooks : looksLikeObject (bracedText before inner after).toList = true := by
    rw [looksLikeObject, trim_bracedText hb ha, ← List.cons_append, List.getLast?_concat]
    rfl
  have hsome : (OrderedMap.ofList fields).isEmpty = false := by
    rw [OrderedMap.isEmpty, Bool.eq_false_iff, ne_eq, List.isEmpty_iff]
    exact fun he => hne (OrderedMap.ofList_eq_empty_iff.mp (OrderedMap.ext he))
  rw [payloadFields]
  simp only [hlooks, objectFields?_eq_none hnone, looseFields_bracedText hb ha h, hsome]
  rfl

end Payloads

/-- **A comma behind the last member makes no difference.** Take the text of an object with at least
one member, whose keys and string values are plain and whose other values are words or integers of
64 bits, with any blanks between its tokens. The text is read as an object with these members; with
a comma behind the last of them it is none, and what the loose scan finds in it are the same fields:
the members in order, a repeated key where it came first with the value that came last. -/
theorem payloadFields_trailing_comma {members : List SpacedMember} (hne : members ≠ [])
    (hplain : ∀ m ∈ members, m.Plain) {before gap after : List Char} (hbefore : Blanks before)
    (hgap : Blanks gap) (hafter : Blanks after) :
    let strict := bracedText before (spacedText members ++ gap) after
    let loose := bracedText before (spacedText members ++ ',' :: gap) after
    HoldsObject strict (members.map SpacedMember.pair) ∧
    (∀ list, ¬ HoldsObject loose list) ∧
    payloadFields loose = payloadFields strict ∧
    HoldMembers (payloadFields loose) (members.map SpacedMember.pair) := by
  intro strict loose
  have hstrict : HoldsObject strict (members.map SpacedMember.pair) := by
    have hclose : MembersText (Json.maxDepth - 1) false (gap ++ ['}']) [] [] :=
      .close (Json.skipBlanks_append hgap (by decide) [])
    have hends : Ends (gap ++ ['}']) := Json.ends_append hgap (Json.ends_brace [])
    rw [holdsObject_bracedText_iff hbefore hafter, List.append_assoc]
    refine (membersText_spaced_iff hne hplain hends).mpr ⟨[], ?_, hclose⟩
    rw [List.append_nil]
  -- behind the last member the strict reader wants a key or the end, not a comma
  have hloose : ∀ list, ¬ HoldsObject loose list := by
    intro list
    rw [holdsObject_bracedText_iff hbefore hafter, List.append_assoc, List.cons_append]
    intro h
    obtain ⟨more, -, hmore⟩ :=
      (membersText_spaced_iff hne hplain (Json.ends_comma _)).mp h
    exact not_membersText_comma hgap [] hmore
  have hfound : payloadFields loose = .ofList (members.map SpacedMember.field) :=
    payloadFields_of_loose hbefore hafter (by simpa using hne)
      (finds_members hne hplain (notMem_of_blanks hgap rfl)) hloose
  have hread : payloadFields strict = .ofList (members.map SpacedMember.field) := by
    rw [(fields_of_holdsObject hstrict none).1, List.map_map]
    rfl
  refine ⟨hstrict, hloose, hfound.trans hread.symm, ?_⟩
  rw [hfound, ← hread, (fields_of_holdsObject hstrict none).1]
  exact holdMembers_ofList _

/-- Commas, colons and braces within texts, a repeated key, and a comma behind the last value. -/
theorem payloadFields_trailing_comma_repeated_key :
    let members : List SpacedMember :=
      [{ key := "a", value := .string "x: \x7b,\x7d" },
        { beforeKey := [' '], key := "n, \x7d:", beforeColon := ['\t'],
          value := .number (.integer (-3)), afterValue := ['\n'] },
        { beforeKey := [' '], key := "a", beforeValue := [' '], value := .bool true }]
    let strict := "\x7b\"a\":\"x: \x7b,\x7d\", \"n, \x7d:\"\t:-3\n, \"a\": true\x7d\n"
    let loose := "\x7b\"a\":\"x: \x7b,\x7d\", \"n, \x7d:\"\t:-3\n, \"a\": true,\x7d\n"
    (members ≠ [] ∧ ∀ m ∈ members, m.Plain) ∧
    HoldsObject strict (members.map SpacedMember.pair) ∧
    (∀ list, ¬ HoldsObject loose list) ∧ payloadFields loose = payloadFields strict ∧
    HoldMembers (payloadFields loose) (members.map SpacedMember.pair) := by
  intro members strict loose
  have hkey : PlainText "a" := ⟨by decide, by decide, List.all_iff_forall_prop.mp (by decide)⟩
  have hother : PlainText "n, \x7d:" :=
    ⟨by decide, by decide, List.all_iff_forall_prop.mp (by decide)⟩
  have htext : PlainText "x: \x7b,\x7d" :=
    ⟨by decide, by decide, List.all_iff_forall_prop.mp (by decide)⟩
  have hblank : ∀ c : Char, Json.isJsonBlank c = true → Blanks [c] := fun _ hc =>
    List.forall_mem_singleton.mpr hc
  have hplain : ∀ m ∈ members, m.Plain := by
    refine List.forall_mem_cons.mpr ⟨?_, List.forall_mem_cons.mpr ⟨?_, List.forall_mem_singleton.mpr
      ?_⟩⟩
    · exact ⟨hkey, .string htext, Json.blanks_nil, Json.blanks_nil, Json.blanks_nil,
        Json.blanks_nil⟩
    · exact ⟨hother, .integer (by decide), hblank _ rfl, hblank _ rfl, Json.blanks_nil,
        hblank _ rfl⟩
    · exact ⟨hkey, .bool true, hblank _ rfl, Json.blanks_nil, hblank _ rfl, Json.blanks_nil⟩
  have hne : members ≠ [] := List.cons_ne_nil _ _
  have hsame :=
    payloadFields_trailing_comma hne hplain Json.blanks_nil Json.blanks_nil (hblank '\n' rfl)
  have hstrict : bracedText [] (spacedText members ++ []) ['\n'] = strict := by decide
  have hloose : bracedText [] (spacedText members ++ [',']) ['\n'] = loose := by decide
  dsimp only at hsame
  rw [hstrict, hloose] at hsame
  exact ⟨⟨hne, hplain⟩, hsame⟩

end CallBook.Import
