import CallBook.Import.Payload
import CallBook.Proofs.Import.OneLine
import CallBook.Proofs.Json.Objects

/-!
# The JSON text of fields

Fields written as the text of one JSON object come back from it, whatever they are
(`objectFields?_compact`). The text can stand on one line of a command if their white space is that
of `PortableText`: JSON escapes the controls and writes everything else as it is, so white space
beyond ASCII and double spaces would be left in it, and nothing else is.
-/

namespace CallBook.Import

open Text (isBlank)

/-! ## Strings on one line -/

/-- A text whose white space survives in a JSON string on one line: what is not a space is in ASCII
and escaped. -/
structure PortableText (text : String) : Prop where
  ascii : ∀ c ∈ text.toList, isBlank c = true → c.toNat < 128
  noDouble : NoDoubleSpace text.toList

theorem portableText_iff {text : String} :
    PortableText text ↔
      (text.toList.all fun c => !isBlank c || decide (c.toNat < 128)) = true
        ∧ NoDoubleSpace text.toList := by
  rw [← forall_blank_iff]
  exact ⟨fun h => ⟨h.ascii, h.noDouble⟩, fun h => ⟨h.1, h.2⟩⟩

instance (text : String) : Decidable (PortableText text) := decidable_of_iff _ portableText_iff.symm

theorem isBlank_hexDigit {n : Nat} (h : n < 16) : isBlank (Text.hexDigit n) = false := by
  have hall : ∀ m < 16, isBlank (Text.hexDigit m) = false := by decide
  exact hall n h

/-- The only white space between the controls and the end of ASCII is the space. -/
theorem eq_space {c : Char} (h : isBlank c = true) (hlow : 32 ≤ c.toNat) (hhigh : c.toNat < 128) :
    c = ' ' := by
  refine Char.toNat_inj.mp ?_
  show c.toNat = 32
  simp only [isBlank, Bool.or_eq_true, Bool.and_eq_true, decide_eq_true_eq, beq_iff_eq] at h
  omega

/-- What JSON escapes is written visibly; of the rest, only a space is white space in ASCII. -/
theorem visible_escapedChar {c : Char} (h : isBlank c = true → c.toNat < 128) (hc : c ≠ ' ') :
    Json.escapedChar c ≠ [] ∧ (Json.escapedChar c).any isBlank = false := by
  unfold Json.escapedChar
  split
  · decide
  split
  · decide
  split
  · decide
  split
  · decide
  split
  · decide
  split
  · decide
  split
  · decide
  split
  · -- any other control, as two digits
    next hcontrol =>
    have hhigh := isBlank_hexDigit (n := c.toNat / 16) (by omega)
    have hlow := isBlank_hexDigit (n := c.toNat % 16) (by omega)
    refine ⟨List.cons_ne_nil _ _, ?_⟩
    simp only [List.any_cons, List.any_nil, hhigh, hlow]
    rfl
  · -- the character itself, which is no control
    next hcontrol =>
    refine ⟨List.cons_ne_nil _ _, ?_⟩
    rw [List.any_cons, List.any_nil, Bool.or_false, Bool.eq_false_iff]
    exact fun hblank => hc (eq_space hblank (Nat.not_lt.mp hcontrol) (h hblank))

/-- A portable text is written single spaced. -/
theorem singleSpaced_quotedText {s : String} (h : PortableText s) :
    SingleSpaced (Json.quotedText s) := by
  refine .cons rfl (.concat rfl (singleSpaced_flatMap rfl ?_ h.noDouble))
  intro c hc hne
  exact visible_escapedChar (h.ascii c hc) hne

/-! ## Objects -/

/-- A field as it stands in a JSON object. -/
theorem singleSpaced_field {key value : String} (hk : PortableText key) (hv : PortableText value) :
    SingleSpaced (Json.quotedText key ++ ':' :: Json.quotedText value) := by
  refine (singleSpaced_quotedText hk).append (.cons rfl (singleSpaced_quotedText hv)) ?_
  simp [Json.quotedText, List.getLast?_cons]

theorem writeMembers_compact (depth : Nat) (key value : String)
    (more : List (String × Json.Value)) :
    Json.Value.writeMembers .compact depth ((key, .string value) :: more)
      = ',' :: (Json.quotedText key ++ ':' :: Json.quotedText value
        ++ Json.Value.writeMembers .compact depth more) := by
  simp [Json.Value.writeMembers, Json.Value.write, Json.Layout.lineBreak, Json.Layout.colon]

/-- Portable members are written single spaced. -/
theorem singleSpaced_writeMembers (depth : Nat) {fields : List (String × String)}
    (h : ∀ field ∈ fields, PortableText field.1 ∧ PortableText field.2) :
    SingleSpaced (Json.Value.writeMembers .compact depth
      (fields.map fun field => (field.1, Json.Value.string field.2))) := by
  induction fields with
  | nil => exact singleSpaced_nil
  | cons field fields ih =>
    obtain ⟨key, value⟩ := field
    obtain ⟨hk, hv⟩ := h _ List.mem_cons_self
    have ih := ih fun f hf => h f (List.mem_cons_of_mem _ hf)
    rw [List.map_cons, writeMembers_compact]
    refine .cons rfl ((singleSpaced_field hk hv).append ih ?_)
    simp [Json.quotedText, List.getLast?_cons, List.getLast?_append]

/-- The fields of a call as the text of an object, from brace to brace. -/
theorem compact_ofTexts (m : OrderedMap String) :
    ∃ inner, (Json.Value.ofTexts m).compact.toList = '{' :: (inner ++ ['}'])
      ∧ ((∀ field ∈ m.entries, PortableText field.1 ∧ PortableText field.2) →
        SingleSpaced inner) := by
  rw [Json.Value.compact, String.toList_ofList, Json.Value.ofTexts]
  cases m.entries with
  | nil => exact ⟨[], rfl, fun _ => singleSpaced_nil⟩
  | cons field fields =>
    obtain ⟨key, value⟩ := field
    refine ⟨(Json.quotedText key ++ ':' :: Json.quotedText value)
      ++ Json.Value.writeMembers .compact 1 (fields.map fun f => (f.1, .string f.2)), ?_, ?_⟩
    · simp [Json.Value.write, Json.Layout.lineBreak, Json.Layout.colon]
    · intro h
      obtain ⟨hk, hv⟩ := h _ List.mem_cons_self
      have hmore := singleSpaced_writeMembers 1
        fun f hf => h f (List.mem_cons_of_mem _ hf)
      refine (singleSpaced_field hk hv).append hmore ?_
      simp [Json.quotedText, List.getLast?_cons, List.getLast?_append]

/-- The text of an object begins and ends visibly. -/
theorem trim_compact (m : OrderedMap String) :
    Text.trim (Json.Value.ofTexts m).compact.toList = (Json.Value.ofTexts m).compact.toList := by
  obtain ⟨inner, htext, -⟩ := compact_ofTexts m
  rw [htext, Text.trim, Text.trimStart_cons_of_not_blank (by decide), ← List.cons_append,
    Text.trimEnd_append_of_not_blank (by decide)]

/-- The text of their object gives the fields back, whatever they are. -/
theorem objectFields?_compact (m : OrderedMap String) :
    objectFields? (Json.Value.ofTexts m).compact.toList = some m := by
  have hread : Json.readChars (Json.value Json.maxDepth) (Json.Value.ofTexts m).compact.toList
      = .ok (Json.Value.ofTexts m) := by
    have hwritten : Json.Reads (Json.value Json.maxDepth)
        ((Json.Value.ofTexts m).write .compact 0) (Json.Value.ofTexts m) :=
      Json.reads_value_ofTexts _ m
    rw [Json.Value.compact, String.toList_ofList]
    exact hwritten.readChars
  have hflat : flatten (Json.Value.ofTexts m) = some m := by
    rw [Json.Value.ofTexts, flatten, List.map_map]
    show some (OrderedMap.ofList (m.entries.map id)) = some m
    rw [List.map_id, OrderedMap.ofList_entries]
  rw [objectFields?, trim_compact, hread]
  exact hflat

/-- Fields are read from the text of their object as a payload. -/
theorem payloadFields_compact (m : OrderedMap String) :
    payloadFields (Json.Value.ofTexts m).compact = m := by
  have hlooks : looksLikeObject (Json.Value.ofTexts m).compact.toList = true := by
    obtain ⟨inner, htext, -⟩ := compact_ofTexts m
    rw [looksLikeObject, trim_compact, htext, List.head?_cons, ← List.cons_append,
      List.getLast?_concat]
    rfl
  rw [payloadFields]
  simp only [hlooks, objectFields?_compact]
  rfl

end CallBook.Import
