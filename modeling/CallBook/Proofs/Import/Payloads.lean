import Mathlib.Data.List.Forall2
import Mathlib.Data.List.TakeWhile
import CallBook.Import.Har
import CallBook.Proofs.Json.Members
import CallBook.Proofs.Json.Objects

/-!
# One payload, whichever way it comes in

A payload comes in with a data option of a command or as the text that an entry of an archive posts.
The one side asks for braces around it before it reads, and falls back on a loose scan; the other
side knows no loose scan, but parameters. What both take for an object is the same: the braces only
spare reading what cannot be an object, since the text of an object, white space around it aside,
begins with one brace and ends with the other (`looksLikeObject_of_holdsObject`). Its first
character is no white space, so it is the brace itself; and behind the closing brace only blanks
are left, of a text that does not end in one.

Main result: `payloadFields_eq_postFields`.
-/

namespace CallBook.Import

open Json (Value)

/-! ## Trimmed texts -/

theorem isBlank_of_isJsonBlank {c : Char} (h : Json.isJsonBlank c = true) :
    Text.isBlank c = true := by
  simp only [Json.isJsonBlank, Bool.or_eq_true, decide_eq_true_eq] at h
  rcases h with ((rfl | rfl) | rfl) | rfl <;> rfl

theorem not_blank_head_trimStart {s : List Char} {c : Char}
    (h : (Text.trimStart s).head? = some c) : Text.isBlank c = false := by
  have hnot := List.head?_dropWhile_not Text.isBlank s
  rw [← Text.trimStart, h] at hnot
  exact hnot

theorem not_blank_last_trim {s : List Char} {c : Char}
    (h : (Text.trim s).getLast? = some c) : Text.isBlank c = false := by
  rw [Text.trim, Text.trimEnd, List.getLast?_reverse] at h
  exact not_blank_head_trimStart h

theorem not_blank_head_trim {s : List Char} {c : Char} (h : (Text.trim s).head? = some c) :
    Text.isBlank c = false := by
  refine not_blank_head_trimStart (s := s) ?_
  -- trimming the end takes a beginning of the text, with the same first character
  have hstart : Text.trim s <+: Text.trimStart s := by
    rw [← List.reverse_suffix, Text.trim, Text.trimEnd, List.reverse_reverse]
    exact List.dropWhile_suffix Text.isBlank
  obtain ⟨rest, hrest⟩ := hstart
  rw [← hrest, List.head?_append, h]
  rfl

/-- There are no blanks to skip before a trimmed text. -/
theorem skipBlanks_trim (s : List Char) : Json.skipBlanks (Text.trim s) = Text.trim s := by
  cases ht : Text.trim s with
  | nil => rfl
  | cons c rest =>
    have hc : Json.isJsonBlank c = false := by
      rw [Bool.eq_false_iff]
      intro hblank
      have hnot := not_blank_head_trim (s := s) (c := c) (by rw [ht]; rfl)
      rw [isBlank_of_isJsonBlank hblank] at hnot
      cases hnot
    rw [Json.skipBlanks, List.dropWhile_cons_of_neg (by rw [hc]; decide)]

/-- Where only blanks are left of a trimmed text, nothing is left. -/
theorem eq_nil_of_skipBlanks {s rest : List Char} (hrest : rest <:+ Text.trim s)
    (h : Json.skipBlanks rest = []) : rest = [] := by
  rcases List.eq_nil_or_concat rest with hnil | ⟨init, c, rfl⟩
  · exact hnil
  · rw [Json.skipBlanks, List.dropWhile_eq_nil_iff] at h
    obtain ⟨before, hbefore⟩ := hrest
    have hlast : (Text.trim s).getLast? = some c := by
      rw [← hbefore, List.concat_eq_append, ← List.append_assoc, List.getLast?_concat]
    have hnot := not_blank_last_trim hlast
    rw [isBlank_of_isJsonBlank (h c (by simp))] at hnot
    cases hnot

/-! ## Objects -/

/-- White space around it aside, the payload is a JSON object with these members, as they are
written. -/
def HoldsObject (payload : String) (members : List (String × Value)) : Prop :=
  Json.ObjectText (Json.maxDepth - 1) (Text.trim payload.toList) members []

/-- White space around it aside, the payload begins with an opening and ends with a closing
brace. -/
def Braced (payload : String) : Prop :=
  (Text.trim payload.toList).head? = some '{' ∧ (Text.trim payload.toList).getLast? = some '}'

/-- A text looks like an object if, trimmed, it begins and ends with braces. -/
theorem looksLikeObject_iff {payload : String} :
    looksLikeObject payload.toList = true ↔ Braced payload := by
  rw [looksLikeObject, Bool.and_eq_true, decide_eq_true_eq, decide_eq_true_eq]
  rfl

/-- The test for braces lets every object pass. -/
theorem looksLikeObject_of_holdsObject {payload : String} {members : List (String × Value)}
    (h : HoldsObject payload members) : looksLikeObject payload.toList = true := by
  rw [looksLikeObject_iff, Braced]
  obtain ⟨t, hopen, hmembers⟩ := h
  rw [skipBlanks_trim] at hopen
  obtain ⟨before, hclose⟩ := hmembers.suffix
  rw [hopen]
  refine ⟨rfl, ?_⟩
  rw [← hclose, ← List.cons_append, List.getLast?_concat]

/-- A text is read if nothing but blanks is left behind what is read. -/
theorem readChars_eq_ok_iff {α : Type} {read : Json.Reader α} {s : List Char} {a : α} :
    Json.readChars read s = .ok a ↔ ∃ rest, read s = .ok (a, rest) ∧ Json.skipBlanks rest = [] := by
  unfold Json.readChars
  cases hread : read s with
  | error fault => simp
  | ok taken =>
    obtain ⟨b, rest⟩ := taken
    cases hblanks : Json.skipBlanks rest with
    | nil => simp [hblanks]
    | cons c tail => simp [hblanks]

/-- The fields of a payload are there exactly if it is an object. -/
theorem objectFields?_eq_some_iff {payload : String} {fields : Fields} :
    objectFields? payload.toList = some fields ↔
      ∃ members, HoldsObject payload members ∧
        fields = .ofList (members.map fun p => (p.1, flatText p.2)) := by
  have hflatten : ∀ members : List (String × Value),
      flatten (.object (OrderedMap.ofList members).entries)
        = some (.ofList (members.map fun p => (p.1, flatText p.2))) := by
    intro members
    show some (OrderedMap.ofList ((OrderedMap.ofList members).map flatText).entries) = _
    rw [OrderedMap.ofList_entries, OrderedMap.map_ofList]
  have hread : ∀ v, Json.readChars (Json.value Json.maxDepth) (Text.trim payload.toList) = .ok v ↔
      Json.value Json.maxDepth (Text.trim payload.toList) = .ok (v, []) := by
    intro v
    -- behind a trimmed text there are no blanks, so nothing at all is left
    rw [readChars_eq_ok_iff]
    constructor
    · rintro ⟨rest, hvalue, hblanks⟩
      rwa [eq_nil_of_skipBlanks (Json.leavesEnd_value _ _ _ _ hvalue) hblanks] at hvalue
    · exact fun hvalue => ⟨[], hvalue, rfl⟩
  unfold objectFields?
  constructor
  · intro h
    split at h
    · next v hv =>
      cases v with
      | object m =>
        obtain ⟨members, hmembers, rfl⟩ := Json.value_object_iff.mp ((hread _).mp hv)
        rw [hflatten] at h
        exact ⟨members, hmembers, (Option.some.inj h).symm⟩
      | _ => cases h
    · cases h
  · rintro ⟨members, hmembers, rfl⟩
    rw [(hread _).mpr (Json.value_object_iff.mpr ⟨members, hmembers, rfl⟩)]
    exact hflatten members

/-- A text that is no object has no members. -/
theorem objectFields?_eq_none {payload : String} (h : ∀ members, ¬ HoldsObject payload members) :
    objectFields? payload.toList = none := by
  rw [← Option.not_isSome_iff_eq_none, Option.isSome_iff_exists]
  rintro ⟨fields, hfields⟩
  obtain ⟨members, hmembers, -⟩ := objectFields?_eq_some_iff.mp hfields
  exact h members hmembers

/-! ## Fields -/

/-- The text of a member's value: that of a string itself, of any other value its compact JSON. -/
inductive Flattens : Value → String → Prop
  | string (text : String) : Flattens (.string text) text
  | other {v : Value} (h : ∀ text, v ≠ .string text) : Flattens v v.compact

/-- The flat text of a value is what the value flattens to. -/
theorem flattens_flatText (v : Value) : Flattens v (flatText v) := by
  cases v with
  | string text => exact .string text
  | _ => exact .other (by rintro text ⟨⟩)

/-- The fields are the members in order: a repeated key stands where it came first and has the text
of the value that came last. -/
def HoldMembers (fields : Fields) (members : List (String × Value)) : Prop :=
  ∃ texts : List (String × String),
    List.Forall₂ (fun member text => text.1 = member.1 ∧ Flattens member.2 text.2) members texts ∧
      fields.Gathers texts

/-- The fields of an object hold its members, flattened. -/
theorem holdMembers_ofList (members : List (String × Value)) :
    HoldMembers (.ofList (members.map fun p => (p.1, flatText p.2))) members := by
  refine ⟨_, ?_, OrderedMap.gathers_ofList _⟩
  rw [List.forall₂_map_right_iff]
  exact List.forall₂_same.mpr fun member _ => ⟨rfl, flattens_flatText member.2⟩

/-- A payload that is an object, under either reading. -/
theorem fields_of_holdsObject {payload : String} {members : List (String × Value)}
    (h : HoldsObject payload members) (params : Option (List (String × String))) :
    payloadFields payload = .ofList (members.map fun p => (p.1, flatText p.2)) ∧
      postFields { text := some payload, params } = payloadFields payload := by
  have hlooks := looksLikeObject_of_holdsObject h
  have hfields := objectFields?_eq_some_iff.mpr ⟨members, h, rfl⟩
  have hpayload : payloadFields payload = .ofList (members.map fun p => (p.1, flatText p.2)) := by
    rw [payloadFields]
    simp only [hlooks, hfields]
    rfl
  refine ⟨hpayload, ?_⟩
  rw [hpayload, postFields]
  simp only [Option.bind_some, hlooks, hfields, if_true]

/-- A payload that is no object and has no braces around it is kept whole. -/
theorem payloadFields_of_not_braced {payload : String} (h : ¬ Braced payload) :
    payloadFields payload = rawFields payload := by
  have hlooks : looksLikeObject payload.toList = false := by
    rw [Bool.eq_false_iff]
    exact fun hb => h (looksLikeObject_iff.mp hb)
  rw [payloadFields]
  simp only [hlooks]
  rfl

/-- A text that is posted without parameters and is no object is kept whole. -/
theorem postFields_of_not_object {payload : String} (hne : payload ≠ "")
    {params : Option (List (String × String))} (hparams : params.getD [] = [])
    (h : ∀ members, ¬ HoldsObject payload members) :
    postFields { text := some payload, params } = rawFields payload := by
  rw [postFields]
  simp only [Option.bind_some, objectFields?_eq_none h, ite_self]
  cases params with
  | none => exact if_neg hne
  | some list =>
    cases hparams
    exact if_neg hne

/-- A text that is taken as it is gives a field. -/
theorem rawFields_ne_empty (payload : String) : rawFields payload ≠ .empty := by
  intro h
  cases OrderedMap.ofList_eq_empty_iff.mp h

/-- What is not an object is kept in some field. -/
theorem payloadFields_ne_empty {payload : String} (h : ∀ members, ¬ HoldsObject payload members) :
    payloadFields payload ≠ .empty := by
  unfold payloadFields
  dsimp only
  split
  · exact rawFields_ne_empty payload
  split
  · next fields hfields =>
    obtain ⟨members, hmembers, -⟩ := objectFields?_eq_some_iff.mp hfields
    exact absurd hmembers (h members)
  split
  · exact rawFields_ne_empty payload
  · next hloose =>
    intro he
    rw [he] at hloose
    exact hloose rfl

/-- **A payload gives the same fields whichever way it comes in.** For a payload that is not empty,
given to a data option or posted without parameters, the fields are the same unless it has braces
around it without being an object. If it is an object, then it has braces around it and the fields
are its members under both readings; if it is none, then posting it gives the one field `data` with
all of it. A data option gives no field at all exactly for an object without members. -/
theorem payloadFields_eq_postFields {payload : String} (hne : payload ≠ "") {post : PostData}
    (htext : post.text = some payload) (hparams : post.params.getD [] = []) :
    (¬ (Braced payload ∧ ∀ members, ¬ HoldsObject payload members) →
      payloadFields payload = postFields post) ∧
    (∀ members, HoldsObject payload members →
      Braced payload ∧ HoldMembers (payloadFields payload) members ∧
        HoldMembers (postFields post) members) ∧
    ((∀ members, ¬ HoldsObject payload members) →
      (postFields post).entries = [("data", payload)]) ∧
    (payloadFields payload = .empty ↔ HoldsObject payload []) := by
  obtain ⟨text, params⟩ := post
  subst htext
  refine ⟨?_, ?_, ?_, ?_⟩
  · intro hexcept
    -- an object is read alike on both sides; any other text must not look like one
    by_cases hobject : ∃ members, HoldsObject payload members
    · obtain ⟨members, hmembers⟩ := hobject
      exact (fields_of_holdsObject hmembers params).2.symm
    · have hnone := not_exists.mp hobject
      have hbraced : ¬ Braced payload := fun hb => hexcept ⟨hb, hnone⟩
      rw [payloadFields_of_not_braced hbraced, postFields_of_not_object hne hparams hnone]
  · intro members hmembers
    obtain ⟨hgiven, hposted⟩ := fields_of_holdsObject hmembers params
    have hhold : HoldMembers (payloadFields payload) members := by
      rw [hgiven]
      exact holdMembers_ofList members
    refine ⟨looksLikeObject_iff.mp (looksLikeObject_of_holdsObject hmembers), hhold, ?_⟩
    rw [hposted]
    exact hhold
  · intro hnone
    rw [postFields_of_not_object hne hparams hnone]
    rfl
  · constructor
    · intro hempty
      -- no fields, but not the empty object: an object with members has some, and so has a text
      by_contra hnot
      by_cases hobject : ∃ members, HoldsObject payload members
      · obtain ⟨members, hmembers⟩ := hobject
        have hgiven := (fields_of_holdsObject hmembers params).1
        rw [hempty, eq_comm, OrderedMap.ofList_eq_empty_iff, List.map_eq_nil_iff] at hgiven
        exact hnot (hgiven ▸ hmembers)
      · exact payloadFields_ne_empty (not_exists.mp hobject) hempty
    · intro hobject
      exact (fields_of_holdsObject hobject params).1

/-- White space that is none in JSON around an object with a repeated key: both readings give the
key its last value in its first place. -/
theorem payloadFields_eq_postFields_repeated_key :
    let payload := "\u00a0\x7b\"a\": true, \"b\": \"x\", \"a\": null\x7d\n"
    let members : List (String × Value) := [("a", .bool true), ("b", .string "x"), ("a", .null)]
    HoldsObject payload members ∧
      postFields { text := some payload, params := some [] } = payloadFields payload ∧
      HoldMembers (payloadFields payload) members := by
  intro payload members
  have hopen : Json.skipBlanks (Text.trim payload.toList)
      = '{' :: "\"a\": true, \"b\": \"x\", \"a\": null\x7d".toList := by decide +kernel
  have hfirst : Json.stringBody "a\": true, \"b\": \"x\", \"a\": null\x7d".toList
      = .ok ("a", ": true, \"b\": \"x\", \"a\": null\x7d".toList) := by decide +kernel
  have hsecond : Json.stringBody "b\": \"x\", \"a\": null\x7d".toList
      = .ok ("b", ": \"x\", \"a\": null\x7d".toList) := by decide +kernel
  have hthird : Json.stringBody "a\": null\x7d".toList = .ok ("a", ": null\x7d".toList) := by
    decide +kernel
  have htrue : ∀ depth, Json.value depth " true, \"b\": \"x\", \"a\": null\x7d".toList
      = .ok (.bool true, ", \"b\": \"x\", \"a\": null\x7d".toList) := by
    intro depth
    rw [Json.value]
    rfl
  have hstring : ∀ depth, Json.value depth " \"x\", \"a\": null\x7d".toList
      = .ok (.string "x", ", \"a\": null\x7d".toList) := by
    intro depth
    have hblank : Json.Blanks [' '] := by simp [Json.Blanks, Json.isJsonBlank]
    have hread : Json.Reads (Json.value depth) ((Value.string "x").write .compact 0)
        (.string "x") := Json.reads_value_string depth "x"
    exact hread [' '] _ hblank (Json.ends_comma _)
  have hnull : ∀ depth, Json.value depth " null\x7d".toList = .ok (.null, "\x7d".toList) := by
    intro depth
    rw [Json.value]
    rfl
  have hobject : HoldsObject payload members :=
    ⟨_, hopen, .member (.first rfl) hfirst rfl (htrue _) (.member (.next rfl rfl) hsecond rfl
      (hstring _) (.member (.next rfl rfl) hthird rfl (hnull _) (.close rfl)))⟩
  have hne : payload ≠ "" := by decide
  have htext : PostData.text { text := some payload, params := some [] } = some payload := rfl
  obtain ⟨hsame, hmembers, -⟩ := payloadFields_eq_postFields hne htext rfl
  have hexcept : ¬ (Braced payload ∧ ∀ members, ¬ HoldsObject payload members) :=
    fun h => h.2 members hobject
  exact ⟨hobject, (hsame hexcept).symm, (hmembers members hobject).2.1⟩

end CallBook.Import
