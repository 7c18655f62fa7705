import CallBook.Proofs.Import.Options
import CallBook.Proofs.OrderedMap

/-!
# The call that options describe

What the options of a command say is sorted by kind (`Sayings`): the methods, the header texts, the
URLs and the payloads, each in their order. The call is made from these lists alone, so options of
different kinds may stand in any order (`ofParts_congr`), and `Describes` says how: the first URL,
the last method, the first payload, and the headers as they come together.

Main result: `ofWords_groups`.
-/

namespace CallBook.Import

/-! ## What is said of each kind -/

/-- The header text that a part gives. -/
def Part.headerText? : Part → Option String
  | header text => some text
  | _ => none

/-- The payload that a part gives, and whether it is announced as JSON. -/
def Part.announced? : Part → Option (Bool × String)
  | data json payload => some (json, payload)
  | _ => none

/-- What options say, kind by kind, each in order. A payload comes with whether it is announced as
JSON. -/
structure Sayings where
  methods : List String
  headers : List String
  urls : List String
  payloads : List (Bool × String)

/-- What the parts of a command say, kind by kind. -/
def Sayings.of (parts : List Part) : Sayings where
  methods := parts.filterMap Part.method?
  headers := parts.filterMap Part.headerText?
  urls := parts.filterMap Part.url?
  payloads := parts.filterMap Part.announced?

/-- The URL is the first one that is said. -/
theorem findSome?_url? (parts : List Part) :
    parts.findSome? Part.url? = (Sayings.of parts).urls.head? :=
  List.head?_filterMap.symm

/-- The payload is the first one that is said. -/
theorem findSome?_payload? (parts : List Part) :
    parts.findSome? Part.payload? = ((Sayings.of parts).payloads.map Prod.snd).head? := by
  rw [Sayings.of, List.map_filterMap, List.head?_filterMap]
  congr 1
  funext part
  cases part <;> rfl

/-- The headers are those that are said, in order. -/
theorem filterMap_headerPair? (parts : List Part) :
    parts.filterMap Part.headerPair? = (Sayings.of parts).headers.filterMap header? := by
  rw [Sayings.of, List.filterMap_filterMap]
  congr 1
  funext part
  cases part <;> rfl

/-- A payload is JSON if one is said to be. -/
theorem any_isJson (parts : List Part) :
    parts.any Part.isJson = (Sayings.of parts).payloads.any Prod.fst := by
  rw [Sayings.of, List.any_filterMap]
  congr 1
  funext part
  cases part <;> rfl

/-- Calls whose options say the same of each kind are the same. -/
theorem ofParts_congr {parts parts' : List Part} (h : Sayings.of parts = Sayings.of parts') :
    ofParts parts = ofParts parts' := by
  have hmethods : parts.filterMap Part.method? = parts'.filterMap Part.method? :=
    congrArg Sayings.methods h
  rw [ofParts, ofParts, findSome?_url?, findSome?_url?, findSome?_payload?, findSome?_payload?,
    filterMap_headerPair?, filterMap_headerPair?, any_isJson, any_isJson, hmethods, h]

/-- What the text of a header option says: a name and a value around the first colon, white space
around both left out. Without a colon or a name it says nothing. -/
inductive ReadsHeader : (text : String) → Option (String × String) → Prop
  | pair {name value : String} (hcolon : ':' ∉ name.toList)
      (hname : Text.isBlankText name.toList = false) :
      ReadsHeader (name ++ ":" ++ value) (some (Text.trimmed name, Text.trimmed value))
  | noName {name value : String} (hname : Text.isBlankText name.toList = true) :
      ReadsHeader (name ++ ":" ++ value) none
  | noColon {text : String} (hcolon : ':' ∉ text.toList) : ReadsHeader text none

/-- What is read of a header text is what the text says. -/
theorem readsHeader_header? (text : String) : ReadsHeader text (header? text) := by
  rw [header?]
  split
  · next name value hsplit =>
    obtain ⟨htext, hcolon⟩ := Text.splitFirst_eq_some hsplit
    have hword : text = String.ofList name ++ ":" ++ String.ofList value := by
      rw [← String.toList_inj, htext]
      simp
    rw [hword]
    split
    · next hblank => exact .noName (by rwa [String.toList_ofList])
    · next hblank =>
      have hpair := @ReadsHeader.pair (String.ofList name) (String.ofList value)
      simp only [Text.trimmed, String.toList_ofList] at hpair
      exact hpair hcolon (by simpa using hblank)
  · next hsplit => exact .noColon (Text.splitFirst_eq_none hsplit)

/-- The call that is described by what was said of each kind. -/
structure Describes (said : Sayings) (r : Request) : Prop where
  url : said.urls.head? = some r.url
  name : r.name = title r.url
  /-- The last method counts; without one a payload makes the call a POST. -/
  method : r.method =
    match said.methods.getLast? with
    | some text => Method.ofText text
    | none => if said.payloads = [] then .get else .post
  /-- Header names stand in the order in which they came first, each with its last value. A payload
  announced as JSON adds a content type, unless there is one in any case. -/
  headers : ∃ (pairs : List (Option (String × String))) (m : OrderedMap String),
    List.Forall₂ ReadsHeader said.headers pairs ∧ m.Gathers pairs.reduceOption ∧
      r.headers =
        if (∃ payload ∈ said.payloads, payload.1 = true) ∧
            ∀ key ∈ m.keys, Text.sameIgnoringCase "content-type" key = false then
          m.insert "Content-Type" "application/json"
        else m
  /-- The first payload counts. -/
  body : r.body =
    match said.payloads.head? with
    | some (_, payload) => payloadFields payload
    | none => .empty
  group : r.group = none

theorem readsHeader_all (texts : List String) :
    List.Forall₂ ReadsHeader texts (texts.map header?) := by
  rw [List.forall₂_map_right_iff, List.forall₂_same]
  exact fun text _ => readsHeader_header? text

/-- The type of JSON is added unless there is a content type, however it is spelled. -/
theorem withJsonType_eq (m : OrderedMap String) :
    withJsonType m =
      if ∀ key ∈ m.keys, Text.sameIgnoringCase "content-type" key = false then
        m.insert "Content-Type" "application/json"
      else m := by
  rw [withJsonType]
  by_cases h : ∀ key ∈ m.keys, Text.sameIgnoringCase "content-type" key = false
  · have hany : m.keys.any (Text.sameIgnoringCase "content-type") = false := by
      simpa [List.any_eq_false] using h
    rw [if_pos h, hany, if_neg Bool.false_ne_true]
  · have hany : m.keys.any (Text.sameIgnoringCase "content-type") = true := by
      simpa [List.any_eq_true] using h
    rw [if_neg h, hany, if_pos rfl]

/-- A call with a URL is as the options describe it. -/
theorem ofParts_describes {parts : List Part} {url : String}
    (hurl : (Sayings.of parts).urls.head? = some url) (hne : url ≠ "") :
    ∃ r, ofParts parts = .ok r ∧ Describes (Sayings.of parts) r := by
  rw [ofParts, findSome?_url?, findSome?_payload?, filterMap_headerPair?, any_isJson, hurl]
  simp only [if_neg hne]
  refine ⟨_, rfl, hurl, rfl, ?method, ?headers, ?body, rfl⟩
  case method =>
    show (match (Sayings.of parts).methods.getLast? with | some text => _ | none => _) = _
    cases (Sayings.of parts).methods.getLast? with
    | some text => rfl
    | none => cases (Sayings.of parts).payloads <;> rfl
  case headers =>
    have hpairs : ((Sayings.of parts).headers.map header?).reduceOption
        = (Sayings.of parts).headers.filterMap header? := List.filterMap_map
    refine ⟨_, _, readsHeader_all _, OrderedMap.gathers_ofList _, ?_⟩
    rw [hpairs, withJsonType_eq, ← ite_and]
    simp only [List.any_eq_true]
  case body =>
    cases (Sayings.of parts).payloads <;> rfl

/-! ## Commands -/

/-- A blank text is an empty line. -/
theorem oneLine_of_isBlankText {command : List Char} (h : Text.isBlankText command = true) :
    oneLine command = [] := by
  rw [oneLine, Text.trim_of_isBlankText h, joinLines]
  rfl

/-- A command whose line has words is not blank, and says what its words say. -/
theorem curlCommand_of_words {command : String} {words : List String} (hne : words ≠ [])
    (h : Shell.words (oneLine command.toList) = some (words.map String.toList)) :
    curlCommand command = ofWords words := by
  have hblank : Text.isBlankText command.toList = false := by
    rw [Bool.eq_false_iff]
    intro hblank
    rw [oneLine_of_isBlankText hblank, Shell.words] at h
    exact hne (List.map_eq_nil_iff.mp (Option.some.inj h).symm)
  rw [curlCommand, hblank, if_neg Bool.false_ne_true, h]
  simp [Function.comp_def]

/-- The program and any list of groups make a call by what the groups say of each kind, each kind's
values in their order: without a URL, or if the first one is empty, there is none, and else there is
one that is as these values describe it. The words of a command make the call of the command. -/
theorem ofWords_groups {program : String} (hcurl : isCurl program = true)
    {groups : List (List String)} {said : List (Option Part)}
    (h : List.Forall₂ Group groups said) :
    ((Sayings.of said.reduceOption).urls.head? = none ∨
        (Sayings.of said.reduceOption).urls.head? = some "" →
      ofWords (program :: groups.flatten) = .error .noUrl) ∧
    (∀ url, (Sayings.of said.reduceOption).urls.head? = some url → url ≠ "" →
      ∃ r, ofWords (program :: groups.flatten) = .ok r ∧
        Describes (Sayings.of said.reduceOption) r) ∧
    (∀ groups' said', List.Forall₂ Group groups' said' →
      Sayings.of said'.reduceOption = Sayings.of said.reduceOption →
        ofWords (program :: groups'.flatten) = ofWords (program :: groups.flatten)) ∧
    ∀ command : String,
      Shell.words (oneLine command.toList)
          = some ((program :: groups.flatten).map String.toList) →
        curlCommand command = ofWords (program :: groups.flatten) := by
  -- the answer is that of the parts, so it does not depend on how they are spelled
  have hanswer : ∀ {groups said}, List.Forall₂ Group groups said →
      ofWords (program :: groups.flatten) = ofParts said.reduceOption := by
    intro groups said h
    rw [ofWords, if_pos hcurl, parts_groups h]
  refine ⟨fun hnone => ?_, fun url hurl hne => ?_, fun groups' said' h' hsame => ?_,
    fun command hwords => curlCommand_of_words (List.cons_ne_nil _ _) hwords⟩
  · rw [hanswer h, ofParts, findSome?_url?]
    rcases hnone with hnone | hempty
    · rw [hnone]
    · rw [hempty]
      rfl
  · obtain ⟨r, hr, hdescribes⟩ := ofParts_describes hurl hne
    exact ⟨r, (hanswer h).trans hr, hdescribes⟩
  · rw [hanswer h', hanswer h, ofParts_congr hsame]

/-- Options in several spellings, with repeated ones, a flag, and values that look like options. -/
theorem ofWords_mixed_spellings :
    ∃ r, ofWords ["curl", "-o", "--url", "-XPUT", "-s", "--header=A: --url", "https://a.b", "-H",
        "-X", "--json=\x7b\x7d", "-dx", "--request", "patch", "-"] = .ok r ∧
      r.url = "https://a.b" ∧ r.method = .patch ∧ r.body = payloadFields "\x7b\x7d" := by
  have hflag : classify "-s" = .skip := rfl
  obtain ⟨hdash, hone, htwo, hoption⟩ := classify_eq_skip_iff.mp hflag
  have hput : Group ["-XPUT"] (some (.method "PUT")) :=
    .option (@Gives.attached .method "-X" "PUT" (by decide) (by decide))
  have hpatch : Group ["--request", "patch"] (some (.method "patch")) :=
    .option (@Gives.apart .method "--request" "patch" (by decide))
  have hheader : Group ["--header=A: --url"] (some (.header "A: --url")) :=
    .option (@Gives.equals .header "--header" "A: --url" (by decide))
  have hnone : Group ["-H", "-X"] (some (.header "-X")) :=
    .option (@Gives.apart .header "-H" "-X" (by decide))
  have hjson : Group ["--json=\x7b\x7d"] (some (.data true "\x7b\x7d")) :=
    .option (@Gives.equals .data "--json" "\x7b\x7d" (by decide))
  have hdata : Group ["-dx"] (some (.data false "x")) :=
    .option (@Gives.attached .data "-d" "x" (by decide) (by decide))
  have h := List.Forall₂.cons (.ignored (by decide) "--url" : Group ["-o", "--url"] none)
    (.cons hput (.cons (.flag hdash hone htwo hoption) (.cons hheader
      (.cons (.bare (.inr (by decide)) : Group ["https://a.b"] _) (.cons hnone (.cons hjson
        (.cons hdata (.cons hpatch (.cons (.bare (.inl rfl)) .nil)))))))))
  obtain ⟨-, hcall, -⟩ := ofWords_groups (rfl : isCurl "curl" = true) h
  obtain ⟨r, hr, hdescribes⟩ := hcall "https://a.b" rfl (by decide)
  refine ⟨r, hr, ?_, hdescribes.method, hdescribes.body⟩
  exact (Option.some.inj hdescribes.url).symm

end CallBook.Import
