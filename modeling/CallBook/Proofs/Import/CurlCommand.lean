import Mathlib.Data.List.TakeWhile
import CallBook.Import.Curl
import CallBook.Proofs.Import.OneLine
import CallBook.Proofs.Import.Payload
import CallBook.Proofs.Text.Trimming

/-!
# A call written as a curl command is imported unchanged

`commandOf` writes a call as a curl command: the method and URL, one option for each header, and
the fields as the text of a JSON object, each in single quotes. Importing the command goes through
five stages, and each of them gives back what was written for it: the command is on one line already
and splits into the words of its arguments (`passes_commandArguments`), these are the options with
their values (`parts_optionWords`), a header is cut where name and value were put together
(`header?_headerText`), and the fields are read from their JSON text (`payloadFields_compact`).

What a call must satisfy for this is `Portable`: the white space that the first stage would change
is not there, and headers survive being trimmed and cut at a colon.

Main result: `curlCommand_commandOf`.
-/

namespace CallBook.Import

open Text (isBlank head?_ne_of_trim trim_cons_space trim_of_isBlankText trim_of_trimmed)
open Shell (Argument)

/-! ## The command of a call -/

/-- A header as the text of an option. -/
def headerText (header : String × String) : String := header.1 ++ ": " ++ header.2

/-- The arguments of the command that makes a call. -/
def commandArguments (r : Request) : List Argument :=
  [.bare "curl", .bare "-X", .bare r.method.verb, .bare "--url", .quoted r.url]
    ++ (r.headers.entries.flatMap (fun header => [.bare "-H", .quoted (headerText header)])
      ++ [.bare "--data", .quoted (Json.Value.ofTexts r.body).compact])

/-- The curl command that makes a call. -/
def commandOf (r : Request) : String := String.ofList (Shell.commandLine (commandArguments r))

/-- A header that comes back from the text of an option. -/
structure PortableHeader (header : String × String) : Prop where
  name_ne : header.1 ≠ ""
  name_trimmed : Text.trimmed header.1 = header.1
  name_noColon : ':' ∉ header.1.toList
  name_spaced : SingleSpaced header.1.toList
  value_trimmed : Text.trimmed header.2 = header.2
  value_spaced : SingleSpaced header.2.toList

/-- A call that comes back from its command. -/
structure Portable (r : Request) : Prop where
  group : r.group = none
  name : r.name = title r.url
  url_ne : r.url ≠ ""
  url_spaced : SingleSpaced r.url.toList
  headers : ∀ header ∈ r.headers.entries, PortableHeader header
  body : ∀ field ∈ r.body.entries, PortableText field.1 ∧ PortableText field.2

/-! ## Headers -/

theorem toList_headerText (header : String × String) :
    (headerText header).toList = header.1.toList ++ ':' :: ' ' :: header.2.toList := by
  simp [headerText]

/-- A header is cut where its name and value were put together. -/
theorem header?_headerText {header : String × String} (h : PortableHeader header) :
    header? (headerText header) = some header := by
  have hname := trim_of_trimmed h.name_trimmed
  have hvalue := trim_of_trimmed h.value_trimmed
  have hblank : Text.isBlankText header.1.toList = false := by
    rw [Bool.eq_false_iff]
    intro hall
    rw [trim_of_isBlankText hall] at hname
    exact h.name_ne (String.toList_inj.mp hname.symm)
  rw [header?, toList_headerText, Text.splitFirst_append h.name_noColon]
  show (if Text.isBlankText header.1.toList = true then none else some _) = _
  rw [hblank, if_neg (by decide), trim_cons_space, hname, hvalue, String.ofList_toList,
    String.ofList_toList]

/-- A portable header is written single spaced. -/
theorem singleSpaced_headerText {header : String × String} (h : PortableHeader header) :
    SingleSpaced (headerText header).toList := by
  have hvalue := h.value_spaced.cons_space (head?_ne_of_trim (trim_of_trimmed h.value_trimmed))
  -- cut behind the colon, which no space stands before
  rw [toList_headerText, ← List.singleton_append, ← List.append_assoc]
  refine (h.name_spaced.concat (c := ':') rfl).append hvalue ?_
  simp

/-! ## Options -/

/-- The options of a command, headers between the others. -/
def optionWords (r : Request) : List String :=
  ["-X", r.method.verb, "--url", r.url]
    ++ (r.headers.entries.flatMap (fun header => ["-H", headerText header])
      ++ ["--data", (Json.Value.ofTexts r.body).compact])

/-- What the options of a command say. -/
def commandParts (r : Request) : List Part :=
  [.method r.method.verb, .url r.url]
    ++ (r.headers.entries.map (fun header => .header (headerText header))
      ++ [.data false (Json.Value.ofTexts r.body).compact])

/-- The words of a command are the program and the options of its call. -/
theorem map_word_commandArguments (r : Request) :
    (commandArguments r).map Argument.word = "curl" :: optionWords r := by
  simp [commandArguments, optionWords, Argument.word, List.map_flatMap]

/-- An option with its value, whatever follows. -/
theorem parts_of_takes {word : String} {ofValue : String → Part}
    (hw : classify word = .takes ofValue) (value : String) (rest : List String) :
    parts (word :: value :: rest) = (parts rest).map (ofValue value :: ·) := by
  rw [parts]
  simp only [hw]

/-- An option with its value, before options that are understood. -/
theorem parts_takes {word : String} {ofValue : String → Part} (hw : classify word = .takes ofValue)
    (value : String) {rest : List String} {ps : List Part} (hrest : parts rest = .ok ps) :
    parts (word :: value :: rest) = .ok (ofValue value :: ps) := by
  rw [parts_of_takes hw, hrest]
  rfl

/-- The options of a call are read as its parts. -/
theorem parts_optionWords (r : Request) : parts (optionWords r) = .ok (commandParts r) := by
  have hmethod : classify "-X" = .takes .method := rfl
  have hurl : classify "--url" = .takes .url := rfl
  have hheader : classify "-H" = .takes .header := rfl
  have hpayload : classify "--data" = .takes (dataPart "--data") := rfl
  have hdata : parts ["--data", (Json.Value.ofTexts r.body).compact]
      = .ok [.data false (Json.Value.ofTexts r.body).compact] := parts_takes hpayload _ rfl
  have hheaders : ∀ headers : List (String × String),
      parts (headers.flatMap (fun header => ["-H", headerText header])
          ++ ["--data", (Json.Value.ofTexts r.body).compact])
        = .ok (headers.map (fun header => .header (headerText header))
          ++ [.data false (Json.Value.ofTexts r.body).compact]) := by
    intro headers
    induction headers with
    | nil => exact hdata
    | cons header headers ih => exact parts_takes hheader _ ih
  exact parts_takes hmethod _ (parts_takes hurl _ (hheaders r.headers.entries))

/-- What reads nothing from one header reads nothing from all of them. -/
theorem filterMap_headers {α : Type} {f : Part → Option α} (hf : ∀ text, f (.header text) = none)
    (headers : List (String × String)) :
    (headers.map fun header => Part.header (headerText header)).filterMap f = [] := by
  rw [List.filterMap_eq_nil_iff]
  intro part hp
  obtain ⟨header, -, rfl⟩ := List.mem_map.mp hp
  exact hf _

/-- The parts of a command describe the call it was written for. -/
theorem ofParts_commandParts {r : Request} (h : Portable r) :
    ofParts (commandParts r) = .ok r := by
  have hurl : (commandParts r).findSome? Part.url? = some r.url := rfl
  have hpayload : (commandParts r).findSome? Part.payload?
      = some (Json.Value.ofTexts r.body).compact := by
    rw [← List.head?_filterMap, commandParts, List.filterMap_append, List.filterMap_append,
      filterMap_headers fun _ => rfl]
    rfl
  have hheaders : (commandParts r).filterMap Part.headerPair? = r.headers.entries := by
    have hmap : r.headers.entries.filterMap (fun header => header? (headerText header))
        = r.headers.entries.filterMap some :=
      List.filterMap_congr fun header hm => header?_headerText (h.headers header hm)
    rw [commandParts, List.filterMap_append, List.filterMap_append, List.filterMap_map]
    show [] ++ (r.headers.entries.filterMap (fun header => header? (headerText header)) ++ []) = _
    rw [hmap, List.filterMap_some, List.append_nil, List.nil_append]
  have hmethod : (commandParts r).filterMap Part.method? = [r.method.verb] := by
    rw [commandParts, List.filterMap_append, List.filterMap_append,
      filterMap_headers fun _ => rfl]
    rfl
  have hjson : (commandParts r).any Part.isJson = false := by
    simp [commandParts, Part.isJson]
  -- each kind of part gives its own field of the call
  rw [ofParts, hurl]
  simp only [hpayload, hheaders, hmethod, hjson, if_neg h.url_ne, OrderedMap.ofList_entries,
    List.getLast?_singleton, Method.ofText_verb, Option.map_some, Option.getD_some,
    payloadFields_compact]
  rw [← h.name, if_neg (by decide)]
  have hgroup := h.group
  cases r
  cases hgroup
  rfl

/-! ## The command as a whole -/

/-- An argument that stays as it is on one line and is read there as its word. -/
def Passes (a : Argument) : Prop := Kept a.text ∧ Shell.Spells a.text a.word.toList

theorem passes_bare {word : String} (hbare : Shell.isBare word.toList = true)
    (hvisible : word.toList.any isBlank = false) : Passes (.bare word) := by
  have hspells := Shell.spells_bare hbare
  have hne : word.toList ≠ [] := by
    obtain ⟨c, more, hc, -⟩ := hspells.start
    rw [hc]
    exact List.cons_ne_nil c more
  exact ⟨kept_of_visible hne hvisible, hspells⟩

/-- A single spaced word in quotes passes. -/
theorem passes_quoted {word : String} (h : SingleSpaced word.toList) : Passes (.quoted word) :=
  ⟨kept_singleQuoted h, Shell.spells_singleQuoted word.toList⟩

/-- Every argument of the command of a portable call passes. -/
theorem passes_commandArguments {r : Request} (h : Portable r) :
    ∀ a ∈ commandArguments r, Passes a := by
  have hverb : Passes (.bare r.method.verb) := by
    cases r.method <;> exact passes_bare rfl rfl
  have hbody : SingleSpaced (Json.Value.ofTexts r.body).compact.toList := by
    obtain ⟨inner, htext, hinner⟩ := compact_ofTexts r.body
    rw [htext]
    exact .cons rfl (.concat rfl (hinner h.body))
  intro a ha
  simp only [commandArguments, List.mem_append, List.mem_cons, List.not_mem_nil, or_false,
    List.mem_flatMap] at ha
  rcases ha with (rfl | rfl | rfl | rfl | rfl) | ⟨header, hm, rfl | rfl⟩ | rfl | rfl
  · exact passes_bare rfl rfl
  · exact passes_bare rfl rfl
  · exact hverb
  · exact passes_bare rfl rfl
  · exact passes_quoted h.url_spaced
  · exact passes_bare rfl rfl
  · exact passes_quoted (singleSpaced_headerText (h.headers header hm))
  · exact passes_bare rfl rfl
  · exact passes_quoted hbody

/-- Importing the curl command of a call gives the call back: its method and URL, its headers and
fields in order, and its name. -/
theorem curlCommand_commandOf {r : Request} (h : Portable r) :
    curlCommand (commandOf r) = .ok r := by
  have hpasses := passes_commandArguments h
  have hline : oneLine (commandOf r).toList = Shell.commandLine (commandArguments r) := by
    rw [commandOf, String.toList_ofList]
    exact oneLine_commandLine (List.cons_ne_nil _ _) fun a ha => (hpasses a ha).1
  have hblank : Text.isBlankText (commandOf r).toList = false := by
    rw [commandOf, String.toList_ofList]
    rfl
  have hwords : Shell.words (oneLine (commandOf r).toList)
      = some ((commandArguments r).map fun a => a.word.toList) := by
    rw [hline]
    exact Shell.words_commandLine fun a ha => (hpasses a ha).2
  have hstrings : ((commandArguments r).map fun a => a.word.toList).map String.ofList
      = "curl" :: optionWords r := by
    rw [List.map_map, ← map_word_commandArguments]
    exact List.map_congr_left fun a _ => String.ofList_toList
  have hcurl : isCurl "curl" = true := rfl
  rw [curlCommand, hblank, if_neg (by decide)]
  simp only [hwords, hstrings, ofWords, hcurl, if_true, parts_optionWords]
  exact ofParts_commandParts h

/-- A call with quotes, a backslash, hashes, a colon and a line end in its texts. -/
def sampleCall : Request where
  name := "it's #1"
  url := "https://it's #1"
  method := .put
  headers := .ofList [("X-Note", "a: \"b\" \\ c")]
  body := .ofList [("k'", "\\ \n #"), ("empty", "")]

theorem curlCommand_sampleCall :
    curlCommand ("curl -X PUT --url 'https://it'\\''s #1' -H 'X-Note: a: \"b\" \\ c'"
      ++ " --data '\x7b\"k'\\''\":\"\\\\ \\n #\",\"empty\":\"\"\x7d'") = .ok sampleCall := by
  have hheader : PortableHeader ("X-Note", "a: \"b\" \\ c") :=
    ⟨by decide, by decide, by decide, by decide, by decide, by decide⟩
  have hheaders : ∀ header ∈ sampleCall.headers.entries, PortableHeader header := by
    intro header hm
    rw [List.mem_singleton.mp hm]
    exact hheader
  have hportable : Portable sampleCall :=
    ⟨rfl, by decide +kernel, by decide, by decide, hheaders, by decide⟩
  have hcommand : commandOf sampleCall
      = "curl -X PUT --url 'https://it'\\''s #1' -H 'X-Note: a: \"b\" \\ c'"
        ++ " --data '\x7b\"k'\\''\":\"\\\\ \\n #\",\"empty\":\"\"\x7d'" := by
    decide +kernel
  rw [← hcommand]
  exact curlCommand_commandOf hportable

end CallBook.Import
