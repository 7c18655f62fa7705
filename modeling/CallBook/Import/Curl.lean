import CallBook.Call.Request
import CallBook.Import.Error
import CallBook.Import.Payload
import CallBook.Import.Title
import CallBook.Shell.Words

/-!
# Calls from curl commands

A command is first brought onto one line: every line continuation, then every run of white space
becomes one space, also inside quotes. The words of that line are read as a list of `Part`s, one for
each option that matters; the call depends on the parts alone: the first URL, the last method, the
first payload, and the headers in order.
-/

namespace CallBook.Import

/-! ### One line -/

/-- A backslash and white space with a line end in it become one space. -/
def joinLines (s : List Char) : List Char :=
  match s with
  | [] => []
  | c :: rest =>
    if c = '\\' && (rest.takeWhile Text.isBlank).contains '\n' then
      ' ' :: joinLines (rest.dropWhile Text.isBlank)
    else c :: joinLines rest
  termination_by s.length
  decreasing_by
    · have := (List.dropWhile_sublist Text.isBlank (l := rest)).length_le
      simp only [List.length_cons]
      omega
    · simp

/-- Every run of white space becomes one space; `inRun` says that the space of a run has been
written. -/
def squeezeFrom : (inRun : Bool) → List Char → List Char
  | _, [] => []
  | inRun, c :: rest =>
    if Text.isBlank c then
      if inRun then squeezeFrom true rest else ' ' :: squeezeFrom true rest
    else c :: squeezeFrom false rest

/-- Every run of white space becomes one space. -/
def squeeze (s : List Char) : List Char := squeezeFrom false s

/-- A command on one line. -/
def oneLine (command : List Char) : List Char :=
  Text.trim (squeeze (joinLines (Text.trim command)))

/-! ### Options -/

/-- What one option says about the call. -/
inductive Part
  | method (text : String)
  | header (text : String)
  | url (text : String)
  | data (json : Bool) (payload : String)
  deriving DecidableEq, Repr

/-- Options that take the next word as a payload. -/
def dataOptions : List String :=
  ["-d", "--data", "--data-raw", "--data-binary", "--data-ascii", "--json"]

/-- Options that take the next word for something that a call does not keep. -/
def ignoredOptions : List String :=
  ["-A", "--user-agent", "-b", "--cookie", "-c", "--cookie-jar", "-e", "--referer", "-E", "--cert",
   "--key", "--cacert", "-F", "--form", "-m", "--max-time", "--connect-timeout", "-o", "--output",
   "-r", "--range", "--resolve", "--retry", "-T", "--upload-file", "-u", "--user", "-w",
   "--write-out", "-x", "--proxy", "--data-urlencode"]

/-- What a word is in a list of options. -/
inductive Word
  /-- The end of the options. -/
  | stop
  /-- Complete in itself. -/
  | part (p : Part)
  /-- The next word is its value. -/
  | takes (ofValue : String → Part)
  /-- The next word belongs to it and is not kept. -/
  | skipsNext
  /-- Not kept. -/
  | skip

/-- A payload given to an option. -/
def dataPart (option : String) (payload : String) : Part := .data (option = "--json") payload

/-- What follows `start` in a word, as a string. -/
def attached? (start word : String) : Option String :=
  (Text.dropPrefix? start.toList word.toList).map String.ofList

/-- The name and value of a data option written with `=`. -/
def attachedData? (word : String) : Option Part :=
  if !Text.beginsWith ['-', '-'] word.toList then none
  else
    match Text.splitFirst '=' word.toList with
    | some (name, value) =>
      let name := String.ofList name
      if dataOptions.contains name then some (dataPart name (String.ofList value)) else none
    | none => none

/-- What a word says, taken by itself. -/
def classify (word : String) : Word :=
  if word = "--" then .stop
  else if !Text.beginsWith ['-'] word.toList || word = "-" then .part (.url word)
  else if word = "-X" || word = "--request" then .takes .method
  else if let some value := attached? "--request=" word then .part (.method value)
  else if let some value := attached? "-X" word then .part (.method value)
  else if word = "-H" || word = "--header" then .takes .header
  else if let some value := attached? "--header=" word then .part (.header value)
  else if let some value := attached? "-H" word then .part (.header value)
  else if word = "--url" then .takes .url
  else if let some value := attached? "--url=" word then .part (.url value)
  else if dataOptions.contains word then .takes (dataPart word)
  else if let some part := attachedData? word then .part part
  else if let some value := attached? "-d" word then .part (dataPart "-d" value)
  else if ignoredOptions.contains word then .skipsNext
  else .skip

/-- The parts of the words after the program. The first word after the end of the options is a
URL. -/
def parts : List String → Except ImportError (List Part)
  | [] => .ok []
  | word :: rest =>
    match classify word with
    | .stop => .ok (rest.take 1 |>.map .url)
    | .part p => (parts rest).map (p :: ·)
    | .takes ofValue =>
      match rest with
      | [] => .error (.missingValue word)
      | value :: rest => (parts rest).map (ofValue value :: ·)
    | .skipsNext =>
      match rest with
      | [] => .ok []
      | _ :: rest => parts rest
    | .skip => parts rest

/-! ### The call -/

/-- The header of an option's text: name and value around the first colon, white space around both
left out. A text without a colon or name is no header. -/
def header? (text : String) : Option (String × String) :=
  match Text.splitFirst ':' text.toList with
  | some (name, value) =>
    if Text.isBlankText name then none
    else some (String.ofList (Text.trim name), String.ofList (Text.trim value))
  | none => none

namespace Part

/-- The URL that a part gives. -/
def url? : Part → Option String
  | url text => some text
  | _ => none

/-- The method that a part gives. -/
def method? : Part → Option String
  | method text => some text
  | _ => none

/-- The header that a part gives. -/
def headerPair? : Part → Option (String × String)
  | header text => header? text
  | _ => none

/-- The payload that a part gives. -/
def payload? : Part → Option String
  | data _ payload => some payload
  | _ => none

/-- A payload that is announced as JSON. -/
def isJson : Part → Bool
  | data json _ => json
  | _ => false

end Part

/-- The headers with a JSON content type, unless they have a content type. -/
def withJsonType (headers : OrderedMap String) : OrderedMap String :=
  if headers.keys.any (Text.sameIgnoringCase "content-type") then headers
  else headers.insert "Content-Type" "application/json"

/-- The call that the parts of a command describe. -/
def ofParts (parts : List Part) : Except ImportError Request :=
  match parts.findSome? Part.url? with
  | none => .error .noUrl
  | some url =>
    if url = "" then .error .noUrl
    else
      let payload := parts.findSome? Part.payload?
      let headers := OrderedMap.ofList (parts.filterMap Part.headerPair?)
      .ok
        { name := title url
          url
          method :=
            match (parts.filterMap Part.method?).getLast? with
            | some text => Method.ofText text
            | none => if payload.isSome then .post else .get
          headers := if parts.any Part.isJson then withJsonType headers else headers
          body := (payload.map payloadFields).getD .empty }

/-- A word names the curl program, with or without the directory it is in. -/
def isCurl (word : String) : Bool :=
  let steps := Text.fields (fun c => c == '/' || c == '\\') word.toList
  let name := String.ofList (steps.getLast?.getD [])
  Text.sameIgnoringCase name "curl" || Text.sameIgnoringCase name "curl.exe"

/-- The call of a list of words. -/
def ofWords : List String → Except ImportError Request
  | program :: options =>
    if isCurl program then
      match parts options with
      | .error e => .error e
      | .ok parts => ofParts parts
    else .error .notCurl
  | [] => .error .notCurl

/-- The call of a curl command. -/
def curlCommand (command : String) : Except ImportError Request :=
  if Text.isBlankText command.toList then .error .emptyCommand
  else
    match Shell.words (oneLine command.toList) with
    | none => .error .openQuote
    | some words => ofWords (words.map String.ofList)

end CallBook.Import
