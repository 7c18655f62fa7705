import CallBook.Execution.Resolved
import CallBook.Json.Reader
import CallBook.Json.Writer

/-!
# The report of a call

A report shows a call as it was sent and what came back: the environment, the resolved URL, headers
and fields, and the response or the error. Placeholders are filled in name by name and value by
value, so that names that become equal stay apart here. A response in JSON is laid out with
indentation.

A report is a list of texts, each followed by a line feed; a text that comes from the call or the
response may itself hold line feeds.
-/

namespace CallBook.Report

open CallBook

/-- Texts with a line feed after each. -/
def unlines (lines : List String) : String := String.join (lines.map (· ++ "\n"))

/-- The rule around the report. -/
def rule : String := String.ofList (List.replicate 63 '=')

/-- The rule around the title of a section. -/
def sectionRule : String := String.ofList (List.replicate 63 '-')

/-- The heading of a section. -/
def heading (title : String) : List String := [sectionRule, title ++ ":", sectionRule]

/-- A name and its value. -/
def pairLine (name value : String) : String := name ++ ": " ++ value

/-- The pairs of a map, each resolved on its own. -/
def resolvedLines (vars : Variables) (m : OrderedMap String) : List String :=
  m.entries.map fun p => pairLine (Template.fill vars p.1) (Template.fill vars p.2)

/-- The section on the variables. -/
def variableLines (vars : Variables) : List String :=
  if vars.isEmpty then ["(No environment variables)"]
  else vars.entries.map fun p => pairLine p.1 p.2

/-- The section on the headers. -/
def headerLines (vars : Variables) (headers : OrderedMap String) : List String :=
  if headers.isEmpty then ["(No headers)"] else resolvedLines vars headers

/-- The section on the fields of the body. -/
def bodyLines (vars : Variables) (r : Request) : List String :=
  if !r.method.carriesBody then ["(No body)"]
  else if r.body.isEmpty then ["{}"]
  else resolvedLines vars r.body

/-! ### The response -/

/-- A content type that stands for JSON. -/
def isJsonType (value : String) : Bool :=
  let mime := (value.toList.takeWhile (· ≠ ';'))
  let mime := Text.lowerAscii (String.ofList (Text.trim mime))
  mime == "application/json" || Text.endsWith "+json".toList mime.toList

/-- A response that says it is JSON. -/
def isJsonResponse (headers : MultiMap) : Bool :=
  headers.entries.any fun p => Text.sameIgnoringCase p.1 "content-type" && p.2.any isJsonType

/-- A text in JSON with indentation; any other text as it is. -/
def prettyText (body : String) : String :=
  match Json.parse body with
  | .ok value => value.pretty
  | .error _ => body

/-- The body of a response. -/
def responseBody (r : CallResult) : String :=
  if r.body.isEmpty then "(Empty response)"
  else if isJsonResponse r.headers then prettyText r.body
  else r.body

/-- The headers of a response, the values of each in one line. -/
def responseHeaderLines (headers : MultiMap) : List String :=
  if headers.isEmpty then ["(No headers)"]
  else headers.entries.map fun p => pairLine p.1 (Text.joinWith ", " p.2)

/-- The section on the response. -/
def responseLines (r : CallResult) : List String :=
  match r.error with
  | some error => [pairLine "Error" error]
  | none =>
    [pairLine "Status" (Text.decimal r.status),
      pairLine "Duration" (Text.decimal r.durationMs ++ " ms"), "", "Response Headers:"]
    ++ responseHeaderLines r.headers ++ ["", "Response Body:", responseBody r]

/-- The texts of a report. -/
def lines (request : Request) (environment : Environment) (result : CallResult) : List String :=
  let vars := environment.vars
  [rule, "API CALL OUTPUT", rule, "", pairLine "Environment" environment.name,
    pairLine "Name" request.name, pairLine "URL" (Template.fill vars request.url),
    pairLine "Method" request.method.verb, ""]
  ++ heading "ENVIRONMENT VARIABLES" ++ variableLines vars ++ [""]
  ++ heading "HEADERS" ++ headerLines vars request.headers ++ [""]
  ++ heading "BODY" ++ bodyLines vars request ++ [""]
  ++ heading "RESPONSE" ++ responseLines result ++ ["", rule]

/-- The report of a call. -/
def text (request : Request) (environment : Environment) (result : CallResult) : String :=
  unlines (lines request environment result)

end CallBook.Report
