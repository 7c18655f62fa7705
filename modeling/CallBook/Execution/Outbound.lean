import CallBook.Execution.Resolved
import CallBook.Json.Writer

/-!
# Outbound calls

What is handed to a transport: the resolved headers and, for methods that carry a body, the fields
as one JSON object. Such a call has a content type, `application/json` unless a header says
otherwise.
-/

namespace CallBook

/-- A call as it is handed to a transport. -/
structure Outbound where
  method : Method
  url : Url
  headers : OrderedMap String
  body : Option String
  timeoutSeconds : Nat
  deriving DecidableEq

/-- How long an answer may take. -/
def requestTimeout : Nat := 30

/-- One of the headers is a content type, whatever the case of its letters. -/
def hasContentType (headers : OrderedMap String) : Bool :=
  headers.keys.any (Text.sameIgnoringCase "content-type")

/-- The headers with a content type. -/
def withContentType (headers : OrderedMap String) : OrderedMap String :=
  if hasContentType headers then headers else headers.insert "Content-Type" "application/json"

/-- The call that goes out to a URL. -/
def ResolvedRequest.outbound (r : ResolvedRequest) (url : Url) : Outbound where
  method := r.method
  url
  headers := if r.method.carriesBody then withContentType r.headers else r.headers
  body := if r.method.carriesBody then some (Json.Value.ofTexts r.body).compact else none
  timeoutSeconds := requestTimeout

@[simp] theorem ResolvedRequest.url_outbound (r : ResolvedRequest) (url : Url) :
    (r.outbound url).url = url := rfl

end CallBook
