import CallBook.Call.Request
import CallBook.Template
import CallBook.Text.Search
import CallBook.Url.Parser

/-!
# Resolved calls

Before a call is sent its placeholders are filled in, in the URL and in the names and values of
headers and fields. Names that become equal are merged as in any map: the last value counts, at the
first place. Only the URL has to be free of placeholders afterwards; it then has to be a URL.
-/

namespace CallBook

/-- Why a call is not sent. -/
inductive CallError
  /-- Placeholders without a value are left in the URL; `available` are the names that have one. -/
  | unresolved (missing available : List String)
  | invalidUrl (text : String) (reason : UrlError)
  deriving DecidableEq, Repr

/-- The wording of an error. -/
def CallError.message : CallError → String
  | unresolved missing available =>
    "URL contains unresolved environment variables: " ++ Text.joinWith ", " missing
      ++ "\nAvailable variables: [" ++ Text.joinWith ", " available ++ "]"
  | invalidUrl text reason => "Invalid URL '" ++ text ++ "': " ++ reason.message

/-- A call with its placeholders filled in. -/
structure ResolvedRequest where
  method : Method
  url : String
  headers : OrderedMap String
  body : OrderedMap String
  deriving DecidableEq

/-- Fills in the placeholders of keys and values. -/
def Template.fillMap (vars : Variables) (m : OrderedMap String) : OrderedMap String :=
  .ofList (m.entries.map fun p => (fill vars p.1, fill vars p.2))

/-- The call with the placeholders that have a value filled in. -/
def Request.resolve (r : Request) (vars : Variables) : ResolvedRequest where
  method := r.method
  url := Template.fill vars r.url
  headers := Template.fillMap vars r.headers
  body := Template.fillMap vars r.body

/-- Where a resolved call goes. -/
def ResolvedRequest.target? (r : ResolvedRequest) (vars : Variables) : Except CallError Url :=
  let missing := Template.names r.url
  if !missing.isEmpty then .error (.unresolved missing vars.keys)
  else (Url.parse (Text.trimmed r.url)).mapError (.invalidUrl r.url)

end CallBook
