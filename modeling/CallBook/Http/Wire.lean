import CallBook.Execution.Transport
import CallBook.Http.Body
import CallBook.Http.Credentials
import CallBook.Http.HeaderMap

/-!
# Calls on the wire

An outbound call becomes a request line, header fields and a body. Its headers are attached one
after another, and then, unless they are among them, what every request has: the media types and
encodings that are accepted, and the host. Nothing is written for a call with a header that is no
field, for a scheme other than `http` and `https`, or for a host that no request can name.

How the body is delimited is for the headers to say, as far as they make sense. Transfer encodings
end in that of chunks, if need be by adding it; without any, a body is cut to the length that the
headers agree on, and without such a length it gets its own.
-/

namespace CallBook.Http

open Text.Utf8 (encode)

/-- A request as it is written. -/
structure Wire where
  line : String
  fields : List Field
  /-- The bytes of the body that go out. -/
  content : List UInt8 := []
  /-- The body goes out in one chunk and the last, which is empty. -/
  inChunks : Bool := false
  deriving DecidableEq

/-- A number in hexadecimal, upper case. -/
def sizeText (n : Nat) : List Char := (Text.hexText n).map Char.toUpper

/-- Bytes in one chunk and the last. -/
def inOneChunk (bytes : List UInt8) : List UInt8 :=
  encode (sizeText bytes.length) ++ [13, 10] ++ bytes ++ [13, 10, 48, 13, 10, 13, 10]

namespace Wire

/-- What is written behind the empty line. -/
def payload (w : Wire) : List UInt8 := if w.inChunks then inOneChunk w.content else w.content

/-- The body as a text. -/
def body (w : Wire) : String := String.ofList (Text.Utf8.decodeLossy w.content)

end Wire

/-- An error and its causes in one line; a cause that is mentioned already is left out. -/
def described : List String → String
  | [] => ""
  | error :: causes =>
    causes.foldl (fun text cause =>
      if Text.occursIn cause.toList text.toList then text else text ++ ": " ++ cause) error

/-- Why nothing is written. -/
inductive WireError
  | field (e : FieldError)
  | scheme (url : Url)
  | address (url : Url)
  /-- A map is full while the request is put together, and the program stops. -/
  | crowded
  /-- A map is full when the request is to be written, and the connection is given up. -/
  | gone (url : Url)
  deriving DecidableEq

/-- The wording of an error. -/
def WireError.message : WireError → String
  | field e => described ["builder error", e.message]
  | scheme url =>
    described ["builder error for url (" ++ url.text ++ ")", "URL scheme is not allowed"]
  | address url =>
    described ["builder error for url (" ++ url.text ++ ")", "Parsed Url is not a valid Uri"]
  | crowded => "size overflows MAX_SIZE: MaxSizeReached"
  | gone url =>
    described ["error sending request for url (" ++ url.text ++ ")", "client error (SendRequest)",
      "dispatch task is gone", "user code panicked"]

/-- A character that a request can write in a host name. -/
def isHostChar (c : Char) : Bool := c ∉ ['"', '\x60', '{', '}']

/-- The longest URL of a request, in characters. -/
def longestUrl : Nat := 65534

/-- A request can name this URL. -/
def canAddress (u : Url) : Bool :=
  u.text.length ≤ longestUrl && u.host?.all fun h => h.text.toList.all isHostChar

/-- The value of the host field: the port is left out where the scheme stands for it. -/
def hostValue (u : Url) : String :=
  match u.authority with
  | none => ""
  | some a => a.host.text ++ a.portText

/-- The URL that a call names, without credentials. -/
def addressOf (o : Outbound) : Url := (splitCredentials o.url).1

/-- The headers of a call, behind what its URL says of the caller. -/
def given (o : Outbound) : List (String × String) :=
  ((splitCredentials o.url).2.map ("authorization", ·)).toList ++ o.headers.entries

/-! ### Headers -/

/-- The headers so far with one more. -/
def attach (m : HeaderMap) (header : String × String) : Except WireError HeaderMap :=
  match field header.1 header.2 with
  | .error e => .error (.field e)
  | .ok f => if m.isFull then .error .crowded else .ok (m.push f.name f.value)

/-- Attaches headers one after another; the first that cannot be attached decides. -/
def attachAll (m : HeaderMap) : List (String × String) → Except WireError HeaderMap
  | [] => .ok m
  | header :: more => do attachAll (← attach m header) more

/-- The headers with one that every request has, unless they have one of its name. -/
def withDefault (m : HeaderMap) (name value : String) : Except WireError HeaderMap :=
  if m.isFull then .error .crowded
  else .ok (if m.contains name then m else m.push name (encode value.toList))

/-- The headers with all that every request to a URL has. -/
def withDefaults (m : HeaderMap) (url : Url) : Except WireError HeaderMap := do
  let m ← withDefault m "accept" "*/*"
  if !canAddress url then .error (.address url)
  else
    let m ← withDefault m "accept-encoding" "gzip,br"
    withDefault m "host" (hostValue url)

/-! ### Bodies -/

/-- Headers as they are written, and what goes out of a body. -/
structure Framed where
  headers : HeaderMap
  content : List UInt8 := []
  inChunks : Bool := false

/-- Transfer encodings that end in that of chunks. -/
def endedInChunks (encodings : List (List UInt8)) : List (List UInt8) :=
  if endsChunked encodings then encodings
  else encodings.dropLast ++ [encodings.getLast?.getD [] ++ encode ", chunked".toList]

/-- Delimits a body as the headers say, unless their map is full. -/
def framed (m : HeaderMap) (body : List UInt8) : Option Framed :=
  if body.isEmpty then some { headers := m.swapErase "transfer-encoding" }
  else if m.isFull then none
  else
    let length := agreedLength? (m.valuesOf "content-length")
    match m.get? "transfer-encoding", length with
    | some encodings, _ =>
      let m := m.insert "transfer-encoding" (endedInChunks encodings)
      some { headers := if length.isSome then m.swapErase "content-length" else m
             content := body, inChunks := true }
    | none, some n => some { headers := m, content := body.take n }
    | none, none =>
      let length := encode (Text.decimalText body.length)
      some { headers := m.insert "content-length" [length], content := body }

/-- The request of a call. -/
def wire (o : Outbound) : Except WireError Wire := do
  let url := addressOf o
  let m ← attachAll .empty (given o)
  if !(url.scheme = "http" || url.scheme = "https") then .error (.scheme url)
  else
    let m ← withDefaults m url
    match framed m (encode (o.body.getD "").toList) with
    | none => .error (.gone url)
    | some f =>
      .ok { line := o.method.verb ++ " " ++ url.target ++ " HTTP/1.1"
            fields := f.headers.fields, content := f.content, inChunks := f.inChunks }

end CallBook.Http
