import CallBook.Http.Body
import CallBook.Http.Charset
import CallBook.Http.Wire

/-!
# One exchange

A call is written, the peer replies and closes the connection, and the reply is read. An interim
reply is passed over. Redirects are not followed: whatever reply comes is the response. A body that
is packed is unpacked, and the fields that say so are not handed on. A call that cannot be written
is not sent at all.
-/

namespace CallBook.Http

/-- What was written, and what came of it. -/
structure Exchange where
  sent : Option Wire
  /-- The program stopped while the request was put together, and there is no answer. -/
  stopped : Bool := false
  answer : Except TransportError Response

/-- A reply that is followed by another. -/
def isInterim (status : Nat) : Bool := status < 200 && status ≠ 101

/-- Reads heads up to the one that counts; every head takes bytes. -/
def finalHead : (fuel : Nat) → List UInt8 → Except HeadError (Head × List UInt8)
  | 0, _ => .error .incomplete
  | fuel + 1, bytes =>
    match head bytes with
    | .error e => .error e
    | .ok (h, rest) => if isInterim h.status then finalHead fuel rest else .ok (h, rest)

/-- The head of a reply, and the bytes of its body or why they are broken. -/
def readReply (method : Method) (bytes : List UInt8) :
    Except HeadError (Head × Except BodyError (List UInt8)) := do
  let (h, rest) ← finalHead (bytes.length + 1) bytes
  let framing ← if h.status = 101 then .ok (.length 0) else framing method h
  .ok (h, bodyBytes framing rest)

/-- A request that got no head. -/
def headFailure (url : Url) (e : HeadError) : TransportError :=
  .request (described
    ["error sending request for url (" ++ url.text ++ ")", "client error (SendRequest)", e.message])

/-- A response whose body is broken. -/
def bodyFailure (e : BodyError) : TransportError :=
  .body (described
    ["error decoding response body", "request or response body error",
      "error reading a body from connection", e.message])

/-- A response whose body cannot be unpacked. -/
def unpackFailure (reason : String) : TransportError :=
  .body (described ["error decoding response body", reason])

/-! ### Packed bodies -/

/-- The ways to pack a body that are undone. -/
inductive Packing
  | gzip
  | brotli
  deriving DecidableEq, Repr

/-- The packing that a content encoding names. -/
def Packing.ofValue? (value : List UInt8) : Option Packing :=
  if value = Text.Utf8.encode "gzip".toList then some gzip
  else if value = Text.Utf8.encode "br".toList then some brotli
  else none

/-- Unpacks bytes, or says why it cannot. -/
abbrev Unpacker := Packing → List UInt8 → Except String (List UInt8)

/-- Unpacks nothing. -/
def noUnpacker : Unpacker := fun _ _ => .error "unexpected end of file"

/-- The packing that a reply names first. -/
def packing? (m : HeaderMap) : Option Packing :=
  (m.valuesOf "content-encoding").head?.bind Packing.ofValue?

/-- The headers that are handed on of a reply, and its body. -/
def unpacked (unpack : Unpacker) (m : HeaderMap) (bytes : List UInt8) :
    HeaderMap × Except String (List UInt8) :=
  match packing? m with
  | none => (m, .ok bytes)
  | some packing =>
    ((m.swapErase "content-encoding").swapErase "content-length", unpack packing bytes)

/-! ### Sending -/

/-- The response that a reply is. -/
def response (unpack : Unpacker) (o : Outbound) (reply : List UInt8) :
    Except TransportError Response :=
  match readReply o.method reply with
  | .error e => .error (headFailure (addressOf o) e)
  | .ok (_, .error e) => .error (bodyFailure e)
  | .ok (h, .ok bytes) =>
    match unpacked unpack (.ofFields h.fields) bytes with
    | (_, .error reason) => .error (unpackFailure reason)
    | (m, .ok bytes) =>
      let contentType := (m.valuesOf "content-type").head?.bind asciiValue?
      .ok { status := h.status, headers := grouped m.fields, body := bodyText contentType bytes }

/-- Sends a call to a peer that replies with these bytes. -/
def exchange (o : Outbound) (reply : List UInt8) (unpack : Unpacker := noUnpacker) : Exchange :=
  match wire o with
  | .error e =>
    { sent := none, stopped := decide (e = .crowded), answer := .error (.request e.message) }
  | .ok w => { sent := some w, answer := response unpack o reply }

/-- A transport without a connection: whatever can be written gets no reply. -/
def unconnected : Transport := fun o =>
  match wire o with
  | .error e => .error (.request e.message)
  | .ok _ =>
    .error (.request (described
      ["error sending request for url (" ++ (addressOf o).text ++ ")", "client error (Connect)"]))

end CallBook.Http
