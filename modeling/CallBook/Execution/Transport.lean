import CallBook.Execution.Outbound

/-!
# Transports

A transport takes an outbound call and gives a response. Which one is taken depends on the URL: a
target on the own machine is not asked for a valid certificate. A URL that mentions such a target
anywhere counts as local if its host is an address, or a name that the machine knows.
-/

namespace CallBook

/-- Why a transport gave no response. -/
inductive TransportError
  | client (reason : String)
  | timeout (millis : Nat)
  | request (reason : String)
  | body (reason : String)
  deriving DecidableEq, Repr

/-- The wording of an error. -/
def TransportError.message : TransportError → String
  | client reason => "Failed to build HTTP client: " ++ reason
  | timeout millis => "Request timed out after " ++ Text.decimal (millis / 1000) ++ "s"
  | request reason => "Request failed: " ++ reason
  | body reason => "Failed to read response body: " ++ reason

/-- What came back. -/
structure Response where
  status : Nat
  headers : MultiMap
  body : String
  deriving DecidableEq

/-- Sends a call. -/
abbrev Transport := Outbound → Except TransportError Response

/-- Chooses the transport for a URL. -/
abbrev Selector := Url → Except TransportError Transport

/-! ### The choice -/

/-- Whether certificates have to be valid. -/
inductive TransportKind
  | standard
  | relaxed
  deriving DecidableEq, Repr

/-- The name of a kind. -/
def TransportKind.label : TransportKind → String
  | standard => "standard"
  | relaxed => "relaxed"

/-- Texts that stand for the own machine. -/
def localMarkers : List String := ["localhost", "127.0.0.1", "::1"]

/-- The text mentions the own machine somewhere, whatever the case of its letters. -/
def isLocalTarget (text : String) : Bool :=
  localMarkers.any fun m => Text.occursIn m.toList (Text.lowerAscii text).toList

/-- An address can be reached as it is, a name if it is an address after all or is `known`. -/
def Host.resolves (known : String → Bool) : Host → Bool
  | .empty => false
  | .name text =>
    (Url.ipv4? text.toList).isSome && text.toList.getLast? != some '.' || known text
  | .ipv4 _ | .ipv6 _ => true

/-- The host of a URL can be reached. -/
def Url.resolves (known : String → Bool) (u : Url) : Bool :=
  u.port?.isSome && u.host?.any (Host.resolves known)

/-- The kind of transport for a URL; `known` says which host names the machine knows. -/
def Url.transportKind (known : String → Bool) (u : Url) : TransportKind :=
  if isLocalTarget u.text && u.resolves known then .relaxed else .standard

end CallBook
