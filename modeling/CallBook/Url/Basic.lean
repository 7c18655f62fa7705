import CallBook.Url.Address

/-!
# URLs

A URL has a scheme, possibly an authority (credentials, host and port), a path, and possibly a
query and a fragment. All texts are kept as they stand in the URL, percent-encoded where they have
to be; `Url.text` puts the parts together. `UrlError` says why a text is no URL.
-/

namespace CallBook

/-- What an authority names. -/
inductive Host
  | empty
  | name (text : String)
  | ipv4 (address : Nat)
  | ipv6 (pieces : List Nat)
  deriving DecidableEq, Repr, Inhabited

/-- The host as it stands in a URL. -/
def Host.text : Host → String
  | .empty => ""
  | .name text => text
  | .ipv4 address => String.ofList (Url.ipv4Text address)
  | .ipv6 pieces => String.ofList ('[' :: Url.ipv6Text pieces ++ [']'])

/-- Who is addressed, with which credentials. An empty password is none. -/
structure Authority where
  user : String := ""
  password : String := ""
  host : Host
  port : Option Nat := none
  deriving DecidableEq, Repr, Inhabited

namespace Authority

/-- The credentials with the `@` after them, nothing if there are none. -/
def credentialsText (a : Authority) : String :=
  if a.user.isEmpty && a.password.isEmpty then ""
  else if a.password.isEmpty then a.user ++ "@"
  else a.user ++ ":" ++ a.password ++ "@"

/-- The port with the colon before it. -/
def portText (a : Authority) : String :=
  match a.port with
  | none => ""
  | some port => ":" ++ Text.decimal port

/-- The authority as it stands in a URL, without the slashes before it. -/
def text (a : Authority) : String := a.credentialsText ++ a.host.text ++ a.portText

end Authority

/-- A path is one text that means nothing here, or segments with a slash before each. -/
inductive Path
  | plain (text : String)
  | rooted (segments : List String)
  deriving DecidableEq, Repr, Inhabited

/-- The path as it stands in a URL. -/
def Path.text : Path → String
  | .plain text => text
  | .rooted segments => String.join (segments.map ("/" ++ ·))

/-- A URL by its parts. -/
structure Url where
  scheme : String
  authority : Option Authority := none
  path : Path
  query : Option String := none
  fragment : Option String := none
  deriving DecidableEq, Repr, Inhabited

namespace Url

/-- The schemes whose URLs have an authority and a path. -/
def isSpecialScheme (scheme : String) : Bool :=
  ["http", "https", "ws", "wss", "ftp", "file"].contains scheme

/-- The port that a scheme stands for. -/
def knownPort? (scheme : String) : Option Nat :=
  match scheme with
  | "http" | "ws" => some 80
  | "https" | "wss" => some 443
  | "ftp" => some 21
  | _ => none

/-- The host, if one is named. -/
def host? (u : Url) : Option Host :=
  match u.authority with
  | none | some { host := .empty, .. } => none
  | some a => some a.host

/-- The port, that of the scheme if none is given. -/
def port? (u : Url) : Option Nat :=
  match u.authority.bind (·.port) with
  | some port => some port
  | none => knownPort? u.scheme

/-- What stands between the scheme and the path. A path that begins with two slashes would be taken
for an authority, so that it gets a dot segment in front. -/
def authorityText (u : Url) : String :=
  match u.authority, u.path with
  | some a, _ => "//" ++ a.text
  | none, .rooted ("" :: _ :: _) => "/."
  | none, _ => ""

/-- A part that may be missing, after its mark. -/
def partText (mark : String) : Option String → String
  | none => ""
  | some text => mark ++ text

/-- The URL as a text. -/
def text (u : Url) : String :=
  u.scheme ++ ":" ++ u.authorityText ++ u.path.text ++ partText "?" u.query
    ++ partText "#" u.fragment

/-- What a request line asks for: path and query. -/
def target (u : Url) : String := u.path.text ++ partText "?" u.query

end Url

/-- Why a text is no URL. -/
inductive UrlError
  | noScheme
  | emptyHost
  | port
  | domain
  | ipv4
  | ipv6
  | hostCharacter
  deriving DecidableEq, Repr

/-- The wording of an error. -/
def UrlError.message : UrlError → String
  | noScheme => "relative URL without a base"
  | emptyHost => "empty host"
  | port => "invalid port number"
  | domain => "invalid international domain name"
  | ipv4 => "invalid IPv4 address"
  | ipv6 => "invalid IPv6 address"
  | hostCharacter => "invalid domain character"

end CallBook
