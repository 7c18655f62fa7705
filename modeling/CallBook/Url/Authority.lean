import CallBook.Url.Basic
import CallBook.Url.Domain
import CallBook.Url.Percent

/-!
# Reading the authority of a URL

Credentials stand before the last `@`, a port after a colon outside brackets, and the host between
them. The host of a special URL is an address or a domain name and may not be empty; the host of
another URL is kept as it is, unless it is in brackets.
-/

namespace CallBook.Url

open CallBook.Text

/-! ### Host -/

/-- A character that a host with no meaning here may not hold. -/
def isForbiddenInHost (c : Char) : Bool :=
  c ∈ ['\x00', '\t', '\n', '\r', ' ', '#', '/', ':', '<', '>', '?', '@', '[', '\\', ']', '^', '|']

/-- A host in brackets, without the first. -/
def bracketed (s : List Char) : Except UrlError Host :=
  match s.reverse with
  | ']' :: inner =>
    match ipv6? inner.reverse with
    | some pieces => .ok (.ipv6 pieces)
    | none => .error .ipv6
  | _ => .error .ipv6

/-- The host of a special URL. -/
def specialHost (s : List Char) : Except UrlError Host :=
  match s with
  | '[' :: rest => bracketed rest
  | _ =>
    match Domain.toAscii? (percentDecode s) with
    | none => .error .domain
    | some [] => .error .emptyHost
    | some domain =>
      if endsInNumber domain then
        match ipv4? domain with
        | some address => .ok (.ipv4 address)
        | none => .error .ipv4
      else .ok (.name (String.ofList domain))

/-- The host of a URL whose scheme is not special. -/
def plainHost (s : List Char) : Except UrlError Host :=
  match s with
  | '[' :: rest => bracketed rest
  | [] => .ok .empty
  | _ =>
    if s.any isForbiddenInHost then .error .hostCharacter
    else .ok (.name (String.ofList (encodeText encodesAlways s)))

/-! ### Authority -/

/-- A character that ends the authority. -/
def endsAuthority (special : Bool) (c : Char) : Bool :=
  c = '/' || c = '?' || c = '#' || (special && c = '\\')

/-- User name and password: the first colon separates them. -/
def credentials (s : List Char) : String × String :=
  let encoded := fun part => String.ofList (encodeText inUserSet part)
  match splitFirst ':' s with
  | none => (encoded s, "")
  | some (user, password) => (encoded user, encoded password)

/-- The length of the host at the front of a text: up to a colon outside brackets. -/
def hostLength : (inBrackets : Bool) → List Char → Nat
  | _, [] => 0
  | inBrackets, c :: rest =>
    if c = ':' && !inBrackets then 0
    else hostLength (if c = '[' then true else if c = ']' then false else inBrackets) rest + 1

/-- The port after a colon; leading zeros do not matter, and the port of the scheme is dropped. -/
def readPort (scheme : String) (s : List Char) : Except UrlError (Option Nat) :=
  if !s.all isDigit then .error .port
  else
    let port := decimalValue s
    if 65535 < port then .error .port
    else .ok (if s.isEmpty || knownPort? scheme = some port then none else some port)

/-- Host and port. `bare` says that no credentials stand before them. -/
def hostAndPort (scheme : String) (special bare : Bool) (s : List Char) :
    Except UrlError (Host × Option Nat) :=
  let length := hostLength false s
  let rest := s.drop length
  if length = 0 && (special || !rest.isEmpty) then .error .emptyHost
  else do
    let host ← if special then specialHost (s.take length) else plainHost (s.take length)
    let port ← match rest with
      | [] => pure none
      | _ :: digits => readPort scheme digits
    if host = .empty && !bare then .error .emptyHost else .ok (host, port)

/-- An authority up to its end, and what follows. Credentials stand before the last `@`. In a URL
that is not special, a backslash ends the port as well. -/
def readAuthority (scheme : String) (special : Bool) (s : List Char) :
    Except UrlError (Authority × List Char) :=
  let inside := s.takeWhile fun c => !endsAuthority special c
  let after := s.dropWhile fun c => !endsAuthority special c
  let (user, hostPart) := (splitLast '@' inside).getD ([], inside)
  if user.isEmpty && hostPart.isEmpty && hostPart.length < inside.length && !after.isEmpty then
    .error .emptyHost
  else do
    let (user, password) := credentials user
    let portPart := hostPart.drop (hostLength false hostPart)
    let cut := if special then hostPart.length
      else hostPart.length - portPart.length + (portPart.takeWhile (· ≠ '\\')).length
    let (host, port) ←
      hostAndPort scheme special (user.isEmpty && password.isEmpty) (hostPart.take cut)
    .ok ({ user, password, host, port }, hostPart.drop cut ++ after)

end CallBook.Url
