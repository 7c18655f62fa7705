import CallBook.Url.Basic
import CallBook.Url.Percent

/-!
# Credentials

User name and password of a URL are sent as one text in base 64: three bytes become four digits of
six bits, and `=` fills up the last group. They are then no part of the URL any more.
-/

namespace CallBook.Http

open CallBook.Text

/-- The digit of a value below 64. -/
def base64Digit (n : Nat) : Char :=
  if n < 26 then Char.ofNat (65 + n)
  else if n < 52 then Char.ofNat (71 + n)
  else if n < 62 then Char.ofNat (n - 4)
  else if n = 62 then '+'
  else '/'

/-- Bytes in base 64. -/
def base64 : List UInt8 → List Char
  | [] => []
  | [a] =>
    let n := a.toNat * 16
    [base64Digit (n / 64), base64Digit (n % 64), '=', '=']
  | [a, b] =>
    let n := (a.toNat * 256 + b.toNat) * 4
    [base64Digit (n / 4096), base64Digit (n / 64 % 64), base64Digit (n % 64), '=']
  | a :: b :: c :: rest =>
    let n := a.toNat * 65536 + b.toNat * 256 + c.toNat
    base64Digit (n / 262144) :: base64Digit (n / 4096 % 64) :: base64Digit (n / 64 % 64)
      :: base64Digit (n % 64) :: base64 rest

/-- The text that an encoded part of a URL stands for. -/
def decodedPart? (part : String) : Option (List Char) :=
  Utf8.decode? (Url.percentDecode part.toList)

/-- User name and password of an authority; a password that is no text counts as none. -/
def credentials? (a : Authority) : Option (List Char × Option (List Char)) :=
  match decodedPart? a.user with
  | none => none
  | some user =>
    let password := if a.password.isEmpty then none else decodedPart? a.password
    if user.isEmpty && password.isNone then none else some (user, password)

/-- A URL without its credentials, and these as the value of a header. -/
def splitCredentials (u : Url) : Url × Option String :=
  match u.authority with
  | none => (u, none)
  | some a =>
    match credentials? a with
    | none => (u, none)
    | some (user, password) =>
      let pair := user ++ ':' :: password.getD []
      ({ u with authority := some { a with user := "", password := "" } },
        some ("Basic " ++ String.ofList (base64 (Utf8.encode pair))))

end CallBook.Http
