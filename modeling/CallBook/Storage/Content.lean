import CallBook.Text.Utf8

/-!
# What stands at a path

At a path there is nothing, a directory, or a file with some bytes. Only a file in UTF-8 can be read
as a text; the other cases are errors in the words of the operating system.
-/

namespace CallBook

/-- What stands at a path. -/
inductive Content
  | missing
  | directory
  | file (bytes : List UInt8)
  deriving DecidableEq, Repr, Inhabited

/-- Why a path cannot be used. -/
inductive FileError
  | missing
  | notDirectory
  | isDirectory
  | exists
  | notText
  /-- Whatever else the operating system says, in its words. -/
  | other (text : String)
  deriving DecidableEq, Repr

/-- The wording of an error. -/
def FileError.message : FileError → String
  | missing => "No such file or directory (os error 2)"
  | «exists» => "File exists (os error 17)"
  | notDirectory => "Not a directory (os error 20)"
  | isDirectory => "Is a directory (os error 21)"
  | notText => "stream did not contain valid UTF-8"
  | other text => text

namespace Content

/-- A file with a text. -/
def ofText (text : String) : Content := .file (Text.Utf8.encode text.toList)

/-- The text of a file. -/
def text? : Content → Except FileError String
  | missing => .error .missing
  | directory => .error .isDirectory
  | file bytes =>
    match Text.Utf8.decode? bytes with
    | some text => .ok (String.ofList text)
    | none => .error .notText

/-- There is something. -/
def isThere : Content → Bool
  | missing => false
  | _ => true

end Content

end CallBook
