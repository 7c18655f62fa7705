import CallBook.Text.Blank
import CallBook.Text.Ascii

/-!
# Request methods

A saved call uses one of seven methods. Any text can be read as a method: white space around it
and the case of its letters do not matter, and a text that names none of the seven is `GET`.
-/

namespace CallBook

/-- The methods that a saved call may use. -/
inductive Method
  | get | post | put | delete | patch | head | options
  deriving DecidableEq, Repr, Inhabited

namespace Method

/-- All seven, in the order in which they are tried. -/
def all : List Method := [get, post, put, delete, patch, head, options]

/-- The word in a request line. -/
def verb : Method → String
  | get => "GET"
  | post => "POST"
  | put => "PUT"
  | delete => "DELETE"
  | patch => "PATCH"
  | head => "HEAD"
  | options => "OPTIONS"

/-- The method that a text names, `GET` if it names none. -/
def ofText (text : String) : Method :=
  (all.find? fun m => Text.sameIgnoringCase m.verb (Text.trimmed text)).getD get

/-- `POST`, `PUT` and `PATCH` send their fields as a body; the others send none. -/
def carriesBody : Method → Bool
  | post | put | patch => true
  | _ => false

/-- The word of a method names that method. -/
@[simp] theorem ofText_verb (m : Method) : ofText m.verb = m := by
  cases m <;> decide

end Method

end CallBook
