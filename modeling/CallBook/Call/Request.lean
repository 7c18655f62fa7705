import CallBook.OrderedMap
import CallBook.Call.Method

/-!
# Saved calls and environments

A `Request` is a saved call: where it goes, with which method, headers and fields, and the group
it is filed under. Each of its texts may hold placeholders, which the variables of an
`Environment` fill in. A `CallResult` is what came of one execution.
-/

namespace CallBook

/-- A saved call. -/
structure Request where
  name : String := ""
  url : String := ""
  method : Method := .get
  headers : OrderedMap String := .empty
  body : OrderedMap String := .empty
  group : Option String := none
  deriving DecidableEq, Inhabited

/-- The variables of an environment. -/
abbrev Variables := OrderedMap String

/-- Named variables that fill in placeholders. -/
structure Environment where
  name : String := ""
  vars : Variables := .empty
  deriving DecidableEq, Inhabited

/-- Several values under each name, in order. -/
abbrev MultiMap := OrderedMap (List String)

/-- What came of one execution. Status 0 says that there was no response; `error` then says why. -/
structure CallResult where
  status : Nat := 0
  body : String := ""
  headers : MultiMap := .empty
  durationMs : Nat := 0
  error : Option String := none
  deriving DecidableEq, Inhabited

namespace CallResult

/-- The result of an execution that got no response. -/
def failure (error : String) (durationMs : Nat) : CallResult :=
  { durationMs, error := some error }

/-- A response with a status from 200 to 299. -/
def isSuccess (r : CallResult) : Bool :=
  r.error.isNone && 200 ≤ r.status && r.status < 300

end CallResult

end CallBook
