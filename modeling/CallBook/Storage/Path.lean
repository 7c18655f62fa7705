import CallBook.Text.Search

/-!
# Paths

A path is a text with slashes. Only what is shown in messages depends on how it is written; what
stands at a path depends on its steps.
-/

namespace CallBook.Path

open CallBook.Text

/-- A path below another. -/
def join (base name : String) : String :=
  if base.isEmpty || base.toList.getLast? = some '/' then base ++ name else base ++ "/" ++ name

/-- A text without slashes, and without steps that stay in place, at its end. -/
def trimEnd : (reversed : List Char) → List Char
  | '/' :: rest => if rest.isEmpty then ['/'] else trimEnd rest
  | ['.', '/'] => ['/']
  | '.' :: '/' :: rest => trimEnd rest
  | rest => rest

/-- The directory of a file below a base, as it is shown. -/
def directory (base : String) : String := String.ofList (trimEnd base.toList.reverse).reverse

/-- The path begins at the root. -/
def isAbsolute (path : String) : Bool := beginsWith ['/'] path.toList

/-- The steps of a path; those that stay in place are left out. -/
def steps (path : String) : List String :=
  ((fields (· == '/') path.toList).map String.ofList).filter fun s => !(s.isEmpty || s == ".")

/-- A path that can only be that of a directory. -/
def endsInStep (path : String) : Bool :=
  endsWith ['/'] path.toList || endsWith ['/', '.'] path.toList

end CallBook.Path
