import CallBook.Call.Request
import CallBook.Terminal.Style

/-!
# Listings

Saved calls are listed by group: the groups in the order of their first calls, under each its calls
in their order. Calls without a group stand under a heading of their own.
-/

namespace CallBook.Cli

open CallBook.Terminal

/-- A text with blanks after it up to a width. -/
def padRight (width : Nat) (s : String) : String :=
  s ++ String.ofList (List.replicate (width - s.length) ' ')

/-- A text with blanks before it up to a width. -/
def padLeft (width : Nat) (s : String) : String :=
  String.ofList (List.replicate (width - s.length) ' ') ++ s

/-- The heading of calls without a group. -/
def ungrouped : String := "Ungrouped"

/-- The heading under which a call stands. -/
def headingOf (r : Request) : String := r.group.getD ungrouped

/-- The calls under each heading. -/
def groups (rs : List Request) : OrderedMap (List Request) :=
  rs.foldl (fun m r => m.insert (headingOf r) ((m.get? (headingOf r)).getD [] ++ [r])) .empty

/-- The line of a call. -/
def callLine (colours : Bool) (r : Request) : String :=
  "  " ++ (Style.color .cyan).paint colours (padRight 7 r.method.verb) ++ " " ++ r.name ++ "  "
    ++ dim.paint colours r.url

/-- A heading and the lines of its calls. -/
def groupLines (colours : Bool) (heading : String) (rs : List Request) : List String :=
  bold.paint colours heading :: rs.map (callLine colours)

/-- The lines of a listing. -/
def listing (colours : Bool) (rs : List Request) : List String :=
  if rs.isEmpty then ["No saved requests."]
  else (groups rs).entries.flatMap fun p => groupLines colours p.1 p.2

/-- The lines of the entries of an archive, with their numbers from `number` on. -/
def entryLines : (number : Nat) → List String → List String
  | _, [] => []
  | number, summary :: more =>
    (padLeft 4 (Text.decimal number) ++ "  " ++ summary) :: entryLines (number + 1) more

/-- The line of an environment; the default one is marked. -/
def environmentLine (colours : Bool) (default : Option String) (name : String) (e : Environment) :
    String :=
  bold.paint colours name ++ dim.paint colours (if default = some name then " (default)" else "")
    ++ "  " ++ Text.decimal e.vars.size ++ " variable(s)"

/-- The lines of all environments. -/
def environmentLines (colours : Bool) (default : Option String) (es : OrderedMap Environment) :
    List String :=
  if es.isEmpty then ["No environments."]
  else es.entries.map fun p => environmentLine colours default p.1 p.2

/-- The lines of one environment. -/
def variableLines (colours : Bool) (e : Environment) : List String :=
  bold.paint colours e.name :: e.vars.entries.map fun p => "  " ++ p.1 ++ " = " ++ p.2

end CallBook.Cli
