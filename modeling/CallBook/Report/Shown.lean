import CallBook.Report.Lines
import CallBook.Terminal.Style

/-!
# Reports on a terminal

A report is shown line by line. Where there are colours, the status or the error is bold in a colour
for the class of the status, headings are bold, and the duration is dim. A carriage return before a
line feed is not shown.
-/

namespace CallBook.Report

open CallBook.Terminal

/-- A line without the carriage return at its end. -/
def withoutReturn (line : List Char) : List Char :=
  if line.getLast? = some '\r' then line.dropLast else line

/-- The lines of a text; what follows the last line feed is a line unless it is empty. -/
def linesOf (text : String) : List String :=
  let parts := Text.fields (· == '\n') text.toList
  let ended := parts.dropLast.map withoutReturn
  let last := (parts.getLast?.toList).filter fun part => !part.isEmpty
  (ended ++ last).map String.ofList

/-- The colour for the class of a status. -/
def statusColor (status : Nat) : Color :=
  if status = 0 || 400 ≤ status then .red else if 300 ≤ status then .yellow else .green

/-- A character of a heading. -/
def isHeadingChar (c : Char) : Bool := c.isUpper || c = ' ' || c = ':'

/-- A line that looks like a heading. -/
def isHeading (line : List Char) : Bool :=
  line.getLast? = some ':' && line.all isHeadingChar

/-- The style of a line. -/
def lineStyle? (status : Nat) (line : String) : Option Style :=
  let begins := fun start : String => Text.beginsWith start.toList line.toList
  if begins "Status: " || begins "Error: " then some (.both .bold (statusColor status))
  else if isHeading line.toList then some bold
  else if begins "Duration: " then some dim
  else none

/-- A line as it is shown. -/
def shownLine (colours : Bool) (status : Nat) (line : String) : String :=
  match lineStyle? status line with
  | some style => style.paint colours line
  | none => line

/-- A report as it is shown. -/
def shown (colours : Bool) (request : Request) (environment : Environment) (result : CallResult) :
    String :=
  unlines ((linesOf (text request environment result)).map (shownLine colours result.status))

end CallBook.Report
