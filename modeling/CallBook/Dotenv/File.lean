import CallBook.Call.Request
import CallBook.Dotenv.Lines
import CallBook.Dotenv.Value

/-!
# Dotenv files

A dotenv file assigns values to names, one assignment a line, possibly after the word `export`. A
value may refer to names of the process environment and to names assigned before; the process
environment wins, and a name without a value stands for nothing. The first broken line makes the
whole file unreadable.
-/

namespace CallBook.Dotenv

open CallBook.Text

/-- A line that cannot be read: its text, and the place where reading stopped. -/
structure LineError where
  line : String
  index : Nat
  deriving DecidableEq, Repr

/-- The wording of an error. -/
def LineError.message (e : LineError) : String :=
  "Error parsing line: '" ++ e.line ++ "', error at line index: " ++ decimal e.index

/-! ### Names -/

/-- The size of a text in bytes. -/
def byteSize (s : List Char) : Nat := (String.ofList s).utf8ByteSize

/-- The first character of a name. -/
def startsName (c : Char) : Bool := isAsciiLetter c || c = '_'

/-- A further character of a name. -/
def isNameChar (c : Char) : Bool := isAsciiLetter c || isDigit c || c = '_' || c = '.'

/-- The name at the front of a text, and what follows it. -/
def name? : List Char → Option (List Char × List Char)
  | [] => none
  | c :: rest =>
    if startsName c then some ((c :: rest).takeWhile isNameChar, (c :: rest).dropWhile isNameChar)
    else none

/-- A name and the text behind its equals sign, or the text at which reading stopped. -/
def assignment (s : List Char) : Except (List Char) (List Char × List Char) :=
  match name? s with
  | none => .error s
  | some (name, rest) =>
    match trimStart rest with
    | '=' :: value => .ok (name, trimStart value)
    | rest => .error rest

/-- `assignment`, with the word `export` before it if that is no name itself. -/
def exportedAssignment (s : List Char) : Except (List Char) (List Char × List Char) :=
  match assignment s, name? s with
  | .error _, some (['e', 'x', 'p', 'o', 'r', 't'], rest) => assignment (trimStart rest)
  | result, _ => result

/-! ### Values -/

/-- The value of a name in the process environment, whose entries are texts `name=value`. -/
def processValue? (process : List (String × String)) (name : List Char) : Option (List Char) :=
  process.findSome? fun p => dropPrefix? (name ++ ['=']) (p.1 ++ "=" ++ p.2).toList

/-- What a reference stands for. -/
def lookup (process : List (String × String)) (assigned : Variables) (name : List Char) :
    List Char :=
  match processValue? process name with
  | some value => value
  | none => ((assigned.get? (String.ofList name)).getD "").toList

/-- Reads the value of an assignment. -/
def valueOf (lookup : List Char → List Char) (s : List Char) : Except LineError String :=
  match s with
  | [] | '#' :: _ => .ok ""
  | _ =>
    match readValue lookup (.plain false) 0 s with
    | .ok value => .ok (String.ofList value)
    | .error (some index) => .error ⟨String.ofList s, index⟩
    | .error none => .error ⟨String.ofList s, byteSize s - 1⟩

/-- Name and value that a line assigns, nothing if it is empty or a comment. -/
def readLine (lookup : List Char → List Char) (line : List Char) :
    Except LineError (Option (String × String)) :=
  match trimStart (trimEnd line) with
  | [] | '#' :: _ => .ok none
  | s =>
    match exportedAssignment s with
    | .error rest => .error ⟨String.ofList line, byteSize (trimEnd line) - byteSize rest⟩
    | .ok (name, value) => (valueOf lookup value).map fun value => some (String.ofList name, value)

/-- The assignments of lines, made after those in `assigned`. -/
def readLines (process : List (String × String)) :
    (assigned : Variables) → List (Except (List Char) (List Char)) → Except LineError Variables
  | assigned, [] => .ok assigned
  | _, .error text :: _ => .error ⟨String.ofList text, byteSize text⟩
  | assigned, .ok line :: more =>
    match readLine (lookup process assigned) line with
    | .error e => .error e
    | .ok none => readLines process assigned more
    | .ok (some (name, value)) => readLines process (assigned.insert name value) more

/-- The variables that a file assigns. -/
def read (process : List (String × String)) (text : String) : Except LineError Variables :=
  readLines process .empty (logicalLines [] .plain (physicalLines text.toList))

end CallBook.Dotenv
