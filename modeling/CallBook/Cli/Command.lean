import CallBook.Cli.Options
import CallBook.Text.Ascii

/-!
# Commands

The commands of the program and how they are said. The data directory may be given before or after
any of the words that name the command; the last place wins, and the environment stands in where
none is given.
-/

namespace CallBook.Cli

/-- Which calls of an archive are imported, and how. -/
structure ArchiveOptions where
  entry : Option Nat := none
  name : Option String := none
  group : Option String := none
  /-- Only show the entries. -/
  list : Bool := false
  keepBrowserHeaders : Bool := false
  force : Bool := false
  deriving DecidableEq, Repr

/-- What the program is asked to do. -/
inductive Command
  | run (name : String) (environment : Option String)
  | list (group : Option String)
  | delete (name : String)
  | importCurl (command : String) (name group : Option String) (force : Bool)
  | importArchive (path : String) (options : ArchiveOptions)
  | listEnvironments
  | showEnvironment (name : String)
  | importEnvironment (name path : String) (force : Bool)
  | setVariable (name key value : String)
  | deleteEnvironment (name : String)
  deriving DecidableEq, Repr

/-- A command and the data directory that it is to use. -/
structure Invocation where
  dataDirectory : Option String
  command : Command
  deriving DecidableEq, Repr

/-! ### Grammars -/

/-- The options that every command takes. -/
def commonFlags : List Flag :=
  [{ name := "data-dir" }, { name := "verbose", letter := 'v', hasValue := false }]

/-- The option to overwrite without asking. -/
def forceFlag : Flag := { name := "force", letter := 'f', hasValue := false }

/-- The option that names a call. -/
def nameFlag : Flag := { name := "name", letter := 'n' }

/-- The option that names a group. -/
def groupFlag : Flag := { name := "group", letter := 'g' }

/-- A command that takes words and options of its own. -/
def leaf (words : Nat) (flags : List Flag) : Grammar := { flags := commonFlags ++ flags, words }

/-- A command with further commands. -/
def branch (commands : List String) (version : Bool) : Grammar :=
  { flags := commonFlags, commands, version }

/-- The grammar of the whole. -/
def topGrammar : Grammar := branch ["run", "list", "delete", "import", "env"] true

/-- The grammar of a command, by the words that name it. -/
def grammar? : List String → Option Grammar
  | [] => some topGrammar
  | ["run"] => some (leaf 1 [{ name := "env", letter := 'e' }])
  | ["list"] => some (leaf 0 [groupFlag])
  | ["delete"] => some (leaf 1 [])
  | ["import"] => some (branch ["curl", "har"] false)
  | ["import", "curl"] => some (leaf 1 [nameFlag, groupFlag, forceFlag])
  | ["import", "har"] =>
    some (leaf 1
      [{ name := "entry", letter := 'e' }, nameFlag, groupFlag,
        { name := "list", letter := 'l', hasValue := false },
        { name := "keep-browser-headers", hasValue := false }, forceFlag])
  | ["env"] => some (branch ["list", "show", "import", "set", "delete"] false)
  | ["env", "list"] => some (leaf 0 [])
  | ["env", "show"] => some (leaf 1 [])
  | ["env", "import"] => some (leaf 2 [forceFlag])
  | ["env", "set"] => some (leaf 3 [])
  | ["env", "delete"] => some (leaf 1 [])
  | _ => none

/-! ### Reading -/

/-- The largest number of an entry. -/
def maxEntry : Nat := Nat.pow 2 64 - 1

/-- The number of an entry. -/
def entryNumber? (text : String) : Option Nat :=
  let digits :=
    match text.toList with
    | '+' :: digits => digits
    | digits => digits
  if digits.isEmpty || !digits.all Text.isDigit then none
  else if maxEntry < Text.decimalValue digits then none
  else some (Text.decimalValue digits)

/-- The data directory that a command is given, which may not be the empty path; `inherited` is that
of the environment, which stands in at every level. -/
def directoryAt (inherited : Option String) (m : Matches) : Except Stop (Option String) :=
  match m.value? "data-dir", inherited with
  | some path, _ => if path.isEmpty then .error .usage else .ok (some path)
  | none, some path => if path.isEmpty then .error .usage else .ok none
  | none, none => .ok none

/-- Reads a command level by level; `path` are the words that name it so far. There are at most
`fuel` levels. -/
def levels (inherited : Option String) : (fuel : Nat) → (path : List String) → List String →
    Except Stop (List String × Matches × Option String)
  | 0, _, _ => .error .usage
  | fuel + 1, path, args => do
    let some g := grammar? path | .error .usage
    let m ← arguments g none {} args
    match m.command with
    | some (word, rest) =>
      let (path, inner, directory) ← levels inherited fuel (path ++ [word]) rest
      let here ← directoryAt inherited m
      .ok (path, inner, directory.orElse fun _ => here)
    | none =>
      if !g.commands.isEmpty || m.words.length < g.words then .error .usage
      else
        let here ← directoryAt inherited m
        .ok (path, m, here)

/-- The options of an archive. -/
def archiveOptions (m : Matches) : Except Stop ArchiveOptions := do
  let entry ← match m.value? "entry" with
    | none => pure none
    | some text =>
      match entryNumber? text with
      | some n => pure (some n)
      | none => .error .usage
  .ok { entry, name := m.value? "name", group := m.value? "group", list := m.has "list"
        keepBrowserHeaders := m.has "keep-browser-headers", force := m.has "force" }

/-- The command that was said. -/
def command (path : List String) (m : Matches) : Except Stop Command :=
  match path, m.words with
  | ["run"], [name] => .ok (.run name (m.value? "env"))
  | ["list"], [] => .ok (.list (m.value? "group"))
  | ["delete"], [name] => .ok (.delete name)
  | ["import", "curl"], [text] =>
    .ok (.importCurl text (m.value? "name") (m.value? "group") (m.has "force"))
  | ["import", "har"], [path] =>
    if path.isEmpty then .error .usage else (archiveOptions m).map (.importArchive path)
  | ["env", "list"], [] => .ok .listEnvironments
  | ["env", "show"], [name] => .ok (.showEnvironment name)
  | ["env", "import"], [name, path] =>
    if path.isEmpty then .error .usage else .ok (.importEnvironment name path (m.has "force"))
  | ["env", "set"], [name, key, value] => .ok (.setVariable name key value)
  | ["env", "delete"], [name] => .ok (.deleteEnvironment name)
  | _, _ => .error .usage

/-- Reads a command line; `inherited` is the data directory of the environment. -/
def invocation (inherited : Option String) (args : List String) : Except Stop Invocation := do
  let (path, m, directory) ← levels inherited 3 [] args
  .ok { dataDirectory := directory.orElse fun _ => inherited, command := ← command path m }

end CallBook.Cli
