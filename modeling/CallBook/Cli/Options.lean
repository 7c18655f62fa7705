import CallBook.Text.Search

/-!
# Options on a command line

Arguments are read from left to right. `--name value`, `--name=value`, `-n value`, `-nvalue` and
`-n=value` give an option its value, and letters of options without a value may share one hyphen. A
value on its own must not look like an option, and no option is given twice. After `--` everything
is a word. Where a command has further commands, the first word is one of them and takes the rest.
-/

namespace CallBook.Cli

open CallBook.Text

/-- An option: its name, its letter, and whether it has a value. -/
structure Flag where
  name : String
  letter : Option Char := none
  hasValue : Bool := true
  deriving DecidableEq, Repr

/-- What may be said to a command. -/
structure Grammar where
  flags : List Flag
  /-- Its further commands; then it takes no other words. -/
  commands : List String := []
  /-- How many words it takes. -/
  words : Nat := 0
  /-- It tells its version. -/
  version : Bool := false
  deriving Repr

/-- Why reading stops. -/
inductive Stop
  | usage
  | help
  | version
  deriving DecidableEq, Repr

/-- What was said to a command. -/
structure Matches where
  given : List (String × String) := []
  words : List String := []
  command : Option (String × List String) := none
  deriving DecidableEq, Repr

namespace Matches

/-- The option was given. -/
def has (m : Matches) (name : String) : Bool := m.given.any (·.1 == name)

/-- The value of an option. -/
def value? (m : Matches) (name : String) : Option String :=
  (m.given.find? (·.1 == name)).map Prod.snd

/-- One more option; none is given twice. -/
def give (m : Matches) (flag : Flag) (value : String) : Except Stop Matches :=
  if m.has flag.name then .error .usage else .ok { m with given := m.given ++ [(flag.name, value)] }

/-- One more word, if the command takes it. -/
def say (m : Matches) (g : Grammar) (word : String) : Except Stop Matches :=
  if m.words.length < g.words then .ok { m with words := m.words ++ [word] } else .error .usage

end Matches

/-- An argument that looks like an option. -/
def looksLikeOption (arg : String) : Bool :=
  match arg.toList with
  | '-' :: _ :: _ => true
  | _ => false

/-- What was said so far, and the option that wants the next argument. -/
abbrev Progress := Matches × Option Flag

/-- Reads an option by name, without its hyphens. -/
def longOption (g : Grammar) (m : Matches) (s : List Char) : Except Stop Progress :=
  let (name, value) :=
    match splitFirst '=' s with
    | some (name, value) => (String.ofList name, some (String.ofList value))
    | none => (String.ofList s, none)
  match g.flags.find? (·.name == name), value with
  | some flag, some value =>
    if flag.hasValue then (m.give flag value).map (·, none) else .error .usage
  | some flag, none =>
    if flag.hasValue then .ok (m, some flag) else (m.give flag "").map (·, none)
  | none, some _ => .error .usage
  | none, none =>
    if name == "help" then .error .help
    else if name == "version" && g.version then .error .version
    else .error .usage

/-- The value behind a letter; an equals sign before it is no part of it. -/
def attachedValue : List Char → String
  | '=' :: value => String.ofList value
  | value => String.ofList value

/-- Reads options by letter, without their hyphen. -/
def letters (g : Grammar) : Matches → List Char → Except Stop Progress
  | m, [] => .ok (m, none)
  | m, c :: rest =>
    match g.flags.find? (·.letter == some c) with
    | some flag =>
      if flag.hasValue then
        if rest.isEmpty then .ok (m, some flag)
        else (m.give flag (attachedValue rest)).map (·, none)
      else
        match m.give flag "" with
        | .error e => .error e
        | .ok m => letters g m rest
    | none =>
      if c = 'h' then .error .help
      else if c = 'V' && g.version then .error .version
      else .error .usage

/-- Reads an option. -/
def option (g : Grammar) (m : Matches) (arg : List Char) : Except Stop Progress :=
  match arg with
  | '-' :: '-' :: name => longOption g m name
  | _ :: rest => letters g m rest
  | [] => .error .usage

/-- Reads words after `--`. -/
def onlyWords (g : Grammar) : Matches → List String → Except Stop Matches
  | m, [] => .ok m
  | m, arg :: rest =>
    match m.say g arg with
    | .error e => .error e
    | .ok m => onlyWords g m rest

/-- Reads the arguments of a command. `waiting` is the option that wants the next one. -/
def arguments (g : Grammar) : (waiting : Option Flag) → Matches → List String → Except Stop Matches
  | none, m, [] => .ok m
  | some _, _, [] => .error .usage
  | some flag, m, arg :: rest =>
    if looksLikeOption arg then .error .usage
    else
      match m.give flag arg with
      | .error e => .error e
      | .ok m => arguments g none m rest
  | none, m, arg :: rest =>
    if arg == "--" then onlyWords g m rest
    else if looksLikeOption arg then
      match option g m arg.toList with
      | .error e => .error e
      | .ok (m, waiting) => arguments g waiting m rest
    else if g.commands.contains arg then .ok { m with command := some (arg, rest) }
    else
      match m.say g arg with
      | .error e => .error e
      | .ok m => arguments g none m rest

end CallBook.Cli
