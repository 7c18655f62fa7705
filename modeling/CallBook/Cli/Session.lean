import CallBook.Cli.Command
import CallBook.Cli.Failure
import CallBook.Cli.Listing
import CallBook.Execution.Engine
import CallBook.Import.Batch
import CallBook.Import.Curl
import CallBook.Report.Shown

/-!
# Carrying out commands

A command is carried out on the two stores. What it says, how it fails and what it leaves in the
stores is its `Outcome`. A command writes what it changes before it says so, and one that fails has
written nothing, with one exception: the calls of an archive are saved one by one, each with a line
about it, up to the first step that goes wrong.

What the user and the operating system have to say is part of what surrounds a command: the answer
to each question whether a record may be overwritten, each write that does not start, and how much
of the output can be written.
-/

namespace CallBook.Cli

open CallBook.Terminal

/-- The two stores. -/
structure Data where
  requests : Store Request
  environments : Store Environment
  deriving DecidableEq

/-- Output that cannot be written any more after some characters. -/
structure Silence where
  room : Nat
  error : FileError
  deriving DecidableEq, Repr

/-- The error when a text of some length is to be said, nothing if it can be said. -/
def errorAt? (silence : Option Silence) (length : Nat) : Option FileError :=
  match silence with
  | none => none
  | some s => if s.room < length then some s.error else none

/-- What surrounds a command. Its records are numbered in the order in which they come to be saved
or deleted, beginning with zero. -/
structure Context where
  settings : Settings
  /-- Texts are shown in colours. -/
  colours : Bool
  /-- Reads a file. -/
  read : String → Except FileError String
  /-- The process environment. -/
  process : List (String × String)
  /-- Chooses transports. -/
  select : Selector
  /-- How long sending takes. -/
  elapsedMs : Nat
  /-- What becomes of the question whether the record of a number may overwrite another. -/
  answer : Nat → Except Unanswered Bool := fun _ => .error .noTerminal
  /-- Why the write for the record of a number does not start. -/
  refused : Nat → Option Refusal := fun _ => none
  silence : Option Silence := none

/-- What came of a command. -/
structure Outcome where
  output : String := ""
  data : Data
  failure : Option Failure := none

/-- The outcome of a command that says all or fails. -/
def Outcome.ofExcept (data : Data) : Except Failure (String × Data) → Outcome
  | .ok (output, data) => { output, data }
  | .error e => { data, failure := some e }

/-- Lines as they are printed. -/
def printed (lines : List String) : String := Report.unlines lines

/-- A failure of a store as that of a command. -/
def ofStore {α : Type} (x : Except StoreError α) : Except Failure α := x.mapError .store

/-! ### Calls -/

/-- The environment of a command without one. -/
def noEnvironment : Environment := { name := "No Environment" }

/-- The environment for a call: the one that is asked for, else the default one, else none. -/
def environmentFor (c : Context) (asked : Option String) (d : Data) :
    Except Failure Environment :=
  match asked.orElse fun _ => c.settings.defaultEnvironment with
  | none => .ok noEnvironment
  | some name =>
    match d.environments.load name with
    | .error e => .error (.store e)
    | .ok none => .error (.noEnvironment name)
    | .ok (some e) => .ok e

/-- Runs a call; the report of what came of it. -/
def run (c : Context) (name : String) (asked : Option String) (d : Data) :
    Except Failure String := do
  match ← ofStore (d.requests.load name) with
  | none => .error (.noCall name)
  | some r =>
    let e ← environmentFor c asked d
    .ok (Report.shown c.colours r e (r.run e c.select c.elapsedMs).result)

/-- Lists the calls, or those of a group. -/
def list (c : Context) (group : Option String) (d : Data) : Except Failure String := do
  let rs ← match group with
    | some group => ofStore (d.requests.inGroup group)
    | none => ofStore (d.requests.records.map OrderedMap.values)
  .ok (printed (listing c.colours rs))

/-- A word for what was done. -/
def done (c : Context) (word : String) : String := (Style.both .bold .green).paint c.colours word

/-- Deletes a call. -/
def delete (c : Context) (name : String) (d : Data) : Except Failure (String × Data) := do
  let (found, requests) ← ofStore (d.requests.delete name (c.refused 0))
  if found then .ok (printed [done c "Deleted" ++ " request '" ++ name ++ "'"], { d with requests })
  else .error (.noCall name)

/-! ### Imports -/

/-- The line for a saved call. -/
def savedLine (c : Context) (r : Request) : String :=
  done c "Saved" ++ " " ++ (Style.color .cyan).paint c.colours r.method.verb ++ " " ++ r.name

/-- The line for a record that is not to overwrite another. -/
def skippedLine (c : Context) (name : String) : String :=
  (Style.color .yellow).paint c.colours "Skipped" ++ " '" ++ name ++ "'"

/-- Whether a record may be saved: with `force`, or if there is none of its name, and else as the
user says. -/
def maySave (c : Context) (number : Nat) (force : Bool) (taken : Except StoreError Bool) :
    Except Failure Bool :=
  if force then .ok true
  else do
    if ← ofStore taken then (c.answer number).mapError .unanswered else .ok true

/-- Saves a call; gives nothing if it is not to overwrite the one of its name. -/
def saveCall (c : Context) (number : Nat) (force : Bool) (r : Request) (s : Store Request) :
    Except Failure (Option (Store Request)) := do
  if ← maySave c number force (s.contains r.name) then
    (ofStore (s.save r (c.refused number))).map some
  else .ok none

/-- A call as it is imported: in a group, under a name of its own, and with the headers that the
settings keep. -/
def arranged (c : Context) (name group : Option String) (r : Request) : Request :=
  { r with name := name.getD r.name, group, headers := c.settings.rules.apply r.headers }

/-- Imports a command line. -/
def importCurl (c : Context) (command : String) (name group : Option String) (force : Bool)
    (d : Data) : Except Failure (String × Data) := do
  let r ← (Import.curlCommand command).mapError .refused
  let r := arranged c name group r
  match ← saveCall c 0 force r d.requests with
  | some requests => .ok (printed [savedLine c r], { d with requests })
  | none => .ok (printed [skippedLine c r.name], d)

/-- The calls of an archive, or of one of its entries. -/
def archived (text : String) (entry : Option Nat) : Except Failure (List Request) :=
  match entry with
  | none => (Import.harArchive text).mapError .refused
  | some number =>
    match Import.singleEntry text number with
    | .error e => .error (.choice e)
    | .ok text => (Import.harArchive text).mapError .refused

/-- The calls of an archive as they are imported. -/
def batch (c : Context) (options : ArchiveOptions) (rs : List Request) : List Request :=
  (Import.distinctNames rs).map fun r =>
    let headers := if options.keepBrowserHeaders then r.headers else stripBrowserHeaders r.headers
    arranged c options.name options.group { r with headers }

/-- How far the calls of a batch were saved. -/
structure BatchRun where
  /-- A line for each call that was saved or skipped. -/
  lines : List String := []
  saved : Nat := 0
  store : Store Request
  failure : Option Failure := none

/-- Saves calls one after the other up to the first that fails or whose line cannot be said. The
first of them has the number `number`, and `said` characters were said before it. -/
def saveAll (c : Context) (force : Bool) : (number said : Nat) → List Request → Store Request →
    BatchRun
  | _, _, [], s => { store := s }
  | number, said, r :: more, s =>
    match saveCall c number force r s with
    | .error e => { store := s, failure := some e }
    | .ok after =>
      let line := if after.isSome then savedLine c r else skippedLine c r.name
      let saved := if after.isSome then 1 else 0
      let said := said + line.length + 1
      match errorAt? c.silence said with
      | some e =>
        { lines := [line], saved, store := after.getD s, failure := some (.silenced e) }
      | none =>
        let rest := saveAll c force (number + 1) said more (after.getD s)
        { rest with lines := line :: rest.lines, saved := saved + rest.saved }

/-- Imports the calls of an archive. -/
def importCalls (c : Context) (options : ArchiveOptions) (rs : List Request) (d : Data) :
    Outcome :=
  if options.name.isSome && 1 < rs.length then
    { data := d, failure := some (.sharedName rs.length) }
  else
    let calls := batch c options rs
    let saving := saveAll c options.force 0 0 calls d.requests
    let last := if saving.failure.isSome then []
      else ["Imported " ++ Text.decimal saving.saved ++ " of " ++ Text.decimal calls.length
        ++ " request(s)"]
    { output := printed (saving.lines ++ last), data := { d with requests := saving.store }
      failure := saving.failure }

/-- Imports an archive, or shows its entries. -/
def importArchive (c : Context) (path : String) (options : ArchiveOptions) (d : Data) : Outcome :=
  match c.read path with
  | .error e => { data := d, failure := some (.archiveFile path e) }
  | .ok text =>
    if options.list then
      .ofExcept d (((Import.summaries text).mapError .refused).map fun lines =>
        (printed (entryLines 1 lines), d))
    else
      match archived text options.entry with
      | .error e => { data := d, failure := some e }
      | .ok rs => importCalls c options rs d

/-! ### Environments -/

/-- Lists the environments. -/
def listEnvironments (c : Context) (d : Data) : Except Failure String :=
  (ofStore d.environments.records).map fun es =>
    printed (environmentLines c.colours c.settings.defaultEnvironment es)

/-- Shows the variables of an environment. -/
def showEnvironment (c : Context) (name : String) (d : Data) : Except Failure String :=
  match d.environments.load name with
  | .error e => .error (.store e)
  | .ok none => .error (.noEnvironment name)
  | .ok (some e) => .ok (printed (variableLines c.colours e))

/-- Reads an environment from a dotenv file. -/
def readEnvironment (c : Context) (name path : String) : Except Failure Environment :=
  match c.read path with
  | .error e => .error (.dotenvFile path e)
  | .ok text =>
    match Dotenv.read c.process text with
    | .error e => .error (.dotenvLine path e)
    | .ok vars => .ok { name, vars }

/-- The line for a saved environment. -/
def savedEnvironmentLine (c : Context) (e : Environment) : String :=
  done c "Saved" ++ " environment '" ++ e.name ++ "' with " ++ Text.decimal e.vars.size
    ++ " variable(s)"

/-- Imports an environment. -/
def importEnvironment (c : Context) (name path : String) (force : Bool) (d : Data) :
    Except Failure (String × Data) := do
  let e ← readEnvironment c name path
  if ← maySave c 0 force (d.environments.contains name) then
    let environments ← ofStore (d.environments.save e (c.refused 0))
    .ok (printed [savedEnvironmentLine c e], { d with environments })
  else .ok (printed [skippedLine c name], d)

/-- Sets a variable of an environment, which is made if there is none. -/
def setVariable (c : Context) (name key value : String) (d : Data) :
    Except Failure (String × Data) := do
  let e := (← ofStore (d.environments.load name)).getD { name }
  let environments ←
    ofStore (d.environments.save { e with vars := e.vars.insert key value } (c.refused 0))
  .ok (printed [done c "Set" ++ " " ++ key ++ " in '" ++ name ++ "'"], { d with environments })

/-- Deletes an environment. -/
def deleteEnvironment (c : Context) (name : String) (d : Data) :
    Except Failure (String × Data) := do
  let (found, environments) ← ofStore (d.environments.delete name (c.refused 0))
  if found then
    .ok (printed [done c "Deleted" ++ " environment '" ++ name ++ "'"], { d with environments })
  else .error (.noEnvironment name)

/-! ### All commands -/

/-- The outcome of a command that only says something. -/
def Outcome.said (data : Data) (x : Except Failure String) : Outcome :=
  .ofExcept data (x.map (·, data))

/-- Carries out a command. -/
def Command.perform (c : Context) (d : Data) : Command → Outcome
  | run name asked => .said d (Cli.run c name asked d)
  | list group => .said d (Cli.list c group d)
  | delete name => .ofExcept d (Cli.delete c name d)
  | importCurl command name group force => .ofExcept d (Cli.importCurl c command name group force d)
  | importArchive path options => Cli.importArchive c path options d
  | listEnvironments => .said d (Cli.listEnvironments c d)
  | showEnvironment name => .said d (Cli.showEnvironment c name d)
  | importEnvironment name path force => .ofExcept d (Cli.importEnvironment c name path force d)
  | setVariable name key value => .ofExcept d (Cli.setVariable c name key value d)
  | deleteEnvironment name => .ofExcept d (Cli.deleteEnvironment c name d)

/-- An outcome as far as it can be said: what was done stays done. -/
def Outcome.heard (silence : Option Silence) (o : Outcome) : Outcome :=
  match silence, errorAt? silence o.output.length with
  | some s, some e =>
    { o with
      output := String.ofList (o.output.toList.take s.room)
      failure := some (.silenced e) }
  | _, _ => o

end CallBook.Cli
