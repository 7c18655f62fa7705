import CallBook.Cli.Session
import CallBook.Http.Exchange
import CallBook.Storage.Disk

/-!
# The program

A run of the program reads its arguments, then the settings, and carries out the command on the
stores in the data directory. All that it reads and writes is on a disk that is given and given
back, and what the user and the operating system have to say is given beforehand, so that a run is a
function.
-/

namespace CallBook.Cli

/-- What a run of the program is given. -/
structure Surroundings where
  /-- The directory of the user, if there is one. -/
  home : Option String
  /-- The variables of the process. -/
  vars : List (String × String)
  /-- What is said goes to a terminal. -/
  onTerminal : Bool := false
  /-- Chooses transports. -/
  select : Selector := fun _ => .ok Http.unconnected
  elapsedMs : Nat := 0
  /-- What becomes of the question about the record of a number. -/
  answer : Nat → Except Unanswered Bool := fun _ => .error .noTerminal
  /-- Why the write for the record of a number does not start. -/
  refused : Nat → Option Refusal := fun _ => none
  /-- Where the output ends that can be written. -/
  silence : Option Silence := none

namespace Surroundings

/-- The value of a variable. -/
def valueOf? (s : Surroundings) (name : String) : Option String :=
  (s.vars.find? (·.1 == name)).map Prod.snd

/-- A variable that is set to something other than zero. -/
def isOn (s : Surroundings) (name : String) : Bool := (s.valueOf? name).any (· != "0")

/-- Texts are shown in colours where that is forced, and else on a terminal unless it is refused. -/
def colours (s : Surroundings) : Bool :=
  s.isOn "CLICOLOR_FORCE"
    || s.onTerminal && (s.valueOf? "NO_COLOR").isNone && (s.valueOf? "CLICOLOR").all (· != "0")

/-- The directory of the settings. -/
def settingsDirectory? (s : Surroundings) : Option String := s.home.map Settings.defaultDirectory

/-- The file of the settings. -/
def settingsPath? (s : Surroundings) : Option String :=
  s.settingsDirectory?.map fun directory => Path.join directory Settings.fileName

/-- The data directory of the environment. -/
def dataDirectory? (s : Surroundings) : Option String := s.valueOf? "YAPMC_DATA_DIR"

end Surroundings

/-- How a run ended. -/
structure Ending where
  code : Nat
  output : String := ""
  complaint : String := ""
  disk : Disk

/-- What the program says about itself. -/
def aboutText : String := "Save, import and run HTTP API calls\n"

/-- How the program is used. -/
def usageText : String := "Usage: yapmc [OPTIONS] <COMMAND>\n"

/-- The version of the program. -/
def versionText : String := "yapmc 0.0.0-dev\n"

/-- A run that is over before a command begins. -/
def Stop.ending (disk : Disk) : Stop → Ending
  | usage => { code := 2, complaint := usageText, disk }
  | help => { code := 0, output := aboutText ++ "\n" ++ usageText, disk }
  | version => { code := 0, output := versionText, disk }

/-- A run that failed. -/
def Failure.ending (output : String) (disk : Disk) (e : Failure) : Ending :=
  { code := e.code, output, complaint := e.text, disk }

/-- The settings on a disk; a user without a directory has none. -/
def settingsOn (s : Surroundings) (disk : Disk) : Except SettingsError Settings :=
  match s.settingsPath? with
  | none => .ok {}
  | some path =>
    let content := match disk.lookup path with
      | .ok content => content
      | .error _ => .missing
    (Settings.load path content).map (·.getD {})

/-- The directory of the stores. -/
def Invocation.base? (s : Surroundings) (settings : Settings) (i : Invocation) : Option String :=
  match s.settingsDirectory? with
  | some default => some (settings.dataDirectory i.dataDirectory default)
  | none => i.dataDirectory.orElse fun _ => settings.storageLocation

/-- The two stores in a directory. -/
def Data.openIn (disk : Disk) (base : String) : Data :=
  ⟨disk.openStore Request base, disk.openStore Environment base⟩

/-- The disk with the files of both stores as they are now. -/
def Data.keepOn (disk : Disk) (before after : Data) : Disk :=
  (disk.keepStore before.requests after.requests).keepStore before.environments after.environments

/-- What surrounds the command of a run. -/
def Surroundings.context (s : Surroundings) (settings : Settings) (disk : Disk) : Context :=
  { settings, colours := s.colours, read := disk.read, process := s.vars, select := s.select
    elapsedMs := s.elapsedMs, answer := s.answer, refused := s.refused, silence := s.silence }

/-- What comes of the command of an invocation on the stores in a directory. -/
def Invocation.outcome (s : Surroundings) (settings : Settings) (disk : Disk) (base : String)
    (i : Invocation) : Outcome :=
  (i.command.perform (s.context settings disk) (.openIn disk base)).heard s.silence

/-- Carries out an invocation. -/
def Invocation.carryOut (s : Surroundings) (disk : Disk) (i : Invocation) : Ending :=
  match settingsOn s disk with
  | .error e => Failure.ending "" disk (.settings e)
  | .ok settings =>
    match i.base? s settings with
    | none => Failure.ending "" disk .noHome
    | some base =>
      let outcome := i.outcome s settings disk base
      let disk := Data.keepOn disk (.openIn disk base) outcome.data
      match outcome.failure with
      | none => { code := 0, output := outcome.output, disk }
      | some e =>
        match e.stepsMade? with
        | none => e.ending outcome.output disk
        | some steps => e.ending outcome.output (disk.makeWayTo base steps).1

/-- Runs the program. -/
def runProgram (s : Surroundings) (disk : Disk) (args : List String) : Ending :=
  match invocation s.dataDirectory? args with
  | .error stop => stop.ending disk
  | .ok i => i.carryOut s disk

/-- The file that a command reads besides the stores. -/
def Command.source? : Command → Option String
  | importArchive path _ => some path
  | importEnvironment _ path _ => some path
  | _ => none

/-- The files that a run looks at; those of the stores are known once the settings are on the
disk. -/
def filesOf (s : Surroundings) (disk : Disk) (args : List String) : List String :=
  s.settingsPath?.toList ++
    match invocation s.dataDirectory? args, settingsOn s disk with
    | .ok i, .ok settings =>
      let stores := match i.base? s settings with
        | none => []
        | some base =>
          [Path.join base (Stored.fileName Request), Path.join base (Stored.fileName Environment)]
      stores ++ i.command.source?.toList
    | _, _ => []

end CallBook.Cli
