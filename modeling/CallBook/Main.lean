import CallBook.Cli.Program

/-!
# Running the program

The run itself is a function on a disk. Here the files that it looks at are read, what it says is
printed, and the files that it changed are written.
-/

open CallBook

/-- What stands at some steps from the root. -/
def standing (steps : List String) : IO Content := do
  match ← (IO.FS.readBinFile ("/" ++ Text.joinWith "/" steps)).toBaseIO with
  | .ok bytes => return .file bytes.toList
  | .error (.inappropriateType ..) => return .directory
  | .error _ => return .missing

/-- Puts on the disk what stands on the way along some steps, as far as there are directories. -/
def observe (disk : Disk) : (passed : List String) → List String → IO Disk
  | passed, steps => do
    let content ← standing passed
    match content, steps with
    | .missing, _ => return disk
    | .directory, step :: more => observe (disk.put passed content) (passed ++ [step]) more
    | _, _ => return disk.put passed content

/-- Puts on the disk what stands on the way along some paths. -/
def observeAll (disk : Disk) (paths : List String) : IO Disk :=
  (paths.flatMap disk.wayTo).foldlM (fun disk place => observe disk [] place) disk

/-- The variables of the process. -/
def processVariables : IO (List (String × String)) := do
  let bytes ← IO.FS.readBinFile "/proc/self/environ"
  let lines := Text.fields (· == '\x00') (Text.Utf8.decodeLossy bytes.toList)
  return lines.filterMap fun line =>
    (Text.splitFirst '=' line).map fun (name, value) => (String.ofList name, String.ofList value)

/-- Makes the directories and writes the files that differ from those of an earlier disk. -/
def writeChanges (before after : Disk) : IO Unit :=
  after.contents.forM fun (steps, content) => do
    if before.contentAt steps ≠ content then
      match content with
      | .file bytes =>
        IO.FS.createDirAll ("/" ++ Text.joinWith "/" steps.dropLast)
        IO.FS.writeBinFile ("/" ++ Text.joinWith "/" steps) ⟨bytes.toArray⟩
      | .directory => IO.FS.createDirAll ("/" ++ Text.joinWith "/" steps)
      | .missing => return

def main (args : List String) : IO UInt32 := do
  let vars ← processVariables
  let home := (← IO.getEnv "HOME").filter (!·.isEmpty)
  let s : Cli.Surroundings := { home, vars, onTerminal := ← (← IO.getStdout).isTty }
  let empty : Disk := { current := Path.steps (← IO.currentDir).toString }
  let settled ← observeAll empty s.settingsPath?.toList
  let disk ← observeAll settled (Cli.filesOf s settled args)
  let ending := Cli.runProgram s disk args
  IO.print ending.output
  IO.eprint ending.complaint
  writeChanges disk ending.disk
  return ending.code.toUInt32
