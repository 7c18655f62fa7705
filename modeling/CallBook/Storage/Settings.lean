import CallBook.Import.HeaderRules
import CallBook.Json.Record
import CallBook.Storage.Content
import CallBook.Storage.Path

/-!
# Settings

The settings stand in a file in the default data directory. They say where the stores are, which
environment is used when none is named, and which headers an import keeps. A missing file is the
same as empty settings; a broken one is an error, whatever else is asked for.
-/

namespace CallBook

/-- The settings of a user. -/
structure Settings where
  storageLocation : Option String := none
  defaultEnvironment : Option String := none
  rules : HeaderRules := ⟨none, none, .empty⟩

/-- Why settings cannot be used. -/
inductive SettingsError
  | unreadable (path : String) (e : FileError)
  | malformed (path reason : String)
  deriving DecidableEq, Repr

/-- The wording of an error, the context first. -/
def SettingsError.messages : SettingsError → List String
  | unreadable path e => ["reading settings " ++ path, e.message]
  | malformed path reason => ["parsing settings " ++ path, reason]

namespace Settings

/-- A list of strings or `null`. -/
def optionalStrings (depth : Nat) : Json.Reader (Option (List String)) :=
  Json.optional (Json.sequenceOf Json.string depth)

/-- A path or `null`. -/
def optionalPath : Nat → Json.Reader (Option String) := fun _ => Json.optional (Json.stringAs .path)

/-- The fields of the header rules in JSON. -/
def ruleFields : List (Json.Field HeaderRules) :=
  [.of "includeHeaders" optionalStrings fun r names => { r with include? := names },
   .of "excludeHeaders" optionalStrings fun r names => { r with exclude? := names },
   .of "appendHeaders" Json.stringMap fun r headers => { r with append := headers }]

/-- Reads header rules. -/
def readRules : Nat → Json.Reader HeaderRules :=
  Json.recordOf "ImportConfig" ruleFields ⟨none, none, .empty⟩

/-- The fields of the settings in JSON. -/
def jsonFields : List (Json.Field Settings) :=
  [.of "storageLocation" optionalPath fun s path => { s with storageLocation := path },
   .of "defaultEnvironment" Json.optionalString fun s name => { s with defaultEnvironment := name },
   .of "import" readRules fun s rules => { s with rules }]

/-- Reads settings. -/
def readJson : Nat → Json.Reader Settings := Json.recordOf "AppConfig" jsonFields {}

/-- The name of the file. -/
def fileName : String := "settings.json"

/-- The name of the default data directory. -/
def directoryName : String := ".yapmc"

/-- The default data directory of a user. -/
def defaultDirectory (home : String) : String := Path.join home directoryName

/-- The settings in a file, nothing if there is no file. -/
def load (path : String) (content : Content) : Except SettingsError (Option Settings) :=
  if content.isThere then
    match content.text? with
    | .error e => .error (.unreadable path e)
    | .ok text =>
      ((Json.readText (readJson Json.maxDepth) text).map some).mapError (.malformed path)
  else .ok none

/-- The directory of the stores: the one that is asked for, else that of the settings, else the
default one. -/
def dataDirectory (s : Settings) (asked : Option String) (default : String) : String :=
  (asked.orElse fun _ => s.storageLocation).getD default

end Settings

end CallBook
