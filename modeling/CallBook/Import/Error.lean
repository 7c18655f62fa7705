import CallBook.OrderedMap

/-!
# Why an import is refused

A command or an archive that yields no call is refused with one of these causes.
-/

namespace CallBook

/-- Why a command or an archive was refused. -/
inductive ImportError
  | emptyCommand
  | openQuote
  | notCurl
  | missingValue (option : String)
  | noUrl
  | emptyArchive
  | badJson (reason : String)
  | noLog
  | noEntries
  | noRequests
  | nothingToList
  deriving DecidableEq, Repr

namespace ImportError

/-- The wording of a refusal. -/
def message : ImportError → String
  | emptyCommand => "cURL command cannot be empty"
  | openQuote => "Failed to tokenize cURL command: missing closing quote"
  | notCurl => "Command must start with 'curl'"
  | missingValue option => "Option '" ++ option ++ "' missing value"
  | noUrl => "Could not extract URL from cURL command"
  | emptyArchive => "HAR content cannot be empty"
  | badJson reason => "Failed to parse HAR file: " ++ reason
  | noLog => "Invalid HAR format: missing 'log' object"
  | noEntries => "Invalid HAR format: missing 'entries' array"
  | noRequests => "No valid HTTP requests found in HAR file"
  | nothingToList => "No entries found in HAR file"

end ImportError

end CallBook
