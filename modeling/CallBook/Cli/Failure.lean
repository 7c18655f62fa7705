import CallBook.Dotenv.File
import CallBook.Import.Error
import CallBook.Import.Har
import CallBook.Storage.Settings
import CallBook.Storage.Store

/-!
# Failures of commands

A failure has a message and possibly causes, from the outermost to the innermost. It is shown with
its causes below it, numbered if there are several; further lines of a cause are indented as far as
its first. A command whose output cannot be written does not fail like that: the program stops at
once, with a message and a code of its own.
-/

namespace CallBook.Cli

/-- Why a question got no answer. -/
inductive Unanswered
  /-- There is nobody to ask. -/
  | noTerminal
  | canceled
  | interrupted
  | failed (e : FileError)
  deriving DecidableEq, Repr

/-- The wording of an unanswered question, the outermost message first. -/
def Unanswered.messages : Unanswered → List String
  | noTerminal => ["The input device is not a TTY"]
  | canceled => ["Operation was canceled by the user"]
  | interrupted => ["Operation was interrupted by the user"]
  | failed e => ["IO error: " ++ e.message, e.message]

/-- Why a command failed. -/
inductive Failure
  /-- The user has no directory, and no data directory is named. -/
  | noHome
  | settings (e : SettingsError)
  | store (e : StoreError)
  | refused (e : ImportError)
  | choice (e : Import.ChoiceError)
  | archiveFile (path : String) (e : FileError)
  | dotenvFile (path : String) (e : FileError)
  | dotenvLine (path : String) (e : Dotenv.LineError)
  | noCall (name : String)
  | noEnvironment (name : String)
  /-- A name was given for more than one call. -/
  | sharedName (count : Nat)
  | unanswered (u : Unanswered)
  /-- No more output can be written. -/
  | silenced (e : FileError)
  deriving DecidableEq, Repr

namespace Failure

/-- The wording of a failure, the outermost message first. -/
def messages : Failure → List String
  | noHome => ["no home directory found; pass --data-dir"]
  | settings e => "loading settings" :: e.messages
  | store e => e.messages
  | refused e => [e.message]
  | choice e => e.messages
  | archiveFile path e => ["reading HAR file " ++ path, e.message]
  | dotenvFile path e => ["reading env file " ++ path, e.message]
  | dotenvLine path e => ["parsing env file " ++ path, e.message]
  | noCall name => ["no saved request named '" ++ name ++ "'"]
  | noEnvironment name => ["no environment named '" ++ name ++ "'"]
  | sharedName count =>
    ["--name needs a single request but the archive holds " ++ Text.decimal count
      ++ "; pick one with --entry"]
  | unanswered u => u.messages
  | silenced e => ["failed printing to stdout: " ++ e.message]

/-- How many steps of the way to a store were gone before a write failed, all that can be gone if
there is no number. -/
def stepsMade? : Failure → Option (Option Nat)
  | store (.noDirectory _ _ steps) => some steps
  | store (.unwritable _ _) => some none
  | _ => none

/-- A failure to write, before which directories on the way were made. -/
def isOfWriting (e : Failure) : Bool := e.stepsMade?.isSome

/-- The exit code for a failure. -/
def code : Failure → Nat
  | silenced _ => 101
  | _ => 1

end Failure

/-- A text on lines that begin with `start`, the first of them with `first`. -/
def indented (first start : String) (text : String) : String :=
  first ++ Text.joinWith ("\n" ++ start)
    ((Text.fields (· == '\n') text.toList).map String.ofList)

/-- Causes with their numbers. -/
def numbered : (number : Nat) → List String → List String
  | _, [] => []
  | number, cause :: more =>
    let digits := Text.decimalText number
    let first := String.ofList (List.replicate (5 - digits.length) ' ' ++ digits ++ [':', ' '])
    indented first "       " cause :: numbered (number + 1) more

/-- A message with its causes. -/
def explained : List String → String
  | [] => ""
  | [message] => message
  | [message, cause] => message ++ "\n\nCaused by:\n" ++ indented "    " "    " cause
  | message :: causes => message ++ "\n\nCaused by:\n" ++ Text.joinWith "\n" (numbered 0 causes)

/-- A failure as it is shown. Where no more output can be written there is only the message, without
the place in the program and the advice that the runtime puts around it. -/
def Failure.text (e : Failure) : String :=
  match e with
  | .silenced _ => explained e.messages ++ "\n"
  | _ => "Error: " ++ explained e.messages ++ "\n"

end CallBook.Cli
