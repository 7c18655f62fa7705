import CallBook.Storage.Store

/-!
# Disks

A disk says what stands at which steps from its root. A directory is there as soon as something is
in it. A path is followed step by step, from the root if it begins with a slash and else from the
current directory: each step but the last has to lead to a directory, and two dots lead back. Before
the file of a store is written, a directory is made at every place on the way where there is
nothing, also where the way leads back out of it, and these directories stay if the file cannot be
written in the end.
-/

namespace CallBook

/-- Contents by the steps that lead to them. -/
structure Disk where
  contents : List (List String × Content) := []
  /-- The steps to the current directory. -/
  current : List String := []
  deriving DecidableEq, Inhabited

namespace Disk

/-- The first list begins with the second and goes on. -/
def isBelow : (steps above : List String) → Bool
  | _ :: _, [] => true
  | s :: steps, a :: above => s == a && isBelow steps above
  | [], _ => false

/-- What stands at some steps. -/
def contentAt (d : Disk) (steps : List String) : Content :=
  match d.contents.find? (·.1 == steps) with
  | some p => p.2
  | none =>
    if steps.isEmpty || d.contents.any fun p => isBelow p.1 steps then .directory else .missing

/-- The disk with other content at some steps. -/
def put (d : Disk) (steps : List String) (content : Content) : Disk :=
  { d with contents := (steps, content) :: d.contents.filter (·.1 != steps) }

/-- Where a path begins, last step first. -/
def start (d : Disk) (path : String) : List String :=
  if Path.isAbsolute path then [] else d.current.reverse

/-- Follows steps from a place, whose own steps are given last first. -/
def follow (d : Disk) : (place : List String) → List String → Except FileError Content
  | place, [] => .ok (d.contentAt place.reverse)
  | place, step :: more =>
    match d.contentAt place.reverse with
    | .missing => .error .missing
    | .file _ => .error .notDirectory
    | .directory => d.follow (if step == ".." then place.tail else step :: place) more

/-- What stands at a path. -/
def lookup (d : Disk) (path : String) : Except FileError Content :=
  match d.follow (d.start path) (Path.steps path) with
  | .ok (.file bytes) => if Path.endsInStep path then .error .notDirectory else .ok (.file bytes)
  | found => found

/-- Reads a file. -/
def read (d : Disk) (path : String) : Except FileError String :=
  match d.lookup path with
  | .error e => .error e
  | .ok content => content.text?

/-- The steps that lead to the same place without leading back. -/
def settled : (place : List String) → List String → List String
  | place, [] => place.reverse
  | place, step :: more => settled (if step == ".." then place.tail else step :: place) more

/-- The steps of a path once all directories on its way are there. -/
def stepsTo (d : Disk) (path : String) : List String := settled (d.start path) (Path.steps path)

/-- The places passed from a place along some steps, that place and the last one included. -/
def passed : (place : List String) → List String → List (List String)
  | place, [] => [place.reverse]
  | place, step :: more =>
    place.reverse :: passed (if step == ".." then place.tail else step :: place) more

/-- The places on the way along a path. -/
def wayTo (d : Disk) (path : String) : List (List String) := passed (d.start path) (Path.steps path)

/-- The disk with a directory at a place where there was nothing. -/
def makeDirectory (d : Disk) (steps : List String) : Disk :=
  if d.contentAt steps = .missing then d.put steps .directory else d

/-- Makes the directories along some steps from a place up to the first place where a file is in the
way, and says how that is noticed: where a directory had to be `made` before, each further one is
tried by itself, and else only the last one. -/
def makeWay : (d : Disk) → (made : Bool) → (place : List String) → List String →
    Disk × Option FileError
  | d, _, place, [] =>
    match d.contentAt place.reverse with
    | .file _ => (d, some .exists)
    | _ => (d.makeDirectory place.reverse, none)
  | d, made, place, step :: more =>
    match d.contentAt place.reverse with
    | .file _ => (d, some (if made then .exists else .notDirectory))
    | content =>
      makeWay (d.makeDirectory place.reverse) (made || content == .missing)
        (if step == ".." then place.tail else step :: place) more

/-- Makes the directories along a path as far as possible, or along its first `steps` only. -/
def makeWayTo (d : Disk) (path : String) (steps : Option Nat := none) : Disk × Option FileError :=
  let all := Path.steps path
  d.makeWay false (d.start path) (all.take (steps.getD all.length))

/-- What on the disk keeps a file from being put at a path below a directory: the directory cannot
be made, or where the file should be there is a directory then. -/
def obstacle? (d : Disk) (base path : String) : Option FileError :=
  match d.makeWayTo base with
  | (_, some e) => some e
  | (d', none) => if d'.contentAt (d.stepsTo path) = .directory then some .isDirectory else none

/-- The store in a directory. -/
def openStore (α : Type) [Stored α] (d : Disk) (base : String) : Store α :=
  let path := Path.join base (Stored.fileName α)
  { base
    blocked := d.obstacle? base path
    content :=
      match d.lookup path with
      | .ok content => content
      | .error _ => .missing }

/-- The disk with some content in the file at a path below a directory. -/
def writeBelow (d : Disk) (base path : String) (content : Content) : Disk :=
  (d.makeWayTo base).1.put (d.stepsTo path) content

/-- The disk with the file of a store as it is now. -/
def keepStore {α : Type} [Stored α] (d : Disk) (before after : Store α) : Disk :=
  if after.content = before.content then d
  else d.writeBelow after.base after.path after.content

end Disk

end CallBook
