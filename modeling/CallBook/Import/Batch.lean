import CallBook.Call.Request

/-!
# Names within one batch

The calls of one archive are saved under their names, so calls of one batch must not share a name.
The first keeps it; a later one takes the name with a number after it: the count of calls that
asked for this name so far, or the next number that nobody has taken.
-/

namespace CallBook.Import

/-- A name with a number after it. -/
def numbered (name : String) (n : Nat) : String := name ++ " " ++ toString n

/-- The first number from `n` on that makes a name nobody has taken, tried at most `tries + 1`
times. -/
def freeNumber (taken : List String) (name : String) (n : Nat) : (tries : Nat) → Nat
  | 0 => n
  | tries + 1 =>
    if taken.contains (numbered name n) then freeNumber taken name (n + 1) tries else n

/-- The calls with their names made different from each other; `seen` counts how often each name
was asked for. One more try than there are names seen always finds a free number. -/
def distinctFrom (seen : OrderedMap Nat) : List Request → List Request
  | [] => []
  | request :: more =>
    let count := (seen.get? request.name).getD 0 + 1
    let seen := seen.insert request.name count
    if count = 1 then request :: distinctFrom seen more
    else
      let name := numbered request.name (freeNumber seen.keys request.name count seen.size)
      { request with name } :: distinctFrom (seen.insert name 1) more

/-- The calls of a batch with their names made different from each other. -/
def distinctNames (requests : List Request) : List Request := distinctFrom .empty requests

end CallBook.Import
