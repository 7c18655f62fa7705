import CallBook.Execution.Transport

/-!
# Running a call

A call is resolved, its URL is checked, a transport is chosen for the URL, and the outbound call is
sent. The first stage that fails ends the run with a result that says why.

Choosing and sending act on the world outside, so the stages run in whatever monad these two act in
(`Request.runIn`). A `Run` is what comes of a run in which they leave a note of what they were asked
for.
-/

namespace CallBook

/-! ### The stages -/

/-- Sends a call, with the effects that sending has. -/
abbrev TransportIn (m : Type → Type) := Outbound → m (Except TransportError Response)

/-- Chooses the transport for a URL, with the effects that choosing has. -/
abbrev SelectorIn (m : Type → Type) := Url → m (Except TransportError (TransportIn m))

/-- The result for a response. -/
def Response.result (r : Response) (durationMs : Nat) : CallResult :=
  { status := r.status, body := r.body, headers := r.headers, durationMs }

/-- Runs a call in an environment; `elapsed` is how long sending takes. -/
def Request.runIn {m : Type → Type} [Monad m] (r : Request) (environment : Environment)
    (select : SelectorIn m) (elapsed : Nat) : m CallResult := do
  let resolved := r.resolve environment.vars
  match resolved.target? environment.vars with
  | .error e => return .failure e.message 0
  | .ok url =>
    let outbound := resolved.outbound url
    match ← select outbound.url with
    | .error e => return .failure e.message 0
    | .ok send =>
      match ← send outbound with
      | .error e => return .failure e.message elapsed
      | .ok response => return response.result elapsed

/-! ### Noting effects -/

/-- What a run does to the world outside. -/
inductive Effect
  /-- A transport is asked for. -/
  | select (url : Url)
  /-- A call is handed to a transport. -/
  | send (call : Outbound)
  deriving DecidableEq

/-- Computations that note their effects, the last one at the end. -/
abbrev Noting := StateM (List Effect)

theorem Noting.run_pure {α : Type} (a : α) (log : List Effect) :
    (pure a : Noting α).run log = (a, log) := rfl

theorem Noting.run_bind {α β : Type} (x : Noting α) (f : α → Noting β) (log : List Effect) :
    (x >>= f).run log = (f (x.run log).1).run (x.run log).2 := rfl

/-- Notes an effect. -/
def note (effect : Effect) : Noting Unit := modify (· ++ [effect])

/-- The transport with a note of each call that it is handed. -/
def Transport.noting (send : Transport) : TransportIn Noting := fun call => do
  note (.send call)
  return send call

/-- The selector with a note of each URL that it is asked for, and its transports with notes. -/
def Selector.noting (select : Selector) : SelectorIn Noting := fun url => do
  note (.select url)
  return (select url).map Transport.noting

@[simp] theorem run_noting_transport (send : Transport) (call : Outbound) (log : List Effect) :
    (send.noting call).run log = (send call, log ++ [.send call]) := rfl

@[simp] theorem run_noting_selector (select : Selector) (url : Url) (log : List Effect) :
    (select.noting url).run log = ((select url).map Transport.noting, log ++ [.select url]) := rfl

/-- What happened in the run of a call. -/
structure Run where
  result : CallResult
  /-- What was asked for and handed out, in order. -/
  effects : List Effect
  deriving DecidableEq

namespace Run

/-- The URLs for which a transport was asked. -/
def selected (run : Run) : List Url :=
  run.effects.filterMap fun
    | .select url => some url
    | .send _ => none

/-- The calls that were handed to a transport. -/
def sent (run : Run) : List Outbound :=
  run.effects.filterMap fun
    | .send call => some call
    | .select _ => none

end Run

/-- The run of a call, with its effects noted. -/
def Request.run (r : Request) (environment : Environment) (select : Selector) (elapsed : Nat) :
    Run :=
  let (result, effects) := (r.runIn environment select.noting elapsed).run []
  { result, effects }

end CallBook
