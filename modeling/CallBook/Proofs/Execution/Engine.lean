import CallBook.Execution.Engine
import CallBook.Proofs.Template.Cut

/-!
# What a run does to the world

A run may ask for a transport and hand it a call, and it must do neither for a URL that is not
ready: one in which a placeholder is left, also one that came in with a value, or that is no URL.
`Attempt.Accounted` says for each way a run can go what it asked for, what it sent and what came of
it, without mention of the stages.

Effects are noted where they happen, in whatever was noted before. One attempt adds its own notes
and looks at no earlier ones (`run_perform`), so a list of attempts leaves the notes of each, in
order; that each is accounted for is a matter of one run (`accounted_run`).

Main result: `performAll_accounted`.
-/

namespace CallBook

/-! ## Attempts -/

/-- A call to be run, with the plan by which a transport is chosen and answers. -/
structure Attempt where
  request : Request
  environment : Environment
  select : Selector
  elapsed : Nat

/-- The result of a run without a response: no status, no headers, no body, but an error. -/
structure CallResult.Failed (r : CallResult) : Prop where
  status : r.status = 0
  headers : r.headers = .empty
  body : r.body = ""
  error : r.error.isSome = true

/-- The result is that of the response, unchanged and without an error. -/
structure CallResult.Answers (r : CallResult) (response : Response) : Prop where
  status : r.status = response.status
  headers : r.headers = response.headers
  body : r.body = response.body
  error : r.error = none

namespace Attempt

/-- The call with its placeholders filled in. -/
def resolved (a : Attempt) : ResolvedRequest := a.request.resolve a.environment.vars

/-- A placeholder stands in the URL after filling in, wherever it came from. -/
def LeavesPlaceholder (a : Attempt) : Prop :=
  ∃ before name after, Template.IsName name ∧
    a.resolved.url.toList = before ++ (Template.placeholder name ++ after)

/-- The URL is not ready: a placeholder is left in it, or it is no URL. -/
def Refused (a : Attempt) : Prop :=
  a.LeavesPlaceholder ∨ ∃ e, Url.parse (Text.trimmed a.resolved.url) = .error e

/-- The URL is ready, and it is this one. -/
def Reaches (a : Attempt) (url : Url) : Prop :=
  ¬ a.LeavesPlaceholder ∧ Url.parse (Text.trimmed a.resolved.url) = .ok url

/-- Some stage fails: the check of the URL, choosing a transport, or sending. -/
def Fails (a : Attempt) : Prop :=
  a.Refused ∨ ∃ url, a.Reaches url ∧
    ((∃ e, a.select url = .error e) ∨
      ∃ send, a.select url = .ok send ∧ ∃ e, send (a.resolved.outbound url) = .error e)

/-- The run of an attempt by itself. -/
def run (a : Attempt) : Run := a.request.run a.environment a.select a.elapsed

/-- Runs an attempt, noting effects after those before it. -/
def perform (a : Attempt) : Noting CallResult :=
  a.request.runIn a.environment a.select.noting a.elapsed

/-- Runs attempts one after the other. -/
def performAll (attempts : List Attempt) : Noting (List CallResult) := attempts.mapM perform

/-- What a run does and what comes of it, for each way that it can go. -/
structure Accounted (a : Attempt) (run : Run) : Prop where
  /-- Nothing is asked for or sent for a URL that is not ready. -/
  refused : a.Refused → run.effects = [] ∧ run.result.Failed
  /-- A transport is asked for once, and nothing is sent without one. -/
  unselected : ∀ url e, a.Reaches url → a.select url = .error e →
    run.effects = [.select url] ∧ run.result.Failed
  /-- The outbound call is sent once, and its answer is the result. -/
  sent : ∀ url send, a.Reaches url → a.select url = .ok send →
    run.effects = [.select url, .send (a.resolved.outbound url)] ∧
      (∀ e, send (a.resolved.outbound url) = .error e → run.result.Failed) ∧
      ∀ response, send (a.resolved.outbound url) = .ok response → run.result.Answers response
  selectedOnce : run.selected.length ≤ 1
  sentOnce : run.sent.length ≤ 1
  error_iff : run.result.error.isSome = true ↔ a.Fails

/-! ## One run -/

/-- An attempt is refused, or its URL is reached. -/
theorem refused_or_reaches (a : Attempt) : a.Refused ∨ ∃ url, a.Reaches url := by
  by_cases hp : a.LeavesPlaceholder
  · exact .inl (.inl hp)
  · cases hu : Url.parse (Text.trimmed a.resolved.url) with
    | error e => exact .inl (.inr ⟨e, hu⟩)
    | ok url => exact .inr ⟨url, hp, hu⟩

/-- An attempt that reaches its URL is not refused. -/
theorem Reaches.not_refused {a : Attempt} {url : Url} (h : a.Reaches url) : ¬ a.Refused := by
  rintro (hp | ⟨e, he⟩)
  · exact h.1 hp
  · rw [h.2] at he
    cases he

/-- An attempt reaches one URL only. -/
theorem Reaches.unique {a : Attempt} {url other : Url} (h : a.Reaches url)
    (h' : a.Reaches other) : url = other := by
  have he := h.2.symm.trans h'.2
  exact Except.ok.inj he

/-- The check of the URL fails exactly on URLs that are not ready. -/
theorem target?_of_refused {a : Attempt} (h : a.Refused) :
    ∃ e, a.resolved.target? a.environment.vars = .error e := by
  unfold ResolvedRequest.target?
  cases hn : Template.names a.resolved.url with
  | cons name more => exact ⟨_, rfl⟩
  | nil =>
    rcases h with hp | ⟨e, he⟩
    · exact absurd hp (Template.names_eq_nil_iff.mp hn)
    · rw [he]
      exact ⟨_, rfl⟩

/-- The URL that an attempt reaches is its target. -/
theorem target?_of_reaches {a : Attempt} {url : Url} (h : a.Reaches url) :
    a.resolved.target? a.environment.vars = .ok url := by
  unfold ResolvedRequest.target?
  rw [Template.names_eq_nil_iff.mpr h.1, h.2]
  rfl

theorem failed_failure (error : String) (durationMs : Nat) :
    (CallResult.failure error durationMs).Failed := ⟨rfl, rfl, rfl, rfl⟩

theorem answers_result (response : Response) (durationMs : Nat) :
    (response.result durationMs).Answers response := ⟨rfl, rfl, rfl, rfl⟩

/-- All that an attempt can come to, with what it notes behind the notes before it. -/
theorem perform_cases (a : Attempt) :
    (a.Refused ∧ ∃ message, ∀ log, a.perform.run log = (.failure message 0, log)) ∨
    (∃ url e, a.Reaches url ∧ a.select url = .error e ∧
      ∀ log, a.perform.run log = (.failure e.message 0, log ++ [.select url])) ∨
    (∃ url send, a.Reaches url ∧ a.select url = .ok send ∧
      ((∃ e, send (a.resolved.outbound url) = .error e ∧
        ∀ log, a.perform.run log = (.failure e.message a.elapsed,
          log ++ [.select url, .send (a.resolved.outbound url)])) ∨
      (∃ response, send (a.resolved.outbound url) = .ok response ∧
        ∀ log, a.perform.run log = (response.result a.elapsed,
          log ++ [.select url, .send (a.resolved.outbound url)])))) := by
  unfold perform Request.runIn
  rcases a.refused_or_reaches with hrefused | ⟨url, hreaches⟩
  · left
    obtain ⟨e, he⟩ := target?_of_refused hrefused
    unfold resolved at he
    simp only [he]
    exact ⟨hrefused, e.message, fun log => rfl⟩
  · right
    -- the log is general, as what was noted before stays before
    have ht := target?_of_reaches hreaches
    unfold resolved at ht ⊢
    simp only [ht, ResolvedRequest.url_outbound, Noting.run_bind, run_noting_selector]
    cases hs : a.select url with
    | error e =>
      left
      exact ⟨url, e, hreaches, hs, fun log => rfl⟩
    | ok send =>
      right
      refine ⟨url, send, hreaches, hs, ?_⟩
      simp only [Except.map, Noting.run_bind, run_noting_transport, List.append_assoc,
        List.singleton_append]
      cases hr : send ((a.request.resolve a.environment.vars).outbound url) with
      | error e =>
        left
        exact ⟨e, rfl, fun log => rfl⟩
      | ok response =>
        right
        exact ⟨response, rfl, fun log => rfl⟩

/-- The notes of an attempt go behind those before it, and do not depend on them. -/
theorem run_perform (a : Attempt) (log : List Effect) :
    a.perform.run log = (a.run.result, log ++ a.run.effects) := by
  have hrun : a.run = ⟨(a.perform.run []).1, (a.perform.run []).2⟩ := rfl
  rw [hrun]
  rcases a.perform_cases with ⟨-, message, h⟩ | ⟨url, e, -, -, h⟩ | ⟨url, send, -, -, h⟩
  · simp [h]
  · simp [h]
  · rcases h with ⟨e, -, h⟩ | ⟨response, -, h⟩
    · simp [h]
    · simp [h]

/-! ## Accounts -/

/-- An attempt that is refused touches neither selector nor transport. -/
theorem accounted_of_refused {a : Attempt} (h : a.Refused) (message : String) :
    a.Accounted ⟨.failure message 0, []⟩ where
  refused := fun _ => ⟨rfl, failed_failure _ _⟩
  unselected := fun _ _ hreaches _ => absurd h hreaches.not_refused
  sent := fun _ _ hreaches _ => absurd h hreaches.not_refused
  selectedOnce := Nat.zero_le _
  sentOnce := Nat.zero_le _
  error_iff := ⟨fun _ => .inl h, fun _ => rfl⟩

/-- An attempt without a transport asks the selector alone. -/
theorem accounted_of_unselected {a : Attempt} {url : Url} {e : TransportError}
    (hurl : a.Reaches url) (hs : a.select url = .error e) (message : String) :
    a.Accounted ⟨.failure message 0, [.select url]⟩ where
  refused := fun h => absurd h hurl.not_refused
  unselected := by
    intro other _ hother _
    rw [hother.unique hurl]
    exact ⟨rfl, failed_failure _ _⟩
  sent := by
    intro other send hother hok
    rw [hother.unique hurl, hs] at hok
    cases hok
  selectedOnce := Nat.le_refl _
  sentOnce := Nat.zero_le _
  error_iff := ⟨fun _ => .inr ⟨url, hurl, .inl ⟨e, hs⟩⟩, fun _ => rfl⟩

/-- Once a transport is found the call is sent, and the result hangs on the answer. -/
theorem accounted_of_sent {a : Attempt} {url : Url} {send : Transport} (hurl : a.Reaches url)
    (hs : a.select url = .ok send) {result : CallResult}
    (hfailed : ∀ e, send (a.resolved.outbound url) = .error e → result.Failed)
    (hanswers : ∀ response, send (a.resolved.outbound url) = .ok response →
      result.Answers response) :
    a.Accounted ⟨result, [.select url, .send (a.resolved.outbound url)]⟩ where
  refused := fun h => absurd h hurl.not_refused
  unselected := by
    intro other e hother herr
    -- an attempt reaches one URL only, and for that one a transport was selected
    rw [hother.unique hurl, hs] at herr
    cases herr
  sent := by
    intro other send' hother hok
    have he := hother.unique hurl
    subst he
    rw [hs] at hok
    cases hok
    exact ⟨rfl, hfailed, hanswers⟩
  selectedOnce := Nat.le_refl _
  sentOnce := Nat.le_refl _
  error_iff := by
    constructor
    · intro herror
      cases hr : send (a.resolved.outbound url) with
      | error e => exact .inr ⟨url, hurl, .inr ⟨send, hs, e, hr⟩⟩
      | ok response =>
        rw [(hanswers response hr).error] at herror
        cases herror
    · rintro (h | ⟨other, hother, ⟨e, he⟩ | ⟨send', hok, e, he⟩⟩)
      · exact absurd h hurl.not_refused
      · rw [hother.unique hurl, hs] at he
        cases he
      · rw [hother.unique hurl] at hok he
        rw [hs] at hok
        cases hok
        exact (hfailed e he).error

/-- Every attempt is accounted for, however it ends. -/
theorem accounted_run (a : Attempt) : a.Accounted a.run := by
  have hrun : a.run = ⟨(a.perform.run []).1, (a.perform.run []).2⟩ := rfl
  rw [hrun]
  rcases a.perform_cases with ⟨hrefused, message, h⟩ | ⟨url, e, hurl, hs, h⟩ |
    ⟨url, send, hurl, hs, ⟨e, hr, h⟩ | ⟨response, hr, h⟩⟩
  · rw [h]
    exact accounted_of_refused hrefused message
  · rw [h]
    exact accounted_of_unselected hurl hs e.message
  · rw [h]
    refine accounted_of_sent hurl hs (fun _ _ => failed_failure _ _) ?_
    intro response hok
    rw [hr] at hok
    cases hok
  · rw [h]
    refine accounted_of_sent hurl hs ?_ ?_
    · intro e he
      rw [hr] at he
      cases he
    · intro other hok
      rw [hr] at hok
      cases hok
      exact answers_result response a.elapsed

/-- Attempts one after the other leave the notes of each, and what one comes to hangs on no
other. -/
theorem run_performAll (attempts : List Attempt) (log : List Effect) :
    (performAll attempts).run log
      = (attempts.map fun a => a.run.result, log ++ attempts.flatMap fun a => a.run.effects) := by
  unfold performAll
  induction attempts generalizing log with
  | nil =>
    rw [List.mapM_nil, Noting.run_pure]
    simp
  | cons a attempts ih =>
    rw [List.mapM_cons, Noting.run_bind, run_perform, Noting.run_bind, ih, Noting.run_pure]
    simp

end Attempt

/-- **What the engine does over any list of calls.** Calls run one after the other give the result
and have the effects that each has by itself, in order. If a placeholder is left in the URL of a
call or the URL is none, nothing is asked for and nothing sent, and the result is a failure.
Otherwise a transport is asked for once, for that URL; without one nothing is sent and the result is
a failure. With one, exactly the outbound call is sent, once; the result is a failure if sending
fails, and otherwise carries the status, headers and body of the response unchanged and no error. A
result has an error exactly if some stage failed. -/
theorem performAll_accounted (attempts : List Attempt) (log : List Effect) :
    (Attempt.performAll attempts).run log
      = (attempts.map fun a => a.run.result, log ++ attempts.flatMap fun a => a.run.effects) ∧
    ∀ a ∈ attempts, a.Accounted a.run :=
  ⟨Attempt.run_performAll attempts log, fun a _ => a.accounted_run⟩

/-- A value that is itself a placeholder is never asked for; a refused selection sends nothing; a
call that is answered is sent once. -/
theorem performAll_accounted_of_three :
    let url : Url := { scheme := "x", path := .plain "y" }
    let request : Request := { url := String.ofList (Template.placeholder ['u']), method := .post }
    let filledWith (value : String) : Environment := { vars := .ofList [("u", value)] }
    let response : Response := ⟨204, .ofList [("a", ["1", "2"])], "b"⟩
    let literal : Attempt :=
      ⟨request, filledWith (String.ofList (Template.placeholder ['v'])),
        fun _ => .ok fun _ => .ok response, 5⟩
    let unselected : Attempt := ⟨request, filledWith "x:y", fun _ => .error (.client "c"), 5⟩
    let answered : Attempt := ⟨request, filledWith "x:y", fun _ => .ok fun _ => .ok response, 5⟩
    ∃ refusal failure result,
      (Attempt.performAll [literal, unselected, answered]).run []
        = ([refusal, failure, result],
          [.select url, .select url, .send (answered.resolved.outbound url)]) ∧
      refusal.Failed ∧ failure.Failed ∧ result.Answers response := by
  intro url request filledWith response literal unselected answered
  obtain ⟨hrun, haccounted⟩ := performAll_accounted [literal, unselected, answered] []
  have hliteral : literal.Refused :=
    .inl ⟨[], ['v'], [], by decide, by decide +kernel⟩
  have hready : ∀ a : Attempt, a.resolved.url = "x:y" → a.Reaches url := by
    intro a ha
    unfold Attempt.Reaches Attempt.LeavesPlaceholder
    rw [← Template.names_eq_nil_iff, ha]
    decide +kernel
  have hunselected := hready unselected (by decide +kernel)
  have hanswered := hready answered (by decide +kernel)
  obtain ⟨hnothing, hrefusal⟩ := (haccounted literal (by simp)).refused hliteral
  obtain ⟨hasked, hfailure⟩ := (haccounted unselected (by simp)).unselected url (.client "c")
    hunselected rfl
  obtain ⟨hsent, -, hanswers⟩ := (haccounted answered (by simp)).sent url _ hanswered rfl
  refine ⟨literal.run.result, unselected.run.result, answered.run.result, ?_, hrefusal, hfailure,
    hanswers response rfl⟩
  rw [hrun]
  simp [hnothing, hasked, hsent]

end CallBook
