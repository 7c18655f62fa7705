import CallBook.Cli.Session
import CallBook.Proofs.Storage.Refinement

/-!
# Setting a variable

An environment is found under the key of its record, and saved under the name that it bears itself.
The two are the same in every file that was written here, but a file that is only read may file an
environment under another key, or leave its name out. There the environment with the variable set
goes under its own name, and the one that was asked for stays as it was, although the command ends
well (`setVariable_lost`).

So a variable is set for sure exactly if the environment of that name, should there be one, bears
it. There is one more case in which nothing is amiss, since nothing changes: the variable had that
value already, and the environment has a copy under the name that it bears.

Main result: `setVariable_takes_effect_iff`.
-/

namespace CallBook

namespace Cli

/-! ## What the command does -/

/-- The environment that a variable is set in: the one under this name, or else a new one. -/
def environmentToChange (m : OrderedMap Environment) (name : String) : Environment :=
  (m.get? name).getD { name }

/-- The environments after a variable was set. -/
def withVariable (m : OrderedMap Environment) (name key value : String) : OrderedMap Environment :=
  let e := environmentToChange m name
  m.insert e.name { e with vars := e.vars.insert key value }

/-- Setting a variable saves the environment under the name that it bears, if the write starts. -/
theorem setVariable_of_records (c : Context) {d : Data} {m : OrderedMap Environment}
    (hm : d.environments.records = .ok m) (name key value : String) :
    Cli.setVariable c name key value d
      = (ofStore (d.environments.write (withVariable m name key value) (c.refused 0))).map
          fun environments =>
            (printed [done c "Set" ++ " " ++ key ++ " in '" ++ name ++ "'"],
              { d with environments }) := by
  rw [Cli.setVariable, Store.load, hm]
  show (ofStore (d.environments.save _ (c.refused 0))).bind _ = _
  rw [Store.save_of_records hm]
  show (ofStore (d.environments.write (withVariable m name key value) (c.refused 0))).bind _ = _
  cases d.environments.write (withVariable m name key value) (c.refused 0) <;> rfl

/-- The command succeeds exactly if the directory is there or can be made and the write starts, and
then the file holds the environments with the variable set. -/
theorem perform_setVariable (c : Context) {d : Data} {m : OrderedMap Environment}
    (hm : d.environments.records = .ok m) (name key value : String) :
    let after := Command.perform c d (.setVariable name key value)
    (after.failure = none ↔ d.environments.blocked = none ∧ c.refused 0 = none) ∧
      (after.failure = none →
        after.data.environments.records = .ok (withVariable m name key value)) := by
  rw [Command.perform, setVariable_of_records c hm, Store.write_of_records hm,
    ← Store.refusal?_eq_none_iff]
  cases d.environments.refusal? (c.refused 0) with
  | some e =>
    refine ⟨iff_of_false ?_ ?_, ?_⟩
    all_goals
      intro h
      cases h
  | none =>
    refine ⟨iff_of_true rfl rfl, ?_⟩
    intro _
    exact Store.records_ofText d.environments (withVariable m name key value)

/-! ## When it takes effect -/

/-- A variable is set in the environment of a name: it has the variables that it had among `m`, none
if it was not there, with this one set; and under every other name there is what was there. -/
structure VariableSet (m : OrderedMap Environment) (after : Store Environment)
    (name key value : String) : Prop where
  named : ∃ e, after.load name = .ok (some e) ∧
    e.vars = (((m.get? name).map Environment.vars).getD .empty).insert key value
  others : ∀ other, other ≠ name → after.load other = .ok (m.get? other)

section

variable {m : OrderedMap Environment} {after : Store Environment} {name key value : String}

/-- After a variable was set, loading gives what the map with the variable has. -/
theorem load_withVariable (h : after.records = .ok (withVariable m name key value))
    (other : String) : after.load other = .ok ((withVariable m name key value).get? other) := by
  rw [Store.load, h]
  rfl

/-- An environment that bears the name that was asked for is updated in its place. -/
theorem variableSet_of_name (h : after.records = .ok (withVariable m name key value))
    (hname : (environmentToChange m name).name = name) :
    VariableSet m after name key value := by
  have hload : ∀ other, after.load other = .ok (if name = other
      then some { environmentToChange m name with
        vars := (environmentToChange m name).vars.insert key value }
      else m.get? other) := by
    intro other
    rw [load_withVariable h, withVariable]
    dsimp only
    rw [OrderedMap.get?_insert, hname]
  refine ⟨⟨_, (hload name).trans (by rw [if_pos rfl]), ?_⟩, ?_⟩
  · show (environmentToChange m name).vars.insert key value = _
    rw [environmentToChange]
    cases m.get? name <;> rfl
  · intro other hne
    rw [hload, if_neg (Ne.symm hne)]

/-- An environment that bears another name is saved beside the one that was asked for, so that all
is well only if this changes nothing. -/
theorem variableSet_iff_of_ne {e : Environment}
    (h : after.records = .ok (withVariable m name key value)) (hget : m.get? name = some e)
    (hne : e.name ≠ name) :
    VariableSet m after name key value ↔ e.vars.get? key = some value ∧ m.get? e.name = some e := by
  have hwith : withVariable m name key value
      = m.insert e.name { e with vars := e.vars.insert key value } := by
    rw [withVariable, environmentToChange, hget]
    rfl
  constructor
  · rintro ⟨⟨e', hload, hvars⟩, hothers⟩
    -- under the name that was asked for there is still the old environment
    obtain rfl : e = e' := by
      rw [load_withVariable h, hwith, OrderedMap.get?_insert, if_neg hne, hget] at hload
      exact Option.some.inj (Except.ok.inj hload)
    have hsame : e.vars.insert key value = e.vars := by
      rw [hget] at hvars
      exact hvars.symm
    have hown := hothers e.name hne
    rw [load_withVariable h, hwith, OrderedMap.get?_insert, if_pos rfl, hsame] at hown
    exact ⟨OrderedMap.insert_eq_self_iff.mp hsame, (Except.ok.inj hown).symm⟩
  · rintro ⟨hvalue, hcopy⟩
    have hsame : e.vars.insert key value = e.vars := OrderedMap.insert_eq_self_iff.mpr hvalue
    have hm : withVariable m name key value = m := by
      rw [hwith, hsame]
      exact OrderedMap.insert_eq_self_iff.mpr hcopy
    refine ⟨⟨e, ?_, ?_⟩, ?_⟩
    · rw [load_withVariable h, hm, hget]
    · rw [hget]
      exact hsame.symm
    · intro other _
      rw [load_withVariable h, hm]

/-- A variable is set where it was meant exactly if its record bears that name, or had it all
before. -/
theorem variableSet_iff (h : after.records = .ok (withVariable m name key value)) :
    VariableSet m after name key value ↔
      ∀ e, m.get? name = some e →
        e.name = name ∨ (e.vars.get? key = some value ∧ m.get? e.name = some e) := by
  cases hget : m.get? name with
  | none =>
    -- a new environment bears the name that it goes under
    have hname : (environmentToChange m name).name = name := by
      rw [environmentToChange, hget]
      rfl
    refine iff_of_true (variableSet_of_name h hname) ?_
    intro e he
    cases he
  | some e =>
    by_cases hname : e.name = name
    · have hchange : (environmentToChange m name).name = name := by
        rw [environmentToChange, hget]
        exact hname
      refine iff_of_true (variableSet_of_name h hchange) ?_
      rintro e' ⟨⟩
      exact Or.inl hname
    · rw [variableSet_iff_of_ne h hget hname]
      constructor
      · rintro hcond e' ⟨⟩
        exact Or.inr hcond
      · intro hcond
        exact (hcond e rfl).resolve_left hname

end

/-- **When a variable that is set takes effect.** On environments that can be read, the command to
set a variable succeeds exactly if their directory is there or can be made and the write starts.
When it has succeeded, the environment of that name has the variable, and all others are unchanged,
exactly if the environment that was there under that name bears it too, or else had the variable
with that value and also stands, as it is, under the name that it bears. -/
theorem setVariable_takes_effect_iff (c : Context) {d : Data} {m : OrderedMap Environment}
    (hm : d.environments.records = .ok m) (name key value : String) :
    let after := Command.perform c d (.setVariable name key value)
    (after.failure = none ↔ d.environments.blocked = none ∧ c.refused 0 = none) ∧
      (after.failure = none →
        (VariableSet m after.data.environments name key value ↔
          ∀ e, m.get? name = some e →
            e.name = name ∨ (e.vars.get? key = some value ∧ m.get? e.name = some e))) := by
  obtain ⟨hsuccess, hrecords⟩ := perform_setVariable c hm name key value
  exact ⟨hsuccess, fun h => variableSet_iff (hrecords h)⟩

/-- A variable is added to an environment that bears its name, and the environment beside it, which
bears none, is left alone. -/
theorem setVariable_takes_effect_beside_nameless :
    let dev : Environment := { name := "dev", vars := .ofList [("A", "1")] }
    let m : OrderedMap Environment := .ofList [("old", { vars := dev.vars }), ("dev", dev)]
    let c : Context := {
      settings := {}
      colours := false
      read := fun _ => .error .missing
      process := []
      select := fun _ => .error (.client "")
      elapsedMs := 0 }
    let d : Data := {
      requests := { base := "data", content := .missing }
      environments := { base := "data", content := .ofText (Store.recordsText m) } }
    let after := Command.perform c d (.setVariable "dev" "K" "V")
    (d.environments.records = .ok m ∧ after.failure = none) ∧
      VariableSet m after.data.environments "dev" "K" "V" := by
  intro dev m c d after
  have hm : d.environments.records = .ok m := Store.records_ofText d.environments m
  have hwritten : d.environments.blocked = none ∧ c.refused 0 = none := ⟨rfl, rfl⟩
  -- from here on the stores count only as what is known of them
  clear_value d
  obtain ⟨hsuccess, heffect⟩ := setVariable_takes_effect_iff c hm "dev" "K" "V"
  have hok : after.failure = none := hsuccess.mpr hwritten
  refine ⟨⟨hm, hok⟩, (heffect hok).mpr ?_⟩
  intro e he
  have hdev : m.get? "dev" = some dev := by decide
  rw [hdev] at he
  cases he
  exact Or.inl rfl

/-- **A set variable may be lost.** From a file in which an environment is filed without a name of
its own, the command to set a variable of it ends well, and the variable is not set in it. -/
theorem setVariable_lost :
    let text := "\x7b\"dev\": \x7b\"variables\": \x7b\"A\": \"1\"\x7d\x7d\x7d"
    let m : OrderedMap Environment := .ofList [("dev", { vars := .ofList [("A", "1")] })]
    let c : Context := {
      settings := {}
      colours := false
      read := fun _ => .error .missing
      process := []
      select := fun _ => .error (.client "")
      elapsedMs := 0 }
    let d : Data := {
      requests := { base := "data", content := .missing }
      environments := { base := "data", content := .ofText text } }
    let after := Command.perform c d (.setVariable "dev" "K" "V")
    d.environments.records = .ok m ∧ after.failure = none ∧
      ¬ VariableSet m after.data.environments "dev" "K" "V" := by
  intro text m c d after
  have hread : Store.readRecords (α := Environment) text = .ok m := by decide +kernel
  have hm : d.environments.records = .ok m := by
    rw [Store.records, Content.text?_ofText]
    simp only [hread]
    rfl
  obtain ⟨hsuccess, hrecords⟩ := perform_setVariable c hm "dev" "K" "V"
  have hok : after.failure = none := hsuccess.mpr ⟨rfl, rfl⟩
  have hdev : m.get? "dev" = some { vars := .ofList [("A", "1")] } := by decide
  refine ⟨hm, hok, ?_⟩
  rw [variableSet_iff_of_ne (hrecords hok) hdev (by decide)]
  decide

end Cli

end CallBook
