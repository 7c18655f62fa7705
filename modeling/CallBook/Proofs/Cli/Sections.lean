import CallBook.Cli.Session
import CallBook.Proofs.Grouping
import CallBook.Proofs.Storage.Refinement

/-!
# A listing is the collection in sections

A listing goes through the saved calls once and files each under its heading, then prints heading
after heading. Here the sections are described from the collection alone: the headings in the order
of their first calls (`headings`), and under a heading the calls that stand there, in order
(`callsUnder`). That a listing prints these sections is the description of values collected under
keys (`entries_groups`).

The calls of one group are picked out of the collection before they are listed. All of them go under
one heading, so that the listing has one section (`groups_of_forall`), and that section is the one
that the whole listing has, unless calls without a group stand in it too.

Main result: `list_sections`.
-/

namespace CallBook.Cli

/-! ## Statement -/

/-- The call stands under this heading. -/
def standsUnder (heading : String) (r : Request) : Bool :=
  match r.group with
  | some group => group = heading
  | none => heading = "Ungrouped"

/-- The headings, in the order of their first calls. -/
def headings (calls : List Request) : List String :=
  (calls.map fun r => r.group.getD "Ungrouped").eraseDups

/-- The calls under a heading, in order. -/
def callsUnder (heading : String) (calls : List Request) : List Request :=
  calls.filter (standsUnder heading)

/-- The section of a heading: the heading, and a line for each of its calls. -/
def sectionLines (colours : Bool) (calls : List Request) (heading : String) : List String :=
  groupLines colours heading (callsUnder heading calls)

/-! ## Sections -/

theorem standsUnder_eq (heading : String) (r : Request) :
    standsUnder heading r = decide (headingOf r = heading) := by
  unfold standsUnder headingOf
  cases r.group with
  | some group => rfl
  | none => exact decide_eq_decide.mpr eq_comm

/-- The calls under a heading are the group of the heading. -/
theorem callsUnder_eq_group (heading : String) (calls : List Request) :
    callsUnder heading calls = Entries.group headingOf heading calls :=
  List.filter_congr fun r _ => standsUnder_eq heading r

/-- A call stands under its own heading and no other. -/
theorem mem_callsUnder {heading : String} {r : Request} {calls : List Request} :
    r ∈ callsUnder heading calls ↔ r ∈ calls ∧ headingOf r = heading := by
  rw [callsUnder_eq_group]
  exact Entries.mem_group

theorem headingOf_of_group {r : Request} {group : String} (h : r.group = some group) :
    headingOf r = group := by
  rw [headingOf, h, Option.getD_some]

theorem groups_eq (calls : List Request) :
    groups calls = OrderedMap.pushAll headingOf id .empty calls := rfl

/-- The groups of calls are the sections, in the order of their headings. -/
theorem entries_groups (calls : List Request) :
    (groups calls).entries = (headings calls).map fun heading =>
      (heading, callsUnder heading calls) := by
  rw [groups_eq, OrderedMap.entries_pushAll]
  refine List.map_congr_left fun heading _ => ?_
  rw [List.map_id, callsUnder_eq_group]

/-- A collection that is not empty is listed section by section. -/
theorem listing_sections (colours : Bool) {calls : List Request} (h : calls ≠ []) :
    listing colours calls = (headings calls).flatMap (sectionLines colours calls) := by
  have hempty : ¬ calls.isEmpty = true := mt List.isEmpty_iff.mp h
  rw [listing, if_neg hempty, entries_groups, List.flatMap_map]
  rfl

/-- Calls of one heading make one group. -/
theorem groups_of_forall {heading : String} {calls : List Request} (h : calls ≠ [])
    (hall : ∀ r ∈ calls, headingOf r = heading) :
    (groups calls).entries = [(heading, calls)] := by
  rw [groups_eq, OrderedMap.pushAll_of_forall hall h, List.map_id]
  rfl

/-- Calls that all stand under one heading are listed in one section. -/
theorem listing_of_forall (colours : Bool) {heading : String} {calls : List Request}
    (h : calls ≠ []) (hall : ∀ r ∈ calls, headingOf r = heading) :
    listing colours calls = groupLines colours heading calls := by
  have hempty : ¬ calls.isEmpty = true := mt List.isEmpty_iff.mp h
  rw [listing, if_neg hempty, groups_of_forall h hall, List.flatMap_singleton]

/-- The calls of a group are those under its heading, unless calls without a group stand there. -/
theorem filter_group_eq {group : String} (h : group ≠ "Ungrouped") (calls : List Request) :
    calls.filter (fun r => r.group = some group) = callsUnder group calls := by
  refine List.filter_congr fun r _ => ?_
  rw [standsUnder]
  cases r.group with
  | some other => simp
  | none => simp [h]

/-- The calls of a group are listed in the section that the whole listing has for it. -/
theorem listing_group (colours : Bool) {group : String} (h : group ≠ "Ungrouped")
    {calls : List Request} {r : Request} (hr : r ∈ calls) (hgroup : r.group = some group) :
    listing colours (calls.filter fun r => r.group = some group)
      = sectionLines colours calls group := by
  have hmem : r ∈ callsUnder group calls := mem_callsUnder.mpr ⟨hr, headingOf_of_group hgroup⟩
  have hall : ∀ s ∈ callsUnder group calls, headingOf s = group := fun s hs =>
    (mem_callsUnder.mp hs).2
  rw [filter_group_eq h, listing_of_forall colours (List.ne_nil_of_mem hmem) hall]
  rfl

/-! ## The command -/

section

variable (c : Context) {d : Data} {records : OrderedMap Request}

/-- Listing prints the sections of all calls. -/
theorem perform_list (hd : d.requests.records = .ok records) :
    Command.perform c d (.list none)
      = { output := printed (listing c.colours records.values), data := d } := by
  unfold Command.perform Cli.list
  rw [hd]
  rfl

/-- Listing a group prints the section of its calls. -/
theorem perform_list_group (hd : d.requests.records = .ok records) (group : String) :
    Command.perform c d (.list (some group))
      = { output := printed (listing c.colours
            (records.values.filter fun r => r.group = some group)), data := d } := by
  unfold Command.perform Cli.list Store.inGroup
  rw [hd]
  rfl

end

/-- **A listing is the collection in sections.** A collection that can be read and is not empty is
listed section by section. The headings differ and stand in the order of their first calls; all
calls stand in the sections, each exactly once, under its group or under `Ungrouped`, and those of
a section in their order in the collection. Listing the calls of a group prints the section that the
whole listing has for it, if the group is not called `Ungrouped` too. -/
theorem list_sections (c : Context) {d : Data} {records : OrderedMap Request}
    (hd : d.requests.records = .ok records) (hne : records.isEmpty = false) :
    let calls := records.values
    Command.perform c d (.list none) = {
        output := printed ((headings calls).flatMap (sectionLines c.colours calls)), data := d } ∧
      (headings calls).Nodup ∧
      ((headings calls).flatMap fun heading => callsUnder heading calls).Perm calls ∧
      (∀ r ∈ calls, r ∈ callsUnder (r.group.getD "Ungrouped") calls) ∧
      ∀ r ∈ calls, ∀ group, r.group = some group → group ≠ "Ungrouped" →
        group ∈ headings calls ∧
        Command.perform c d (.list (some group)) = {
          output := printed (sectionLines c.colours calls group), data := d } := by
  intro calls
  -- with no calls there is one line and no section
  have hcalls : calls ≠ [] := by
    intro h
    have hnil : records.entries = [] := List.map_eq_nil_iff.mp h
    rw [OrderedMap.isEmpty, hnil] at hne
    cases hne
  refine ⟨?_, Entries.nodup_eraseDups _, ?_, ?_, ?_⟩
  · rw [perform_list c hd, listing_sections c.colours hcalls]
  · simp only [callsUnder_eq_group]
    exact Entries.flatMap_group_perm headingOf calls
  · exact fun r hr => mem_callsUnder.mpr ⟨hr, rfl⟩
  · intro r hr group hgroup hother
    refine ⟨?_, ?_⟩
    · rw [headings, List.mem_eraseDups, ← headingOf_of_group hgroup]
      exact List.mem_map_of_mem hr
    · rw [perform_list_group c hd, listing_group c.colours hother hr hgroup]

/-- A group whose calls have another and one without a group between them. -/
theorem list_sections_interleaved :
    let call (name : String) (group : Option String) : Request := { name, url := name, group }
    let calls := [call "a" (some "G"), call "b" none, call "c" (some "H"), call "d" (some "G")]
    let records : OrderedMap Request := .ofList (calls.map fun r => (r.name, r))
    let c : Context := {
      settings := {}
      colours := false
      read := fun _ => .error .missing
      process := []
      select := fun _ => .error (.client "")
      elapsedMs := 0 }
    let d : Data := {
      requests := { base := "data", content := .ofText (Store.recordsText records) }
      environments := { base := "data", content := .missing } }
    let ofG := "G\n  GET     a  a\n  GET     d  d\n"
    (d.requests.records = .ok records ∧ records.isEmpty = false) ∧
      Command.perform c d (.list none) = {
        output := ofG ++ "Ungrouped\n  GET     b  b\nH\n  GET     c  c\n", data := d } ∧
      Command.perform c d (.list (some "G")) = { output := ofG, data := d } := by
  intro call calls records c d ofG
  have hd : d.requests.records = .ok records := Store.records_ofText d.requests records
  have hvalues : records.values = calls := by decide
  obtain ⟨hall, -, -, -, hgroup⟩ := list_sections c hd (by decide)
  obtain ⟨-, hone⟩ := hgroup (call "a" (some "G")) (by rw [hvalues]; decide) "G" rfl (by decide)
  rw [hvalues] at hall hone
  refine ⟨⟨hd, by decide⟩, hall.trans ?_, hone.trans ?_⟩
  · exact congrArg (Outcome.mk · d none) (by decide +kernel)
  · exact congrArg (Outcome.mk · d none) (by decide +kernel)

end CallBook.Cli
